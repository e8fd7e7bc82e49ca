import CanopenSdo.Abort
import CanopenSdo.Lib.Bytes

/-!
# The wire format

Command specifiers and the codec helpers both roles share.  The top three bits of
byte 0 say what a frame is; init and abort frames carry the index and sub-index
in bytes 1 to 3, segment frames carry up to seven payload bytes instead.

The encoders that build a frame from a payload slice are checked computations:
they assert the payload's length and subtract it.  `segmentData` and
`expeditedData` are the frames they build, and the second half of the module is
how such a frame reads.

## Main definitions

* `indexOf`, `subindexOf`, `wordOf` — the fields of an init or abort frame.
* `abort`, `decodeSegment`, `segmentCmd`, `segmentFrame` — the source's codec.
* `segmentData`, `expeditedData`, `announceData` — the frames, as values.

## Main results

* `segmentFrame_segmentCmd` — the segment encoder builds `segmentData`.
* `decodeSegment_segmentData`, `payloadOf_segmentData`, `inlineOf_expeditedData`
  — **what was encoded is decoded.**
-/

namespace CanopenSdo
namespace Wire

/-! ### Command specifiers -/

def ccsDownloadSegment : UInt8 := (0 : UInt8) <<< 5
def ccsInitDownload : UInt8 := (1 : UInt8) <<< 5
def ccsInitUpload : UInt8 := (2 : UInt8) <<< 5
def ccsUploadSegment : UInt8 := (3 : UInt8) <<< 5
def csAbort : UInt8 := (4 : UInt8) <<< 5

def scsUploadSegment : UInt8 := (0 : UInt8) <<< 5
def scsDownloadSegment : UInt8 := (1 : UInt8) <<< 5
def scsInitUpload : UInt8 := (2 : UInt8) <<< 5
def scsInitDownload : UInt8 := (3 : UInt8) <<< 5

/-- The bits of byte 0 that hold the command specifier. -/
def csMask : UInt8 := 0b11100000

/-- The toggle bit of a segment frame. -/
def toggleBit : UInt8 := 0b00010000

/-! ### Fields -/

/-- The bytes of a frame are numbered from 0. -/
instance neZeroFrame : NeZero 8 := ⟨by decide⟩

/-- Index (bytes 1 and 2) of an init or abort frame. -/
def indexOf (data : Bytes 8) : UInt16 := u16OfLe (data.get 1) (data.get 2)

/-- Sub-index (byte 3) of an init or abort frame. -/
def subindexOf (data : Bytes 8) : UInt8 := data.get 3

/-- The word in bytes 4 to 7: an abort code, or an announced size. -/
def wordOf (data : Bytes 8) : UInt32 :=
  u32OfLe (data.get 4) (data.get 5) (data.get 6) (data.get 7)

/-- The toggle of a segment command byte. -/
def toggleOf (cmd : UInt8) : Bool := (cmd &&& toggleBit) != 0

/-! ### Codec -/

/-- The first four bytes every init and abort frame is built from. -/
def muxFrame (cmd : UInt8) (idx : UInt16) (sub : UInt8) : Bytes 8 :=
  ((((Bytes.zero 8).set 0 cmd).set 1 idx.toUInt8).set 2 (idx >>> 8).toUInt8).set 3 sub

/-- An abort frame, the same in both directions. -/
def abort (idx : UInt16) (sub : UInt8) (code : SdoAbortCode) : Bytes 8 :=
  (muxFrame csAbort idx sub).put 4 (u32ToLe code.raw) (fits_u32ToLe _)

/-- Read a segment command byte: the payload length, and whether the segment is
the final one. -/
def decodeSegment (cmd : UInt8) : ℕ × Bool :=
  -- `n` bytes of the seven are unused
  let n := ((cmd >>> 1) &&& 0b111).toNat
  let payloadLen := 7 - n
  let complete := (cmd &&& 0b1) != 0
  (payloadLen, complete)

/-- Build a segment command byte. -/
def segmentCmd (cs : UInt8) (toggle : Bool) (payloadLen : ℕ) (last : Bool) : Checked UInt8 := do
  Checked.guard (payloadLen ≤ 7) .assertion
  let n ← Checked.sub 7 payloadLen
  pure (cs ||| (if toggle then toggleBit else 0) ||| (UInt8.ofNat n <<< 1) |||
    (if last then 1 else 0))

/-- Build a segment frame from a command byte and up to seven bytes. -/
def segmentFrame (cmd : UInt8) (payload : List UInt8) : Checked (Bytes 8) := do
  Checked.guard (payload.length ≤ 7) .assertion
  ((Bytes.zero 8).set 0 cmd).splice 1 payload

/-! ### Frames as values -/

/-- The command byte of a segment. -/
def segmentByte (cs : UInt8) (toggle : Bool) (len : ℕ) (last : Bool) : UInt8 :=
  cs ||| (if toggle then toggleBit else 0) ||| (UInt8.ofNat (7 - len) <<< 1) |||
    (if last then 1 else 0)

/-- A segment frame: its command byte, the payload, and zeros. -/
def segmentData (cs : UInt8) (toggle : Bool) (payload : List UInt8) (last : Bool) : Bytes 8 :=
  ⟨segmentByte cs toggle payload.length last :: (Bytes.pad 7 payload).data, by
    rw [List.length_cons, (Bytes.pad 7 payload).size]⟩

/-- The command byte of an expedited transfer of `len` bytes: `e = 1`, `s = 1`. -/
def expeditedByte (cs : UInt8) (len : ℕ) : UInt8 := cs ||| (UInt8.ofNat (4 - len) <<< 2) ||| 0b11

/-- An expedited init frame: the value is inline, padded with zeros. -/
def expeditedData (cs : UInt8) (idx : UInt16) (sub : UInt8) (v : List UInt8) : Bytes 8 :=
  (muxFrame (expeditedByte cs v.length) idx sub).put 4 (Bytes.pad 4 v).data
    (by rw [(Bytes.pad 4 v).size])

/-- A segmented init frame that announces a size: `e = 0`, `s = 1`. -/
def announceData (cs : UInt8) (idx : UInt16) (sub : UInt8) (size : UInt32) : Bytes 8 :=
  (muxFrame (cs ||| 0b01) idx sub).put 4 (u32ToLe size) (fits_u32ToLe _)

/-- The payload of a segment frame. -/
def payloadOf (data : Bytes 8) : List UInt8 :=
  (data.data.drop 1).take (decodeSegment (data.get 0)).1

/-- How many bytes an expedited init frame carries. -/
def inlineLen (cmd : UInt8) : ℕ :=
  if (cmd &&& 0b01) != 0 then 4 - ((cmd >>> 2) &&& 0b11).toNat else 4

/-- The inline value of an expedited init frame. -/
def inlineOf (data : Bytes 8) : List UInt8 := (data.data.drop 4).take (inlineLen (data.get 0))

/-! ### The encoders build these frames -/

theorem segmentCmd_of_le {cs : UInt8} {toggle last : Bool} {len : ℕ} (h : len ≤ 7) :
    segmentCmd cs toggle len last = .ok (segmentByte cs toggle len last) := by
  simp [segmentCmd, segmentByte, Checked.guard_of, Checked.sub_of_le, h]

theorem segmentFrame_of_le {cmd : UInt8} {payload : List UInt8} (h : payload.length ≤ 7) :
    segmentFrame cmd payload
      = .ok ⟨cmd :: (Bytes.pad 7 payload).data, by
          rw [List.length_cons, (Bytes.pad 7 payload).size]⟩ := by
  have hfit : 1 + payload.length ≤ 8 := by omega
  simp only [segmentFrame, Checked.guard_of _ h, Checked.bind_ok, Bytes.splice_of_le _ hfit]
  congr 1
  ext1
  have hdata : ((Bytes.zero 8).set 0 cmd).data = cmd :: List.replicate 7 0 := rfl
  rw [Bytes.data_put, hdata, Nat.add_comm, List.drop_succ_cons, List.drop_replicate]
  simp [Bytes.pad, List.take_of_length_le h]

/-- **The segment encoder builds the segment frame.** -/
theorem segmentFrame_segmentCmd {cs : UInt8} {toggle last : Bool} {payload : List UInt8}
    (h : payload.length ≤ 7) :
    (segmentCmd cs toggle payload.length last >>= fun cmd => segmentFrame cmd payload)
      = .ok (segmentData cs toggle payload last) := by
  rw [segmentCmd_of_le h, Checked.bind_ok, segmentFrame_of_le h]
  rfl

/-- Up to four bytes behind the first four are followed by zeros. -/
theorem put_muxFrame_pad {cmd : UInt8} {idx : UInt16} {sub : UInt8} {v : List UInt8}
    (h : 4 + v.length ≤ 8) :
    (muxFrame cmd idx sub).put 4 v h
      = (muxFrame cmd idx sub).put 4 (Bytes.pad 4 v).data (by rw [(Bytes.pad 4 v).size]) := by
  have hv : v.length ≤ 4 := by omega
  have hdata : (muxFrame cmd idx sub).data
      = [cmd, idx.toUInt8, (idx >>> 8).toUInt8, sub] ++ List.replicate 4 0 := rfl
  ext1
  rw [Bytes.data_put, Bytes.data_put, (Bytes.pad 4 v).size, hdata, List.drop_append,
    List.drop_append, List.drop_replicate, List.drop_replicate]
  simp [Bytes.pad, List.take_of_length_le hv]

/-! ### Reading an init or abort frame -/

section Mux

variable (cmd : UInt8) (idx : UInt16) (sub : UInt8)

@[simp] theorem get_muxFrame : (muxFrame cmd idx sub).get 0 = cmd := rfl

@[simp] theorem indexOf_muxFrame : indexOf (muxFrame cmd idx sub) = idx := u16OfLe_toUInt8 idx

@[simp] theorem subindexOf_muxFrame : subindexOf (muxFrame cmd idx sub) = sub := rfl

variable {src : List UInt8} (h : 4 + src.length ≤ 8)

@[simp] theorem get_put_muxFrame : ((muxFrame cmd idx sub).put 4 src h).get 0 = cmd :=
  Bytes.get_put_of_lt _ h (by decide)

@[simp] theorem indexOf_put_muxFrame : indexOf ((muxFrame cmd idx sub).put 4 src h) = idx := by
  rw [indexOf, Bytes.get_put_of_lt _ h (by decide), Bytes.get_put_of_lt _ h (by decide)]
  exact indexOf_muxFrame cmd idx sub

@[simp] theorem subindexOf_put_muxFrame :
    subindexOf ((muxFrame cmd idx sub).put 4 src h) = sub :=
  Bytes.get_put_of_lt _ h (by decide)

end Mux

/-- The word put behind the first four bytes is read back. -/
@[simp] theorem wordOf_put_muxFrame (cmd : UInt8) (idx : UInt16) (sub : UInt8) (w : UInt32) :
    wordOf ((muxFrame cmd idx sub).put 4 (u32ToLe w) (fits_u32ToLe _)) = w := u32OfLe_u32ToLe w

/-! ### Reading a segment frame -/

theorem decodeSegment_le (cmd : UInt8) : (decodeSegment cmd).1 ≤ 7 := Nat.sub_le 7 _

theorem length_payloadOf (data : Bytes 8) :
    (payloadOf data).length = (decodeSegment (data.get 0)).1 := by
  have := decodeSegment_le (data.get 0)
  rw [payloadOf, List.length_take, List.length_drop, data.size]
  omega

/-- Both machines cut the payload out of a segment frame without a panic. -/
theorem slice_payload (data : Bytes 8) :
    data.slice 1 (1 + (decodeSegment (data.get 0)).1) = .ok (payloadOf data) :=
  Bytes.slice_of_le _ (by have := decodeSegment_le (data.get 0); omega)

/-- The three fields of a segment command byte are read back. -/
theorem segmentByte_spec : ∀ (toggle last : Bool) (len : Fin 8),
    segmentByte 0 toggle len last &&& csMask = 0 ∧ toggleOf (segmentByte 0 toggle len last) = toggle ∧
      decodeSegment (segmentByte 0 toggle len last) = ((len : ℕ), last) := by decide

section Segment

variable {toggle last : Bool} {payload : List UInt8}

@[simp] theorem get_segmentData (cs : UInt8) :
    (segmentData cs toggle payload last).get 0 = segmentByte cs toggle payload.length last := rfl

theorem cs_segmentByte {len : ℕ} (h : len ≤ 7) : segmentByte 0 toggle len last &&& csMask = 0 :=
  (segmentByte_spec toggle last ⟨len, by omega⟩).1

theorem toggleOf_segmentByte {len : ℕ} (h : len ≤ 7) :
    toggleOf (segmentByte 0 toggle len last) = toggle :=
  (segmentByte_spec toggle last ⟨len, by omega⟩).2.1

theorem decodeSegment_segmentByte {len : ℕ} (h : len ≤ 7) :
    decodeSegment (segmentByte 0 toggle len last) = (len, last) :=
  (segmentByte_spec toggle last ⟨len, by omega⟩).2.2

/-- The payload of a segment is read back. -/
theorem payloadOf_segmentData (h : payload.length ≤ 7) :
    payloadOf (segmentData 0 toggle payload last) = payload := by
  rw [payloadOf, get_segmentData, decodeSegment_segmentByte h]
  exact Bytes.take_pad h

end Segment

/-! ### Reading an expedited frame -/

theorem inlineLen_le (cmd : UInt8) : inlineLen cmd ≤ 4 := by
  unfold inlineLen
  split <;> omega

/-- Both machines compute the length of an inline value without a panic. -/
theorem sub_inlineLen (cmd : UInt8) :
    (if (cmd &&& 0b01) != 0 then Checked.sub 4 ((cmd >>> 2) &&& 0b11).toNat else pure 4)
      = .ok (inlineLen cmd) := by
  have hn : ((cmd >>> 2) &&& 0b11).toNat ≤ 3 := by
    rw [UInt8.toNat_and]
    exact Nat.and_le_right
  unfold inlineLen
  split
  · exact Checked.sub_of_le (by omega)
  · rfl

/-- Both machines cut the inline value out of an expedited frame without a panic. -/
theorem slice_inline (data : Bytes 8) :
    data.slice 4 (4 + inlineLen (data.get 0)) = .ok (inlineOf data) :=
  Bytes.slice_of_le _ (by have := inlineLen_le (data.get 0); omega)

/-- The fields of an expedited command byte are read back, in either direction. -/
theorem expeditedByte_spec : ∀ (upload : Bool) (len : Fin 4),
    let cs := if upload then scsInitUpload else ccsInitDownload
    let cmd := expeditedByte cs (len + 1)
    cmd &&& csMask = cs ∧ (cmd &&& 0b10) ≠ 0 ∧ inlineLen cmd = len + 1 := by decide

/-- The inline value of an expedited frame is read back. -/
theorem inlineOf_expeditedData {cs : UInt8} {idx : UInt16} {sub : UInt8} {v : List UInt8}
    (hlen : inlineLen (expeditedByte cs v.length) = v.length) (h : v.length ≤ 4) :
    inlineOf (expeditedData cs idx sub v) = v := by
  have hget : (expeditedData cs idx sub v).get 0 = expeditedByte cs v.length :=
    get_put_muxFrame _ _ _ _
  have hpad : v.length ≤ (Bytes.pad 4 v).data.length := by rw [(Bytes.pad 4 v).size]; exact h
  rw [inlineOf, hget, hlen, expeditedData, Bytes.take_drop_put _ _ hpad]
  exact Bytes.take_pad h

end Wire
end CanopenSdo
