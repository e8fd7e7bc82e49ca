import CanopenSdo.Fields
import CanopenSdo.Server

/-!
# What a server step can do

`ServerStep od s f now o r s' o'` lists the exits of `SdoServer.handleFrame` on the
frame `f`: for each, when it is taken, the result, the new server and the new
dictionary state.  Later modules reason about these exits only; the handlers are
unfolded here and nowhere else.

The exits that slice the buffer carry the range of the slice.  A server that
takes one was in that range, and a server in that range takes it without a panic.

## Main definitions

* `SdoServer.Addressed` — the frame is for this server.
* `ServerStep` — the exits.
* `ServerState.object` — the object of a transfer in flight.

## Main results

* `handleFrame_eq_ok_iff` — **`handleFrame` returns exactly what an exit says.**
-/

namespace CanopenSdo

open Wire

variable {N : ℕ} {σ : Type}

/-- The frame is a request to this server's node. -/
def SdoServer.Addressed (s : SdoServer N) (f : SdoFrame) : Prop :=
  SdoFrame.nodeOfRsdo f.cobId = some s.cfg.nodeId

instance (s : SdoServer N) (f : SdoFrame) : Decidable (s.Addressed f) :=
  inferInstanceAs (Decidable (SdoFrame.nodeOfRsdo f.cobId = some s.cfg.nodeId))

/-- The server once its pending frame is taken. -/
def SdoServer.drained (s : SdoServer N) : SdoServer N := { s with pendingTx := none }

@[simp] theorem SdoServer.state_drained (s : SdoServer N) : s.drained.state = s.state := rfl

@[simp] theorem SdoServer.cfg_drained (s : SdoServer N) : s.drained.cfg = s.cfg := rfl

@[simp] theorem SdoServer.pendingTx_drained (s : SdoServer N) : s.drained.pendingTx = none := rfl

theorem SdoServer.drained_of_none {s : SdoServer N} (h : s.pendingTx = none) : s.drained = s := by
  unfold drained
  rw [← h]

/-- The server after an answer that ends the transfer. -/
def SdoServer.answered (s : SdoServer N) (out : Bytes 8) : SdoServer N := s.reset.queue out

/-- The server after an answer that goes on with a segmented transfer. -/
def SdoServer.serving (s : SdoServer N) (st : ServerState N) (out : Bytes 8) (now : UInt64) :
    SdoServer N :=
  { s with state := st }.queueWithDeadline out now

/-- The server after it has aborted. -/
def SdoServer.aborted (s : SdoServer N) (idx : UInt16) (sub : UInt8) (code : SdoAbortCode) :
    SdoServer N :=
  s.answered (Wire.abort idx sub code)

theorem SdoServer.abort_eq (s : SdoServer N) (idx : UInt16) (sub : UInt8) (code : SdoAbortCode) :
    s.abort idx sub code = (.error (.clientAborted code), s.aborted idx sub code) := rfl

/-- The exits of `SdoServer.handleFrame`. -/
inductive ServerStep (od : ObjectDictionary σ) (s : SdoServer N) (f : SdoFrame) (now : UInt64)
    (o : σ) : SdoResult Unit → SdoServer N → σ → Prop
  | ignored (ha : ¬ s.Addressed f) : ServerStep od s f now o (.ok ()) s o
  | clientAbort (ha : s.Addressed f) (hcs : f.cs = csAbort) :
      ServerStep od s f now o (.ok ()) s.reset o
  | initUploadRefused (ha : s.Addressed f) (hcs : f.cs = ccsInitUpload) {code : SdoAbortCode}
      {buf : Bytes N} {o' : σ}
      (hr : od.read o (indexOf f.data) (subindexOf f.data) (Bytes.zero N) = (.error code, buf, o')) :
      ServerStep od s f now o (.error (.clientAborted code))
        (s.aborted (indexOf f.data) (subindexOf f.data) code) o'
  | initUploadTooLarge (ha : s.Addressed f) (hcs : f.cs = ccsInitUpload) {len : ℕ} {buf : Bytes N}
      {o' : σ}
      (hr : od.read o (indexOf f.data) (subindexOf f.data) (Bytes.zero N) = (.ok len, buf, o'))
      (hlen : N < len) :
      ServerStep od s f now o (.error (.clientAborted .outOfMemory))
        (s.aborted (indexOf f.data) (subindexOf f.data) .outOfMemory) o'
  | initUploadExpedited (ha : s.Addressed f) (hcs : f.cs = ccsInitUpload) {len : ℕ}
      {buf : Bytes N} {o' : σ}
      (hr : od.read o (indexOf f.data) (subindexOf f.data) (Bytes.zero N) = (.ok len, buf, o'))
      (hlen : len ≤ N) (h : 1 ≤ len ∧ len ≤ 4) :
      ServerStep od s f now o (.ok ())
        (s.answered (expeditedData scsInitUpload (indexOf f.data) (subindexOf f.data)
          (buf.data.take len))) o'
  | initUploadSegmented (ha : s.Addressed f) (hcs : f.cs = ccsInitUpload) {len : ℕ}
      {buf : Bytes N} {o' : σ}
      (hr : od.read o (indexOf f.data) (subindexOf f.data) (Bytes.zero N) = (.ok len, buf, o'))
      (hlen : len ≤ N) (h : ¬ (1 ≤ len ∧ len ≤ 4)) :
      ServerStep od s f now o (.ok ())
        (s.serving (.uploading (indexOf f.data) (subindexOf f.data) buf len 0 false)
          (announceData scsInitUpload (indexOf f.data) (subindexOf f.data) (UInt32.ofNat len)) now)
        o'
  | uploadSegmentUnexpected (ha : s.Addressed f) (hcs : f.cs = ccsUploadSegment)
      (hst : ∀ idx sub buf len sent toggle, s.state ≠ .uploading idx sub buf len sent toggle) :
      ServerStep od s f now o (.error (.clientAborted .invalidCommandSpecifier))
        (s.aborted 0 0 .invalidCommandSpecifier) o
  | uploadSegmentToggle (ha : s.Addressed f) (hcs : f.cs = ccsUploadSegment) {idx : UInt16}
      {sub : UInt8} {buf : Bytes N} {len sent : ℕ} {toggle : Bool}
      (hst : s.state = .uploading idx sub buf len sent toggle) (ht : f.toggle ≠ toggle) :
      ServerStep od s f now o (.error (.clientAborted .toggleBitNotAlternated))
        (s.aborted idx sub .toggleBitNotAlternated) o
  | uploadSegmentMore (ha : s.Addressed f) (hcs : f.cs = ccsUploadSegment) {idx : UInt16}
      {sub : UInt8} {buf : Bytes N} {len sent : ℕ} {toggle : Bool}
      (hst : s.state = .uploading idx sub buf len sent toggle) (ht : f.toggle = toggle)
      (hlen : sent + 7 < len) (hN : sent + 7 ≤ N) :
      ServerStep od s f now o (.ok ())
        (s.serving (.uploading idx sub buf len (sent + 7) (!toggle))
          (segmentData scsUploadSegment toggle ((buf.data.drop sent).take 7) false) now) o
  | uploadSegmentLast (ha : s.Addressed f) (hcs : f.cs = ccsUploadSegment) {idx : UInt16}
      {sub : UInt8} {buf : Bytes N} {len sent : ℕ} {toggle : Bool}
      (hst : s.state = .uploading idx sub buf len sent toggle) (ht : f.toggle = toggle)
      (hsent : sent ≤ len) (hlen : len ≤ sent + 7) (hN : len ≤ N) :
      ServerStep od s f now o (.ok ())
        (s.answered (segmentData scsUploadSegment toggle ((buf.data.drop sent).take (len - sent))
          true)) o
  | initDownloadRefused (ha : s.Addressed f) (hcs : f.cs = ccsInitDownload)
      (he : f.expedited = true) {code : SdoAbortCode} {o' : σ}
      (hw : od.write o (indexOf f.data) (subindexOf f.data) (inlineOf f.data) = (.error code, o')) :
      ServerStep od s f now o (.error (.clientAborted code))
        (s.aborted (indexOf f.data) (subindexOf f.data) code) o'
  | initDownloadExpedited (ha : s.Addressed f) (hcs : f.cs = ccsInitDownload)
      (he : f.expedited = true) {o' : σ}
      (hw : od.write o (indexOf f.data) (subindexOf f.data) (inlineOf f.data) = (.ok (), o')) :
      ServerStep od s f now o (.ok ())
        (s.answered (initDownloadAck (indexOf f.data) (subindexOf f.data))) o'
  | initDownloadTooLarge (ha : s.Addressed f) (hcs : f.cs = ccsInitDownload)
      (he : f.expedited = false) {size : ℕ} (hsize : f.announced = some size) (hN : N < size) :
      ServerStep od s f now o (.error (.clientAborted .outOfMemory))
        (s.aborted (indexOf f.data) (subindexOf f.data) .outOfMemory) o
  | initDownloadSegmented (ha : s.Addressed f) (hcs : f.cs = ccsInitDownload)
      (he : f.expedited = false) (hN : ∀ size, f.announced = some size → size ≤ N) :
      ServerStep od s f now o (.ok ())
        (s.serving (.downloading (indexOf f.data) (subindexOf f.data) (Bytes.zero N) 0 f.announced
          false) (initDownloadAck (indexOf f.data) (subindexOf f.data)) now) o
  | downloadSegmentUnexpected (ha : s.Addressed f) (hcs : f.cs = ccsDownloadSegment)
      (hst : ∀ idx sub buf len expected toggle,
        s.state ≠ .downloading idx sub buf len expected toggle) :
      ServerStep od s f now o (.error (.clientAborted .invalidCommandSpecifier))
        (s.aborted 0 0 .invalidCommandSpecifier) o
  | downloadSegmentToggle (ha : s.Addressed f) (hcs : f.cs = ccsDownloadSegment) {idx : UInt16}
      {sub : UInt8} {buf : Bytes N} {len : ℕ} {expected : Option ℕ} {toggle : Bool}
      (hst : s.state = .downloading idx sub buf len expected toggle) (ht : f.toggle ≠ toggle) :
      ServerStep od s f now o (.error (.clientAborted .toggleBitNotAlternated))
        (s.aborted idx sub .toggleBitNotAlternated) o
  | downloadSegmentOverflow (ha : s.Addressed f) (hcs : f.cs = ccsDownloadSegment) {idx : UInt16}
      {sub : UInt8} {buf : Bytes N} {len : ℕ} {expected : Option ℕ} {toggle : Bool}
      (hst : s.state = .downloading idx sub buf len expected toggle) (ht : f.toggle = toggle)
      (hfit : N < len + (payloadOf f.data).length) :
      ServerStep od s f now o (.error (.clientAborted .outOfMemory))
        (s.aborted idx sub .outOfMemory) o
  | downloadSegmentMore (ha : s.Addressed f) (hcs : f.cs = ccsDownloadSegment) {idx : UInt16}
      {sub : UInt8} {buf : Bytes N} {len : ℕ} {expected : Option ℕ} {toggle : Bool}
      (hst : s.state = .downloading idx sub buf len expected toggle) (ht : f.toggle = toggle)
      (hfit : len + (payloadOf f.data).length ≤ N) (hc : f.final = false) :
      ServerStep od s f now o (.ok ())
        (s.serving (.downloading idx sub (buf.put len (payloadOf f.data) hfit)
          (len + (payloadOf f.data).length) expected (!toggle)) (downloadSegmentAck toggle) now) o
  | downloadSegmentMismatch (ha : s.Addressed f) (hcs : f.cs = ccsDownloadSegment) {idx : UInt16}
      {sub : UInt8} {buf : Bytes N} {len size : ℕ} {toggle : Bool}
      (hst : s.state = .downloading idx sub buf len (some size) toggle) (ht : f.toggle = toggle)
      (hfit : len + (payloadOf f.data).length ≤ N) (hc : f.final = true)
      (hsize : size ≠ len + (payloadOf f.data).length) :
      ServerStep od s f now o (.error (.clientAborted .dataTypeLengthMismatch))
        (s.aborted idx sub .dataTypeLengthMismatch) o
  | downloadSegmentRefused (ha : s.Addressed f) (hcs : f.cs = ccsDownloadSegment) {idx : UInt16}
      {sub : UInt8} {buf : Bytes N} {len : ℕ} {expected : Option ℕ} {toggle : Bool}
      (hst : s.state = .downloading idx sub buf len expected toggle) (ht : f.toggle = toggle)
      (hfit : len + (payloadOf f.data).length ≤ N) (hc : f.final = true)
      (hsize : ∀ size, expected = some size → size = len + (payloadOf f.data).length)
      {code : SdoAbortCode} {o' : σ}
      (hw : od.write o idx sub (buf.data.take len ++ payloadOf f.data) = (.error code, o')) :
      ServerStep od s f now o (.error (.clientAborted code)) (s.aborted idx sub code) o'
  | downloadSegmentLast (ha : s.Addressed f) (hcs : f.cs = ccsDownloadSegment) {idx : UInt16}
      {sub : UInt8} {buf : Bytes N} {len : ℕ} {expected : Option ℕ} {toggle : Bool}
      (hst : s.state = .downloading idx sub buf len expected toggle) (ht : f.toggle = toggle)
      (hfit : len + (payloadOf f.data).length ≤ N) (hc : f.final = true)
      (hsize : ∀ size, expected = some size → size = len + (payloadOf f.data).length)
      {o' : σ} (hw : od.write o idx sub (buf.data.take len ++ payloadOf f.data) = (.ok (), o')) :
      ServerStep od s f now o (.ok ()) (s.answered (downloadSegmentAck toggle)) o'
  | unknownCommand (ha : s.Addressed f)
      (hcs : f.cs ≠ csAbort ∧ f.cs ≠ ccsInitUpload ∧ f.cs ≠ ccsUploadSegment ∧
        f.cs ≠ ccsInitDownload ∧ f.cs ≠ ccsDownloadSegment) :
      ServerStep od s f now o (.error (.clientAborted .invalidCommandSpecifier))
        (s.aborted (indexOf f.data) (subindexOf f.data) .invalidCommandSpecifier) o

/-! ### The exits are what the handlers compute -/

section Forward

variable {od : ObjectDictionary σ} {s s' : SdoServer N} {f : SdoFrame} {now : UInt64} {o o' : σ}

theorem handleFrame_of_cs_initUpload (ha : s.Addressed f) (hcs : f.cs = ccsInitUpload) :
    s.handleFrame f now od o = s.onInitUpload f.data now od o := by
  unfold SdoServer.Addressed at ha
  unfold SdoFrame.cs at hcs
  simp +decide [SdoServer.handleFrame, ha, hcs, csAbort, ccsInitUpload]

theorem handleFrame_of_cs_uploadSegment (ha : s.Addressed f) (hcs : f.cs = ccsUploadSegment) :
    s.handleFrame f now od o
      = (fun r => (r, o)) <$> s.onUploadSegment (f.data.get 0) now := by
  unfold SdoServer.Addressed at ha
  unfold SdoFrame.cs at hcs
  simp +decide [SdoServer.handleFrame, ha, hcs, csAbort, ccsInitUpload, ccsUploadSegment]

theorem handleFrame_of_cs_initDownload (ha : s.Addressed f) (hcs : f.cs = ccsInitDownload) :
    s.handleFrame f now od o = s.onInitDownload (f.data.get 0) f.data now od o := by
  unfold SdoServer.Addressed at ha
  unfold SdoFrame.cs at hcs
  simp +decide [SdoServer.handleFrame, ha, hcs, csAbort, ccsInitUpload, ccsUploadSegment, ccsInitDownload]

theorem handleFrame_of_cs_downloadSegment (ha : s.Addressed f) (hcs : f.cs = ccsDownloadSegment) :
    s.handleFrame f now od o = s.onDownloadSegment (f.data.get 0) f.data now od o := by
  unfold SdoServer.Addressed at ha
  unfold SdoFrame.cs at hcs
  simp +decide [SdoServer.handleFrame, ha, hcs, csAbort, ccsInitUpload, ccsUploadSegment, ccsInitDownload,
    ccsDownloadSegment]

/-- A value of one to four bytes is answered inline. -/
theorem onInitUpload_expedited {data : Bytes 8} {len : ℕ} {buf : Bytes N}
    (hr : od.read o (indexOf data) (subindexOf data) (Bytes.zero N) = (.ok len, buf, o'))
    (hlen : len ≤ N) (h : 1 ≤ len ∧ len ≤ 4) :
    s.onInitUpload data now od o = .ok ((.ok (), s.answered (expeditedData scsInitUpload
      (indexOf data) (subindexOf data) (buf.data.take len))), o') := by
  have hslice : buf.slice 0 len = .ok (buf.data.take len) := buf.slice_zero_of_le hlen
  have htake : (buf.data.take len).length = len := by
    rw [List.length_take, buf.size]
    omega
  have hfit : 4 + (buf.data.take len).length ≤ 8 := by omega
  simp only [SdoServer.onInitUpload, hr, Nat.not_lt.mpr hlen, if_false, h, and_self, if_true,
    Checked.sub_of_le h.2, hslice, Bytes.splice_of_le _ hfit, Checked.bind_ok, Checked.pure_eq_ok]
  rw [put_muxFrame_pad]
  simp only [expeditedData, expeditedByte, htake]
  rfl

/-- The slice of the buffer an upload segment carries, and its frame. -/
theorem onUploadSegment_more {cmd : UInt8} {idx : UInt16} {sub : UInt8} {buf : Bytes N}
    {len sent : ℕ} {toggle : Bool} (hst : s.state = .uploading idx sub buf len sent toggle)
    (ht : toggleOf cmd = toggle) (hlen : sent + 7 < len) (hN : sent + 7 ≤ N) :
    s.onUploadSegment cmd now = .ok (.ok (),
      s.serving (.uploading idx sub buf len (sent + 7) (!toggle))
        (segmentData scsUploadSegment toggle ((buf.data.drop sent).take 7) false) now) := by
  have hmin : min (len - sent) 7 = 7 := by omega
  have hlast : ¬ len - sent ≤ 7 := by omega
  have hpay : ((buf.data.drop sent).take 7).length = 7 := by
    rw [List.length_take, List.length_drop, buf.size]
    omega
  have hframe : _ = Except.ok (segmentData scsUploadSegment toggle _ false) :=
    segmentFrame_segmentCmd hpay.le
  rw [hpay, segmentCmd_of_le le_rfl, Checked.bind_ok] at hframe
  simp only [SdoServer.onUploadSegment, hst, ht, ne_eq, not_true_eq_false, if_false,
    Checked.sub_of_le (show sent ≤ len by omega), hmin, hlast, decide_false,
    Bytes.slice_of_le _ hN, segmentCmd_of_le le_rfl, hframe, Checked.bind_ok, Checked.pure_eq_ok]
  rfl

theorem onUploadSegment_last {cmd : UInt8} {idx : UInt16} {sub : UInt8} {buf : Bytes N}
    {len sent : ℕ} {toggle : Bool} (hst : s.state = .uploading idx sub buf len sent toggle)
    (ht : toggleOf cmd = toggle) (hsent : sent ≤ len) (hlen : len ≤ sent + 7) (hN : len ≤ N) :
    s.onUploadSegment cmd now = .ok (.ok (),
      s.answered (segmentData scsUploadSegment toggle ((buf.data.drop sent).take (len - sent))
        true)) := by
  have hmin : min (len - sent) 7 = len - sent := by omega
  have hlast : len - sent ≤ 7 := by omega
  have hpay : ((buf.data.drop sent).take (len - sent)).length = len - sent := by
    rw [List.length_take, List.length_drop, buf.size]
    omega
  have hframe : _ = Except.ok (segmentData scsUploadSegment toggle _ true) :=
    segmentFrame_segmentCmd (hpay.trans_le hlast)
  rw [hpay, segmentCmd_of_le hlast, Checked.bind_ok] at hframe
  simp only [SdoServer.onUploadSegment, hst, ht, ne_eq, not_true_eq_false, if_false,
    Checked.sub_of_le hsent, hmin, hlast, decide_true, Bytes.slice_of_le _
      (show sent + (len - sent) ≤ N by omega), segmentCmd_of_le hlast, hframe, Checked.bind_ok,
    Checked.pure_eq_ok, if_true]
  rfl

/-- The inline value of an expedited download is written. -/
theorem onInitDownload_expedited (he : f.expedited = true) :
    s.onInitDownload (f.data.get 0) f.data now od o
      = match od.write o (indexOf f.data) (subindexOf f.data) (inlineOf f.data) with
        | (.error code, o') => .ok (s.abort (indexOf f.data) (subindexOf f.data) code, o')
        | (.ok (), o') =>
          .ok ((.ok (), s.answered (initDownloadAck (indexOf f.data) (subindexOf f.data))), o') := by
  unfold SdoFrame.expedited at he
  simp only [SdoServer.onInitDownload, he, if_true, sub_inlineLen, Checked.bind_ok, slice_inline]
  rcases od.write o (indexOf f.data) (subindexOf f.data) (inlineOf f.data) with ⟨_ | _, _⟩ <;> rfl

theorem onInitDownload_segmented (he : f.expedited = false) :
    s.onInitDownload (f.data.get 0) f.data now od o
      = if f.announced.any (fun size => size > N) then
          .ok (s.abort (indexOf f.data) (subindexOf f.data) .outOfMemory, o)
        else .ok ((.ok (), s.serving (.downloading (indexOf f.data) (subindexOf f.data)
          (Bytes.zero N) 0 f.announced false)
          (initDownloadAck (indexOf f.data) (subindexOf f.data)) now), o) := by
  unfold SdoFrame.expedited at he
  simp only [SdoServer.onInitDownload, he, Bool.false_eq_true, if_false]
  rfl

/-- What a download segment that fits does. -/
theorem onDownloadSegment_fits {idx : UInt16} {sub : UInt8} {buf : Bytes N} {len : ℕ}
    {expected : Option ℕ} {toggle : Bool}
    (hst : s.state = .downloading idx sub buf len expected toggle) (ht : f.toggle = toggle)
    (hfit : len + (payloadOf f.data).length ≤ N) :
    s.onDownloadSegment (f.data.get 0) f.data now od o
      = if f.final then
          if expected.any (fun size => size != len + (payloadOf f.data).length) then
            .ok (s.abort idx sub .dataTypeLengthMismatch, o)
          else
            match od.write o idx sub (buf.data.take len ++ payloadOf f.data) with
            | (.error code, o') => .ok (s.abort idx sub code, o')
            | (.ok (), o') => .ok ((.ok (), s.answered (downloadSegmentAck toggle)), o')
        else .ok ((.ok (), s.serving (.downloading idx sub (buf.put len (payloadOf f.data) hfit)
          (len + (payloadOf f.data).length) expected (!toggle)) (downloadSegmentAck toggle) now),
          o) := by
  unfold SdoFrame.toggle at ht
  have hlen := length_payloadOf f.data
  have hdec : decodeSegment (f.data.get 0) = ((payloadOf f.data).length, f.final) := by
    rw [hlen]
    rfl
  have hpay := slice_payload f.data
  rw [← hlen] at hpay
  have hvalue : (buf.put len (payloadOf f.data) hfit).slice 0 (len + (payloadOf f.data).length)
      = .ok (buf.data.take len ++ payloadOf f.data) := by
    rw [Bytes.slice_zero_of_le _ hfit, Bytes.take_put]
  simp only [SdoServer.onDownloadSegment, hst, ht, ne_eq, not_true_eq_false, if_false, hdec,
    Nat.not_lt.mpr hfit, hpay, Checked.bind_ok, Bytes.splice_of_le _ hfit]
  split
  · split
    · rfl
    · simp only [hvalue, Checked.bind_ok]
      rcases od.write o idx sub (buf.data.take len ++ payloadOf f.data) with ⟨_ | _, _⟩ <;> rfl
  · rfl

/-- An exit is what `handleFrame` computes. -/
theorem ServerStep.handleFrame_eq {r : SdoResult Unit} (h : ServerStep od s f now o r s' o') :
    s.handleFrame f now od o = .ok ((r, s'), o') := by
  cases h with
  | ignored ha => exact if_pos ha
  | clientAbort ha hcs =>
    unfold SdoServer.Addressed at ha
    unfold SdoFrame.cs at hcs
    simp [SdoServer.handleFrame, ha, hcs]
  | initUploadRefused ha hcs hr =>
    rw [handleFrame_of_cs_initUpload ha hcs]
    simp only [SdoServer.onInitUpload, hr]
    rfl
  | initUploadTooLarge ha hcs hr hlen =>
    rw [handleFrame_of_cs_initUpload ha hcs]
    simp only [SdoServer.onInitUpload, hr, gt_iff_lt, hlen, if_true]
    rfl
  | initUploadExpedited ha hcs hr hlen h =>
    rw [handleFrame_of_cs_initUpload ha hcs, onInitUpload_expedited hr hlen h]
  | initUploadSegmented ha hcs hr hlen h =>
    rw [handleFrame_of_cs_initUpload ha hcs]
    simp only [SdoServer.onInitUpload, hr, Nat.not_lt.mpr hlen, if_false, h]
    rfl
  | uploadSegmentUnexpected ha hcs hst =>
    rw [handleFrame_of_cs_uploadSegment ha hcs, SdoServer.onUploadSegment]
    split
    · next heq => exact absurd heq (hst _ _ _ _ _ _)
    · rfl
  | uploadSegmentToggle ha hcs hst ht =>
    rw [handleFrame_of_cs_uploadSegment ha hcs]
    unfold SdoFrame.toggle at ht
    simp only [SdoServer.onUploadSegment, hst, ne_eq, ht, not_false_eq_true, if_true]
    rfl
  | uploadSegmentMore ha hcs hst ht hlen hN =>
    rw [handleFrame_of_cs_uploadSegment ha hcs, onUploadSegment_more hst ht hlen hN,
      Checked.map_ok]
  | uploadSegmentLast ha hcs hst ht hsent hlen hN =>
    rw [handleFrame_of_cs_uploadSegment ha hcs, onUploadSegment_last hst ht hsent hlen hN,
      Checked.map_ok]
  | initDownloadRefused ha hcs he hw =>
    rw [handleFrame_of_cs_initDownload ha hcs, onInitDownload_expedited he, hw]
    rfl
  | initDownloadExpedited ha hcs he hw =>
    rw [handleFrame_of_cs_initDownload ha hcs, onInitDownload_expedited he, hw]
  | initDownloadTooLarge ha hcs he hsize hN =>
    rw [handleFrame_of_cs_initDownload ha hcs, onInitDownload_segmented he, hsize]
    simp only [Option.any_some, gt_iff_lt, hN, decide_true, if_true]
    rfl
  | initDownloadSegmented ha hcs he hN =>
    rw [handleFrame_of_cs_initDownload ha hcs, onInitDownload_segmented he, if_neg]
    simpa [Option.any_eq_true] using hN
  | downloadSegmentUnexpected ha hcs hst =>
    rw [handleFrame_of_cs_downloadSegment ha hcs, SdoServer.onDownloadSegment]
    split
    · next heq => exact absurd heq (hst _ _ _ _ _ _)
    · rfl
  | downloadSegmentToggle ha hcs hst ht =>
    rw [handleFrame_of_cs_downloadSegment ha hcs]
    unfold SdoFrame.toggle at ht
    simp only [SdoServer.onDownloadSegment, hst, ne_eq, ht, not_false_eq_true, if_true]
    rfl
  | downloadSegmentOverflow ha hcs hst ht hfit =>
    rw [handleFrame_of_cs_downloadSegment ha hcs]
    unfold SdoFrame.toggle at ht
    rw [length_payloadOf] at hfit
    simp only [SdoServer.onDownloadSegment, hst, ht, ne_eq, not_true_eq_false, if_false, gt_iff_lt,
      hfit, if_true]
    rfl
  | downloadSegmentMore ha hcs hst ht hfit hc =>
    rw [handleFrame_of_cs_downloadSegment ha hcs, onDownloadSegment_fits hst ht hfit, hc]
    rfl
  | downloadSegmentMismatch ha hcs hst ht hfit hc hsize =>
    rw [handleFrame_of_cs_downloadSegment ha hcs, onDownloadSegment_fits hst ht hfit, hc]
    simp only [if_true, Option.any_some, bne_iff_ne.mpr hsize]
    rfl
  | downloadSegmentRefused ha hcs hst ht hfit hc hsize hw =>
    rw [handleFrame_of_cs_downloadSegment ha hcs, onDownloadSegment_fits hst ht hfit, hc, if_pos rfl,
      if_neg (by simpa [Option.any_eq_true] using hsize), hw]
    rfl
  | downloadSegmentLast ha hcs hst ht hfit hc hsize hw =>
    rw [handleFrame_of_cs_downloadSegment ha hcs, onDownloadSegment_fits hst ht hfit, hc, if_pos rfl,
      if_neg (by simpa [Option.any_eq_true] using hsize), hw]
  | unknownCommand ha hcs =>
    unfold SdoServer.Addressed at ha
    unfold SdoFrame.cs at hcs
    simp [SdoServer.handleFrame, ha, hcs, SdoServer.abort_eq]

/-- An upload segment request that does not panic was in range. -/
theorem range_of_onUploadSegment {cmd : UInt8} {idx : UInt16} {sub : UInt8} {buf : Bytes N}
    {len sent : ℕ} {toggle : Bool} (hst : s.state = .uploading idx sub buf len sent toggle)
    (ht : toggleOf cmd = toggle) {x : SdoResult Unit × SdoServer N}
    (h : s.onUploadSegment cmd now = .ok x) : sent ≤ len ∧ sent + min (len - sent) 7 ≤ N := by
  simp only [SdoServer.onUploadSegment, hst, ht, ne_eq, not_true_eq_false, if_false] at h
  obtain ⟨remaining, hrem, h⟩ := Checked.eq_ok_of_bind h
  obtain ⟨payload, hpay, -⟩ := Checked.eq_ok_of_bind h
  unfold Checked.sub at hrem
  split at hrem
  · next hle =>
    obtain rfl := Except.ok.inj hrem
    have hr := (Checked.slice_eq_ok hpay).2.1
    rw [buf.size] at hr
    exact ⟨hle, hr⟩
  · cases hrem

/-- Every init upload takes an exit. -/
theorem exists_initUpload (ha : s.Addressed f) (hcs : f.cs = ccsInitUpload) :
    ∃ r s' o', ServerStep od s f now o r s' o' := by
  rcases hr : od.read o (indexOf f.data) (subindexOf f.data) (Bytes.zero N) with ⟨_ | len, buf, o'⟩
  · exact ⟨_, _, _, .initUploadRefused ha hcs hr⟩
  · rcases Nat.lt_or_ge N len with hlen | hlen
    · exact ⟨_, _, _, .initUploadTooLarge ha hcs hr hlen⟩
    · by_cases h : 1 ≤ len ∧ len ≤ 4
      · exact ⟨_, _, _, .initUploadExpedited ha hcs hr hlen h⟩
      · exact ⟨_, _, _, .initUploadSegmented ha hcs hr hlen h⟩

/-- Every init download takes an exit. -/
theorem exists_initDownload (ha : s.Addressed f) (hcs : f.cs = ccsInitDownload) :
    ∃ r s' o', ServerStep od s f now o r s' o' := by
  cases he : f.expedited with
  | true =>
    rcases hw : od.write o (indexOf f.data) (subindexOf f.data) (inlineOf f.data) with ⟨_ | _, o'⟩
    · exact ⟨_, _, _, .initDownloadRefused ha hcs he hw⟩
    · exact ⟨_, _, _, .initDownloadExpedited ha hcs he hw⟩
  | false =>
    by_cases hN : ∀ size, f.announced = some size → size ≤ N
    · exact ⟨_, _, _, .initDownloadSegmented ha hcs he hN⟩
    · push Not at hN
      obtain ⟨size, hsize, hlt⟩ := hN
      exact ⟨_, _, _, .initDownloadTooLarge ha hcs he hsize hlt⟩

/-- Every download segment takes an exit. -/
theorem exists_downloadSegment (ha : s.Addressed f) (hcs : f.cs = ccsDownloadSegment) :
    ∃ r s' o', ServerStep od s f now o r s' o' := by
  rcases hst : s.state with _ | ⟨_, _, _, _, _, _⟩ | ⟨idx, sub, buf, len, expected, toggle⟩
  · exact ⟨_, _, _, .downloadSegmentUnexpected ha hcs (by simp [hst])⟩
  · exact ⟨_, _, _, .downloadSegmentUnexpected ha hcs (by simp [hst])⟩
  · by_cases ht : f.toggle = toggle
    · rcases Nat.lt_or_ge N (len + (payloadOf f.data).length) with hfit | hfit
      · exact ⟨_, _, _, .downloadSegmentOverflow ha hcs hst ht hfit⟩
      · cases hc : f.final with
        | false => exact ⟨_, _, _, .downloadSegmentMore ha hcs hst ht hfit hc⟩
        | true =>
          by_cases hsize : ∀ size, expected = some size → size = len + (payloadOf f.data).length
          · rcases hw : od.write o idx sub (buf.data.take len ++ payloadOf f.data) with ⟨_ | _, o'⟩
            · exact ⟨_, _, _, .downloadSegmentRefused ha hcs hst ht hfit hc hsize hw⟩
            · exact ⟨_, _, _, .downloadSegmentLast ha hcs hst ht hfit hc hsize hw⟩
          · push Not at hsize
            obtain ⟨size, rfl, hne⟩ := hsize
            exact ⟨_, _, _, .downloadSegmentMismatch ha hcs hst ht hfit hc hne⟩
    · exact ⟨_, _, _, .downloadSegmentToggle ha hcs hst ht⟩

/-- An upload segment request takes an exit if the buffer is in range. -/
theorem exists_uploadSegment (ha : s.Addressed f) (hcs : f.cs = ccsUploadSegment)
    (hrange : ∀ idx sub buf len sent toggle, s.state = .uploading idx sub buf len sent toggle →
      f.toggle = toggle → sent ≤ len ∧ sent + min (len - sent) 7 ≤ N) :
    ∃ r s' o', ServerStep od s f now o r s' o' := by
  rcases hst : s.state with _ | ⟨idx, sub, buf, len, sent, toggle⟩ | ⟨_, _, _, _, _, _⟩
  · exact ⟨_, _, _, .uploadSegmentUnexpected ha hcs (by simp [hst])⟩
  · by_cases ht : f.toggle = toggle
    · obtain ⟨hsent, hN⟩ := hrange _ _ _ _ _ _ hst ht
      rcases Nat.lt_or_ge (sent + 7) len with hlen | hlen
      · exact ⟨_, _, _, .uploadSegmentMore ha hcs hst ht hlen (by omega)⟩
      · exact ⟨_, _, _, .uploadSegmentLast ha hcs hst ht hsent hlen (by omega)⟩
    · exact ⟨_, _, _, .uploadSegmentToggle ha hcs hst ht⟩
  · exact ⟨_, _, _, .uploadSegmentUnexpected ha hcs (by simp [hst])⟩

/-- A frame takes an exit if the buffer is in range for an upload segment. -/
theorem exists_serverStep_of (hrange : s.Addressed f → f.cs = ccsUploadSegment →
      ∀ idx sub buf len sent toggle, s.state = .uploading idx sub buf len sent toggle →
        f.toggle = toggle → sent ≤ len ∧ sent + min (len - sent) 7 ≤ N) :
    ∃ r s' o', ServerStep od s f now o r s' o' := by
  by_cases ha : s.Addressed f
  · by_cases h₁ : f.cs = csAbort
    · exact ⟨_, _, _, .clientAbort ha h₁⟩
    by_cases h₂ : f.cs = ccsInitUpload
    · exact exists_initUpload ha h₂
    by_cases h₃ : f.cs = ccsUploadSegment
    · exact exists_uploadSegment ha h₃ (hrange ha h₃)
    by_cases h₄ : f.cs = ccsInitDownload
    · exact exists_initDownload ha h₄
    by_cases h₅ : f.cs = ccsDownloadSegment
    · exact exists_downloadSegment ha h₅
    · exact ⟨_, _, _, .unknownCommand ha ⟨h₁, h₂, h₃, h₄, h₅⟩⟩
  · exact ⟨_, _, _, .ignored ha⟩

/-- A call that returns takes an exit. -/
theorem exists_serverStep {x : (SdoResult Unit × SdoServer N) × σ}
    (h : s.handleFrame f now od o = .ok x) : ∃ r s' o', ServerStep od s f now o r s' o' := by
  refine exists_serverStep_of ?_
  intro ha hcs idx sub buf len sent toggle hst ht
  rw [handleFrame_of_cs_uploadSegment ha hcs] at h
  obtain ⟨y, hy, -⟩ := Checked.eq_ok_of_map h
  exact range_of_onUploadSegment hst ht hy

/-- **`handleFrame` returns exactly what an exit says.** -/
theorem handleFrame_eq_ok_iff {r : SdoResult Unit} :
    s.handleFrame f now od o = .ok ((r, s'), o') ↔ ServerStep od s f now o r s' o' := by
  refine ⟨?_, ServerStep.handleFrame_eq⟩
  intro h
  obtain ⟨r₁, s₁, o₁, hstep⟩ := exists_serverStep h
  have heq := h.symm.trans hstep.handleFrame_eq
  simp only [Except.ok.injEq, Prod.mk.injEq] at heq
  obtain ⟨⟨rfl, rfl⟩, rfl⟩ := heq
  exact hstep

/-- The exits exclude each other. -/
theorem ServerStep.unique {r r₁ : SdoResult Unit} {s₁ : SdoServer N} {o₁ : σ}
    (h : ServerStep od s f now o r s' o') (h₁ : ServerStep od s f now o r₁ s₁ o₁) :
    r = r₁ ∧ s' = s₁ ∧ o' = o₁ := by
  have heq := h.handleFrame_eq.symm.trans h₁.handleFrame_eq
  cases heq
  exact ⟨rfl, rfl, rfl⟩

/-- The server never changes its configuration. -/
theorem ServerStep.cfg {r : SdoResult Unit} (h : ServerStep od s f now o r s' o') :
    s'.cfg = s.cfg := by
  cases h <;> rfl

end Forward

/-! ### Timeouts -/

/-- The object a server is in the middle of a transfer of. -/
def ServerState.object : ServerState N → Option (UInt16 × UInt8)
  | .idle => none
  | .uploading idx sub .. => some (idx, sub)
  | .downloading idx sub .. => some (idx, sub)

/-- A timeout leaves the server as it is, or aborts the transfer in flight. -/
theorem SdoServer.handleTimeout_cases (s : SdoServer N) (now : UInt64) :
    (∃ s', s.handleTimeout now = (.ok (), s') ∧ s'.cfg = s.cfg ∧ s'.state = s.state ∧
        s'.pendingTx = s.pendingTx) ∨
      ∃ idx sub, s.state.object = some (idx, sub) ∧
        s.handleTimeout now
          = (.error (.clientAborted .protocolTimeout), s.aborted idx sub .protocolTimeout) := by
  unfold SdoServer.handleTimeout
  split
  · exact .inl ⟨s, rfl, rfl, rfl, rfl⟩
  · split
    · exact .inl ⟨s, rfl, rfl, rfl, rfl⟩
    · split
      · next hst => exact .inr ⟨_, _, by rw [hst]; rfl, rfl⟩
      · next hst => exact .inr ⟨_, _, by rw [hst]; rfl, rfl⟩
      · exact .inl ⟨_, rfl, rfl, rfl, rfl⟩

end CanopenSdo
