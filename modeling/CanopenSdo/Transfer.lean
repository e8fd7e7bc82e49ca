import CanopenSdo.ClientStep
import CanopenSdo.Lib.Segment
import CanopenSdo.ServerStep

/-!
# One transfer, frame by frame

The frames of a transfer that meets no error, and what each machine does with
them.  A client that has been answered `k` times is at a known place in its
value: the upload has received `v[..7k]`, the download has sent `d[..7k]`, and
either's toggle is `alternate k`.

## Main definitions

* `initUploadRequest`, `segmentRequest`, `initUploadReply`, `uploadSegment` — an upload.
* `initDownloadRequest`, `downloadSegment`, `initAck`, `segmentAck` — a download.
* `UploadCtx.after`, `DownloadCtx.sent` — the client after `k` segments.

## Main results

* `handleFrame_initUploadReply`, `handleFrame_uploadSegment`, `handleFrame_initAck`,
  `handleFrame_segmentAck` — the client's side.
* `handleFrame_segmentRequest`, `handleFrame_downloadSegment` — the server's side.
-/

namespace CanopenSdo

open Wire

/-! ### Frames -/

def initUploadRequest (nodeId : UInt8) (idx : UInt16) (sub : UInt8) : SdoFrame :=
  ⟨SdoFrame.rsdoId nodeId, Enc.initUpload idx sub⟩

/-- The request for the `k`-th segment of an upload. -/
def segmentRequest (nodeId : UInt8) (k : ℕ) : SdoFrame :=
  ⟨SdoFrame.rsdoId nodeId, Enc.uploadSegmentRequest (alternate k)⟩

/-- The answer to an init upload: a value of one to four bytes inline, or the length. -/
def initUploadReply (nodeId : UInt8) (idx : UInt16) (sub : UInt8) (v : List UInt8) : SdoFrame :=
  ⟨SdoFrame.tsdoId nodeId,
    if 1 ≤ v.length ∧ v.length ≤ 4 then expeditedData scsInitUpload idx sub v
    else announceData scsInitUpload idx sub (UInt32.ofNat v.length)⟩

/-- The `k`-th segment of an upload. -/
def uploadSegment (nodeId : UInt8) (v : List UInt8) (k : ℕ) : SdoFrame :=
  ⟨SdoFrame.tsdoId nodeId,
    segmentData scsUploadSegment (alternate k) (piece 7 v k) (v.length ≤ 7 * (k + 1))⟩

def initDownloadRequest (nodeId : UInt8) (idx : UInt16) (sub : UInt8) (d : List UInt8) : SdoFrame :=
  ⟨SdoFrame.rsdoId nodeId, initDownloadData idx sub d⟩

/-- The `k`-th segment of a download. -/
def downloadSegment (nodeId : UInt8) (d : List UInt8) (k : ℕ) : SdoFrame :=
  ⟨SdoFrame.rsdoId nodeId,
    segmentData ccsDownloadSegment (alternate k) (piece 7 d k) (d.length ≤ 7 * (k + 1))⟩

def initAck (nodeId : UInt8) (idx : UInt16) (sub : UInt8) : SdoFrame :=
  ⟨SdoFrame.tsdoId nodeId, initDownloadAck idx sub⟩

/-- The ack of the `k`-th segment of a download. -/
def segmentAck (nodeId : UInt8) (k : ℕ) : SdoFrame :=
  ⟨SdoFrame.tsdoId nodeId, downloadSegmentAck (alternate k)⟩

/-- The abort of a transfer, as the server sends it. -/
def serverAbort (nodeId : UInt8) (idx : UInt16) (sub : UInt8) (code : SdoAbortCode) : SdoFrame :=
  ⟨SdoFrame.tsdoId nodeId, Wire.abort idx sub code⟩

/-- Request `p` of an upload. -/
def uploadRequest (nodeId : UInt8) (idx : UInt16) (sub : UInt8) : ℕ → SdoFrame
  | 0 => initUploadRequest nodeId idx sub
  | k + 1 => segmentRequest nodeId k

/-- Answer `p` of an upload. -/
def uploadReply (nodeId : UInt8) (idx : UInt16) (sub : UInt8) (v : List UInt8) : ℕ → SdoFrame
  | 0 => initUploadReply nodeId idx sub v
  | k + 1 => uploadSegment nodeId v k

/-- Request `p` of a download. -/
def downloadRequest (nodeId : UInt8) (idx : UInt16) (sub : UInt8) (d : List UInt8) : ℕ → SdoFrame
  | 0 => initDownloadRequest nodeId idx sub d
  | k + 1 => downloadSegment nodeId d k

/-- Answer `p` of a download. -/
def downloadReply (nodeId : UInt8) (idx : UInt16) (sub : UInt8) : ℕ → SdoFrame
  | 0 => initAck nodeId idx sub
  | k + 1 => segmentAck nodeId k

/-! ### The client after `k` segments -/

/-- An upload whose length was announced and of whose value `k` segments have arrived. -/
def UploadCtx.after (nodeId : UInt8) (idx : UInt16) (sub : UInt8) (v : List UInt8) (k : ℕ) :
    UploadCtx :=
  { nodeId, idx, sub, received := v.take (7 * k), expectedLen := some (UInt32.ofNat v.length),
    nextToggle := alternate k, phase := .awaitingSegment }

/-- A download of which `k` segments have been sent. -/
def DownloadCtx.sent (nodeId : UInt8) (idx : UInt16) (sub : UInt8) (d : List UInt8) :
    ℕ → DownloadCtx
  | 0 => .start nodeId idx sub d
  | k + 1 => (sent nodeId idx sub d k).next

namespace DownloadCtx

variable (nodeId : UInt8) (idx : UInt16) (sub : UInt8) (d : List UInt8) (k : ℕ)

/-- The request stays as it is: only the position, the toggle and the phase move on. -/
theorem sent_eq :
    sent nodeId idx sub d k =
      { nodeId, idx, sub, data := d, sentPos := min (7 * k) d.length, nextToggle := alternate k,
        phase := (sent nodeId idx sub d k).phase } := by
  induction k with
  | zero =>
    rw [Nat.mul_zero, Nat.zero_min]
    rfl
  | succ k ih =>
    have hpos : min (7 * k) d.length + min (d.length - min (7 * k) d.length) 7
        = min (7 * (k + 1)) d.length := by omega
    rw [sent, ih, next, alternate_succ, ← hpos]

@[simp] theorem nodeId_sent : (sent nodeId idx sub d k).nodeId = nodeId := by
  rw [sent_eq]

@[simp] theorem idx_sent : (sent nodeId idx sub d k).idx = idx := by
  rw [sent_eq]

@[simp] theorem sub_sent : (sent nodeId idx sub d k).sub = sub := by
  rw [sent_eq]

@[simp] theorem data_sent : (sent nodeId idx sub d k).data = d := by
  rw [sent_eq]

@[simp] theorem sentPos_sent : (sent nodeId idx sub d k).sentPos = min (7 * k) d.length := by
  rw [sent_eq]

@[simp] theorem nextToggle_sent : (sent nodeId idx sub d k).nextToggle = alternate k := by
  rw [sent_eq]

theorem segment_sent : (sent nodeId idx sub d k).segment = piece 7 d k := by
  rw [segment, data_sent, sentPos_sent, piece]
  rcases Nat.le_total (7 * k) d.length with h | h
  · rw [Nat.min_eq_left h]
  · rw [Nat.min_eq_right h, List.drop_length, List.drop_of_length_le h]

theorem atLast_sent : (sent nodeId idx sub d k).atLast = decide (d.length ≤ 7 * (k + 1)) := by
  rw [atLast, data_sent, sentPos_sent]
  exact decide_eq_decide.mpr (by omega)

theorem phase_sent_succ :
    (sent nodeId idx sub d (k + 1)).phase = .awaitingSegmentAck (d.length ≤ 7 * (k + 1)) := by
  rw [← atLast_sent nodeId idx sub]
  rfl

end DownloadCtx

/-! ### The client's side -/

namespace SdoClient

variable {tgt : Target} {c : SdoClient} {now : UInt64} {nodeId : UInt8} {idx : UInt16} {sub : UInt8}

theorem pendingTx_requestSegment (v : List UInt8) (k : ℕ) :
    (c.requestSegment (.after nodeId idx sub v k) now).pendingTx
      = some (segmentRequest nodeId k) := by
  simp only [requestSegment, queueRequest, UploadCtx.after, segmentRequest]

theorem pendingTx_sendSegment (d : List UInt8) (k : ℕ) :
    (c.sendSegment (.sent nodeId idx sub d k) now).pendingTx = some (downloadSegment nodeId d k) := by
  simp [sendSegment, queueRequest, downloadSegment, DownloadCtx.segment_sent,
    DownloadCtx.atLast_sent]

/-- An abort of the transfer in flight ends it. -/
theorem handleFrame_serverAbort (hn : nodeId ≤ 127) (ht : c.transfer = some (nodeId, idx, sub))
    (code : SdoAbortCode) :
    c.handleFrame tgt (serverAbort nodeId idx sub code) now
      = .ok (.error (.serverAborted (.ofRaw code.raw)), c.clearTransfer) := by
  have hstep : ClientStep tgt c (serverAbort nodeId idx sub code) now _ _ :=
    .serverAbort ht (SdoFrame.nodeOfTsdo_tsdoId hn) (SdoFrame.cs_abort _ idx sub code)
      (SdoFrame.names_abort _ idx sub code)
  rw [hstep.handleFrame_eq]
  simp [serverAbort]

section Upload

variable {v : List UInt8}

theorem handleFrame_initUploadReply_expedited (hn : nodeId ≤ 127)
    (hst : c.state = .uploading (.start nodeId idx sub)) (h : 1 ≤ v.length ∧ v.length ≤ 4) :
    c.handleFrame tgt (initUploadReply nodeId idx sub v) now
      = .ok (.ok (some (.uploadCompleted v)), c.clearTransfer) := by
  rw [initUploadReply, if_pos h]
  have hstep : ClientStep tgt c ⟨SdoFrame.tsdoId nodeId, expeditedData scsInitUpload idx sub v⟩
      now _ _ :=
    .uploadExpedited hst (SdoFrame.nodeOfTsdo_tsdoId hn) rfl
      (SdoFrame.cs_expeditedData_upload _ idx sub h.1 h.2) (SdoFrame.names_expeditedData _ idx sub _)
      (SdoFrame.expedited_expeditedData_upload _ idx sub h.1 h.2)
  rw [hstep.handleFrame_eq, SdoFrame.inlineOf_expeditedData_upload idx sub h.1 h.2]

/-- A length that was announced and can be reserved is noted, and the first segment
requested. -/
theorem handleFrame_initUploadReply (hn : nodeId ≤ 127)
    (hst : c.state = .uploading (.start nodeId idx sub)) (h : ¬ (1 ≤ v.length ∧ v.length ≤ 4))
    (hcap : (UInt32.ofNat v.length).toNat ≤ tgt.isizeMax) :
    c.handleFrame tgt (initUploadReply nodeId idx sub v) now
      = .ok (.ok none, c.requestSegment (.after nodeId idx sub v 0) now) := by
  rw [initUploadReply, if_neg h]
  have hsize := SdoFrame.announcedWord_announceData_upload (SdoFrame.tsdoId nodeId) idx sub
    (UInt32.ofNat v.length)
  have hstep : ClientStep tgt c
      ⟨SdoFrame.tsdoId nodeId, announceData scsInitUpload idx sub (UInt32.ofNat v.length)⟩ now _ _ :=
    .uploadInit hst (SdoFrame.nodeOfTsdo_tsdoId hn) rfl (SdoFrame.cs_announceData_upload _ idx sub _)
      (SdoFrame.names_announceData _ idx sub _ _) (SdoFrame.expedited_announceData_upload _ idx sub _)
      (by
        intro size hs
        rw [SdoFrame.announced_eq_map, hsize, Option.map_some] at hs
        rw [← Option.some.inj hs]
        simpa [UploadCtx.start] using hcap)
  rw [hstep.handleFrame_eq, hsize]
  simp [UploadCtx.start, UploadCtx.after]

/-- The fields of an upload segment. -/
theorem toggle_uploadSegment (k : ℕ) : (uploadSegment nodeId v k).toggle = alternate k :=
  SdoFrame.toggle_segmentData _ _ _ (length_piece_le 7 v k)

theorem final_uploadSegment (k : ℕ) :
    (uploadSegment nodeId v k).final = decide (v.length ≤ 7 * (k + 1)) :=
  SdoFrame.final_segmentData _ _ _ (length_piece_le 7 v k)

theorem cs_uploadSegment (k : ℕ) : (uploadSegment nodeId v k).cs = scsUploadSegment :=
  SdoFrame.cs_segmentData _ _ _ (length_piece_le 7 v k)

theorem payloadOf_uploadSegment (k : ℕ) : payloadOf (uploadSegment nodeId v k).data = piece 7 v k :=
  payloadOf_segmentData (length_piece_le 7 v k)

/-- What arrives up to the `k`-th segment. -/
theorem received_append_uploadSegment (k : ℕ) :
    (UploadCtx.after nodeId idx sub v k).received ++ payloadOf (uploadSegment nodeId v k).data
      = v.take (7 * (k + 1)) := by
  rw [payloadOf_uploadSegment]
  exact take_append_piece 7 v k

/-- How much has arrived with the `k`-th segment. -/
theorem length_received_add_uploadSegment (k : ℕ) :
    (UploadCtx.after nodeId idx sub v k).received.length
        + (payloadOf (uploadSegment nodeId v k).data).length
      = (v.take (7 * (k + 1))).length := by
  rw [← List.length_append, received_append_uploadSegment]

theorem handleFrame_uploadSegment_more (hn : nodeId ≤ 127) {k : ℕ}
    (hst : c.state = .uploading (.after nodeId idx sub v k)) (h : 7 * (k + 1) < v.length)
    (hcap : (v.take (7 * (k + 1))).length ≤ tgt.isizeMax) :
    c.handleFrame tgt (uploadSegment nodeId v k) now
      = .ok (.ok none, c.requestSegment (.after nodeId idx sub v (k + 1)) now) := by
  have hstep : ClientStep tgt c (uploadSegment nodeId v k) now _ _ :=
    .uploadMore hst (SdoFrame.nodeOfTsdo_tsdoId hn) rfl (cs_uploadSegment k) (toggle_uploadSegment k)
      (by rw [final_uploadSegment]; exact decide_eq_false (by omega))
      (by rwa [length_received_add_uploadSegment])
  rw [hstep.handleFrame_eq, received_append_uploadSegment]
  simp [UploadCtx.after]

/-- The final segment completes a value whose length fits into the announced word. -/
theorem handleFrame_uploadSegment_last (hn : nodeId ≤ 127) {k : ℕ}
    (hst : c.state = .uploading (.after nodeId idx sub v k)) (h : v.length ≤ 7 * (k + 1))
    (hv : v.length < 2 ^ 32) (hcap : (v.take (7 * (k + 1))).length ≤ tgt.isizeMax) :
    c.handleFrame tgt (uploadSegment nodeId v k) now
      = .ok (.ok (some (.uploadCompleted v)), c.clearTransfer) := by
  have hall : v.take (7 * (k + 1)) = v := List.take_of_length_le h
  have hstep : ClientStep tgt c (uploadSegment nodeId v k) now _ _ :=
    .uploadLast hst (SdoFrame.nodeOfTsdo_tsdoId hn) rfl (cs_uploadSegment k) (toggle_uploadSegment k)
      (by rw [final_uploadSegment]; exact decide_eq_true h)
      (by rwa [length_received_add_uploadSegment])
      (by
        intro size hs
        rw [received_append_uploadSegment, hall, ← Option.some.inj hs, UInt32.toNat_ofNat',
          Nat.mod_eq_of_lt hv])
  rw [hstep.handleFrame_eq, received_append_uploadSegment, hall]

/-- A longer one does not: the client takes it for a length mismatch. -/
theorem handleFrame_uploadSegment_mismatch (hn : nodeId ≤ 127) {k : ℕ}
    (hst : c.state = .uploading (.after nodeId idx sub v k)) (h : v.length ≤ 7 * (k + 1))
    (hv : ¬ v.length < 2 ^ 32) (hcap : (v.take (7 * (k + 1))).length ≤ tgt.isizeMax) :
    c.handleFrame tgt (uploadSegment nodeId v k) now
      = .ok (.error (.clientAborted .dataTypeLengthMismatch),
          c.queueAbort nodeId idx sub .dataTypeLengthMismatch) := by
  have hall : v.take (7 * (k + 1)) = v := List.take_of_length_le h
  have hword := (UInt32.ofNat v.length).toNat_lt
  have hstep : ClientStep tgt c (uploadSegment nodeId v k) now _ _ :=
    .uploadMismatch hst (SdoFrame.nodeOfTsdo_tsdoId hn) rfl (cs_uploadSegment k)
      (toggle_uploadSegment k) (by rw [final_uploadSegment]; exact decide_eq_true h)
      (by rwa [length_received_add_uploadSegment]) rfl
      (by rw [received_append_uploadSegment, hall]; omega)
  exact hstep.handleFrame_eq

end Upload

section Download

variable {d : List UInt8}

theorem handleFrame_initAck_expedited (hn : nodeId ≤ 127)
    (hst : c.state = .downloading (.sent nodeId idx sub d 0)) (h : d.length ≤ 4) :
    c.handleFrame tgt (initAck nodeId idx sub) now
      = .ok (.ok (some .downloadCompleted), c.clearTransfer) :=
  (ClientStep.downloadExpedited hst (SdoFrame.nodeOfTsdo_tsdoId hn)
    (by simp [DownloadCtx.sent, DownloadCtx.start, h]) (SdoFrame.cs_initDownloadAck _ idx sub)
    (SdoFrame.names_initDownloadAck _ idx sub)).handleFrame_eq

theorem handleFrame_initAck (hn : nodeId ≤ 127)
    (hst : c.state = .downloading (.sent nodeId idx sub d 0)) (h : ¬ d.length ≤ 4) :
    c.handleFrame tgt (initAck nodeId idx sub) now
      = .ok (.ok none, c.sendSegment (.sent nodeId idx sub d 0) now) :=
  (ClientStep.downloadInit hst (SdoFrame.nodeOfTsdo_tsdoId hn)
    (by simp [DownloadCtx.sent, DownloadCtx.start, h]) (SdoFrame.cs_initDownloadAck _ idx sub)
    (SdoFrame.names_initDownloadAck _ idx sub) (by simp)).handleFrame_eq

theorem handleFrame_segmentAck_last (hn : nodeId ≤ 127) {k : ℕ}
    (hst : c.state = .downloading (.sent nodeId idx sub d (k + 1))) (h : d.length ≤ 7 * (k + 1)) :
    c.handleFrame tgt (segmentAck nodeId k) now
      = .ok (.ok (some .downloadCompleted), c.clearTransfer) :=
  (ClientStep.downloadLast hst (by rw [DownloadCtx.nodeId_sent]; exact SdoFrame.nodeOfTsdo_tsdoId hn)
    (by rw [DownloadCtx.phase_sent_succ]; simp [h]) (SdoFrame.cs_downloadSegmentAck _ _)
    ((SdoFrame.toggle_downloadSegmentAck _ _).trans (by simp))).handleFrame_eq

theorem handleFrame_segmentAck_more (hn : nodeId ≤ 127) {k : ℕ}
    (hst : c.state = .downloading (.sent nodeId idx sub d (k + 1))) (h : ¬ d.length ≤ 7 * (k + 1)) :
    c.handleFrame tgt (segmentAck nodeId k) now
      = .ok (.ok none, c.sendSegment (.sent nodeId idx sub d (k + 1)) now) :=
  (ClientStep.downloadMore hst (by rw [DownloadCtx.nodeId_sent]; exact SdoFrame.nodeOfTsdo_tsdoId hn)
    (by rw [DownloadCtx.phase_sent_succ]; simp [h]) (SdoFrame.cs_downloadSegmentAck _ _)
    ((SdoFrame.toggle_downloadSegmentAck _ _).trans (by simp)) (by simp)).handleFrame_eq

end Download

end SdoClient

/-! ### The server's side -/

namespace SdoServer

variable {N : ℕ} {σ : Type} {od : ObjectDictionary σ} {s : SdoServer N} {now : UInt64} {o o' : σ}
  {nodeId : UInt8} {idx : UInt16} {sub : UInt8} {code : SdoAbortCode} {buf : Bytes N} {len : ℕ}

@[simp] theorem state_answered (out : Bytes 8) : (s.answered out).state = .idle := rfl

@[simp] theorem state_aborted : (s.aborted idx sub code).state = .idle := rfl

@[simp] theorem state_serving (st : ServerState N) (out : Bytes 8) :
    (s.serving st out now).state = st := rfl

@[simp] theorem cfg_answered (out : Bytes 8) : (s.answered out).cfg = s.cfg := rfl

@[simp] theorem cfg_aborted : (s.aborted idx sub code).cfg = s.cfg := rfl

@[simp] theorem cfg_serving (st : ServerState N) (out : Bytes 8) :
    (s.serving st out now).cfg = s.cfg := rfl

@[simp] theorem pendingTx_answered (out : Bytes 8) :
    (s.answered out).pendingTx = some ⟨SdoFrame.tsdoId s.cfg.nodeId, out⟩ := rfl

@[simp] theorem pendingTx_aborted :
    (s.aborted idx sub code).pendingTx = some (serverAbort s.cfg.nodeId idx sub code) := rfl

@[simp] theorem pendingTx_serving (st : ServerState N) (out : Bytes 8) :
    (s.serving st out now).pendingTx = some ⟨SdoFrame.tsdoId s.cfg.nodeId, out⟩ := rfl

/-- A frame of the server's own that is queued is pending. -/
theorem pendingTx_answered_data {f : SdoFrame} (hs : s.cfg.nodeId = nodeId)
    (hf : f.cobId = SdoFrame.tsdoId nodeId) : (s.answered f.data).pendingTx = some f := by
  rw [pendingTx_answered, hs, ← hf]

theorem pendingTx_serving_data {f : SdoFrame} {st : ServerState N} (hs : s.cfg.nodeId = nodeId)
    (hf : f.cobId = SdoFrame.tsdoId nodeId) : (s.serving st f.data now).pendingTx = some f := by
  rw [pendingTx_serving, hs, ← hf]

section Served

variable (hn : nodeId ≤ 127) (hs : s.cfg.nodeId = nodeId)

include hn hs

theorem addressed_rsdoId (data : Bytes 8) : s.Addressed ⟨SdoFrame.rsdoId nodeId, data⟩ := by
  rw [Addressed, hs]
  exact SdoFrame.nodeOfRsdo_rsdoId hn

/-- What a server reads in the frames of a client. -/
theorem initUploadRequest_spec (idx : UInt16) (sub : UInt8) :
    s.Addressed (initUploadRequest nodeId idx sub) ∧
    (initUploadRequest nodeId idx sub).cs = ccsInitUpload ∧
      (initUploadRequest nodeId idx sub).Names idx sub :=
  ⟨addressed_rsdoId hn hs _, SdoFrame.cs_initUpload _ idx sub, SdoFrame.names_initUpload _ idx sub⟩

theorem segmentRequest_spec (k : ℕ) : s.Addressed (segmentRequest nodeId k) ∧
    (segmentRequest nodeId k).cs = ccsUploadSegment ∧
      (segmentRequest nodeId k).toggle = alternate k :=
  ⟨addressed_rsdoId hn hs _, SdoFrame.cs_uploadSegmentRequest _ _,
    SdoFrame.toggle_uploadSegmentRequest _ _⟩

theorem initDownloadRequest_expedited_spec (idx : UInt16) (sub : UInt8) {d : List UInt8} (h₁ : 1 ≤ d.length)
    (h₄ : d.length ≤ 4) : s.Addressed (initDownloadRequest nodeId idx sub d) ∧
      (initDownloadRequest nodeId idx sub d).cs = ccsInitDownload ∧
        (initDownloadRequest nodeId idx sub d).Names idx sub ∧
          (initDownloadRequest nodeId idx sub d).expedited = true ∧
            inlineOf (initDownloadRequest nodeId idx sub d).data = d := by
  refine ⟨addressed_rsdoId hn hs _, ?_⟩
  rw [initDownloadRequest, initDownloadData, if_pos h₄]
  exact ⟨SdoFrame.cs_expeditedData_download _ idx sub h₁ h₄, SdoFrame.names_expeditedData _ idx sub _,
    SdoFrame.expedited_expeditedData_download _ idx sub h₁ h₄,
    SdoFrame.inlineOf_expeditedData_download idx sub h₁ h₄⟩

theorem initDownloadRequest_segmented_spec (idx : UInt16) (sub : UInt8) {d : List UInt8} (h : ¬ d.length ≤ 4) :
    s.Addressed (initDownloadRequest nodeId idx sub d) ∧
      (initDownloadRequest nodeId idx sub d).cs = ccsInitDownload ∧
        (initDownloadRequest nodeId idx sub d).Names idx sub ∧
          (initDownloadRequest nodeId idx sub d).expedited = false ∧
            (initDownloadRequest nodeId idx sub d).announced
              = some (UInt32.ofNat d.length).toNat := by
  refine ⟨addressed_rsdoId hn hs _, ?_⟩
  rw [initDownloadRequest, initDownloadData, if_neg h, SdoFrame.announced_eq_map,
    SdoFrame.announcedWord_announceData_download]
  exact ⟨SdoFrame.cs_announceData_download _ idx sub _, SdoFrame.names_announceData _ idx sub _ _,
    SdoFrame.expedited_announceData_download _ idx sub _, rfl⟩

theorem downloadSegment_spec (d : List UInt8) (k : ℕ) : s.Addressed (downloadSegment nodeId d k) ∧
    (downloadSegment nodeId d k).cs = ccsDownloadSegment ∧
      (downloadSegment nodeId d k).toggle = alternate k ∧
        (downloadSegment nodeId d k).final = decide (d.length ≤ 7 * (k + 1)) ∧
          payloadOf (downloadSegment nodeId d k).data = piece 7 d k :=
  ⟨addressed_rsdoId hn hs _, SdoFrame.cs_segmentData _ _ _ (length_piece_le 7 d k),
    SdoFrame.toggle_segmentData _ _ _ (length_piece_le 7 d k),
    SdoFrame.final_segmentData _ _ _ (length_piece_le 7 d k),
    payloadOf_segmentData (length_piece_le 7 d k)⟩

/-! #### Uploads -/

theorem handleFrame_initUploadRequest_refused
    (hr : od.read o idx sub (Bytes.zero N) = (.error code, buf, o')) :
    s.handleFrame (initUploadRequest nodeId idx sub) now od o
      = .ok ((.error (.clientAborted code), s.aborted idx sub code), o') := by
  obtain ⟨ha, hcs, hm⟩ := initUploadRequest_spec hn hs idx sub
  generalize initUploadRequest nodeId idx sub = f at *
  obtain ⟨rfl, rfl⟩ := hm
  exact (ServerStep.initUploadRefused ha hcs hr).handleFrame_eq

theorem handleFrame_initUploadRequest_tooLarge
    (hr : od.read o idx sub (Bytes.zero N) = (.ok len, buf, o')) (hlen : N < len) :
    s.handleFrame (initUploadRequest nodeId idx sub) now od o
      = .ok ((.error (.clientAborted .outOfMemory), s.aborted idx sub .outOfMemory), o') := by
  obtain ⟨ha, hcs, hm⟩ := initUploadRequest_spec hn hs idx sub
  generalize initUploadRequest nodeId idx sub = f at *
  obtain ⟨rfl, rfl⟩ := hm
  exact (ServerStep.initUploadTooLarge ha hcs hr hlen).handleFrame_eq

/-- A value that fits is answered inline if it has one to four bytes, and announced
otherwise. -/
theorem handleFrame_initUploadRequest
    (hr : od.read o idx sub (Bytes.zero N) = (.ok len, buf, o')) (hlen : len ≤ N) :
    s.handleFrame (initUploadRequest nodeId idx sub) now od o
      = .ok ((.ok (),
          if 1 ≤ len ∧ len ≤ 4 then
            s.answered (initUploadReply nodeId idx sub (buf.data.take len)).data
          else
            s.serving (.uploading idx sub buf len 0 false)
              (initUploadReply nodeId idx sub (buf.data.take len)).data now), o') := by
  obtain ⟨ha, hcs, hm⟩ := initUploadRequest_spec hn hs idx sub
  have hv : (buf.data.take len).length = len := by
    rw [List.length_take, buf.size, Nat.min_eq_left hlen]
  generalize initUploadRequest nodeId idx sub = f at *
  obtain ⟨rfl, rfl⟩ := hm
  simp only [initUploadReply, hv]
  split
  · next h => exact (ServerStep.initUploadExpedited ha hcs hr hlen h).handleFrame_eq
  · next h => exact (ServerStep.initUploadSegmented ha hcs hr hlen h).handleFrame_eq

theorem handleFrame_segmentRequest_more {k : ℕ}
    (hst : s.state = .uploading idx sub buf len (7 * k) (alternate k)) (hlen : len ≤ N)
    (h : 7 * (k + 1) < len) :
    s.handleFrame (segmentRequest nodeId k) now od o
      = .ok ((.ok (), s.serving (.uploading idx sub buf len (7 * (k + 1)) (alternate (k + 1)))
          (uploadSegment nodeId (buf.data.take len) k).data now), o) := by
  obtain ⟨ha, hcs, ht⟩ := segmentRequest_spec hn hs k
  have hv : (buf.data.take len).length = len := by
    rw [List.length_take, buf.size, Nat.min_eq_left hlen]
  have hpiece : piece 7 (buf.data.take len) k = (buf.data.drop (7 * k)).take 7 := by
    rw [piece, List.drop_take, List.take_take, Nat.min_eq_left (by omega)]
  have hlast : ¬ len ≤ 7 * k + 7 := by omega
  rw [(ServerStep.uploadSegmentMore ha hcs hst ht (by omega) (by omega)).handleFrame_eq]
  simp only [uploadSegment, hv, hpiece, hlast, decide_false, alternate_succ, Nat.mul_succ]

/-- The final segment carries what is left of the value. -/
theorem handleFrame_segmentRequest_last {k : ℕ}
    (hst : s.state = .uploading idx sub buf len (7 * k) (alternate k)) (hlen : len ≤ N)
    (hk : 7 * k ≤ len) (h : len ≤ 7 * (k + 1)) :
    s.handleFrame (segmentRequest nodeId k) now od o
      = .ok ((.ok (), s.answered (uploadSegment nodeId (buf.data.take len) k).data), o) := by
  obtain ⟨ha, hcs, ht⟩ := segmentRequest_spec hn hs k
  have hv : (buf.data.take len).length = len := by
    rw [List.length_take, buf.size, Nat.min_eq_left hlen]
  have hpiece : piece 7 (buf.data.take len) k = (buf.data.drop (7 * k)).take (len - 7 * k) := by
    rw [piece, List.drop_take, List.take_take, Nat.min_eq_right (by omega)]
  rw [(ServerStep.uploadSegmentLast ha hcs hst ht hk (by omega) hlen).handleFrame_eq]
  simp only [uploadSegment, hv, hpiece, h, decide_true]

/-! #### Downloads -/

variable {d : List UInt8}

theorem handleFrame_initDownloadRequest_refused (h₁ : 1 ≤ d.length) (h₄ : d.length ≤ 4)
    (hw : od.write o idx sub d = (.error code, o')) :
    s.handleFrame (initDownloadRequest nodeId idx sub d) now od o
      = .ok ((.error (.clientAborted code), s.aborted idx sub code), o') := by
  obtain ⟨ha, hcs, hm, he, hd⟩ :=
    initDownloadRequest_expedited_spec hn hs idx sub h₁ h₄
  generalize initDownloadRequest nodeId idx sub d = f at *
  obtain ⟨rfl, rfl⟩ := hm
  rw [← hd] at hw
  exact (ServerStep.initDownloadRefused ha hcs he hw).handleFrame_eq

theorem handleFrame_initDownloadRequest_expedited (h₁ : 1 ≤ d.length) (h₄ : d.length ≤ 4)
    (hw : od.write o idx sub d = (.ok (), o')) :
    s.handleFrame (initDownloadRequest nodeId idx sub d) now od o
      = .ok ((.ok (), s.answered (initAck nodeId idx sub).data), o') := by
  obtain ⟨ha, hcs, hm, he, hd⟩ :=
    initDownloadRequest_expedited_spec hn hs idx sub h₁ h₄
  generalize initDownloadRequest nodeId idx sub d = f at *
  obtain ⟨rfl, rfl⟩ := hm
  rw [← hd] at hw
  exact (ServerStep.initDownloadExpedited ha hcs he hw).handleFrame_eq

theorem handleFrame_initDownloadRequest_tooLarge (h : ¬ d.length ≤ 4)
    (hN : N < (UInt32.ofNat d.length).toNat) :
    s.handleFrame (initDownloadRequest nodeId idx sub d) now od o
      = .ok ((.error (.clientAborted .outOfMemory), s.aborted idx sub .outOfMemory), o) := by
  obtain ⟨ha, hcs, hm, he, hsize⟩ :=
    initDownloadRequest_segmented_spec hn hs idx sub h
  generalize initDownloadRequest nodeId idx sub d = f at *
  obtain ⟨rfl, rfl⟩ := hm
  exact (ServerStep.initDownloadTooLarge ha hcs he hsize hN).handleFrame_eq

theorem handleFrame_initDownloadRequest_segmented (h : ¬ d.length ≤ 4)
    (hN : (UInt32.ofNat d.length).toNat ≤ N) :
    s.handleFrame (initDownloadRequest nodeId idx sub d) now od o
      = .ok ((.ok (), s.serving (.downloading idx sub (Bytes.zero N) 0
          (some (UInt32.ofNat d.length).toNat) false) (initAck nodeId idx sub).data now), o) := by
  obtain ⟨ha, hcs, hm, he, hsize⟩ :=
    initDownloadRequest_segmented_spec hn hs idx sub h
  generalize initDownloadRequest nodeId idx sub d = f at *
  obtain ⟨rfl, rfl⟩ := hm
  rw [← hsize]
  refine (ServerStep.initDownloadSegmented ha hcs he ?_).handleFrame_eq
  intro size hs
  rw [hsize] at hs
  rwa [← Option.some.inj hs]

/-- The buffer of a server that has received `d[..7k]` holds it. -/
theorem handleFrame_downloadSegment_more {k : ℕ} {expected : Option ℕ}
    (hst : s.state = .downloading idx sub buf (7 * k) expected (alternate k))
    (hbuf : buf.data.take (7 * k) = d.take (7 * k)) (h : 7 * (k + 1) < d.length)
    (hN : 7 * (k + 1) ≤ N) :
    ∃ buf' : Bytes N, buf'.data.take (7 * (k + 1)) = d.take (7 * (k + 1)) ∧
      s.handleFrame (downloadSegment nodeId d k) now od o
        = .ok ((.ok (), s.serving
            (.downloading idx sub buf' (7 * (k + 1)) expected (alternate (k + 1)))
            (segmentAck nodeId k).data now), o) := by
  obtain ⟨ha, hcs, ht, hc, hp⟩ := downloadSegment_spec hn hs d k
  have hlen : (piece 7 d k).length = 7 := by
    rw [length_piece]
    omega
  have hlast : (downloadSegment nodeId d k).final = false := by
    rw [hc]
    exact decide_eq_false (by omega)
  have hfit : 7 * k + (payloadOf (downloadSegment nodeId d k).data).length ≤ N := by
    rw [hp, hlen]
    omega
  refine ⟨buf.put (7 * k) _ hfit, ?_, ?_⟩
  · have htake := buf.take_put hfit
    have hpos : 7 * k + (payloadOf (downloadSegment nodeId d k).data).length = 7 * (k + 1) := by
      rw [hp, hlen, Nat.mul_succ]
    rw [hpos] at htake
    rw [htake, hbuf, hp, take_append_piece]
  · rw [(ServerStep.downloadSegmentMore ha hcs hst ht hfit hlast).handleFrame_eq]
    simp only [hp, hlen, alternate_succ, Nat.mul_succ]
    rfl

theorem handleFrame_downloadSegment_overflow {k : ℕ} {expected : Option ℕ}
    (hst : s.state = .downloading idx sub buf (7 * k) expected (alternate k))
    (hk : 7 * k ≤ d.length) (hN : N < min (7 * (k + 1)) d.length) :
    s.handleFrame (downloadSegment nodeId d k) now od o
      = .ok ((.error (.clientAborted .outOfMemory), s.aborted idx sub .outOfMemory), o) := by
  obtain ⟨ha, hcs, ht, -, hp⟩ := downloadSegment_spec hn hs d k
  refine (ServerStep.downloadSegmentOverflow ha hcs hst ht ?_).handleFrame_eq
  rw [hp, length_piece]
  omega

section Last

variable {k : ℕ} {expected : Option ℕ}
  (hst : s.state = .downloading idx sub buf (7 * k) expected (alternate k))
  (hbuf : buf.data.take (7 * k) = d.take (7 * k)) (hk : 7 * k ≤ d.length)
  (h : d.length ≤ 7 * (k + 1)) (hN : d.length ≤ N)

include hst hk h hN

/-- The final segment of a download whose announced size is not the one received. -/
theorem handleFrame_downloadSegment_mismatch {size : ℕ} (hexp : expected = some size)
    (hsize : size ≠ d.length) :
    s.handleFrame (downloadSegment nodeId d k) now od o
      = .ok ((.error (.clientAborted .dataTypeLengthMismatch),
          s.aborted idx sub .dataTypeLengthMismatch), o) := by
  obtain ⟨ha, hcs, ht, hc, hp⟩ := downloadSegment_spec hn hs d k
  have hpos : 7 * k + (payloadOf (downloadSegment nodeId d k).data).length = d.length := by
    rw [hp, length_piece]
    omega
  subst hexp
  exact (ServerStep.downloadSegmentMismatch ha hcs hst ht (by rwa [hpos])
    (by rw [hc]; exact decide_eq_true h) (by rwa [hpos])).handleFrame_eq

include hbuf

/-- The final segment writes the whole value. -/
theorem handleFrame_downloadSegment_last (hexp : ∀ size, expected = some size → size = d.length)
    {r : Except SdoAbortCode Unit} (hw : od.write o idx sub d = (r, o')) :
    s.handleFrame (downloadSegment nodeId d k) now od o
      = .ok (match r with
          | .error code => (.error (.clientAborted code), s.aborted idx sub code)
          | .ok () => (.ok (), s.answered (segmentAck nodeId k).data), o') := by
  obtain ⟨ha, hcs, ht, hc, hp⟩ := downloadSegment_spec hn hs d k
  have hpos : 7 * k + (payloadOf (downloadSegment nodeId d k).data).length = d.length := by
    rw [hp, length_piece]
    omega
  have hdata : buf.data.take (7 * k) ++ payloadOf (downloadSegment nodeId d k).data = d := by
    rw [hbuf, hp, take_append_piece, List.take_of_length_le h]
  have hfinal : (downloadSegment nodeId d k).final = true := by
    rw [hc]
    exact decide_eq_true h
  rw [← hdata] at hw
  rw [← hpos] at hexp hN
  cases r with
  | error code => exact (ServerStep.downloadSegmentRefused ha hcs hst ht hN hfinal hexp hw).handleFrame_eq
  | ok u => exact (ServerStep.downloadSegmentLast ha hcs hst ht hN hfinal hexp hw).handleFrame_eq

end Last

end Served

end SdoServer

end CanopenSdo
