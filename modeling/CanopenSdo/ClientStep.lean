import CanopenSdo.Codec

/-!
# What a client step can do

`ClientStep tgt c f now r c'` lists the exits of `SdoClient.handleFrame` on the
frame `f`: for each, when it is taken, the result and the new client.  A frame
that is no answer to the outstanding request (`SdoClient.Answers`) takes the exit
`ignored` and changes nothing; every other exit is an answer.

## Main definitions

* `SdoClient.Answers` — the frame answers the request the client waits on.
* `DownloadCtx.segment`, `DownloadCtx.next` — the next download segment, and the
  context once it is queued.
* `ClientStep` — the exits.

## Main results

* `SdoClient.handleFrame_eq_ok_iff` — **`handleFrame` returns exactly what an exit says.**
-/

namespace CanopenSdo

open Wire

/-- The node and object of the transfer in flight. -/
def SdoClient.transfer (c : SdoClient) : Option (UInt8 × UInt16 × UInt8) :=
  match c.state with
  | .idle => none
  | .uploading u => some (u.nodeId, u.idx, u.sub)
  | .downloading d => some (d.nodeId, d.idx, d.sub)

/-- The client once its pending frame is taken. -/
def SdoClient.drained (c : SdoClient) : SdoClient := { c with pendingTx := none }

@[simp] theorem SdoClient.state_drained (c : SdoClient) : c.drained.state = c.state := rfl

@[simp] theorem SdoClient.pendingTx_drained (c : SdoClient) : c.drained.pendingTx = none := rfl

@[simp] theorem SdoClient.transfer_drained (c : SdoClient) : c.drained.transfer = c.transfer := rfl

theorem SdoClient.drained_of_none {c : SdoClient} (h : c.pendingTx = none) : c.drained = c := by
  unfold drained
  rw [← h]

/-- An idle client has no transfer. -/
theorem SdoClient.transfer_of_idle {c : SdoClient} (hst : c.state = .idle) : c.transfer = none := by
  rw [transfer, hst]

/-- A client with a transfer is not idle. -/
theorem SdoClient.state_ne_idle_of_transfer {c : SdoClient} {x : UInt8 × UInt16 × UInt8}
    (ht : c.transfer = some x) : c.state ≠ .idle := by
  intro hst
  rw [transfer_of_idle hst] at ht
  cases ht

/-- The frame has the command specifier, and in an init phase the object, that an
upload in this phase waits for. -/
def UploadCtx.Awaits (u : UploadCtx) (f : SdoFrame) : Prop :=
  match u.phase with
  | .awaitingInit => f.cs = scsInitUpload ∧ f.Names u.idx u.sub
  | .awaitingSegment => f.cs = scsUploadSegment

/-- What an upload reserves for this answer is within the capacity of the target: for an
init response the announced size, and for a segment with the expected toggle its payload. -/
def UploadCtx.Fits (tgt : Target) (u : UploadCtx) (f : SdoFrame) : Prop :=
  match u.phase with
  | .awaitingInit => f.expedited = false →
      ∀ size, f.announced = some size → u.received.length + size ≤ tgt.isizeMax
  | .awaitingSegment => f.toggle = u.nextToggle →
      u.received.length + (payloadOf f.data).length ≤ tgt.isizeMax

/-- The frame has the command specifier, and in an init phase the object, that a
download in this phase waits for. -/
def DownloadCtx.Awaits (d : DownloadCtx) (f : SdoFrame) : Prop :=
  match d.phase with
  | .awaitingInit _ => f.cs = scsInitDownload ∧ f.Names d.idx d.sub
  | .awaitingSegmentAck _ => f.cs = scsDownloadSegment

/-- What a client in this state waits for, an abort apart. -/
def ClientState.Awaits (st : ClientState) (f : SdoFrame) : Prop :=
  match st with
  | .idle => False
  | .uploading u => u.Awaits f
  | .downloading d => d.Awaits f

/-- The frame answers the outstanding request: it comes from the node of the
transfer, and it is an abort of it or what its phase waits for. -/
def SdoClient.Answers (c : SdoClient) (f : SdoFrame) : Prop :=
  match c.state with
  | .idle => False
  | .uploading u => SdoFrame.nodeOfTsdo f.cobId = some u.nodeId ∧
      ((f.cs = csAbort ∧ f.Names u.idx u.sub) ∨ u.Awaits f)
  | .downloading d => SdoFrame.nodeOfTsdo f.cobId = some d.nodeId ∧
      ((f.cs = csAbort ∧ f.Names d.idx d.sub) ∨ d.Awaits f)

/-- An answer comes from the node of the transfer in flight, and is an abort of its object
or what its phase waits for. -/
theorem SdoClient.answers_iff {c : SdoClient} {f : SdoFrame} :
    c.Answers f ↔ ∃ node idx sub, c.transfer = some (node, idx, sub) ∧
      SdoFrame.nodeOfTsdo f.cobId = some node ∧
        ((f.cs = csAbort ∧ f.Names idx sub) ∨ c.state.Awaits f) := by
  unfold Answers transfer
  cases c.state with
  | idle => exact iff_of_false id nofun
  | uploading u | downloading d =>
    constructor
    · rintro ⟨hn, h⟩
      exact ⟨_, _, _, rfl, hn, h⟩
    · rintro ⟨_, _, _, ⟨⟩, h⟩
      exact h

/-- An idle client waits for no answer. -/
theorem SdoClient.not_answers_of_idle {c : SdoClient} {f : SdoFrame} (hst : c.state = .idle) :
    ¬ c.Answers f := by
  rw [Answers, hst]
  exact id

/-- The payload of the next download segment. -/
def DownloadCtx.segment (d : DownloadCtx) : List UInt8 := (d.data.drop d.sentPos).take 7

/-- The next download segment is the final one. -/
def DownloadCtx.atLast (d : DownloadCtx) : Bool := d.data.length - d.sentPos ≤ 7

/-- The context once the next segment is queued. -/
def DownloadCtx.next (d : DownloadCtx) : DownloadCtx :=
  { d with
    sentPos := d.sentPos + min (d.data.length - d.sentPos) 7
    nextToggle := !d.nextToggle
    phase := .awaitingSegmentAck d.atLast }

/-- The client after it has queued a segment request. -/
def SdoClient.requestSegment (c : SdoClient) (u : UploadCtx) (now : UInt64) : SdoClient :=
  { c with state := .uploading u }.queueRequest u.nodeId (Enc.uploadSegmentRequest u.nextToggle) now

/-- The client after it has queued the next download segment. -/
def SdoClient.sendSegment (c : SdoClient) (d : DownloadCtx) (now : UInt64) : SdoClient :=
  { c with state := .downloading d.next }.queueRequest d.nodeId
    (segmentData ccsDownloadSegment d.nextToggle d.segment d.atLast) now

/-- The context of a new upload. -/
def UploadCtx.start (nodeId : UInt8) (idx : UInt16) (sub : UInt8) : UploadCtx :=
  { nodeId, idx, sub, received := [], expectedLen := none, nextToggle := false,
    phase := .awaitingInit }

/-- The context of a new download. -/
def DownloadCtx.start (nodeId : UInt8) (idx : UInt16) (sub : UInt8) (data : List UInt8) :
    DownloadCtx :=
  { nodeId, idx, sub, data, sentPos := 0, nextToggle := false,
    phase := .awaitingInit (data.length ≤ 4) }

/-- The init frame of a download. -/
def initDownloadData (idx : UInt16) (sub : UInt8) (data : List UInt8) : Bytes 8 :=
  if data.length ≤ 4 then expeditedData ccsInitDownload idx sub data
  else announceData ccsInitDownload idx sub (UInt32.ofNat data.length)

/-- The client once an upload is under way. -/
def SdoClient.uploadStarted (c : SdoClient) (nodeId : UInt8) (idx : UInt16) (sub : UInt8)
    (now : UInt64) : SdoClient :=
  { c with state := .uploading (.start nodeId idx sub) }.queueRequest nodeId
    (Enc.initUpload idx sub) now

/-- The client once a download is under way. -/
def SdoClient.downloadStarted (c : SdoClient) (nodeId : UInt8) (idx : UInt16) (sub : UInt8)
    (data : List UInt8) (now : UInt64) : SdoClient :=
  { c with state := .downloading (.start nodeId idx sub data) }.queueRequest nodeId
    (initDownloadData idx sub data) now

theorem DownloadCtx.length_segment_le (d : DownloadCtx) : d.segment.length ≤ 7 := by
  rw [segment, List.length_take]
  omega

/-- A download segment has the command specifier 0. -/
theorem cs_downloadSegment (id : UInt16) (t last : Bool) (d : DownloadCtx) :
    SdoFrame.cs ⟨id, segmentData ccsDownloadSegment t d.segment last⟩ = ccsDownloadSegment :=
  SdoFrame.cs_segmentData id t last d.length_segment_le

theorem cs_initDownloadData (id idx : UInt16) (sub : UInt8) {data : List UInt8}
    (h : 1 ≤ data.length) :
    SdoFrame.cs ⟨id, initDownloadData idx sub data⟩ = ccsInitDownload := by
  unfold initDownloadData
  split
  · next h₄ => exact SdoFrame.cs_expeditedData_download id idx sub h h₄
  · exact SdoFrame.cs_announceData_download id idx sub _

theorem names_initDownloadData (id idx : UInt16) (sub : UInt8) (data : List UInt8) :
    SdoFrame.Names ⟨id, initDownloadData idx sub data⟩ idx sub := by
  unfold initDownloadData
  split
  · exact SdoFrame.names_expeditedData id idx sub ccsInitDownload
  · exact SdoFrame.names_announceData id idx sub _ _

/-- The exits of `SdoClient.handleFrame`. -/
inductive ClientStep (tgt : Target) (c : SdoClient) (f : SdoFrame) (now : UInt64) :
    SdoResult (Option SdoOutcome) → SdoClient → Prop
  | ignored (h : ¬ c.Answers f) : ClientStep tgt c f now (.ok none) c
  | serverAbort {node : UInt8} {idx : UInt16} {sub : UInt8} (ht : c.transfer = some (node, idx, sub))
      (hn : SdoFrame.nodeOfTsdo f.cobId = some node) (hcs : f.cs = csAbort) (hm : f.Names idx sub) :
      ClientStep tgt c f now (.error (.serverAborted (.ofRaw (wordOf f.data)))) c.clearTransfer
  | uploadExpedited {u : UploadCtx} (hst : c.state = .uploading u)
      (hn : SdoFrame.nodeOfTsdo f.cobId = some u.nodeId) (hph : u.phase = .awaitingInit)
      (hcs : f.cs = scsInitUpload) (hm : f.Names u.idx u.sub) (he : f.expedited = true) :
      ClientStep tgt c f now (.ok (some (.uploadCompleted (inlineOf f.data)))) c.clearTransfer
  | uploadInit {u : UploadCtx} (hst : c.state = .uploading u)
      (hn : SdoFrame.nodeOfTsdo f.cobId = some u.nodeId) (hph : u.phase = .awaitingInit)
      (hcs : f.cs = scsInitUpload) (hm : f.Names u.idx u.sub) (he : f.expedited = false)
      (hcap : ∀ size, f.announced = some size → u.received.length + size ≤ tgt.isizeMax) :
      ClientStep tgt c f now (.ok none)
        (c.requestSegment { u with
          expectedLen := f.announcedWord.or u.expectedLen
          phase := .awaitingSegment } now)
  | uploadToggle {u : UploadCtx} (hst : c.state = .uploading u)
      (hn : SdoFrame.nodeOfTsdo f.cobId = some u.nodeId) (hph : u.phase = .awaitingSegment)
      (hcs : f.cs = scsUploadSegment) (ht : f.toggle ≠ u.nextToggle) :
      ClientStep tgt c f now (.error (.clientAborted .toggleBitNotAlternated))
        (c.queueAbort u.nodeId u.idx u.sub .toggleBitNotAlternated)
  | uploadMore {u : UploadCtx} (hst : c.state = .uploading u)
      (hn : SdoFrame.nodeOfTsdo f.cobId = some u.nodeId) (hph : u.phase = .awaitingSegment)
      (hcs : f.cs = scsUploadSegment) (ht : f.toggle = u.nextToggle) (hc : f.final = false)
      (hcap : u.received.length + (payloadOf f.data).length ≤ tgt.isizeMax) :
      ClientStep tgt c f now (.ok none)
        (c.requestSegment { u with
          received := u.received ++ payloadOf f.data
          nextToggle := !u.nextToggle } now)
  | uploadMismatch {u : UploadCtx} (hst : c.state = .uploading u)
      (hn : SdoFrame.nodeOfTsdo f.cobId = some u.nodeId) (hph : u.phase = .awaitingSegment)
      (hcs : f.cs = scsUploadSegment) (ht : f.toggle = u.nextToggle) (hc : f.final = true)
      (hcap : u.received.length + (payloadOf f.data).length ≤ tgt.isizeMax)
      {size : UInt32} (hexp : u.expectedLen = some size)
      (hne : (u.received ++ payloadOf f.data).length ≠ size.toNat) :
      ClientStep tgt c f now (.error (.clientAborted .dataTypeLengthMismatch))
        (c.queueAbort u.nodeId u.idx u.sub .dataTypeLengthMismatch)
  | uploadLast {u : UploadCtx} (hst : c.state = .uploading u)
      (hn : SdoFrame.nodeOfTsdo f.cobId = some u.nodeId) (hph : u.phase = .awaitingSegment)
      (hcs : f.cs = scsUploadSegment) (ht : f.toggle = u.nextToggle) (hc : f.final = true)
      (hcap : u.received.length + (payloadOf f.data).length ≤ tgt.isizeMax)
      (hexp : ∀ size, u.expectedLen = some size →
        (u.received ++ payloadOf f.data).length = size.toNat) :
      ClientStep tgt c f now (.ok (some (.uploadCompleted (u.received ++ payloadOf f.data))))
        c.clearTransfer
  | downloadExpedited {d : DownloadCtx} (hst : c.state = .downloading d)
      (hn : SdoFrame.nodeOfTsdo f.cobId = some d.nodeId) (hph : d.phase = .awaitingInit true)
      (hcs : f.cs = scsInitDownload) (hm : f.Names d.idx d.sub) :
      ClientStep tgt c f now (.ok (some .downloadCompleted)) c.clearTransfer
  | downloadInit {d : DownloadCtx} (hst : c.state = .downloading d)
      (hn : SdoFrame.nodeOfTsdo f.cobId = some d.nodeId) (hph : d.phase = .awaitingInit false)
      (hcs : f.cs = scsInitDownload) (hm : f.Names d.idx d.sub) (hpos : d.sentPos ≤ d.data.length) :
      ClientStep tgt c f now (.ok none) (c.sendSegment d now)
  | downloadToggle {d : DownloadCtx} (hst : c.state = .downloading d) {last : Bool}
      (hn : SdoFrame.nodeOfTsdo f.cobId = some d.nodeId) (hph : d.phase = .awaitingSegmentAck last)
      (hcs : f.cs = scsDownloadSegment) (ht : f.toggle ≠ !d.nextToggle) :
      ClientStep tgt c f now (.error (.clientAborted .toggleBitNotAlternated))
        (c.queueAbort d.nodeId d.idx d.sub .toggleBitNotAlternated)
  | downloadMore {d : DownloadCtx} (hst : c.state = .downloading d)
      (hn : SdoFrame.nodeOfTsdo f.cobId = some d.nodeId) (hph : d.phase = .awaitingSegmentAck false)
      (hcs : f.cs = scsDownloadSegment) (ht : f.toggle = !d.nextToggle)
      (hpos : d.sentPos ≤ d.data.length) :
      ClientStep tgt c f now (.ok none) (c.sendSegment d now)
  | downloadLast {d : DownloadCtx} (hst : c.state = .downloading d)
      (hn : SdoFrame.nodeOfTsdo f.cobId = some d.nodeId) (hph : d.phase = .awaitingSegmentAck true)
      (hcs : f.cs = scsDownloadSegment) (ht : f.toggle = !d.nextToggle) :
      ClientStep tgt c f now (.ok (some .downloadCompleted)) c.clearTransfer

/-! ### Starting a transfer -/

theorem validateNodeId_eq (nodeId : UInt8) :
    validateNodeId nodeId
      = if SdoFrame.ValidNode nodeId then .ok ()
        else .error (.invalidArgument "node id must be 1..=127") := by
  have h : (nodeId = 0 ∨ nodeId > 127) ↔ ¬ SdoFrame.ValidNode nodeId := by
    unfold SdoFrame.ValidNode
    rw [← UInt8.toNat_inj, gt_iff_lt, UInt8.lt_iff_toNat_lt, UInt8.le_iff_toNat_le,
      UInt8.le_iff_toNat_le]
    change _ ∨ 127 < _ ↔ ¬ (1 ≤ _ ∧ _ ≤ 127)
    change nodeId.toNat = 0 ∨ _ ↔ _
    omega
  unfold validateNodeId
  simp only [h, ite_not]

namespace SdoClient

theorem beginUpload_of_idle {c : SdoClient} {nodeId : UInt8} {idx : UInt16} {sub : UInt8}
    {now : UInt64} (hv : SdoFrame.ValidNode nodeId) (hc : c.state = .idle) :
    c.beginUpload nodeId idx sub now = (.ok (), c.uploadStarted nodeId idx sub now) := by
  rw [beginUpload, validateNodeId_eq, if_pos hv]
  simp [isIdle, hc]
  rfl

/-- A call of `begin_upload` fails and changes nothing, or starts the upload. -/
theorem beginUpload_cases (c : SdoClient) (nodeId : UInt8) (idx : UInt16) (sub : UInt8)
    (now : UInt64) :
    (∃ e, c.beginUpload nodeId idx sub now = (.error e, c)) ∨
      (SdoFrame.ValidNode nodeId ∧ c.state = .idle ∧
        c.beginUpload nodeId idx sub now = (.ok (), c.uploadStarted nodeId idx sub now)) := by
  by_cases hv : SdoFrame.ValidNode nodeId
  · cases hst : c.state with
    | idle => exact .inr ⟨hv, rfl, beginUpload_of_idle hv hst⟩
    | uploading u => exact .inl ⟨.busy, by simp [beginUpload, validateNodeId_eq, hv, isIdle, hst]⟩
    | downloading d => exact .inl ⟨.busy, by simp [beginUpload, validateNodeId_eq, hv, isIdle, hst]⟩
  · exact .inl ⟨_, by rw [beginUpload, validateNodeId_eq, if_neg hv]⟩

theorem beginDownload_of_idle {c : SdoClient} {nodeId : UInt8} {idx : UInt16} {sub : UInt8}
    {data : List UInt8} {now : UInt64} (hv : SdoFrame.ValidNode nodeId) (hc : c.state = .idle)
    (hd : 1 ≤ data.length) :
    c.beginDownload nodeId idx sub data now
      = .ok (.ok (), c.downloadStarted nodeId idx sub data now) := by
  have hne : data.isEmpty = false := by simpa using List.ne_nil_of_length_pos hd
  rw [beginDownload, validateNodeId_eq, if_pos hv]
  by_cases h₄ : data.length ≤ 4
  · simp [isIdle, hc, hne, h₄, Enc.initDownloadExpedited_of_le hd h₄, downloadStarted,
      initDownloadData, DownloadCtx.start]
    rfl
  · simp [isIdle, hc, hne, h₄, downloadStarted, initDownloadData, DownloadCtx.start]
    rfl

/-- A call of `begin_download` fails and changes nothing, or starts the download; it
never panics. -/
theorem beginDownload_cases (c : SdoClient) (nodeId : UInt8) (idx : UInt16) (sub : UInt8)
    (data : List UInt8) (now : UInt64) :
    (∃ e, c.beginDownload nodeId idx sub data now = .ok (.error e, c)) ∨
      (SdoFrame.ValidNode nodeId ∧ c.state = .idle ∧ 1 ≤ data.length ∧
        c.beginDownload nodeId idx sub data now
          = .ok (.ok (), c.downloadStarted nodeId idx sub data now)) := by
  by_cases hv : SdoFrame.ValidNode nodeId
  · rcases Nat.eq_zero_or_pos data.length with hd | hd
    · obtain rfl := List.length_eq_zero_iff.mp hd
      exact .inl ⟨_, by rw [beginDownload, validateNodeId_eq, if_pos hv]; rfl⟩
    · have hne : data.isEmpty = false := by simpa using List.ne_nil_of_length_pos hd
      cases hst : c.state with
      | idle => exact .inr ⟨hv, rfl, hd, beginDownload_of_idle hv hst hd⟩
      | uploading u =>
        exact .inl ⟨.busy, by simp [beginDownload, validateNodeId_eq, hv, isIdle, hst, hne]⟩
      | downloading d =>
        exact .inl ⟨.busy, by simp [beginDownload, validateNodeId_eq, hv, isIdle, hst, hne]⟩
  · exact .inl ⟨_, by rw [beginDownload, validateNodeId_eq, if_neg hv]; rfl⟩

end SdoClient

/-! ### The exits are what `handleFrame` computes -/

namespace SdoClient

section Forward

variable {tgt : Target} {c c' : SdoClient} {f : SdoFrame} {now : UInt64}

/-- Queueing the next segment, with the slice in range. -/
theorem queueNextDownloadSegment_of_le {d : DownloadCtx} (hpos : d.sentPos ≤ d.data.length) :
    c.queueNextDownloadSegment d now
      = .ok (c.queueRequest d.nodeId
          (segmentData ccsDownloadSegment d.nextToggle d.segment d.atLast) now, d.next) := by
  have hseg : (d.data.drop d.sentPos).take (min (d.data.length - d.sentPos) 7) = d.segment := by
    rw [Nat.min_comm, ← List.length_drop, ← List.take_take, List.take_length, DownloadCtx.segment]
  have hlen : d.segment.length ≤ 7 := by
    rw [DownloadCtx.segment, List.length_take]
    omega
  have hle : d.sentPos + min (d.data.length - d.sentPos) 7 ≤ d.data.length := by omega
  have hslice := Checked.slice_of_le hle
  rw [hseg] at hslice
  have hframe : Enc.downloadSegment d.nextToggle d.segment d.atLast
      = .ok (segmentData ccsDownloadSegment d.nextToggle d.segment d.atLast) :=
    segmentFrame_segmentCmd hlen
  unfold DownloadCtx.atLast at hframe
  simp only [queueNextDownloadSegment, Checked.sub_of_le hpos, Checked.bind_ok, hslice, hframe]
  rfl

/-- A queued segment was in range. -/
theorem le_of_queueNextDownloadSegment {d : DownloadCtx} {x : SdoClient × DownloadCtx}
    (h : c.queueNextDownloadSegment d now = .ok x) : d.sentPos ≤ d.data.length := by
  obtain ⟨remaining, hrem, -⟩ := Checked.eq_ok_of_bind h
  unfold Checked.sub at hrem
  split at hrem
  · assumption
  · cases hrem

/-- A frame that is no abort reaches the handler of the transfer in flight. -/
theorem handleFrame_of_ne_abort {node : UInt8} (hn : SdoFrame.nodeOfTsdo f.cobId = some node)
    (hcs : f.cs ≠ csAbort) :
    c.handleFrame tgt f now
      = match c.state with
        | .idle => .ok (.ok none, c)
        | .uploading u =>
          { c with state := .idle }.advanceUpload tgt u node (f.data.get 0) f.data now
        | .downloading d =>
          { c with state := .idle }.advanceDownload d node (f.data.get 0) f.data now := by
  unfold SdoFrame.cs at hcs
  obtain ⟨cfg, state, tx, dl⟩ := c
  cases state <;> simp [handleFrame, hn, hcs]

/-- Another node's frame is no answer. -/
theorem advanceUpload_of_ne {u : UploadCtx} {node cmd : UInt8} {data : Bytes 8}
    (h : node ≠ u.nodeId) :
    c.advanceUpload tgt u node cmd data now = .ok (.ok none, { c with state := .uploading u }) :=
  if_pos h

theorem advanceDownload_of_ne {d : DownloadCtx} {node cmd : UInt8} {data : Bytes 8}
    (h : node ≠ d.nodeId) :
    c.advanceDownload d node cmd data now = .ok (.ok none, { c with state := .downloading d }) :=
  if_pos h

/-- A frame an upload does not wait for. -/
theorem advanceUpload_of_not_awaits {u : UploadCtx} (h : ¬ u.Awaits f) :
    c.advanceUpload tgt u u.nodeId (f.data.get 0) f.data now
      = .ok (.ok none, { c with state := .uploading u }) := by
  unfold UploadCtx.Awaits SdoFrame.cs SdoFrame.Names at h
  rcases hph : u.phase <;> simp only [hph] at h
  · by_cases hcs : f.data.get 0 &&& csMask = scsInitUpload
    · have hm : indexOf f.data ≠ u.idx ∨ subindexOf f.data ≠ u.sub := by tauto
      simp [advanceUpload, hph, hcs, hm]
    · simp [advanceUpload, hph, hcs]
  · simp [advanceUpload, hph, h]

theorem advanceDownload_of_not_awaits {d : DownloadCtx} (h : ¬ d.Awaits f) :
    c.advanceDownload d d.nodeId (f.data.get 0) f.data now
      = .ok (.ok none, { c with state := .downloading d }) := by
  unfold DownloadCtx.Awaits SdoFrame.cs SdoFrame.Names at h
  rcases hph : d.phase with expedited | last <;> simp only [hph] at h
  · by_cases hcs : f.data.get 0 &&& csMask = scsInitDownload
    · have hm : indexOf f.data ≠ d.idx ∨ subindexOf f.data ≠ d.sub := by tauto
      simp [advanceDownload, hph, hcs, hm]
    · simp [advanceDownload, hph, hcs]
  · simp [advanceDownload, hph, h]

/-- Whether an abort frame is for the transfer in flight. -/
theorem matchesInFlight_iff {node : UInt8} :
    c.matchesInFlight node f.data = true
      ↔ ∃ idx sub, c.transfer = some (node, idx, sub) ∧ f.Names idx sub := by
  unfold matchesInFlight transfer SdoFrame.Names
  cases c.state <;> simp <;> tauto

/-- An abort frame of the transfer in flight, and of no other. -/
theorem handleFrame_of_abort {node : UInt8} (hn : SdoFrame.nodeOfTsdo f.cobId = some node)
    (hcs : f.cs = csAbort) :
    c.handleFrame tgt f now
      = if c.matchesInFlight node f.data then
          .ok (.error (.serverAborted (.ofRaw (wordOf f.data))), c.clearTransfer)
        else .ok (.ok none, c) := by
  unfold SdoFrame.cs at hcs
  simp only [handleFrame, hn, hcs, if_true]
  cases c.matchesInFlight node f.data <;> rfl

/-- **A frame that is no answer changes nothing.** -/
theorem handleFrame_of_not_answers (h : ¬ c.Answers f) :
    c.handleFrame tgt f now = .ok (.ok none, c) := by
  cases hn : SdoFrame.nodeOfTsdo f.cobId with
  | none => simp [handleFrame, hn]
  | some node =>
    by_cases hcs : f.cs = csAbort
    · rw [handleFrame_of_abort hn hcs, if_neg]
      rw [matchesInFlight_iff]
      rintro ⟨idx, sub, ht, hm⟩
      unfold Answers at h
      unfold transfer at ht
      cases hst : c.state <;> simp_all
    · rw [handleFrame_of_ne_abort hn hcs]
      unfold Answers at h
      rcases c with ⟨cfg, _ | u | d, tx, dl⟩
      · rfl
      · rcases eq_or_ne node u.nodeId with rfl | hne
        · exact advanceUpload_of_not_awaits fun ha => h ⟨hn, .inr ha⟩
        · exact advanceUpload_of_ne hne
      · rcases eq_or_ne node d.nodeId with rfl | hne
        · exact advanceDownload_of_not_awaits fun ha => h ⟨hn, .inr ha⟩
        · exact advanceDownload_of_ne hne

/-! ### Answers to an upload -/

section Upload

variable {u : UploadCtx} (hst : c.state = .uploading u)
  (hn : SdoFrame.nodeOfTsdo f.cobId = some u.nodeId)

include hst hn

theorem handleFrame_uploadExpedited (hph : u.phase = .awaitingInit) (hcs : f.cs = scsInitUpload)
    (hm : f.Names u.idx u.sub) (he : f.expedited = true) :
    c.handleFrame tgt f now
      = .ok (.ok (some (.uploadCompleted (inlineOf f.data))), c.clearTransfer) := by
  rw [handleFrame_of_ne_abort hn (by rw [hcs]; decide), hst]
  unfold SdoFrame.cs at hcs
  unfold SdoFrame.expedited at he
  simp only [advanceUpload, ne_eq, not_true_eq_false, if_false, hph, hcs, hm.1, hm.2, or_self, he,
    if_true, sub_inlineLen, Checked.bind_ok, slice_inline]
  rfl

theorem handleFrame_uploadInit (hph : u.phase = .awaitingInit) (hcs : f.cs = scsInitUpload)
    (hm : f.Names u.idx u.sub) (he : f.expedited = false)
    (hcap : ∀ size, f.announced = some size → u.received.length + size ≤ tgt.isizeMax) :
    c.handleFrame tgt f now = .ok (.ok none, c.requestSegment { u with
      expectedLen := f.announcedWord.or u.expectedLen
      phase := .awaitingSegment } now) := by
  rw [handleFrame_of_ne_abort hn (by rw [hcs]; decide), hst]
  unfold SdoFrame.cs at hcs
  unfold SdoFrame.expedited at he
  unfold SdoFrame.announced at hcap
  unfold SdoFrame.announcedWord
  simp only [advanceUpload, ne_eq, not_true_eq_false, if_false, hph, hcs, hm.1, hm.2, or_self, he,
    Bool.false_eq_true]
  split
  · next hs =>
    have hres := hcap _ (if_pos hs)
    simp only [vecReserve_of_le hres, Checked.bind_ok, Checked.pure_eq_ok, Option.some_or]
    rfl
  · rfl

theorem handleFrame_uploadToggle (hph : u.phase = .awaitingSegment) (hcs : f.cs = scsUploadSegment)
    (ht : f.toggle ≠ u.nextToggle) :
    c.handleFrame tgt f now = .ok (.error (.clientAborted .toggleBitNotAlternated),
      c.queueAbort u.nodeId u.idx u.sub .toggleBitNotAlternated) := by
  rw [handleFrame_of_ne_abort hn (by rw [hcs]; decide), hst]
  unfold SdoFrame.cs at hcs
  unfold SdoFrame.toggle at ht
  simp only [advanceUpload, ne_eq, not_true_eq_false, if_false, hph, hcs, ht, not_false_eq_true,
    if_true]
  rfl

/-- What an accepted upload segment does: room for its payload is reserved, and the payload
is appended. -/
theorem handleFrame_uploadSegment (hph : u.phase = .awaitingSegment)
    (hcs : f.cs = scsUploadSegment) (ht : f.toggle = u.nextToggle) :
    c.handleFrame tgt f now
      = (do
          vecReserve tgt u.received (payloadOf f.data).length
          if f.final then
            if u.expectedLen.any fun size =>
                (u.received ++ payloadOf f.data).length != size.toNat then
              .ok (.error (.clientAborted .dataTypeLengthMismatch),
                c.queueAbort u.nodeId u.idx u.sub .dataTypeLengthMismatch)
            else
              .ok (.ok (some (.uploadCompleted (u.received ++ payloadOf f.data))), c.clearTransfer)
          else .ok (.ok none, c.requestSegment { u with
            received := u.received ++ payloadOf f.data
            nextToggle := !u.nextToggle } now)) := by
  rw [handleFrame_of_ne_abort hn (by rw [hcs]; decide), hst]
  unfold SdoFrame.cs at hcs
  unfold SdoFrame.toggle at ht
  have hpay := slice_payload f.data
  have hdec : decodeSegment (f.data.get 0) = ((decodeSegment (f.data.get 0)).1, f.final) := rfl
  simp only [advanceUpload, ne_eq, not_true_eq_false, if_false, hph, hcs, ht]
  rw [hdec]
  simp only [hpay, Checked.bind_ok]
  rfl

end Upload

/-! ### Answers to a download -/

section Download

variable {d : DownloadCtx} (hst : c.state = .downloading d)
  (hn : SdoFrame.nodeOfTsdo f.cobId = some d.nodeId)

include hst hn

/-- What the ack of an init download does. -/
theorem handleFrame_downloadInit {expedited : Bool} (hph : d.phase = .awaitingInit expedited)
    (hcs : f.cs = scsInitDownload) (hm : f.Names d.idx d.sub) :
    c.handleFrame tgt f now
      = if expedited then .ok (.ok (some .downloadCompleted), c.clearTransfer)
        else (fun x => (.ok none, { x.1 with state := .downloading x.2 }))
          <$> { c with state := .idle }.queueNextDownloadSegment d now := by
  rw [handleFrame_of_ne_abort hn (by rw [hcs]; decide), hst]
  unfold SdoFrame.cs at hcs
  simp only [advanceDownload, ne_eq, not_true_eq_false, if_false, hph, hcs, hm.1, hm.2, or_self]
  cases expedited <;> rfl

theorem handleFrame_downloadToggle {last : Bool} (hph : d.phase = .awaitingSegmentAck last)
    (hcs : f.cs = scsDownloadSegment) (ht : f.toggle ≠ !d.nextToggle) :
    c.handleFrame tgt f now = .ok (.error (.clientAborted .toggleBitNotAlternated),
      c.queueAbort d.nodeId d.idx d.sub .toggleBitNotAlternated) := by
  rw [handleFrame_of_ne_abort hn (by rw [hcs]; decide), hst]
  unfold SdoFrame.cs at hcs
  unfold SdoFrame.toggle at ht
  simp only [advanceDownload, ne_eq, not_true_eq_false, if_false, hph, hcs, ht, not_false_eq_true,
    if_true]
  rfl

/-- What an accepted segment ack does. -/
theorem handleFrame_downloadAck {last : Bool} (hph : d.phase = .awaitingSegmentAck last)
    (hcs : f.cs = scsDownloadSegment) (ht : f.toggle = !d.nextToggle) :
    c.handleFrame tgt f now
      = if last then .ok (.ok (some .downloadCompleted), c.clearTransfer)
        else (fun x => (.ok none, { x.1 with state := .downloading x.2 }))
          <$> { c with state := .idle }.queueNextDownloadSegment d now := by
  rw [handleFrame_of_ne_abort hn (by rw [hcs]; decide), hst]
  unfold SdoFrame.cs at hcs
  unfold SdoFrame.toggle at ht
  simp only [advanceDownload, ne_eq, not_true_eq_false, if_false, hph, hcs, ht]
  cases last <;> rfl

end Download

/-! ### The exits -/

theorem sendSegment_of_queue {d : DownloadCtx} (hpos : d.sentPos ≤ d.data.length) :
    (fun x : SdoClient × DownloadCtx =>
        ((.ok none, { x.1 with state := .downloading x.2 }) :
          SdoResult (Option SdoOutcome) × SdoClient))
      <$> { c with state := .idle }.queueNextDownloadSegment d now
      = .ok (.ok none, c.sendSegment d now) := by
  rw [queueNextDownloadSegment_of_le hpos, Checked.map_ok]
  rfl

end Forward

end SdoClient

section Exits

open SdoClient

variable {tgt : Target} {c c' : SdoClient} {f : SdoFrame} {now : UInt64}

/-- An exit is what `handleFrame` computes. -/
theorem ClientStep.handleFrame_eq {r : SdoResult (Option SdoOutcome)}
    (h : ClientStep tgt c f now r c') : c.handleFrame tgt f now = .ok (r, c') := by
  cases h with
  | ignored h => exact handleFrame_of_not_answers h
  | serverAbort ht hn hcs hm =>
    rw [handleFrame_of_abort hn hcs, if_pos (matchesInFlight_iff.mpr ⟨_, _, ht, hm⟩)]
  | uploadExpedited hst hn hph hcs hm he =>
    exact handleFrame_uploadExpedited hst hn hph hcs hm he
  | uploadInit hst hn hph hcs hm he hcap => exact handleFrame_uploadInit hst hn hph hcs hm he hcap
  | uploadToggle hst hn hph hcs ht => exact handleFrame_uploadToggle hst hn hph hcs ht
  | uploadMore hst hn hph hcs ht hc hcap =>
    rw [handleFrame_uploadSegment hst hn hph hcs ht, vecReserve_of_le hcap, hc]
    rfl
  | uploadMismatch hst hn hph hcs ht hc hcap hexp hne =>
    rw [handleFrame_uploadSegment hst hn hph hcs ht, vecReserve_of_le hcap, Checked.bind_ok, hc,
      if_pos rfl, hexp, Option.any_some, if_pos (bne_iff_ne.mpr hne)]
  | uploadLast hst hn hph hcs ht hc hcap hexp =>
    rw [handleFrame_uploadSegment hst hn hph hcs ht, vecReserve_of_le hcap, Checked.bind_ok, hc,
      if_pos rfl, if_neg (by simpa [Option.any_eq_true] using hexp)]
  | downloadExpedited hst hn hph hcs hm =>
    rw [handleFrame_downloadInit hst hn hph hcs hm, if_pos rfl]
  | downloadInit hst hn hph hcs hm hpos =>
    rw [handleFrame_downloadInit hst hn hph hcs hm, if_neg (by decide), sendSegment_of_queue hpos]
  | downloadToggle hst hn hph hcs ht => exact handleFrame_downloadToggle hst hn hph hcs ht
  | downloadMore hst hn hph hcs ht hpos =>
    rw [handleFrame_downloadAck hst hn hph hcs ht, if_neg (by decide), sendSegment_of_queue hpos]
  | downloadLast hst hn hph hcs ht => rw [handleFrame_downloadAck hst hn hph hcs ht, if_pos rfl]

/-- An answer to an upload takes an exit, if what is reserved for it fits. -/
theorem exists_uploadStep {u : UploadCtx} (hst : c.state = .uploading u)
    (hn : SdoFrame.nodeOfTsdo f.cobId = some u.nodeId) (ha : u.Awaits f) (hfits : u.Fits tgt f) :
    ∃ r c', ClientStep tgt c f now r c' := by
  unfold UploadCtx.Awaits at ha
  unfold UploadCtx.Fits at hfits
  cases hph : u.phase with
  | awaitingInit =>
    rw [hph] at ha hfits
    cases he : f.expedited with
    | true => exact ⟨_, _, .uploadExpedited hst hn hph ha.1 ha.2 he⟩
    | false => exact ⟨_, _, .uploadInit hst hn hph ha.1 ha.2 he (hfits he)⟩
  | awaitingSegment =>
    rw [hph] at ha hfits
    by_cases ht : f.toggle = u.nextToggle
    · cases hc : f.final with
      | false => exact ⟨_, _, .uploadMore hst hn hph ha ht hc (hfits ht)⟩
      | true =>
        by_cases hexp : ∀ size, u.expectedLen = some size →
            (u.received ++ payloadOf f.data).length = size.toNat
        · exact ⟨_, _, .uploadLast hst hn hph ha ht hc (hfits ht) hexp⟩
        · push Not at hexp
          obtain ⟨size, hsize, hne⟩ := hexp
          exact ⟨_, _, .uploadMismatch hst hn hph ha ht hc (hfits ht) hsize hne⟩
    · exact ⟨_, _, .uploadToggle hst hn hph ha ht⟩

/-- An answer to a download takes an exit, if the next segment is in range. -/
theorem exists_downloadStep {d : DownloadCtx} (hst : c.state = .downloading d)
    (hn : SdoFrame.nodeOfTsdo f.cobId = some d.nodeId) (ha : d.Awaits f)
    (hpos : (d.phase = .awaitingInit false ∨
      d.phase = .awaitingSegmentAck false ∧ f.toggle = !d.nextToggle) →
      d.sentPos ≤ d.data.length) :
    ∃ r c', ClientStep tgt c f now r c' := by
  unfold DownloadCtx.Awaits at ha
  cases hph : d.phase with
  | awaitingInit expedited =>
    rw [hph] at ha
    cases expedited with
    | true => exact ⟨_, _, .downloadExpedited hst hn hph ha.1 ha.2⟩
    | false => exact ⟨_, _, .downloadInit hst hn hph ha.1 ha.2 (hpos (.inl hph))⟩
  | awaitingSegmentAck last =>
    rw [hph] at ha
    by_cases ht : f.toggle = !d.nextToggle
    · cases last with
      | true => exact ⟨_, _, .downloadLast hst hn hph ha ht⟩
      | false => exact ⟨_, _, .downloadMore hst hn hph ha ht (hpos (.inr ⟨hph, ht⟩))⟩
    · exact ⟨_, _, .downloadToggle hst hn hph ha ht⟩

/-- An accepted init response that does not panic was within the capacity. -/
theorem cap_of_handleFrame {u : UploadCtx} (hst : c.state = .uploading u)
    (hn : SdoFrame.nodeOfTsdo f.cobId = some u.nodeId) (hph : u.phase = .awaitingInit)
    (hcs : f.cs = scsInitUpload) (hm : f.Names u.idx u.sub) (he : f.expedited = false)
    {x : SdoResult (Option SdoOutcome) × SdoClient} (h : c.handleFrame tgt f now = .ok x) :
    ∀ size, f.announced = some size → u.received.length + size ≤ tgt.isizeMax := by
  rw [handleFrame_of_ne_abort hn (by rw [hcs]; decide), hst] at h
  unfold SdoFrame.cs at hcs
  unfold SdoFrame.expedited at he
  intro size hsize
  unfold SdoFrame.announced at hsize
  split at hsize
  · next hs =>
    obtain rfl := Option.some.inj hsize
    simp only [advanceUpload, ne_eq, not_true_eq_false, if_false, hph, hcs, hm.1, hm.2, or_self, he,
      Bool.false_eq_true, hs, if_true] at h
    obtain ⟨_, h, -⟩ := Checked.eq_ok_of_bind h
    obtain ⟨_, h, -⟩ := Checked.eq_ok_of_bind h
    exact Checked.of_guard_eq_ok h
  · cases hsize

/-- An accepted segment that does not panic was within the capacity. -/
theorem cap_of_handleFrame_segment {u : UploadCtx} (hst : c.state = .uploading u)
    (hn : SdoFrame.nodeOfTsdo f.cobId = some u.nodeId) (hph : u.phase = .awaitingSegment)
    (hcs : f.cs = scsUploadSegment) (ht : f.toggle = u.nextToggle)
    {x : SdoResult (Option SdoOutcome) × SdoClient} (h : c.handleFrame tgt f now = .ok x) :
    u.received.length + (payloadOf f.data).length ≤ tgt.isizeMax := by
  rw [handleFrame_uploadSegment hst hn hph hcs ht] at h
  obtain ⟨_, h, -⟩ := Checked.eq_ok_of_bind h
  exact Checked.of_guard_eq_ok h

/-- What is reserved for an answer that does not panic fits. -/
theorem fits_of_handleFrame {u : UploadCtx} (hst : c.state = .uploading u)
    (hn : SdoFrame.nodeOfTsdo f.cobId = some u.nodeId) (ha : u.Awaits f)
    {x : SdoResult (Option SdoOutcome) × SdoClient} (h : c.handleFrame tgt f now = .ok x) :
    u.Fits tgt f := by
  unfold UploadCtx.Awaits at ha
  unfold UploadCtx.Fits
  cases hph : u.phase with
  | awaitingInit =>
    rw [hph] at ha
    intro he
    exact cap_of_handleFrame hst hn hph ha.1 ha.2 he h
  | awaitingSegment =>
    rw [hph] at ha
    intro ht
    exact cap_of_handleFrame_segment hst hn hph ha ht h

/-- A segment that is sent without a panic was in range. -/
theorem pos_of_handleFrame {d : DownloadCtx} (hst : c.state = .downloading d)
    (hn : SdoFrame.nodeOfTsdo f.cobId = some d.nodeId) (ha : d.Awaits f)
    {x : SdoResult (Option SdoOutcome) × SdoClient} (h : c.handleFrame tgt f now = .ok x)
    (hph : d.phase = .awaitingInit false ∨
      d.phase = .awaitingSegmentAck false ∧ f.toggle = !d.nextToggle) :
    d.sentPos ≤ d.data.length := by
  unfold DownloadCtx.Awaits at ha
  rcases hph with hph | ⟨hph, ht⟩ <;> rw [hph] at ha
  · rw [handleFrame_downloadInit hst hn hph ha.1 ha.2, if_neg (by decide)] at h
    obtain ⟨_, h, -⟩ := Checked.eq_ok_of_map h
    exact le_of_queueNextDownloadSegment h
  · rw [handleFrame_downloadAck hst hn hph ha ht, if_neg (by decide)] at h
    obtain ⟨_, h, -⟩ := Checked.eq_ok_of_map h
    exact le_of_queueNextDownloadSegment h

/-- Every frame takes an exit, if what an upload reserves is within the capacity and what a
download sends is in range. -/
theorem exists_clientStep_of
    (hup : ∀ u, c.state = .uploading u → SdoFrame.nodeOfTsdo f.cobId = some u.nodeId →
      u.Awaits f → u.Fits tgt f)
    (hdown : ∀ d, c.state = .downloading d → SdoFrame.nodeOfTsdo f.cobId = some d.nodeId →
      d.Awaits f → (d.phase = .awaitingInit false ∨
        d.phase = .awaitingSegmentAck false ∧ f.toggle = !d.nextToggle) →
          d.sentPos ≤ d.data.length) :
    ∃ r c', ClientStep tgt c f now r c' := by
  by_cases ha : c.Answers f
  · obtain ⟨node, idx, sub, ht, hn, ⟨hcs, hm⟩ | haw⟩ := answers_iff.mp ha
    · exact ⟨_, _, .serverAbort ht hn hcs hm⟩
    · -- the frame is what the phase waits for
      unfold transfer at ht
      cases hst : c.state with
      | idle =>
        rw [hst] at haw
        exact haw.elim
      | uploading u =>
        rw [hst] at haw ht
        cases ht
        exact exists_uploadStep hst hn haw (hup u hst hn haw)
      | downloading d =>
        rw [hst] at haw ht
        cases ht
        exact exists_downloadStep hst hn haw (hdown d hst hn haw)
  · exact ⟨_, _, .ignored ha⟩

/-- A call that returns takes an exit. -/
theorem exists_clientStep {x : SdoResult (Option SdoOutcome) × SdoClient}
    (h : c.handleFrame tgt f now = .ok x) : ∃ r c', ClientStep tgt c f now r c' := by
  refine exists_clientStep_of ?_ ?_
  · intro u hst hn ha
    exact fits_of_handleFrame hst hn ha h
  · intro d hst hn ha
    exact pos_of_handleFrame hst hn ha h

/-- **`handleFrame` returns exactly what an exit says.** -/
theorem SdoClient.handleFrame_eq_ok_iff {r : SdoResult (Option SdoOutcome)} :
    c.handleFrame tgt f now = .ok (r, c') ↔ ClientStep tgt c f now r c' := by
  refine ⟨?_, ClientStep.handleFrame_eq⟩
  intro h
  obtain ⟨r₁, c₁, hstep⟩ := exists_clientStep h
  have heq := h.symm.trans hstep.handleFrame_eq
  simp only [Except.ok.injEq, Prod.mk.injEq] at heq
  obtain ⟨rfl, rfl⟩ := heq
  exact hstep

/-- The exits exclude each other. -/
theorem ClientStep.unique {r r₁ : SdoResult (Option SdoOutcome)} {c₁ : SdoClient}
    (h : ClientStep tgt c f now r c') (h₁ : ClientStep tgt c f now r₁ c₁) : r = r₁ ∧ c' = c₁ := by
  have heq := h.handleFrame_eq.symm.trans h₁.handleFrame_eq
  cases heq
  exact ⟨rfl, rfl⟩

end Exits

/-! ### Timeouts -/

/-- A timeout leaves the client as it is, or aborts the transfer in flight. -/
theorem SdoClient.handleTimeout_cases (c : SdoClient) (now : UInt64) :
    c.handleTimeout now = (.ok none, c) ∨
      c.handleTimeout now
        = (.error (.clientAborted .protocolTimeout), c.abortWith .protocolTimeout) := by
  unfold SdoClient.handleTimeout
  split
  · exact .inl rfl
  · split
    · exact .inl rfl
    · exact .inr rfl

/-! ### Aborts of the client -/

/-- A client that is not idle has a transfer, and aborts that one. -/
theorem SdoClient.exists_transfer {c : SdoClient} (hc : c.state ≠ .idle) :
    ∃ node idx sub, c.transfer = some (node, idx, sub) ∧
      ∀ code, c.abortWith code = c.queueAbort node idx sub code := by
  unfold SdoClient.transfer SdoClient.abortWith
  cases hst : c.state with
  | idle => exact absurd hst hc
  | uploading u => exact ⟨_, _, _, rfl, fun _ => rfl⟩
  | downloading d => exact ⟨_, _, _, rfl, fun _ => rfl⟩

/-- An idle client has nothing to abort. -/
theorem SdoClient.abortWith_of_idle {c : SdoClient} (hc : c.state = .idle) (code : SdoAbortCode) :
    c.abortWith code = c := by
  rw [abortWith, hc]

theorem SdoClient.abortWith_of_uploading {c : SdoClient} {u : UploadCtx}
    (hc : c.state = .uploading u) (code : SdoAbortCode) :
    c.abortWith code = c.queueAbort u.nodeId u.idx u.sub code := by
  rw [abortWith, hc]

theorem SdoClient.abortWith_of_downloading {c : SdoClient} {d : DownloadCtx}
    (hc : c.state = .downloading d) (code : SdoAbortCode) :
    c.abortWith code = c.queueAbort d.nodeId d.idx d.sub code := by
  rw [abortWith, hc]

/-- After an abort the client is idle. -/
@[simp] theorem SdoClient.state_abortWith (c : SdoClient) (code : SdoAbortCode) :
    (c.abortWith code).state = .idle := by
  unfold SdoClient.abortWith
  cases hst : c.state <;> simp [hst, queueAbort]

end CanopenSdo
