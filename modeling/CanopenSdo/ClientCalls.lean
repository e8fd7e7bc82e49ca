import CanopenSdo.ClientStep
import CanopenSdo.Lib.Machine

/-!
# All calls on a client

The client as a machine its user drives: every public call, in any order, at any times,
with any frames, over any number of transfers.  In `ClientRun` one transfer has been
started and the pending frame is taken after each call; here nothing of that is assumed.

`CallStep` lists what a call can do, on top of the exits of `handleFrame`.  Most facts
about a call need less than the thirteen exits: `ClientEffect` says what an exit does to
the transfer, the pending frame and the deadline, and there are four cases.

## Main definitions

* `ClientCall`, `ClientReturn`, `callMachine`.
* `SdoClient.Due` — the deadline has passed.
* `CallStep` — what a call does.
* `ClientEffect` — what an exit of `handleFrame` does, in outline.
* `SdoClient.Sound` — what holds of every reachable client.

## Main results

* `callStep_of_step` — every call does what `CallStep` says.
* `ClientStep.effect` — every exit has one of the four effects.
* `client_sound` — **in every run the client is sound.**
-/

namespace CanopenSdo

open Wire

/-! ### The machine -/

/-- A call on the client that may change it. -/
inductive ClientCall where
  | beginUpload (nodeId : UInt8) (idx : UInt16) (sub : UInt8) (now : UInt64)
  | beginDownload (nodeId : UInt8) (idx : UInt16) (sub : UInt8) (data : List UInt8) (now : UInt64)
  | pollTransmit
  | handleTimeout (now : UInt64)
  | handleFrame (f : SdoFrame) (now : UInt64)
  | abort (code : SdoAbortCode)
  deriving DecidableEq

/-- What a call returns. -/
inductive ClientReturn where
  /-- Of `begin_upload` and `begin_download`. -/
  | began (r : SdoResult Unit)
  | transmitted (tx : Option SdoFrame)
  /-- Of `handle_timeout` and `handle_frame`. -/
  | returned (r : SdoResult (Option SdoOutcome))
  | aborted
  deriving DecidableEq

/-- One call; a call that panics is refused. -/
def callStep (tgt : Target) (c : SdoClient) : ClientCall → Option (ClientReturn × SdoClient)
  | .beginUpload nodeId idx sub now =>
    let (r, c) := c.beginUpload nodeId idx sub now
    some (.began r, c)
  | .beginDownload nodeId idx sub data now =>
    match c.beginDownload nodeId idx sub data now with
    | .error _ => none
    | .ok (r, c) => some (.began r, c)
  | .pollTransmit =>
    let (tx, c) := c.pollTransmit
    some (.transmitted tx, c)
  | .handleTimeout now =>
    let (r, c) := c.handleTimeout now
    some (.returned r, c)
  | .handleFrame f now =>
    match c.handleFrame tgt f now with
    | .error _ => none
    | .ok (r, c) => some (.returned r, c)
  | .abort code => some (.aborted, c.abort code)

/-- The client and its user's calls as a machine. -/
def callMachine (tgt : Target) : Machine SdoClient ClientCall ClientReturn := ⟨callStep tgt⟩

/-! ### What a call does -/

/-- The deadline has passed. -/
def SdoClient.Due (c : SdoClient) (now : UInt64) : Prop := ∃ t, c.deadline = some t ∧ t ≤ now

/-- The call starts a transfer if it can. -/
def ClientCall.Begins : ClientCall → Prop
  | .beginUpload .. | .beginDownload .. => True
  | _ => False

/-- What a call does to the client. -/
inductive CallStep (tgt : Target) (c : SdoClient) : ClientCall → ClientReturn → SdoClient → Prop
  | refused {a : ClientCall} {e : SdoError} (ha : a.Begins) :
      CallStep tgt c a (.began (.error e)) c
  | beganUpload {nodeId : UInt8} {idx : UInt16} {sub : UInt8} {now : UInt64}
      (hv : SdoFrame.ValidNode nodeId) (hc : c.state = .idle) :
      CallStep tgt c (.beginUpload nodeId idx sub now) (.began (.ok ()))
        (c.uploadStarted nodeId idx sub now)
  | beganDownload {nodeId : UInt8} {idx : UInt16} {sub : UInt8} {data : List UInt8} {now : UInt64}
      (hv : SdoFrame.ValidNode nodeId) (hc : c.state = .idle) (hd : 1 ≤ data.length) :
      CallStep tgt c (.beginDownload nodeId idx sub data now) (.began (.ok ()))
        (c.downloadStarted nodeId idx sub data now)
  | transmitted : CallStep tgt c .pollTransmit (.transmitted c.pendingTx) c.drained
  | early {now : UInt64} (hd : ¬ c.Due now) :
      CallStep tgt c (.handleTimeout now) (.returned (.ok none)) c
  | expired {now : UInt64} (hd : c.Due now) :
      CallStep tgt c (.handleTimeout now) (.returned (.error (.clientAborted .protocolTimeout)))
        (c.abortWith .protocolTimeout)
  | frame {f : SdoFrame} {now : UInt64} {r : SdoResult (Option SdoOutcome)} {c' : SdoClient}
      (h : ClientStep tgt c f now r c') : CallStep tgt c (.handleFrame f now) (.returned r) c'
  | aborted {code : SdoAbortCode} : CallStep tgt c (.abort code) .aborted (c.abortWith code)

namespace SdoClient

variable {c : SdoClient} {now : UInt64}

/-- A timeout that is not due changes nothing. -/
theorem handleTimeout_of_not_due (h : ¬ c.Due now) : c.handleTimeout now = (.ok none, c) := by
  unfold handleTimeout
  split
  · rfl
  · next t ht =>
    -- a deadline that has not passed is later than `now`
    have hlt : now < t := by
      rw [← UInt64.not_le]
      intro hle
      exact h ⟨t, ht, hle⟩
    rw [if_pos hlt]

/-- A timeout that is due aborts the transfer. -/
theorem handleTimeout_of_due (h : c.Due now) :
    c.handleTimeout now
      = (.error (.clientAborted .protocolTimeout), c.abortWith .protocolTimeout) := by
  obtain ⟨t, ht, hle⟩ := h
  unfold handleTimeout
  rw [ht]
  exact if_neg (UInt64.not_lt.mpr hle)

end SdoClient

section Calls

variable {tgt : Target} {c c' : SdoClient} {a : ClientCall} {e : ClientReturn}

/-- **Every call does what `CallStep` says.** -/
theorem callStep_of_step (hs : (callMachine tgt).step c a = some (e, c')) :
    CallStep tgt c a e c' := by
  cases a with
  | beginUpload nodeId idx sub now =>
    rcases c.beginUpload_cases nodeId idx sub now with ⟨err, hb⟩ | ⟨hv, hc, hb⟩
    · simp only [callMachine, callStep, hb, Option.some.injEq, Prod.mk.injEq] at hs
      obtain ⟨rfl, rfl⟩ := hs
      exact .refused trivial
    · simp only [callMachine, callStep, hb, Option.some.injEq, Prod.mk.injEq] at hs
      obtain ⟨rfl, rfl⟩ := hs
      exact .beganUpload hv hc
  | beginDownload nodeId idx sub data now =>
    rcases c.beginDownload_cases nodeId idx sub data now with ⟨err, hb⟩ | ⟨hv, hc, hd, hb⟩
    · simp only [callMachine, callStep, hb, Option.some.injEq, Prod.mk.injEq] at hs
      obtain ⟨rfl, rfl⟩ := hs
      exact .refused trivial
    · simp only [callMachine, callStep, hb, Option.some.injEq, Prod.mk.injEq] at hs
      obtain ⟨rfl, rfl⟩ := hs
      exact .beganDownload hv hc hd
  | pollTransmit =>
    cases hs
    exact .transmitted
  | handleTimeout now =>
    by_cases hd : c.Due now
    · simp only [callMachine, callStep, SdoClient.handleTimeout_of_due hd, Option.some.injEq,
        Prod.mk.injEq] at hs
      obtain ⟨rfl, rfl⟩ := hs
      exact .expired hd
    · simp only [callMachine, callStep, SdoClient.handleTimeout_of_not_due hd, Option.some.injEq,
        Prod.mk.injEq] at hs
      obtain ⟨rfl, rfl⟩ := hs
      exact .early hd
  | handleFrame f now =>
    rcases hf : c.handleFrame tgt f now with p | ⟨r, c₁⟩
    · simp [callMachine, callStep, hf] at hs
    · simp only [callMachine, callStep, hf, Option.some.injEq, Prod.mk.injEq] at hs
      obtain ⟨rfl, rfl⟩ := hs
      exact .frame (SdoClient.handleFrame_eq_ok_iff.mp hf)
  | abort code =>
    cases hs
    exact .aborted

end Calls

/-! ### The effect of an exit -/

/-- Which way the bytes of a transfer go. -/
inductive Direction where
  | upload
  | download
  deriving DecidableEq, Repr

/-- The direction of the transfer in flight. -/
def SdoClient.direction (c : SdoClient) : Option Direction :=
  match c.state with
  | .idle => none
  | .uploading _ => some .upload
  | .downloading _ => some .download

/-- The result ends the transfer with the outcome of its direction, or because the server
has aborted. -/
def SdoClient.EndsWith (c : SdoClient) (r : SdoResult (Option SdoOutcome)) : Prop :=
  (∃ code, r = .error (.serverAborted code)) ∨
    (c.direction = some .upload ∧ ∃ data, r = .ok (some (.uploadCompleted data))) ∨
    (c.direction = some .download ∧ r = .ok (some .downloadCompleted))

/-- What an exit does to the transfer, the pending frame and the deadline: nothing, for a
frame that is no answer; or the transfer is over; or it is aborted; or its next request is
queued. -/
inductive ClientEffect (c : SdoClient) (f : SdoFrame) (now : UInt64) :
    SdoResult (Option SdoOutcome) → SdoClient → Prop
  | unchanged (ha : ¬ c.Answers f) : ClientEffect c f now (.ok none) c
  | finished {r : SdoResult (Option SdoOutcome)} (hc : c.state ≠ .idle) (hr : c.EndsWith r) :
      ClientEffect c f now r c.clearTransfer
  | aborted {code : SdoAbortCode} (hc : c.state ≠ .idle) :
      ClientEffect c f now (.error (.clientAborted code)) (c.abortWith code)
  | continued {node : UInt8} {idx : UInt16} {sub : UInt8} {st : ClientState} {data : Bytes 8}
      (ha : c.Answers f) (ht : c.transfer = some (node, idx, sub))
      (ht' : { c with state := st }.transfer = some (node, idx, sub))
      (hd : { c with state := st }.direction = c.direction) (hcs : SdoFrame.cs ⟨0, data⟩ ≠ csAbort) :
      ClientEffect c f now (.ok none) ({ c with state := st }.queueRequest node data now)

section Effect

variable {tgt : Target} {c c' : SdoClient} {f : SdoFrame} {now : UInt64}
  {r : SdoResult (Option SdoOutcome)}

theorem SdoClient.state_ne_idle {st : ClientState} (hst : c.state = st) (h : st ≠ .idle) :
    c.state ≠ .idle := hst ▸ h

/-- The toggle and length errors abort the transfer in flight. -/
theorem ClientEffect.abortUpload {u : UploadCtx} (hst : c.state = .uploading u)
    (code : SdoAbortCode) : ClientEffect c f now (.error (.clientAborted code))
      (c.queueAbort u.nodeId u.idx u.sub code) := by
  rw [← SdoClient.abortWith_of_uploading hst code]
  exact .aborted (c.state_ne_idle hst nofun)

theorem ClientEffect.abortDownload {d : DownloadCtx} (hst : c.state = .downloading d)
    (code : SdoAbortCode) : ClientEffect c f now (.error (.clientAborted code))
      (c.queueAbort d.nodeId d.idx d.sub code) := by
  rw [← SdoClient.abortWith_of_downloading hst code]
  exact .aborted (c.state_ne_idle hst nofun)

/-- An upload ends with the bytes read. -/
theorem ClientEffect.uploaded {u : UploadCtx} (hst : c.state = .uploading u)
    (data : List UInt8) :
    ClientEffect c f now (.ok (some (.uploadCompleted data))) c.clearTransfer := by
  have hd : c.direction = some .upload := by rw [SdoClient.direction, hst]
  exact .finished (c.state_ne_idle hst nofun) (.inr (.inl ⟨hd, data, rfl⟩))

theorem ClientEffect.downloaded {d : DownloadCtx} (hst : c.state = .downloading d) :
    ClientEffect c f now (.ok (some .downloadCompleted)) c.clearTransfer := by
  have hd : c.direction = some .download := by rw [SdoClient.direction, hst]
  exact .finished (c.state_ne_idle hst nofun) (.inr (.inr ⟨hd, rfl⟩))

/-- The next segment request of an upload, whatever else of its context changes. -/
theorem ClientEffect.requestSegment {u u' : UploadCtx} (ha : c.Answers f)
    (hst : c.state = .uploading u) (hn : u'.nodeId = u.nodeId) (hi : u'.idx = u.idx)
    (hs : u'.sub = u.sub) : ClientEffect c f now (.ok none) (c.requestSegment u' now) := by
  have ht : c.transfer = some (u'.nodeId, u.idx, u.sub) := by rw [SdoClient.transfer, hst, hn]
  refine .continued ha ht ?_ ?_ ?_
  · rw [SdoClient.transfer, ← hi, ← hs]
  · rw [SdoClient.direction, SdoClient.direction, hst]
  · rw [SdoFrame.cs_uploadSegmentRequest]
    decide

/-- The next segment of a download. -/
theorem ClientEffect.sendSegment {d : DownloadCtx} (ha : c.Answers f)
    (hst : c.state = .downloading d) : ClientEffect c f now (.ok none) (c.sendSegment d now) := by
  have ht : c.transfer = some (d.nodeId, d.idx, d.sub) := by rw [SdoClient.transfer, hst]
  refine .continued ha ht rfl ?_ ?_
  · rw [SdoClient.direction, SdoClient.direction, hst]
  · rw [cs_downloadSegment]
    decide

/-- **Every exit has one of the four effects.** -/
theorem ClientStep.effect (h : ClientStep tgt c f now r c') : ClientEffect c f now r c' := by
  -- the exits on an answer, and `ignored`
  by_cases ha : c.Answers f
  · cases h with
    | ignored hna => exact absurd ha hna
    | serverAbort ht => exact .finished (SdoClient.state_ne_idle_of_transfer ht) (.inl ⟨_, rfl⟩)
    | uploadExpedited hst => exact .uploaded hst _
    | uploadInit hst => exact .requestSegment ha hst rfl rfl rfl
    | uploadToggle hst => exact .abortUpload hst _
    | uploadMore hst => exact .requestSegment ha hst rfl rfl rfl
    | uploadMismatch hst => exact .abortUpload hst _
    | uploadLast hst => exact .uploaded hst _
    | downloadExpedited hst => exact .downloaded hst
    | downloadInit hst => exact .sendSegment ha hst
    | downloadToggle hst => exact .abortDownload hst _
    | downloadMore hst => exact .sendSegment ha hst
    | downloadLast hst => exact .downloaded hst
  · obtain ⟨rfl, rfl⟩ := h.unique (.ignored ha)
    exact .unchanged ha

end Effect

/-! ### Every run -/

/-- What holds of every reachable client: it has a deadline exactly while a transfer is in
flight, and the transfer is with a valid node. -/
structure SdoClient.Sound (c : SdoClient) : Prop where
  deadline : c.state = .idle ↔ c.deadline = none
  node : ∀ node idx sub, c.transfer = some (node, idx, sub) → SdoFrame.ValidNode node

/-- No call changes the configuration. -/
theorem CallStep.cfg {tgt : Target} {c c' : SdoClient} {a : ClientCall} {e : ClientReturn}
    (h : CallStep tgt c a e c') : c'.cfg = c.cfg := by
  have habort : ∀ code, (c.abortWith code).cfg = c.cfg := by
    intro code
    unfold SdoClient.abortWith
    cases hst : c.state <;> rfl
  cases h with
  | expired => exact habort _
  | aborted => exact habort _
  | frame hf =>
    cases hf.effect with
    | aborted => exact habort _
    | _ => rfl
  | _ => rfl

section Runs

variable {tgt : Target} {cfg : SdoConfig} {c c' : SdoClient} {a : ClientCall} {e : ClientReturn}
  {h : List (ClientCall × ClientReturn)}

/-- The configuration of a run is the one it started with. -/
theorem client_cfg (hr : (callMachine tgt).Run (.new cfg) h c) : c.cfg = cfg := by
  refine hr.invariant (P := fun _ c => c.cfg = cfg) rfl ?_
  intro h c a e c' hc hs
  exact (callStep_of_step hs).cfg.trans hc

theorem SdoClient.sound_of_idle (hst : c.state = .idle) (hd : c.deadline = none) : c.Sound where
  deadline := iff_of_true hst hd
  node := fun _ _ _ ht => absurd hst (SdoClient.state_ne_idle_of_transfer ht)

/-- Queueing a request of a transfer with a valid node. -/
theorem SdoClient.sound_queueRequest {st : ClientState} {node nodeId : UInt8} {idx : UInt16}
    {sub : UInt8} {data : Bytes 8} {now : UInt64} (hv : SdoFrame.ValidNode node)
    (ht : { c with state := st }.transfer = some (node, idx, sub)) :
    ({ c with state := st }.queueRequest nodeId data now).Sound where
  deadline := by
    refine iff_of_false ?_ nofun
    exact SdoClient.state_ne_idle_of_transfer ht
  node := by
    intro node' idx' sub' ht'
    cases ht.symm.trans ht'
    exact hv

theorem SdoClient.Sound.abortWith (hc : c.Sound) (code : SdoAbortCode) :
    (c.abortWith code).Sound := by
  by_cases hst : c.state = .idle
  · rw [SdoClient.abortWith_of_idle hst]
    exact hc
  · obtain ⟨node, idx, sub, -, habort⟩ := SdoClient.exists_transfer hst
    rw [habort]
    exact SdoClient.sound_of_idle rfl rfl

/-- **Every call keeps the client sound.** -/
theorem CallStep.sound (h : CallStep tgt c a e c') (hc : c.Sound) : c'.Sound := by
  cases h with
  | refused => exact hc
  | beganUpload hv => exact SdoClient.sound_queueRequest hv rfl
  | beganDownload hv => exact SdoClient.sound_queueRequest hv rfl
  | transmitted => exact ⟨hc.deadline, hc.node⟩
  | early => exact hc
  | expired => exact hc.abortWith _
  | aborted => exact hc.abortWith _
  | frame hf =>
    cases hf.effect with
    | unchanged => exact hc
    | finished => exact SdoClient.sound_of_idle rfl rfl
    | aborted => exact hc.abortWith _
    | continued _ ht ht' => exact SdoClient.sound_queueRequest (hc.node _ _ _ ht) ht'

/-- **In every run the client is sound.** -/
theorem client_sound (hr : (callMachine tgt).Run (.new cfg) h c) : c.Sound := by
  refine hr.invariant (P := fun _ c => c.Sound) (SdoClient.sound_of_idle rfl rfl) ?_
  intro h c a e c' hc hs
  exact (callStep_of_step hs).sound hc

end Runs

end CanopenSdo
