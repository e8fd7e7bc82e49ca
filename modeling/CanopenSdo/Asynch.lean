import CanopenSdo.Codec
import CanopenSdo.ClientStep
import CanopenSdo.Lib.Machine

/-!
# The async glue

`drive` alternates between draining the client's pending frame to the bus and
waiting for a frame or the deadline.  It is a machine here: one step either hands
the pending frame to `bus.send` or, with nothing pending, is woken up.  The bus,
the receiver and the clock are in the actions, so a run is one behaviour of them,
and once the result is there no step is left to take.

The CAN transport is a parameter (`CanTransport`): nothing is assumed of it.

An error of the client leaves `drive` at once, by `?`, while the abort frame of
that error is still pending.  `abortHandedOver_iff` says what this means.

## Main definitions

* `CanTransport`, `sdoToCan`, `canToSdo` — frame conversion.
* `driveMachine` — the loop of `drive`; `Started` — the client it is handed.
* `SdoClient.AbortsOn`, `AbortExit` — the wake-ups on which the client aborts.

## Main results

* `abortHandedOver_iff` — **the abort of a transfer is handed to the bus exactly
  in the runs on which the client has nothing to abort.**
-/

namespace CanopenSdo

open Wire

/-! ### The CAN transport -/

/-- A CAN identifier. -/
inductive CanId where
  | standard (id : UInt16)
  | extended (id : UInt32)
  deriving DecidableEq, Repr

/-- What the glue uses of the frames `φ` of the CAN transport, whose errors are `ε`. -/
structure CanTransport (φ ε : Type) where
  newData : CanId → List UInt8 → Except ε φ
  /-- The frame is of kind `Data`. -/
  isData : φ → Bool
  id : φ → CanId
  data : φ → List UInt8

/-- The combined error of the glue. -/
inductive AsyncSdoError (ε : Type) where
  | sdo (e : SdoError)
  | io (e : ε)
  deriving DecidableEq

variable {φ ε : Type}

def sdoToCan (T : CanTransport φ ε) (f : SdoFrame) : Except ε φ :=
  T.newData (.standard f.cobId) f.data.data

def canToSdo (T : CanTransport φ ε) (f : φ) : Option SdoFrame :=
  if !T.isData f then none
  else
    -- SDO frames have standard identifiers and eight bytes
    match T.id f with
    | .extended _ => none
    | .standard cobId =>
      if h : (T.data f).length = 8 then some ⟨cobId, ⟨T.data f, h⟩⟩ else none

/-! ### Starting a transfer -/

/-- The configuration for a timeout in nanoseconds. -/
def configFrom (timeout : Option ℕ) : SdoConfig :=
  ⟨(timeout.map UInt64.ofNat).getD SdoConfig.default.timeout⟩

/-- What `upload_bytes` and `download_bytes` hand to `drive`: a new client on which
`begin_*` has succeeded. -/
inductive Started (nodeId : UInt8) (idx : UInt16) (sub : UInt8) : SdoClient → Prop
  | upload (timeout : Option ℕ) (now : UInt64) {c : SdoClient}
      (h : (SdoClient.new (configFrom timeout)).beginUpload nodeId idx sub now = (.ok (), c)) :
      Started nodeId idx sub c
  | download (timeout : Option ℕ) (data : List UInt8) (now : UInt64) {c : SdoClient}
      (h : (SdoClient.new (configFrom timeout)).beginDownload nodeId idx sub data now
        = .ok (.ok (), c)) :
      Started nodeId idx sub c

/-! ### The loop -/

/-- Why `drive` wakes up: the receiver yields, or the deadline has come. -/
inductive Wake (φ ε : Type) where
  | recv (frame : Except ε φ) (now : UInt64)
  | expiry (now : UInt64)

/-- What the surroundings of `drive` do next. -/
inductive DriveAction (φ ε : Type) where
  /-- `bus.send` answers `r`, if it is called. -/
  | sent (r : Except ε Unit)
  | woken (w : Wake φ ε)

/-- What a step of `drive` does to its surroundings. -/
inductive DriveEvent (φ : Type) where
  /-- The pending frame `out` was handed to `bus.send`, as `frame`. -/
  | handedOver (out : SdoFrame) (frame : φ)
  | nothing

/-- `drive` between two steps; it has returned once there is a result. -/
structure DriveState (ε : Type) where
  client : SdoClient
  result : Option (Except (AsyncSdoError ε) SdoOutcome)

/-- The state `drive` starts from. -/
def DriveState.init (c : SdoClient) : DriveState ε := ⟨c, none⟩

/-- What `drive` does with the answer of the client: an outcome and, by `?`, an
error are returned; otherwise the loop goes on. -/
def DriveState.ofClient (r : SdoResult (Option SdoOutcome)) (c : SdoClient) : DriveState ε :=
  match r with
  | .ok none => ⟨c, none⟩
  | .ok (some outcome) => ⟨c, some (.ok outcome)⟩
  | .error e => ⟨c, some (.error (.sdo e))⟩

/-- Drain one frame the state machine wants to send. -/
def driveSend (T : CanTransport φ ε) (c : SdoClient) (out : SdoFrame) (r : Except ε Unit) :
    DriveEvent φ × DriveState ε :=
  match sdoToCan T out with
  -- the frame is gone from the client, and never reaches the bus
  | .error e => (.nothing, ⟨c, some (.error (.io e))⟩)
  | .ok frame =>
    match r with
    | .error e => (.handedOver out frame, ⟨c, some (.error (.io e))⟩)
    | .ok () => (.handedOver out frame, ⟨c, none⟩)

/-- Wake up with nothing to send.  Without a deadline only the receiver can wake
the loop; where the client panics there is no next state. -/
def driveWake (T : CanTransport φ ε) (tgt : Target) (c : SdoClient) :
    Wake φ ε → Option (DriveState ε)
  | .recv (.error e) _ => some ⟨c, some (.error (.io e))⟩
  | .recv (.ok frame) now =>
    match canToSdo T frame with
    -- `continue`: the deadline is kept
    | none => some ⟨c, none⟩
    | some sdo =>
      match c.handleFrame tgt sdo now with
      | .error _ => none
      | .ok (r, c) => some (.ofClient r c)
  | .expiry now =>
    match c.pollTimeout with
    | none => none
    | some _ =>
      let (r, c) := c.handleTimeout now
      some (.ofClient r c)

/-- The loop of `drive`. -/
def driveMachine (T : CanTransport φ ε) (tgt : Target) :
    Machine (DriveState ε) (DriveAction φ ε) (DriveEvent φ) where
  step := fun d a =>
    match d.result with
    | some _ => none
    | none =>
      -- what is pending is drained before anything is waited for
      match d.client.pollTransmit, a with
      | (some out, c), .sent r => some (driveSend T c out r)
      | (none, c), .woken w => (driveWake T tgt c w).map fun d => (.nothing, d)
      | _, _ => none

/-! ### The wake-ups on which the client aborts -/

/-- The client aborts its transfer on this frame: an upload segment with the wrong
toggle, a final one with the wrong total, or a download ack with the wrong toggle. -/
def SdoClient.AbortsOn (c : SdoClient) (f : SdoFrame) : Prop :=
  match c.state with
  | .idle => False
  | .uploading u =>
    SdoFrame.nodeOfTsdo f.cobId = some u.nodeId ∧ u.phase = .awaitingSegment ∧
      f.cs = scsUploadSegment ∧
      (f.toggle ≠ u.nextToggle ∨
        f.final = true ∧ ∃ size, u.expectedLen = some size ∧
          u.received.length + (payloadOf f.data).length ≠ size.toNat)
  | .downloading d =>
    SdoFrame.nodeOfTsdo f.cobId = some d.nodeId ∧ (∃ last, d.phase = .awaitingSegmentAck last) ∧
      f.cs = scsDownloadSegment ∧ f.toggle = d.nextToggle

/-- The next step of `drive` makes the client abort its transfer. -/
def AbortExit (T : CanTransport φ ε) (d : DriveState ε) : DriveAction φ ε → Prop
  | .sent _ => False
  | .woken (.recv (.error _) _) => False
  | .woken (.recv (.ok frame) _) => ∃ f, canToSdo T frame = some f ∧ d.client.AbortsOn f
  | .woken (.expiry now) => ∃ deadline, d.client.deadline = some deadline ∧ deadline ≤ now

/-- If `drive` has returned `ClientAborted`, the abort frame of that failure was
handed to the bus. -/
def AbortHandedOver (nodeId : UInt8) (idx : UInt16) (sub : UInt8)
    (h : List (DriveAction φ ε × DriveEvent φ)) (d : DriveState ε) : Prop :=
  ∀ code, d.result = some (.error (.sdo (.clientAborted code))) →
    ∃ a frame, (a, .handedOver ⟨SdoFrame.rsdoId nodeId, Wire.abort idx sub code⟩ frame) ∈ h

/-! ### No abort frame is drained -/

/-- No abort frame is pending. -/
def SdoClient.Quiet (c : SdoClient) : Prop := ∀ out, c.pendingTx = some out → out.cs ≠ csAbort

/-- An abort frame is handed to the bus. -/
def DriveEvent.IsAbort : DriveEvent φ → Prop
  | .handedOver out _ => out.cs = csAbort
  | .nothing => False

section Client

variable {tgt : Target} {c c' : SdoClient} {f : SdoFrame} {now : UInt64}
  {nodeId : UInt8} {idx : UInt16} {sub : UInt8}

theorem SdoClient.quiet_of_pendingTx {out : SdoFrame} (h : c.pendingTx = some out)
    (hcs : out.cs ≠ csAbort) : c.Quiet := by
  intro out' h'
  rw [h] at h'
  rwa [← Option.some.inj h']

theorem SdoClient.quiet_of_none (h : c.pendingTx = none) : c.Quiet := by
  intro out h'
  rw [h] at h'
  cases h'

/-- The request of a new transfer is no abort. -/
theorem Started.quiet (h : Started nodeId idx sub c) : c.Quiet := by
  cases h with
  | upload timeout now h =>
    obtain ⟨e, he⟩ | ⟨-, -, he⟩ := (SdoClient.new (configFrom timeout)).beginUpload_cases nodeId idx
      sub now <;> rw [he] at h
    · simp at h
    · obtain rfl := (Prod.ext_iff.mp h).2
      exact SdoClient.quiet_of_pendingTx rfl (by rw [SdoFrame.cs_initUpload]; decide)
  | download timeout data now h =>
    obtain ⟨e, he⟩ | ⟨-, -, hd, he⟩ := (SdoClient.new (configFrom timeout)).beginDownload_cases
      nodeId idx sub data now <;> rw [he] at h
    · simp at h
    · obtain rfl := (Prod.ext_iff.mp (Except.ok.inj h)).2
      refine SdoClient.quiet_of_pendingTx rfl ?_
      rw [cs_initDownloadData _ _ _ hd]
      decide

/-- The result of a call says whether the client has aborted. -/
theorem ClientStep.clientAborted_iff {r : SdoResult (Option SdoOutcome)}
    (h : ClientStep tgt c f now r c') :
    (∃ code, r = .error (.clientAborted code)) ↔ c.AbortsOn f := by
  cases h with
  | ignored h =>
    -- a frame the client aborts on is one it has waited for
    refine iff_of_false (by simp) fun ha => h ?_
    unfold SdoClient.AbortsOn at ha
    unfold SdoClient.Answers
    cases hst : c.state with
    | idle => simp [hst] at ha
    | uploading u =>
      simp only [hst] at ha ⊢
      obtain ⟨hn, hph, hcs, -⟩ := ha
      exact ⟨hn, .inr (by rw [UploadCtx.Awaits, hph]; exact hcs)⟩
    | downloading d =>
      simp only [hst] at ha ⊢
      obtain ⟨hn, ⟨last, hph⟩, hcs, -⟩ := ha
      exact ⟨hn, .inr (by rw [DownloadCtx.Awaits, hph]; exact hcs)⟩
  | serverAbort ht hn hcs hm =>
    -- the client itself aborts on segments and their acks only
    refine iff_of_false (by simp) ?_
    intro ha
    unfold SdoClient.AbortsOn at ha
    have hne : csAbort ≠ scsUploadSegment ∧ csAbort ≠ scsDownloadSegment := by decide
    split at ha
    · exact ha
    · exact hne.1 (hcs.symm.trans ha.2.2.1)
    · exact hne.2 (hcs.symm.trans ha.2.2.1)
  | uploadExpedited hst hn hph hcs hm he => simp [SdoClient.AbortsOn, hst, hph]
  | uploadInit hst hn hph hcs hm he hcap => simp [SdoClient.AbortsOn, hst, hph]
  | uploadToggle hst hn hph hcs ht => simp [SdoClient.AbortsOn, hst, hn, hph, hcs, ht]
  | uploadMore hst hn hph hcs ht hc hcap => simp [SdoClient.AbortsOn, hst, ht, hc]
  | uploadMismatch hst hn hph hcs ht hc hcap hexp hne =>
    rw [List.length_append] at hne
    simp [SdoClient.AbortsOn, hst, hn, hph, hcs, hc, hexp, hne]
  | uploadLast hst hn hph hcs ht hc hcap hexp =>
    simp only [List.length_append] at hexp
    simpa [SdoClient.AbortsOn, hst, hn, hph, hcs, hc, ht] using hexp
  | downloadExpedited hst hn hph hcs hm => simp [SdoClient.AbortsOn, hst, hph]
  | downloadInit hst hn hph hcs hm hpos => simp [SdoClient.AbortsOn, hst, hph]
  | downloadToggle hst hn hph hcs ht =>
    simpa [SdoClient.AbortsOn, hst, hn, hph, hcs] using ht
  | downloadMore hst hn hph hcs ht hpos => simp [SdoClient.AbortsOn, hst, ht]
  | downloadLast hst hn hph hcs ht => simp [SdoClient.AbortsOn, hst, ht]

/-- A client that goes on with its transfer has no abort pending. -/
theorem ClientStep.quiet (h : ClientStep tgt c f now (.ok none) c') (hq : c.Quiet) : c'.Quiet := by
  cases h with
  | ignored => exact hq
  | uploadInit =>
    exact SdoClient.quiet_of_pendingTx rfl (by rw [SdoFrame.cs_uploadSegmentRequest]; decide)
  | uploadMore =>
    exact SdoClient.quiet_of_pendingTx rfl (by rw [SdoFrame.cs_uploadSegmentRequest]; decide)
  | downloadInit => exact SdoClient.quiet_of_pendingTx rfl (by rw [cs_downloadSegment]; decide)
  | downloadMore => exact SdoClient.quiet_of_pendingTx rfl (by rw [cs_downloadSegment]; decide)

end Client

/-! ### The abort is lost -/

section Run

variable {T : CanTransport φ ε} {tgt : Target}

/-- The client has aborted, and `drive` has said so. -/
def DriveState.ClientAborted (d : DriveState ε) : Prop :=
  ∃ code, d.result = some (.error (.sdo (.clientAborted code)))

theorem ofClient_clientAborted {r : SdoResult (Option SdoOutcome)} {c : SdoClient} :
    (DriveState.ofClient r c : DriveState ε).ClientAborted
      ↔ ∃ code, r = .error (.clientAborted code) := by
  unfold DriveState.ClientAborted DriveState.ofClient
  split <;> simp

theorem ofClient_result {r : SdoResult (Option SdoOutcome)} {c : SdoClient}
    (h : (DriveState.ofClient r c : DriveState ε).result = none) : r = .ok none := by
  unfold DriveState.ofClient at h
  split at h
  · rfl
  · cases h
  · cases h

/-- The one thing a step of `drive` can do: hand the pending frame over, or wake up. -/
theorem driveMachine_step_cases {d d' : DriveState ε} {a : DriveAction φ ε} {e : DriveEvent φ}
    (hs : (driveMachine T tgt).step d a = some (e, d')) :
    d.result = none ∧
      ((∃ out r, d.client.pendingTx = some out ∧ a = .sent r ∧
          driveSend T { d.client with pendingTx := none } out r = (e, d')) ∨
        ∃ w, d.client.pendingTx = none ∧ a = .woken w ∧ e = .nothing ∧
          driveWake T tgt d.client w = some d') := by
  obtain ⟨⟨cfg, state, tx, dl⟩, result⟩ := d
  rcases result with - | r <;> rcases tx with - | out <;> rcases a with r' | w <;>
    simp [driveMachine, SdoClient.pollTransmit] at hs ⊢
  · exact ⟨hs.2.symm, hs.1⟩
  · exact hs

/-- A frame that is drained is the one that was pending, and after it nothing is. -/
theorem driveSend_spec {c : SdoClient} {out : SdoFrame} {r : Except ε Unit} {e : DriveEvent φ}
    {d' : DriveState ε} (hc : c.pendingTx = none) (hcs : out.cs ≠ csAbort)
    (hs : driveSend T c out r = (e, d')) :
    d'.client.Quiet ∧ ¬ e.IsAbort ∧ ¬ d'.ClientAborted := by
  unfold driveSend at hs
  split at hs
  · cases hs
    exact ⟨SdoClient.quiet_of_none hc, id, by simp [DriveState.ClientAborted]⟩
  · split at hs <;> cases hs <;>
      exact ⟨SdoClient.quiet_of_none hc, hcs, by simp [DriveState.ClientAborted]⟩

/-- A wake-up ends `drive` with an abort of the client exactly on an abort exit, and
goes on only without an abort pending. -/
theorem driveWake_spec {d d' : DriveState ε} {w : Wake φ ε} (hq : d.client.Quiet)
    (hs : driveWake T tgt d.client w = some d') :
    (d'.result = none → d'.client.Quiet) ∧ (d'.ClientAborted ↔ AbortExit T d (.woken w)) := by
  rcases w with (e | frame) | now
  · -- the receiver fails
    cases hs
    exact ⟨fun h => (by cases h), iff_of_false (by simp [DriveState.ClientAborted]) id⟩
  · -- a frame arrives
    next now =>
    unfold driveWake at hs
    unfold AbortExit
    cases hf : canToSdo T frame with
    | none =>
      simp only [hf] at hs ⊢
      cases hs
      exact ⟨fun _ => hq, iff_of_false (by simp [DriveState.ClientAborted]) (by simp)⟩
    | some f =>
      cases hx : d.client.handleFrame tgt f now with
      | error p => simp [hf, hx] at hs
      | ok x =>
        obtain ⟨r, c⟩ := x
        simp only [hf, hx] at hs
        cases hs
        have hstep := SdoClient.handleFrame_eq_ok_iff.mp hx
        constructor
        · intro h
          obtain rfl := ofClient_result h
          exact hstep.quiet hq
        · rw [ofClient_clientAborted, hstep.clientAborted_iff]
          simp [hf]
  · -- the deadline, which may have been reached a little early
    unfold driveWake at hs
    unfold AbortExit
    cases hdl : d.client.deadline with
    | none => simp [SdoClient.pollTimeout, hdl] at hs
    | some dl =>
      simp only [SdoClient.pollTimeout, hdl, SdoClient.handleTimeout] at hs
      by_cases hlt : now < dl
      · rw [if_pos hlt] at hs
        cases hs
        exact ⟨fun _ => hq, iff_of_false (by simp [DriveState.ClientAborted, DriveState.ofClient])
          (by simpa using hlt)⟩
      · rw [if_neg hlt] at hs
        cases hs
        refine ⟨fun h => (by cases h), iff_of_true ⟨_, rfl⟩ ⟨dl, rfl, ?_⟩⟩
        simpa using hlt

/-- What holds along every run of `drive`: no abort is pending while it goes on, none
has been handed over, and it has ended with an abort of the client exactly if it took
an abort exit. -/
structure DriveInv (T : CanTransport φ ε) (tgt : Target) (c : SdoClient)
    (h : List (DriveAction φ ε × DriveEvent φ)) (d : DriveState ε) : Prop where
  quiet : d.result = none → d.client.Quiet
  noAbort : ∀ x ∈ h, ¬ x.2.IsAbort
  exit : d.ClientAborted ↔ (driveMachine T tgt).Takes (.init c) (AbortExit T) h

/-- One step keeps the invariant. -/
theorem DriveInv.step {c : SdoClient} {h : List (DriveAction φ ε × DriveEvent φ)}
    {d d' : DriveState ε} {a : DriveAction φ ε} {e : DriveEvent φ} (hi : DriveInv T tgt c h d)
    (hr : (driveMachine T tgt).Run (.init c) h d)
    (hs : (driveMachine T tgt).step d a = some (e, d')) :
    DriveInv T tgt c (h ++ [(a, e)]) d' := by
  obtain ⟨hres, hcases⟩ := driveMachine_step_cases hs
  have hq := hi.quiet hres
  have hno : ¬ (driveMachine T tgt).Takes (.init c) (AbortExit T) h := by
    rw [← hi.exit, DriveState.ClientAborted, hres]
    simp
  -- it has not returned before, so what has been taken is what this step takes
  have key : (d'.result = none → d'.client.Quiet) ∧ ¬ e.IsAbort ∧
      (d'.ClientAborted ↔ AbortExit T d a) := by
    rcases hcases with ⟨out, r, htx, rfl, hsend⟩ | ⟨w, htx, rfl, rfl, hwake⟩
    · obtain ⟨h₁, h₂, h₃⟩ := driveSend_spec rfl (hq out htx) hsend
      exact ⟨fun _ => h₁, h₂, iff_of_false h₃ id⟩
    · exact ⟨(driveWake_spec hq hwake).1, id, (driveWake_spec hq hwake).2⟩
  refine ⟨key.1, ?_, ?_⟩
  · intro x hx
    rcases List.mem_append.mp hx with hx | hx
    · exact hi.noAbort x hx
    · obtain rfl := List.mem_singleton.mp hx
      exact key.2.1
  · rw [key.2.2, hr.takes_snoc, or_iff_right hno]

theorem driveInv_of_run {nodeId : UInt8} {idx : UInt16} {sub : UInt8} {c : SdoClient}
    {h : List (DriveAction φ ε × DriveEvent φ)} {d : DriveState ε} (hc : Started nodeId idx sub c)
    (hr : (driveMachine T tgt).Run (.init c) h d) : DriveInv T tgt c h d := by
  induction hr with
  | start =>
    refine ⟨fun _ => hc.quiet, by simp, iff_of_false ?_ Machine.not_takes_nil⟩
    simp [DriveState.ClientAborted, DriveState.init]
  | snoc hr hs ih => exact ih.step hr hs

/-- **The abort of a transfer is handed to the bus exactly in the runs on which the
client has nothing to abort**: on no wake-up has the deadline passed, does an upload
segment or a download ack have the wrong toggle, or a final upload segment the wrong
total.  On every other run the abort frame is still pending when `drive` returns. -/
theorem abortHandedOver_iff {nodeId : UInt8} {idx : UInt16} {sub : UInt8} {c : SdoClient}
    {h : List (DriveAction φ ε × DriveEvent φ)} {d : DriveState ε} (hc : Started nodeId idx sub c)
    (hr : (driveMachine T tgt).Run (.init c) h d) :
    AbortHandedOver nodeId idx sub h d
      ↔ ¬ (driveMachine T tgt).Takes (.init c) (AbortExit T) h := by
  have hi := driveInv_of_run hc hr
  rw [← hi.exit]
  constructor
  · rintro hh ⟨code, hres⟩
    obtain ⟨a, frame, hmem⟩ := hh code hres
    exact hi.noAbort _ hmem (SdoFrame.cs_abort _ idx sub code)
  · intro hno code hres
    exact absurd ⟨code, hres⟩ hno

end Run

/-! ### A timeout -/

/-- A transport whose frames are their identifier and data. -/
def pairTransport : CanTransport (CanId × List UInt8) Unit where
  newData := fun id data => if data.length ≤ 8 then .ok (id, data) else .error ()
  isData := fun _ => true
  id := Prod.fst
  data := Prod.snd

/-- The client of `upload_bytes` on object 0x1018/1 of node 0x10, with the default
timeout. -/
def uploadClient : SdoClient := (SdoClient.new (configFrom none)).uploadStarted 0x10 0x1018 1 0

theorem started_uploadClient : Started 0x10 0x1018 1 uploadClient :=
  .upload none 0 rfl

/-- The request of `uploadClient`. -/
def sentRequest : SdoFrame := ⟨0x610, Enc.initUpload 0x1018 1⟩

/-- The request is sent, and nothing comes back for 150 ms. -/
def timeoutHistory :
    List (DriveAction (CanId × List UInt8) Unit × DriveEvent (CanId × List UInt8)) :=
  [(.sent (.ok ()), .handedOver sentRequest (.standard 0x610, sentRequest.data.data)),
    (.woken (.expiry 150000000), .nothing)]

/-- `drive` has returned, and the abort frame is still pending. -/
def timeoutEnd : DriveState Unit where
  client := ⟨SdoConfig.default, .idle,
    some ⟨0x610, Wire.abort 0x1018 1 .protocolTimeout⟩, none⟩
  result := some (.error (.sdo (.clientAborted .protocolTimeout)))

theorem run_timeout (tgt : Target) :
    (driveMachine pairTransport tgt).Run (.init uploadClient) timeoutHistory timeoutEnd := by
  have h : (driveMachine pairTransport tgt).exec (.init uploadClient)
      [.sent (.ok ()), .woken (.expiry 150000000)] = some (timeoutHistory, timeoutEnd) := rfl
  exact Machine.run_of_exec h

/-- Its abort is never handed to the bus. -/
theorem abort_lost_on_timeout :
    Started 0x10 0x1018 1 uploadClient ∧
      (driveMachine pairTransport .bits64).Run (.init uploadClient) timeoutHistory timeoutEnd ∧
        ¬ AbortHandedOver 0x10 0x1018 1 timeoutHistory timeoutEnd := by
  refine ⟨started_uploadClient, run_timeout .bits64, ?_⟩
  intro h
  obtain ⟨a, frame, hmem⟩ := h .protocolTimeout rfl
  have hreq : (⟨SdoFrame.rsdoId 0x10, Wire.abort 0x1018 1 .protocolTimeout⟩ : SdoFrame)
      ≠ sentRequest := by decide
  simp [timeoutHistory, hreq] at hmem

theorem abortHandedOver_iff_timeout :
    AbortHandedOver 0x10 0x1018 1 timeoutHistory timeoutEnd
      ↔ ¬ (driveMachine pairTransport .bits64).Takes (.init uploadClient) (AbortExit pairTransport)
        timeoutHistory :=
  abortHandedOver_iff started_uploadClient (run_timeout .bits64)

end CanopenSdo
