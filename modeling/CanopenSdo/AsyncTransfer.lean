import CanopenSdo.Asynch
import CanopenSdo.DownloadStream
import CanopenSdo.UploadResult

/-!
# The async transfers

`upload_bytes` and `download_bytes` make a client, subscribe to the node, start the
transfer and hand the client to `drive`.  What `drive` does to the client is a run of it
with the pending frame taken after each call: what it hands to the bus are the frames that
were taken, in order, and what it returns is what the last call returned.  So what is known
of the client against any peer holds of these functions on any transport.

## Main definitions

* `handedOver`, `arrived` — the frames that `drive` hands to the bus and gets from it.
* `DriveTrace` — a run of `drive`, as a run of the client.
* `bytesMachine`, `uploadBytes`, `downloadBytes`.

## Main results

* `driveTrace_of_run` — **every run of `drive` is one of the client.**
* `uploadBytes_completed` — **what `upload_bytes` returns was completed by the frames that
  arrived.**
* `downloadBytes_completed` — **what `download_bytes` has handed to the bus when it returns
  `Ok` is the whole download.**
* `bytes_step_isSome` — the branches declared unreachable are.
-/

namespace CanopenSdo

open Wire

variable {φ ε : Type}

/-! ### The frames of a run of `drive` -/

/-- The frame that is handed to `bus.send`. -/
def DriveEvent.frame? : DriveEvent φ → Option SdoFrame
  | .handedOver out _ => some out
  | .nothing => none

/-- The SDO frame that arrives. -/
def DriveAction.arrival? (T : CanTransport φ ε) : DriveAction φ ε → Option SdoFrame
  | .woken (.recv (.ok frame) _) => canToSdo T frame
  | _ => none

/-- The frames that were handed to `bus.send`, also where it has failed. -/
def handedOver (h : List (DriveAction φ ε × DriveEvent φ)) : List SdoFrame :=
  h.filterMap fun x => x.2.frame?

/-- The SDO frames that have arrived. -/
def arrived (T : CanTransport φ ε) (h : List (DriveAction φ ε × DriveEvent φ)) : List SdoFrame :=
  h.filterMap fun x => x.1.arrival? T

theorem handedOver_append_singleton (h : List (DriveAction φ ε × DriveEvent φ))
    (a : DriveAction φ ε) (e : DriveEvent φ) :
    handedOver (h ++ [(a, e)]) = handedOver h ++ e.frame?.toList := by
  rw [handedOver, List.filterMap_append]
  cases he : e.frame? <;> simp [handedOver, he]

theorem arrived_append_singleton (T : CanTransport φ ε) (h : List (DriveAction φ ε × DriveEvent φ))
    (a : DriveAction φ ε) (e : DriveEvent φ) :
    arrived T (h ++ [(a, e)]) = arrived T h ++ (a.arrival? T).toList := by
  rw [arrived, List.filterMap_append]
  cases ha : a.arrival? T <;> simp [arrived, ha]

/-! ### A run of `drive` is one of the client -/

/-- What `drive` returns when the client answers a call so, if it returns. -/
def returnOf : SdoResult (Option SdoOutcome) → Option (Except (AsyncSdoError ε) SdoOutcome)
  | .ok none => none
  | .ok (some outcome) => some (.ok outcome)
  | .error e => some (.error (.sdo e))

/-- The run of `drive` with the history `h` to `d`, from a client with the request `f₀`
pending, as a run of the client on which it goes on with its transfer. -/
inductive DriveTrace (T : CanTransport φ ε) (tgt : Target) (c₀ : SdoClient) (f₀ : SdoFrame)
    (h : List (DriveAction φ ε × DriveEvent φ)) (d : DriveState ε) : Prop
  /-- It goes on; only the pending frame is still to be handed over. -/
  | going {hc : List (ClientAction × ClientEvent)}
      (hr : (clientMachine tgt).Run c₀.drained hc d.client.drained)
      (hcalm : ∀ x ∈ hc, x.2.result = .ok none) (harr : arrived T h = received hc)
      (hall : handedOver h ++ d.client.pendingTx.toList = f₀ :: emitted hc)
      (hd : d.result = none) : DriveTrace T tgt c₀ f₀ h d
  /-- It has returned what the last call on the client has. -/
  | returned {hc : List (ClientAction × ClientEvent)} {c c' : SdoClient} {a : ClientAction}
      {e : ClientEvent} (hr : (clientMachine tgt).Run c₀.drained hc c)
      (hcalm : ∀ x ∈ hc, x.2.result = .ok none)
      (hs : (clientMachine tgt).step c a = some (e, c'))
      (harr : arrived T h = received hc ++ a.frame?.toList) (hall : handedOver h = f₀ :: emitted hc)
      (hd : d.result = returnOf e.result) (hne : e.result ≠ .ok none) :
      DriveTrace T tgt c₀ f₀ h d
  /-- The bus has failed, and a frame may be lost. -/
  | failed {hc : List (ClientAction × ClientEvent)} {c : SdoClient} {err : ε}
      (hr : (clientMachine tgt).Run c₀.drained hc c) (hcalm : ∀ x ∈ hc, x.2.result = .ok none)
      (harr : arrived T h = received hc) (hall : handedOver h <+: f₀ :: emitted hc)
      (hd : d.result = some (.error (.io err))) : DriveTrace T tgt c₀ f₀ h d

section Drive

variable {T : CanTransport φ ε} {tgt : Target} {c₀ : SdoClient} {f₀ : SdoFrame}
  {h : List (DriveAction φ ε × DriveEvent φ)} {d d' : DriveState ε}
  {hc : List (ClientAction × ClientEvent)} {a : DriveAction φ ε} {e : DriveEvent φ}

theorem eq_of_returnOf {r : SdoResult (Option SdoOutcome)}
    (hr : (returnOf r : Option (Except (AsyncSdoError ε) SdoOutcome)) = none) : r = .ok none := by
  rcases r with err | - | out
  · cases hr
  · rfl
  · cases hr

theorem eq_of_returnOf_ok {r : SdoResult (Option SdoOutcome)} {outcome : SdoOutcome}
    (hr : (returnOf r : Option (Except (AsyncSdoError ε) SdoOutcome)) = some (.ok outcome)) :
    r = .ok (some outcome) := by
  rcases r with err | - | out
  · cases hr
  · cases hr
  · cases hr
    rfl

theorem ofClient_eq (r : SdoResult (Option SdoOutcome)) (c : SdoClient) :
    (DriveState.ofClient r c : DriveState ε) = ⟨c, returnOf r⟩ := by
  rcases r with err | - | out <;> rfl

/-- A pending frame is handed over, or lost. -/
theorem driveTrace_send (hr : (clientMachine tgt).Run c₀.drained hc d.client.drained)
    (hcalm : ∀ x ∈ hc, x.2.result = .ok none) (harr : arrived T h = received hc)
    {out : SdoFrame} (hall : handedOver h ++ [out] = f₀ :: emitted hc) {r : Except ε Unit}
    (hs : driveSend T d.client.drained out r = (e, d')) :
    DriveTrace T tgt c₀ f₀ (h ++ [(.sent r, e)]) d' := by
  have harr' : arrived T (h ++ [(.sent r, e)]) = received hc := by
    rw [arrived_append_singleton, ← harr]
    exact List.append_nil _
  unfold driveSend at hs
  split at hs
  · obtain ⟨rfl, rfl⟩ := Prod.mk.inj hs
    refine .failed hr hcalm harr' ?_ rfl
    rw [handedOver_append_singleton, ← hall]
    exact (List.prefix_append_right_inj _).mpr List.nil_prefix
  · have hone : ∀ frame, handedOver (h ++ [(.sent r, .handedOver out frame)]) = f₀ :: emitted hc := by
      intro frame
      rw [handedOver_append_singleton]
      exact hall
    split at hs
    · obtain ⟨rfl, rfl⟩ := Prod.mk.inj hs
      exact .failed hr hcalm harr' ((hone _).symm ▸ List.prefix_refl _) rfl
    · obtain ⟨rfl, rfl⟩ := Prod.mk.inj hs
      exact .going hr hcalm harr' (by simpa using hone _) rfl

/-- A call on the client whose answer `drive` deals with. -/
theorem driveTrace_call (hr : (clientMachine tgt).Run c₀.drained hc d.client)
    (hcalm : ∀ x ∈ hc, x.2.result = .ok none) (harr : arrived T h = received hc)
    (hall : handedOver h = f₀ :: emitted hc) {ca : ClientAction}
    {r : SdoResult (Option SdoOutcome)} {c₁ : SdoClient}
    (hs : (clientMachine tgt).step d.client ca = some (⟨r, c₁.pendingTx⟩, c₁.drained))
    (ha : a.arrival? T = ca.frame?) :
    DriveTrace T tgt c₀ f₀ (h ++ [(a, .nothing)]) (.ofClient r c₁) := by
  have hno : handedOver (h ++ [(a, .nothing)]) = f₀ :: emitted hc := by
    rw [handedOver_append_singleton]
    exact (List.append_nil _).trans hall
  have harr' : arrived T (h ++ [(a, .nothing)]) = received hc ++ ca.frame?.toList := by
    rw [arrived_append_singleton, harr, ha]
  rw [ofClient_eq]
  rcases r with err | - | out
  · exact .returned hr hcalm hs harr' hno rfl nofun
  · -- the transfer goes on
    refine .going (hr.snoc hs) ?_ ?_ ?_ rfl
    · intro x hx
      rcases List.mem_append.mp hx with hx | hx
      · exact hcalm x hx
      · obtain rfl := List.mem_singleton.mp hx
        rfl
    · rw [harr', received_append_singleton]
    · rw [hno, emitted_append_singleton]
      rfl
  · exact .returned hr hcalm hs harr' hno rfl nofun

/-- **Every step of `drive` is one of the client, or none.** -/
theorem DriveTrace.step (ht : DriveTrace T tgt c₀ f₀ h d)
    (hs : (driveMachine T tgt).step d a = some (e, d')) :
    DriveTrace T tgt c₀ f₀ (h ++ [(a, e)]) d' := by
  obtain ⟨hd, hcases⟩ := driveMachine_step_cases hs
  cases ht with
  | returned hr hcalm hs' harr hall hres hne =>
    -- `drive` goes on with no result only
    exact absurd (eq_of_returnOf (hres.symm.trans hd)) hne
  | failed hr hcalm harr hall hres =>
    rw [hd] at hres
    cases hres
  | @going hc hr hcalm harr hall hres =>
    rcases hcases with ⟨out, r, htx, rfl, hsend⟩ | ⟨w, htx, rfl, rfl, hwake⟩
    · rw [htx, Option.toList_some] at hall
      exact driveTrace_send hr hcalm harr hall hsend
    · rw [htx, Option.toList_none, List.append_nil] at hall
      have hno : handedOver (h ++ [(.woken w, .nothing)]) = f₀ :: emitted hc := by
        rw [handedOver_append_singleton]
        exact (List.append_nil _).trans hall
      rw [SdoClient.drained_of_none htx] at hr
      rcases w with (err | frame) | now
      · -- the receiver fails
        cases hwake
        refine .failed hr hcalm ?_ (hno ▸ List.prefix_refl _) rfl
        rw [arrived_append_singleton, harr]
        exact List.append_nil _
      · next now =>
        unfold driveWake at hwake
        cases hf : canToSdo T frame with
        | none =>
          simp only [hf, Option.some.injEq] at hwake
          subst hwake
          have hr' : (clientMachine tgt).Run c₀.drained hc d.client.drained := by
            rwa [SdoClient.drained_of_none htx]
          refine .going hr' hcalm ?_ ?_ rfl
          · rw [arrived_append_singleton, harr]
            simp [DriveAction.arrival?, hf]
          · rw [htx, hno]
            exact List.append_nil _
        | some f =>
          rcases hx : d.client.handleFrame tgt f now with p | ⟨r, c₁⟩
          · simp [hf, hx] at hwake
          · simp only [hf, hx, Option.some.injEq] at hwake
            subst hwake
            refine driveTrace_call hr hcalm harr hall
              (SdoClient.handleFrame_eq_ok_iff.mp hx).clientStep ?_
            simp [ClientAction.frame?, DriveAction.arrival?, hf]
      · -- the deadline
        unfold driveWake at hwake
        cases hdl : d.client.pollTimeout with
        | none => simp [hdl] at hwake
        | some dl =>
          simp only [hdl, Option.some.injEq] at hwake
          subst hwake
          have hs : (clientMachine tgt).step d.client (.handleTimeout now)
              = some (⟨(d.client.handleTimeout now).1, (d.client.handleTimeout now).2.pendingTx⟩,
                (d.client.handleTimeout now).2.drained) := rfl
          exact driveTrace_call hr hcalm harr hall hs rfl

/-- **Every run of `drive` is one of the client.** -/
theorem driveTrace_of_run (hf : c₀.pendingTx = some f₀)
    (hr : (driveMachine T tgt).Run (.init c₀) h d) : DriveTrace T tgt c₀ f₀ h d := by
  refine hr.invariant (P := DriveTrace T tgt c₀ f₀) ?_ fun _ _ _ _ _ ht hs => ht.step hs
  refine .going .start (by simp) rfl ?_ rfl
  simp [DriveState.init, hf, handedOver, emitted]

end Drive

/-! ### `upload_bytes` and `download_bytes` -/

/-- A filter of the transport, on standard identifiers. -/
structure CanFilter where
  id : UInt16
  mask : UInt16
  deriving DecidableEq

/-- What `subscribe_for` asks for: the lower seven bits of the identifier are open. -/
def subscribeFor (nodeId : UInt8) : CanFilter := ⟨SdoFrame.tsdoId nodeId, 0x780⟩

/-- `upload_bytes` or `download_bytes` between two steps. -/
inductive BytesState (ε ρ : Type) where
  | subscribing
  | driving (d : DriveState ε)
  | returned (r : Except (AsyncSdoError ε) ρ)

/-- What their surroundings do next. -/
inductive BytesAction (φ ε : Type) where
  /-- `bus.subscribe` answers `r`; if it is `Ok`, the transfer is started at `now`. -/
  | subscribed (r : Except ε Unit) (now : UInt64)
  | drive (a : DriveAction φ ε)

/-- What a step does to them. -/
inductive BytesEvent (φ : Type) where
  | subscribes (f : CanFilter)
  | drive (e : DriveEvent φ)

variable {ρ : Type}

/-- The state after a step of `drive`.  Where the outcome is declared unreachable there is
none. -/
def BytesState.ofDrive (finish : SdoOutcome → Checked ρ) (d : DriveState ε) :
    Option (BytesState ε ρ) :=
  match d.result with
  | none => some (.driving d)
  | some (.error e) => some (.returned (.error e))
  | some (.ok outcome) =>
    match finish outcome with
    | .error _ => none
    | .ok v => some (.returned (.ok v))

/-- Subscribe, start the transfer with a new client, drive it, and return. -/
def bytesMachine (T : CanTransport φ ε) (tgt : Target) (nodeId : UInt8)
    (start : UInt64 → Checked (SdoResult Unit × SdoClient)) (finish : SdoOutcome → Checked ρ) :
    Machine (BytesState ε ρ) (BytesAction φ ε) (BytesEvent φ) where
  step := fun s a =>
    match s, a with
    | .subscribing, .subscribed r now =>
      match r with
      | .error e => some (.subscribes (subscribeFor nodeId), .returned (.error (.io e)))
      | .ok () =>
        match start now with
        | .error _ => none
        | .ok (.error e, _) => some (.subscribes (subscribeFor nodeId), .returned (.error (.sdo e)))
        | .ok (.ok (), c) => some (.subscribes (subscribeFor nodeId), .driving (.init c))
    | .driving d, .drive a =>
      match (driveMachine T tgt).step d a with
      | none => none
      | some (e, d') => (BytesState.ofDrive finish d').map fun s => (.drive e, s)
    | _, _ => none

/-- `begin_upload` on a new client. -/
def startUpload (nodeId : UInt8) (idx : UInt16) (sub : UInt8) (timeout : Option ℕ)
    (now : UInt64) : Checked (SdoResult Unit × SdoClient) :=
  pure ((SdoClient.new (configFrom timeout)).beginUpload nodeId idx sub now)

/-- `begin_download` on a new client. -/
def startDownload (nodeId : UInt8) (idx : UInt16) (sub : UInt8) (data : List UInt8)
    (timeout : Option ℕ) (now : UInt64) : Checked (SdoResult Unit × SdoClient) :=
  (SdoClient.new (configFrom timeout)).beginDownload nodeId idx sub data now

/-- The outcome of an upload. -/
def finishUpload : SdoOutcome → Checked (List UInt8)
  | .uploadCompleted data => .ok data
  | .downloadCompleted => .error .unreachable

/-- The outcome of a download. -/
def finishDownload : SdoOutcome → Checked Unit
  | .downloadCompleted => .ok ()
  | .uploadCompleted _ => .error .unreachable

/-- Read an object of a node. -/
def uploadBytes (T : CanTransport φ ε) (tgt : Target) (nodeId : UInt8) (idx : UInt16) (sub : UInt8)
    (timeout : Option ℕ) : Machine (BytesState ε (List UInt8)) (BytesAction φ ε) (BytesEvent φ) :=
  bytesMachine T tgt nodeId (startUpload nodeId idx sub timeout) finishUpload

/-- Write an object of a node. -/
def downloadBytes (T : CanTransport φ ε) (tgt : Target) (nodeId : UInt8) (idx : UInt16)
    (sub : UInt8) (data : List UInt8) (timeout : Option ℕ) :
    Machine (BytesState ε Unit) (BytesAction φ ε) (BytesEvent φ) :=
  bytesMachine T tgt nodeId (startDownload nodeId idx sub data timeout) finishDownload

/-- The step of `drive` that a step is, if it is one. -/
def driveStep? : BytesAction φ ε × BytesEvent φ → Option (DriveAction φ ε × DriveEvent φ)
  | (.drive a, .drive e) => some (a, e)
  | _ => none

/-- The steps of `drive` in a run. -/
def driveSteps (h : List (BytesAction φ ε × BytesEvent φ)) :
    List (DriveAction φ ε × DriveEvent φ) :=
  h.filterMap driveStep?

theorem driveSteps_append_singleton (h : List (BytesAction φ ε × BytesEvent φ))
    (a : DriveAction φ ε) (e : DriveEvent φ) :
    driveSteps (h ++ [(.drive a, .drive e)]) = driveSteps h ++ [(a, e)] := by
  simp [driveSteps, driveStep?]

/-- What a run is: it has not subscribed, it has failed before it drives, or it is a run of
`drive`, with a client on which the transfer was started. -/
inductive BytesTrace (T : CanTransport φ ε) (tgt : Target)
    (start : UInt64 → Checked (SdoResult Unit × SdoClient)) (finish : SdoOutcome → Checked ρ)
    (h : List (BytesAction φ ε × BytesEvent φ)) : BytesState ε ρ → Prop
  | subscribing (hh : h = []) : BytesTrace T tgt start finish h .subscribing
  | notSubscribed {err : ε} (hh : driveSteps h = []) :
      BytesTrace T tgt start finish h (.returned (.error (.io err)))
  | notStarted {now : UInt64} {err : SdoError} {c : SdoClient} (hh : driveSteps h = [])
      (hs : start now = .ok (.error err, c)) :
      BytesTrace T tgt start finish h (.returned (.error (.sdo err)))
  | started {now : UInt64} {c : SdoClient} {d : DriveState ε} {s : BytesState ε ρ}
      (hs : start now = .ok (.ok (), c))
      (hr : (driveMachine T tgt).Run (.init c) (driveSteps h) d)
      (hd : BytesState.ofDrive finish d = some s) : BytesTrace T tgt start finish h s

section Bytes

variable {T : CanTransport φ ε} {tgt : Target} {nodeId : UInt8}
  {start : UInt64 → Checked (SdoResult Unit × SdoClient)} {finish : SdoOutcome → Checked ρ}
  {h : List (BytesAction φ ε × BytesEvent φ)} {s s' : BytesState ε ρ} {a : BytesAction φ ε}
  {e : BytesEvent φ}

theorem BytesState.eq_of_ofDrive {d d' : DriveState ε}
    (h : BytesState.ofDrive finish d = some (.driving d')) : d = d' := by
  unfold ofDrive at h
  split at h
  · exact BytesState.driving.inj (Option.some.inj h)
  · cases h
  · split at h <;> cases h

theorem BytesState.ofDrive_ne_subscribing (d : DriveState ε) :
    BytesState.ofDrive finish d ≠ some .subscribing := by
  intro h
  unfold ofDrive at h
  split at h
  · cases h
  · cases h
  · split at h <;> cases h

theorem BytesTrace.step (ht : BytesTrace T tgt start finish h s)
    (hs : (bytesMachine T tgt nodeId start finish).step s a = some (e, s')) :
    BytesTrace T tgt start finish (h ++ [(a, e)]) s' := by
  cases ht with
  | notSubscribed | notStarted => simp [bytesMachine] at hs
  | subscribing hh =>
    subst hh
    cases a with
    | drive a => cases hs
    | subscribed r now =>
      rcases r with err | u
      · cases hs
        exact .notSubscribed rfl
      · rcases hst : start now with p | ⟨err | u, c⟩
        · simp [bytesMachine, hst] at hs
        · simp only [bytesMachine, hst, Option.some.injEq, Prod.mk.injEq] at hs
          obtain ⟨rfl, rfl⟩ := hs
          exact .notStarted rfl hst
        · simp only [bytesMachine, hst, Option.some.injEq, Prod.mk.injEq] at hs
          obtain ⟨rfl, rfl⟩ := hs
          exact .started hst .start rfl
  | @started now c d _ hst hr hd =>
    cases s with
    | subscribing =>
      exact absurd hd (BytesState.ofDrive_ne_subscribing d)
    | returned r => simp [bytesMachine] at hs
    | driving d₁ =>
      obtain rfl := BytesState.eq_of_ofDrive hd
      cases a with
      | subscribed r now => cases hs
      | drive a =>
        rcases hx : (driveMachine T tgt).step d a with - | ⟨e', d'⟩
        · simp [bytesMachine, hx] at hs
        · simp only [bytesMachine, hx, Option.map_eq_some_iff, Prod.mk.injEq] at hs
          obtain ⟨s₁, hs₁, rfl, rfl⟩ := hs
          refine .started hst ?_ hs₁
          rw [driveSteps_append_singleton]
          exact hr.snoc hx

theorem bytesTrace_of_run (hr : (bytesMachine T tgt nodeId start finish).Run .subscribing h s) :
    BytesTrace T tgt start finish h s :=
  hr.invariant (P := BytesTrace T tgt start finish) (.subscribing rfl) fun _ _ _ _ _ ht hs =>
    ht.step hs

/-- Where no outcome of `drive` is declared unreachable, it has the steps of `drive`. -/
theorem bytesMachine_step_isSome {d : DriveState ε} {a : DriveAction φ ε}
    (hfin : ∀ e d' outcome, (driveMachine T tgt).step d a = some (e, d') →
      d'.result = some (.ok outcome) → (finish outcome).isOk) :
    ((bytesMachine T tgt nodeId start finish).step (.driving d) (.drive a)).isSome
      = ((driveMachine T tgt).step d a).isSome := by
  rcases hx : (driveMachine T tgt).step d a with - | ⟨e, d'⟩
  · simp [bytesMachine, hx]
  · rcases hres : d'.result with - | err | outcome
    · simp [bytesMachine, hx, BytesState.ofDrive, hres]
    · simp [bytesMachine, hx, BytesState.ofDrive, hres]
    · have hok := hfin e d' outcome hx hres
      rcases hv : finish outcome with p | v
      · simp [hv, Except.isOk, Except.toBool] at hok
      · simp [bytesMachine, hx, BytesState.ofDrive, hres, hv]

/-- It has returned a value only if `drive` has an outcome, and that is the value. -/
theorem BytesTrace.returned {v : ρ} (ht : BytesTrace T tgt start finish h (.returned (.ok v))) :
    ∃ now c d outcome, start now = .ok (.ok (), c) ∧
      (driveMachine T tgt).Run (.init c) (driveSteps h) d ∧ d.result = some (.ok outcome) ∧
        finish outcome = .ok v := by
  cases ht with
  | @started now c d _ hst hr hd =>
    refine ⟨now, c, d, ?_⟩
    unfold BytesState.ofDrive at hd
    split at hd
    · cases hd
    · cases hd
    · next outcome ho =>
      refine ⟨outcome, hst, hr, ho, ?_⟩
      split at hd
      · cases hd
      · next v' hv =>
        cases hd
        exact hv

/-- While it drives, it does what `drive` does. -/
theorem BytesTrace.driving {d : DriveState ε}
    (ht : BytesTrace T tgt start finish h (.driving d)) :
    ∃ now c, start now = .ok (.ok (), c) ∧
      (driveMachine T tgt).Run (.init c) (driveSteps h) d := by
  cases ht with
  | started hst hr hd =>
    obtain rfl := BytesState.eq_of_ofDrive hd
    exact ⟨_, _, hst, hr⟩

end Bytes

/-! ### What an upload returns -/

section Upload

variable {T : CanTransport φ ε} {tgt : Target} {nodeId : UInt8} {idx : UInt16} {sub : UInt8}
  {timeout : Option ℕ} {c c₀ : SdoClient} {now₀ : UInt64}

/-- The requests of an upload with `n` segments. -/
def uploadRequests (nodeId : UInt8) (idx : UInt16) (sub : UInt8) (n : ℕ) : List SdoFrame :=
  initUploadRequest nodeId idx sub :: (List.range n).map (segmentRequest nodeId)

/-- **What `drive` returns of an upload** is a value that the last frame that has arrived
completes, and it has handed one request over for each response before it. -/
theorem uploadDrive_outcome {h : List (DriveAction φ ε × DriveEvent φ)} {d : DriveState ε}
    {outcome : SdoOutcome} (hb : c₀.beginUpload nodeId idx sub now₀ = (.ok (), c))
    (hr : (driveMachine T tgt).Run (.init c) h d) (hd : d.result = some (.ok outcome)) :
    ∃ fs f v n, outcome = .uploadCompleted v ∧ arrived T h = fs ++ [f] ∧
      CompletesUpload nodeId idx sub fs f v ∧ handedOver h = uploadRequests nodeId idx sub n ∧
      ((∀ g ∈ fs, ¬ IsInitResponse nodeId idx sub g) → n = 0) ∧
      ∀ init segs, Collecting nodeId idx sub fs init segs → n = segs.length + 1 := by
  obtain ⟨hfirst, hstart⟩ := uploading_start hb
  cases driveTrace_of_run hfirst hr with
  | going _ _ _ _ hres => cases hres.symm.trans hd
  | failed _ _ _ _ hres => cases hres.symm.trans hd
  | @returned hc c₁ c₂ a e hrc _ hs harr hall hres _ =>
    have he : e.result = .ok (some outcome) := eq_of_returnOf_ok (hres.symm.trans hd)
    have hlast : UploadingOrEnded nodeId idx sub hc c₁ :=
      hrc.invariant (P := UploadingOrEnded nodeId idx sub) hstart fun _ _ _ _ _ hc hs =>
        (hc.step hs).1
    obtain ⟨f, now, v, rfl, hv, -, hdone⟩ := (hlast.step hs).2 outcome he
    rcases hlast.state with hidle | ⟨u, -, hu⟩
    · -- a client whose transfer has ended has no outcome
      exact absurd he ((clientStep_of_idle hidle hlast.pendingTx hs).2.2 outcome)
    · cases hu with
      | awaiting hnone hem =>
        refine ⟨received hc, f, v, 0, hv, harr, hdone, ?_, fun _ => rfl, ?_⟩
        · rw [hall, hem]
          rfl
        · intro init segs hcol
          exact absurd hcol.opened (hnone init hcol.mem)
      | @collecting init segs hcol hem =>
        refine ⟨received hc, f, v, segs.length + 1, hv, harr, hdone, ?_, ?_, ?_⟩
        · rw [hall, hem]
          rfl
        · intro hnone
          exact absurd hcol.opened (hnone init hcol.mem)
        · intro init' segs' hcol'
          rw [(hcol.unique hcol').2]

theorem startUpload_eq_ok {r : SdoResult Unit} {now : UInt64}
    (hs : startUpload nodeId idx sub timeout now = .ok (r, c)) :
    (SdoClient.new (configFrom timeout)).beginUpload nodeId idx sub now = (r, c) :=
  Except.ok.inj hs

/-- What the frames of an upload that has returned `v` are: those that have arrived complete
`v`, the last one being `f`, and those that were handed over are the request and one segment
request for each response that was accepted before `f`. -/
def UploadFrames (nodeId : UInt8) (idx : UInt16) (sub : UInt8) (ins outs : List SdoFrame)
    (v : List UInt8) : Prop :=
  ∃ fs f n, ins = fs ++ [f] ∧ CompletesUpload nodeId idx sub fs f v ∧
    outs = uploadRequests nodeId idx sub n ∧
      ((∀ g ∈ fs, ¬ IsInitResponse nodeId idx sub g) → n = 0) ∧
        ∀ init segs, Collecting nodeId idx sub fs init segs → n = segs.length + 1

/-- **What `upload_bytes` returns was completed by the frames that arrived.** -/
theorem uploadBytes_completed {h : List (BytesAction φ ε × BytesEvent φ)} {v : List UInt8}
    (hr : (uploadBytes T tgt nodeId idx sub timeout).Run .subscribing h (.returned (.ok v))) :
    UploadFrames nodeId idx sub (arrived T (driveSteps h)) (handedOver (driveSteps h)) v := by
  obtain ⟨now, c, d, outcome, hst, hrd, hd, hfin⟩ := (bytesTrace_of_run hr).returned
  obtain ⟨fs, f, v', n, rfl, harr, hdone, hall, hn⟩ :=
    uploadDrive_outcome (startUpload_eq_ok hst) hrd hd
  obtain rfl := Except.ok.inj hfin
  exact ⟨fs, f, n, harr, hdone, hall, hn⟩

end Upload

/-! ### What a download hands over -/

section Download

variable {T : CanTransport φ ε} {tgt : Target} {nodeId : UInt8} {idx : UInt16} {sub : UInt8}
  {data : List UInt8} {timeout : Option ℕ} {c c₀ : SdoClient} {now₀ : UInt64}

/-- A client of a download on which no call has failed or completed it still sends. -/
theorem sending_of_calm {hc : List (ClientAction × ClientEvent)} {c₁ c₂ : SdoClient}
    (hs : Sending nodeId idx sub data [] c₁ 0) (hr : (clientMachine tgt).Run c₁ hc c₂)
    (hcalm : ∀ x ∈ hc, x.2.result = .ok none) :
    ∃ p, Sending nodeId idx sub data hc c₂ p := by
  induction hr with
  | start => exact ⟨0, hs⟩
  | @snoc hc c₂ c₃ a e _ hstep ih =>
    obtain ⟨p, hp⟩ := ih fun x hx => hcalm x (List.mem_append_left _ hx)
    have hres : e.result = .ok none := hcalm (a, e) (by simp)
    rcases hp.step hstep with ⟨-, -, h'⟩ | ⟨f, now, -, -, -, h'⟩ | ⟨f, now, -, -, hdone, -⟩ |
      ⟨⟨err, herr⟩, -⟩
    · exact ⟨p, h'⟩
    · exact ⟨p + 1, h'⟩
    · cases hdone.symm.trans hres
    · cases herr.symm.trans hres

theorem Sending.beginning {hc : List (ClientAction × ClientEvent)} {p : ℕ}
    (hs : Sending nodeId idx sub data hc c p) :
    initDownloadRequest nodeId idx sub data :: emitted hc
      <+: downloadSequence nodeId idx sub data := by
  rw [hs.frames, ← take_downloadSequence hs.lt]
  exact List.take_prefix _ _

/-- What `drive` hands over of a download is a beginning of its frames. -/
theorem downloadDrive_handedOver {h : List (DriveAction φ ε × DriveEvent φ)} {d : DriveState ε}
    (hb : c₀.beginDownload nodeId idx sub data now₀ = .ok (.ok (), c))
    (hr : (driveMachine T tgt).Run (.init c) h d) :
    handedOver h <+: downloadSequence nodeId idx sub data := by
  obtain ⟨hfirst, hstart⟩ := sending_start hb
  cases driveTrace_of_run hfirst hr with
  | going hrc hcalm _ hall _ =>
    obtain ⟨p, hp⟩ := sending_of_calm hstart hrc hcalm
    exact (hall ▸ List.prefix_append _ _ : handedOver h <+: _).trans hp.beginning
  | returned hrc hcalm _ _ hall _ _ =>
    obtain ⟨p, hp⟩ := sending_of_calm hstart hrc hcalm
    exact hall ▸ hp.beginning
  | failed hrc hcalm _ hall _ =>
    obtain ⟨p, hp⟩ := sending_of_calm hstart hrc hcalm
    exact hall.trans hp.beginning

/-- **What `drive` returns of a download** is its completion, and then everything has been
handed over and the frame that has arrived last acknowledges the last of it. -/
theorem downloadDrive_outcome {h : List (DriveAction φ ε × DriveEvent φ)} {d : DriveState ε}
    {outcome : SdoOutcome} (hb : c₀.beginDownload nodeId idx sub data now₀ = .ok (.ok (), c))
    (hr : (driveMachine T tgt).Run (.init c) h d) (hd : d.result = some (.ok outcome)) :
    outcome = .downloadCompleted ∧ handedOver h = downloadSequence nodeId idx sub data ∧
      ∃ fs f, arrived T h = fs ++ [f] ∧ Acks nodeId idx sub (downloadCount data - 1) f := by
  obtain ⟨hfirst, hstart⟩ := sending_start hb
  cases driveTrace_of_run hfirst hr with
  | going _ _ _ _ hres => cases hres.symm.trans hd
  | failed _ _ _ _ hres => cases hres.symm.trans hd
  | @returned hc c₁ c₂ a e hrc hcalm hs harr hall hres _ =>
    have he : e.result = .ok (some outcome) := eq_of_returnOf_ok (hres.symm.trans hd)
    obtain ⟨p, hp⟩ := sending_of_calm hstart hrc hcalm
    rcases hp.step hs with ⟨hres', -⟩ | ⟨f, now, -, -, hres', -⟩ |
      ⟨f, now, rfl, hack, hres', hcount, -⟩ | ⟨⟨err, hres'⟩, -⟩
    · cases hres'.symm.trans he
    · subst hres'
      cases he
    · -- the last frame is acknowledged
      cases hres'.symm.trans he
      refine ⟨rfl, ?_, received hc, f, harr, ?_⟩
      · rw [hall, hp.frames, hcount, downloadSequence_eq_map]
      · rwa [← hcount, Nat.add_sub_cancel]
    · cases hres'.symm.trans he

/-- What `download_bytes` hands over is a beginning of its frames. -/
theorem downloadBytes_beginning {h : List (BytesAction φ ε × BytesEvent φ)} {s : BytesState ε Unit}
    (hr : (downloadBytes T tgt nodeId idx sub data timeout).Run .subscribing h s) :
    handedOver (driveSteps h) <+: downloadSequence nodeId idx sub data := by
  cases bytesTrace_of_run hr with
  | subscribing hh => simp [hh, driveSteps, handedOver]
  | notSubscribed hh => simp [hh, handedOver]
  | notStarted hh _ => simp [hh, handedOver]
  | started hst hrd _ => exact downloadDrive_handedOver hst hrd

/-- **When `download_bytes` returns `Ok`**, everything has been handed over, and the SDO frame
that has arrived last acknowledges the last of it. -/
theorem downloadBytes_completed {h : List (BytesAction φ ε × BytesEvent φ)}
    (hr : (downloadBytes T tgt nodeId idx sub data timeout).Run .subscribing h
      (.returned (.ok ()))) :
    handedOver (driveSteps h) = downloadSequence nodeId idx sub data ∧
      ∃ fs f, arrived T (driveSteps h) = fs ++ [f] ∧
        Acks nodeId idx sub (downloadCount data - 1) f := by
  obtain ⟨now, c, d, outcome, hst, hrd, hd, -⟩ := (bytesTrace_of_run hr).returned
  exact (downloadDrive_outcome hst hrd hd).2

end Download

/-! ### The branches declared unreachable -/

/-- **The branches declared unreachable are**: wherever a run has got to, `upload_bytes` and
`download_bytes` have a step exactly if `drive` has. -/
theorem bytes_step_isSome {T : CanTransport φ ε} {tgt : Target} {nodeId : UInt8} {idx : UInt16}
    {sub : UInt8} {data : List UInt8} {timeout : Option ℕ}
    {h : List (BytesAction φ ε × BytesEvent φ)} {d : DriveState ε} (a : DriveAction φ ε) :
    ((uploadBytes T tgt nodeId idx sub timeout).Run .subscribing h (.driving d) →
      ((uploadBytes T tgt nodeId idx sub timeout).step (.driving d) (.drive a)).isSome
        = ((driveMachine T tgt).step d a).isSome) ∧
    ((downloadBytes T tgt nodeId idx sub data timeout).Run .subscribing h (.driving d) →
      ((downloadBytes T tgt nodeId idx sub data timeout).step (.driving d) (.drive a)).isSome
        = ((driveMachine T tgt).step d a).isSome) := by
  constructor
  · intro hr
    obtain ⟨now, c, hst, hrd⟩ := (bytesTrace_of_run hr).driving
    refine bytesMachine_step_isSome fun e d' outcome hs ho => ?_
    obtain ⟨fs, f, v, n, rfl, -⟩ := uploadDrive_outcome (startUpload_eq_ok hst) (hrd.snoc hs) ho
    rfl
  · intro hr
    obtain ⟨now, c, hst, hrd⟩ := (bytesTrace_of_run hr).driving
    refine bytesMachine_step_isSome fun e d' outcome hs ho => ?_
    obtain ⟨rfl, -⟩ := downloadDrive_outcome hst (hrd.snoc hs) ho
    rfl

/-- A download that has just been started. -/
theorem run_begun :
    (downloadBytes pairTransport .bits64 0x10 0x2000 0 [7] none).Run .subscribing
      [(.subscribed (.ok ()) 0, .subscribes (subscribeFor 0x10))]
      (.driving (.init ((SdoClient.new (configFrom none)).downloadStarted 0x10 0x2000 0 [7] 0))) :=
  .snoc .start rfl

theorem bytes_step_isSome_begun :
    ((downloadBytes pairTransport .bits64 0x10 0x2000 0 [7] none).step
      (.driving (.init ((SdoClient.new (configFrom none)).downloadStarted 0x10 0x2000 0 [7] 0)))
      (.drive (.sent (.ok ())))).isSome :=
  ((bytes_step_isSome (.sent (.ok ()))).2 run_begun).trans rfl

end CanopenSdo
