import CanopenSdo.ClientCalls
import CanopenSdo.Transfer

/-!
# Runs of the client

The client as a machine against an arbitrary peer: any frames arrive at any times, and
timeouts between them; the caller takes the pending frame after each call.

## Main definitions

* `ClientAction`, `ClientEvent`, `clientMachine`.
* `received`, `emitted` — the frames a run has delivered and taken.
* `abortFrame`, `ClientEvent.Aborts` — the end of a transfer with an error.

## Main results

* `clientStep_cases` — the steps of the client.
* `aborts_of_error` — **a step that fails emits the abort frame or nothing.**
-/

namespace CanopenSdo

open Wire

/-! ### The machine -/

/-- A call on a client whose transfer has been started. -/
inductive ClientAction where
  | handleFrame (f : SdoFrame) (now : UInt64)
  | handleTimeout (now : UInt64)
  deriving DecidableEq

/-- What a call returns, and the frame that is taken after it. -/
structure ClientEvent where
  result : SdoResult (Option SdoOutcome)
  tx : Option SdoFrame
  deriving DecidableEq

/-- One call, and the poll after it; a call that panics is refused. -/
def clientStep (tgt : Target) (c : SdoClient) : ClientAction → Option (ClientEvent × SdoClient)
  | .handleFrame f now =>
    match c.handleFrame tgt f now with
    | .error _ => none
    | .ok (r, c) =>
      let (tx, c) := c.pollTransmit
      some (⟨r, tx⟩, c)
  | .handleTimeout now =>
    let (r, c) := c.handleTimeout now
    let (tx, c) := c.pollTransmit
    some (⟨r, tx⟩, c)

/-- The client as a machine. -/
def clientMachine (tgt : Target) : Machine SdoClient ClientAction ClientEvent := ⟨clientStep tgt⟩

/-- The frame a client aborts a transfer with. -/
def abortFrame (nodeId : UInt8) (idx : UInt16) (sub : UInt8) (code : SdoAbortCode) : SdoFrame :=
  ⟨SdoFrame.rsdoId nodeId, Wire.abort idx sub code⟩

/-- The transfer has ended with an error: the client has aborted it and emits the abort
frame, or the server has and nothing is emitted. -/
def ClientEvent.Aborts (nodeId : UInt8) (idx : UInt16) (sub : UInt8) (e : ClientEvent) : Prop :=
  (∃ code, e = ⟨.error (.clientAborted code), some (abortFrame nodeId idx sub code)⟩) ∨
    ∃ code, e = ⟨.error (.serverAborted code), none⟩

/-- The frame a call delivers. -/
def ClientAction.frame? : ClientAction → Option SdoFrame
  | .handleFrame f _ => some f
  | .handleTimeout _ => none

/-- The frames that were delivered in a run. -/
def received (h : List (ClientAction × ClientEvent)) : List SdoFrame :=
  h.filterMap fun x => x.1.frame?

/-- The frames that were taken in a run. -/
def emitted (h : List (ClientAction × ClientEvent)) : List SdoFrame :=
  h.filterMap fun x => x.2.tx

theorem received_append_singleton (h : List (ClientAction × ClientEvent)) (a : ClientAction)
    (e : ClientEvent) : received (h ++ [(a, e)]) = received h ++ a.frame?.toList := by
  rw [received, List.filterMap_append]
  cases ha : a.frame? <;> simp [received, ha]

theorem emitted_append_singleton (h : List (ClientAction × ClientEvent)) (a : ClientAction)
    (e : ClientEvent) : emitted (h ++ [(a, e)]) = emitted h ++ e.tx.toList := by
  rw [emitted, List.filterMap_append]
  cases he : e.tx <;> simp [emitted, he]

/-! ### The steps -/

section Steps

variable {tgt : Target} {c c' : SdoClient} {a : ClientAction} {e : ClientEvent} {f : SdoFrame}
  {now : UInt64} {r : SdoResult (Option SdoOutcome)}

/-- A frame takes an exit, and the pending frame is taken. -/
theorem ClientStep.clientStep (h : ClientStep tgt c f now r c') :
    (clientMachine tgt).step c (.handleFrame f now) = some (⟨r, c'.pendingTx⟩, c'.drained) := by
  simp only [clientMachine, CanopenSdo.clientStep, h.handleFrame_eq]
  rfl

/-- **The steps of the client**: a timeout that is not due, one that is, or a frame. -/
theorem clientStep_cases (hs : (clientMachine tgt).step c a = some (e, c')) :
    (∃ now, a = .handleTimeout now ∧ e = ⟨.ok none, c.pendingTx⟩ ∧ c' = c.drained) ∨
      (∃ now, a = .handleTimeout now ∧
        e = ⟨.error (.clientAborted .protocolTimeout), (c.abortWith .protocolTimeout).pendingTx⟩ ∧
        c'.state = .idle) ∨
      ∃ f now r c₁, a = .handleFrame f now ∧ ClientStep tgt c f now r c₁ ∧
        e = ⟨r, c₁.pendingTx⟩ ∧ c' = c₁.drained := by
  cases a with
  | handleFrame f now =>
    rcases hf : c.handleFrame tgt f now with p | ⟨r, c₁⟩
    · simp [clientMachine, CanopenSdo.clientStep, hf] at hs
    · simp only [clientMachine, CanopenSdo.clientStep, hf, SdoClient.pollTransmit,
        Option.some.injEq, Prod.mk.injEq] at hs
      obtain ⟨rfl, rfl⟩ := hs
      exact .inr (.inr ⟨f, now, r, c₁, rfl, SdoClient.handleFrame_eq_ok_iff.mp hf, rfl, rfl⟩)
  | handleTimeout now =>
    rcases c.handleTimeout_cases now with hc | hc
    · simp only [clientMachine, CanopenSdo.clientStep, hc, SdoClient.pollTransmit,
        Option.some.injEq, Prod.mk.injEq] at hs
      obtain ⟨rfl, rfl⟩ := hs
      exact .inl ⟨now, rfl, rfl, rfl⟩
    · simp only [clientMachine, CanopenSdo.clientStep, hc, SdoClient.pollTransmit,
        Option.some.injEq, Prod.mk.injEq] at hs
      obtain ⟨rfl, rfl⟩ := hs
      exact .inr (.inl ⟨now, rfl, rfl, c.state_abortWith _⟩)

/-- An idle client with nothing pending stays so, and reports no outcome. -/
theorem clientStep_of_idle (hc : c.state = .idle) (htx : c.pendingTx = none)
    (hs : (clientMachine tgt).step c a = some (e, c')) :
    c'.state = .idle ∧ e.tx = none ∧ ∀ outcome, e.result ≠ .ok (some outcome) := by
  have habort : ∀ code, c.abortWith code = c := SdoClient.abortWith_of_idle hc
  cases a with
  | handleFrame f now =>
    have hna : ¬ c.Answers f := SdoClient.not_answers_of_idle hc
    have heq := (ClientStep.ignored hna).clientStep.symm.trans hs
    cases heq
    exact ⟨hc, htx, nofun⟩
  | handleTimeout now =>
    rcases c.handleTimeout_cases now with ht | ht
    · simp only [clientMachine, CanopenSdo.clientStep, ht, SdoClient.pollTransmit,
        Option.some.injEq, Prod.mk.injEq] at hs
      obtain ⟨rfl, rfl⟩ := hs
      exact ⟨hc, htx, nofun⟩
    · simp only [clientMachine, CanopenSdo.clientStep, ht, habort, SdoClient.pollTransmit,
        Option.some.injEq, Prod.mk.injEq] at hs
      obtain ⟨rfl, rfl⟩ := hs
      exact ⟨hc, htx, nofun⟩

/-- With an outcome the transfer is over, and nothing is emitted. -/
theorem tx_of_outcome (hs : (clientMachine tgt).step c a = some (e, c')) {outcome : SdoOutcome}
    (ho : e.result = .ok (some outcome)) : e.tx = none := by
  rcases clientStep_cases hs with ⟨now, -, rfl, -⟩ | ⟨now, -, rfl, -⟩ | ⟨f, now, r, c₁, -, hstep, rfl, -⟩
  · cases ho
  · cases ho
  · change r = .ok (some outcome) at ho
    subst ho
    cases hstep <;> rfl

/-- **A step that fails emits the abort frame or nothing.** -/
theorem aborts_of_error {nodeId : UInt8} {idx : UInt16} {sub : UInt8}
    (ht : c.transfer = some (nodeId, idx, sub)) (hs : (clientMachine tgt).step c a = some (e, c'))
    {err : SdoError} (he : e.result = .error err) : e.Aborts nodeId idx sub := by
  obtain ⟨_, _, _, ht', habort⟩ := SdoClient.exists_transfer (c.state_ne_idle_of_transfer ht)
  cases ht.symm.trans ht'
  rcases clientStep_cases hs with ⟨now, -, rfl, -⟩ | ⟨now, -, rfl, -⟩ |
    ⟨f, now, r, c₁, -, hstep, rfl, -⟩
  · cases he
  · rw [habort]
    exact .inl ⟨_, rfl⟩
  · change r = .error err at he
    subst he
    cases hstep.effect with
    | finished _ hr =>
      -- only an abort of the server ends a transfer with an error
      rcases hr with ⟨code, hr⟩ | ⟨-, data, hr⟩ | ⟨-, hr⟩ <;> cases hr
      exact .inr ⟨code, rfl⟩
    | aborted =>
      rw [habort]
      exact .inl ⟨_, rfl⟩

/-- A frame that a step emits when it fails. -/
theorem eq_abortFrame_of_error {nodeId : UInt8} {idx : UInt16} {sub : UInt8}
    (ht : c.transfer = some (nodeId, idx, sub)) (hs : (clientMachine tgt).step c a = some (e, c'))
    {err : SdoError} (he : e.result = .error err) {g : SdoFrame} (hg : e.tx = some g) :
    ∃ code, e.result = .error (.clientAborted code) ∧ g = abortFrame nodeId idx sub code := by
  rcases aborts_of_error ht hs he with ⟨code, rfl⟩ | ⟨code, rfl⟩
  · exact ⟨code, rfl, (Option.some.inj hg).symm⟩
  · cases hg

/-- After every step nothing is pending. -/
theorem pendingTx_of_clientStep (hs : (clientMachine tgt).step c a = some (e, c')) :
    c'.pendingTx = none := by
  cases a with
  | handleFrame f now =>
    rcases hf : c.handleFrame tgt f now with p | ⟨r, c₁⟩
    · simp [clientMachine, CanopenSdo.clientStep, hf] at hs
    · simp only [clientMachine, CanopenSdo.clientStep, hf, SdoClient.pollTransmit,
        Option.some.injEq, Prod.mk.injEq] at hs
      obtain ⟨-, rfl⟩ := hs
      rfl
  | handleTimeout now =>
    simp only [clientMachine, CanopenSdo.clientStep, SdoClient.pollTransmit, Option.some.injEq,
      Prod.mk.injEq] at hs
    obtain ⟨-, rfl⟩ := hs
    rfl

end Steps

end CanopenSdo
