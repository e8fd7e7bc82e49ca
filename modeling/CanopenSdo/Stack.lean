import CanopenSdo.Agreement
import CanopenSdo.CallOrder
import CanopenSdo.Lossless
import CanopenSdo.Refusal
import CanopenSdo.Retry
import Mathlib.Data.List.InsertIdx

/-!
# The stack

The whole of it: a caller that reads or writes an object with retries, the main loop of a
server, and between them a CAN bus that may lose any frame and on which others talk too.
The bus that is modelled with the state machines alone follows every run of it, so that what
is known there of the dictionary calls holds here of the applications.

The CAN transport is assumed to hand back, of a frame that was made of an SDO frame, that SDO
frame.

## Main definitions

* `serveMachine` — the main loop of a server.
* `Net`, `netMachine` — a caller, a server, and the bus between them.
* `Net.Follows` — what the bus of the state machines has to do with it.

## Main results

* `net_simulated` — **a run of the stack is one of the state machines.**
-/

namespace CanopenSdo

open Wire

variable {N : ℕ} {σ φ ε ρ : Type}

/-! ### The server's loop -/

/-- The main loop of a server between two steps; it has returned once `bus.send` has
failed. -/
structure ServeState (N : ℕ) (σ ε : Type) where
  server : SdoServer N
  dict : σ
  failed : Option ε

/-- What a step of it does. -/
inductive ServeEvent (φ : Type) where
  /-- The pending frame `out` was handed to `bus.send`, as `frame`. -/
  | handedOver (out : SdoFrame) (frame : φ)
  /-- The dictionary got these calls. -/
  | called (calls : List OdCall)

/-- Drain one frame the server wants to send. -/
def serveSend (T : CanTransport φ ε) (n : ServeState N σ ε) (out : SdoFrame) (r : Except ε Unit) :
    Option (ServeEvent φ × ServeState N σ ε) :=
  match sdoToCan T out with
  -- `expect`
  | .error _ => none
  | .ok frame =>
    match r with
    | .error e => some (.handedOver out frame, { n with failed := some e })
    | .ok () => some (.handedOver out frame, n)

/-- Wake up with nothing to send.  Errors of the receiver and aborts are logged only. -/
def serveWake (T : CanTransport φ ε) (od : ObjectDictionary σ) (n : ServeState N σ ε) :
    Wake φ ε → Option (ServeEvent φ × ServeState N σ ε)
  | .recv (.error _) _ => some (.called [], n)
  | .recv (.ok frame) now =>
    match canToSdo T frame with
    | none => some (.called [], n)
    | some sdo =>
      match n.server.handleFrame sdo now od.recording (n.dict, []) with
      | .error _ => none
      | .ok ((_, s), (dict, calls)) => some (.called calls, { n with server := s, dict := dict })
  | .expiry now =>
    match n.server.pollTimeout with
    | none => none
    | some _ => some (.called [], { n with server := (n.server.handleTimeout now).2 })

/-- The main loop. -/
def serveMachine (T : CanTransport φ ε) (od : ObjectDictionary σ) :
    Machine (ServeState N σ ε) (DriveAction φ ε) (ServeEvent φ) where
  step := fun n a =>
    match n.failed with
    | some _ => none
    | none =>
      match n.server.pollTransmit, a with
      | (some out, s), .sent r => serveSend T { n with server := s } out r
      | (none, s), .woken w => serveWake T od { n with server := s } w
      | _, _ => none

/-! ### The stack -/

/-- A caller, a server, and the frames between them. -/
structure Net (N : ℕ) (σ φ ε ρ : Type) where
  caller : RetryState ε ρ
  node : ServeState N σ ε
  /-- The frames on their way to the server. -/
  up : List φ
  /-- The frames on their way to the caller. -/
  down : List φ

/-- A caller and a server before the first attempt. -/
def Net.init (s : SdoServer N) (dict : σ) : Net N σ φ ε ρ := ⟨.init, ⟨s, dict, none⟩, [], []⟩

/-- The steps of the stack. -/
inductive NetAction (φ ε : Type) where
  /-- The caller takes a step that gets nothing from the server. -/
  | caller (a : BytesAction φ ε)
  /-- The server takes a step that gets nothing from the caller. -/
  | node (a : DriveAction φ ε)
  /-- The head of a channel is received. -/
  | callerReceives (now : UInt64)
  | nodeReceives (now : UInt64)
  /-- The `i`-th frame of a channel is lost. -/
  | loseUp (i : ℕ)
  | loseDown (i : ℕ)

/-- What a step of the stack is. -/
inductive NetEvent (φ ε : Type) where
  | caller (a : BytesAction φ ε) (e : BytesEvent φ)
  | node (e : ServeEvent φ)
  | lost

/-- The frame is no response of the server. -/
def foreignToCaller (T : CanTransport φ ε) (nodeId : UInt8) (frame : φ) : Bool :=
  (canToSdo T frame).all fun f => SdoFrame.nodeOfTsdo f.cobId ≠ some nodeId

/-- The frame is no request to the server. -/
def foreignToNode (T : CanTransport φ ε) (nodeId : UInt8) (frame : φ) : Bool :=
  (canToSdo T frame).all fun f => SdoFrame.nodeOfRsdo f.cobId ≠ some nodeId

/-- What is received in the step, if anything is, satisfies `p`. -/
def DriveAction.Receives (p : φ → Bool) : DriveAction φ ε → Bool
  | .woken (.recv (.ok frame) _) => p frame
  | _ => true

def BytesAction.Receives (p : φ → Bool) : BytesAction φ ε → Bool
  | .drive a => a.Receives p
  | .subscribed .. => true

/-- Nothing fails, and no timer fires that is `due`. -/
def DriveAction.Quiet (due : UInt64 → Prop) : DriveAction φ ε → Prop
  | .sent (.ok _) => True
  | .woken (.recv (.ok _) _) => True
  -- a timer may be asked before it is due
  | .woken (.expiry now) => ¬ due now
  | _ => False

/-- The caller has a deadline at `now` or before. -/
def BytesState.Due (x : BytesState ε ρ) (now : UInt64) : Prop :=
  ∃ d, x = .driving d ∧ d.client.Due now

def BytesAction.Quiet (x : BytesState ε ρ) : BytesAction φ ε → Prop
  | .subscribed (.ok _) _ => True
  | .subscribed (.error _) _ => False
  | .drive a => a.Quiet x.Due

/-- No frame is lost either. -/
def NetAction.Quiet (net : Net N σ φ ε ρ) : NetAction φ ε → Prop
  | .caller a => a.Quiet net.caller.state
  | .node a => a.Quiet net.node.server.Due
  | .callerReceives _ | .nodeReceives _ => True
  | .loseUp _ | .loseDown _ => False

/-- The frame that is handed to the bus. -/
def BytesEvent.frame? : BytesEvent φ → Option φ
  | .drive (.handedOver _ frame) => some frame
  | _ => none

def ServeEvent.frame? : ServeEvent φ → Option φ
  | .handedOver _ frame => some frame
  | .called _ => none

section Machine

variable (T : CanTransport φ ε) (od : ObjectDictionary σ) (nodeId : UInt8) (retries : UInt8)
  (M : Machine (BytesState ε ρ) (BytesAction φ ε) (BytesEvent φ))

/-- The caller takes a step. -/
def Net.callerStep (net : Net N σ φ ε ρ) (a : BytesAction φ ε) :
    Option (NetEvent φ ε × Net N σ φ ε ρ) :=
  ((retryMachine M retries).step net.caller a).map fun x =>
    (.caller a x.1, { net with caller := x.2, up := net.up ++ x.1.frame?.toList })

/-- The server takes a step. -/
def Net.nodeStep (net : Net N σ φ ε ρ) (a : DriveAction φ ε) :
    Option (NetEvent φ ε × Net N σ φ ε ρ) :=
  ((serveMachine T od).step net.node a).map fun x =>
    (.node x.1, { net with node := x.2, down := net.down ++ x.1.frame?.toList })

/-- The stack of a caller of `M` with retries. -/
def netMachine : Machine (Net N σ φ ε ρ) (NetAction φ ε) (NetEvent φ ε) where
  step := fun net a =>
    match a with
    | .caller a =>
      if a.Receives (foreignToCaller T nodeId) then net.callerStep retries M a else none
    | .node a => if a.Receives (foreignToNode T nodeId) then net.nodeStep T od a else none
    | .callerReceives now =>
      match net.down with
      | [] => none
      | frame :: rest =>
        { net with down := rest }.callerStep retries M (.drive (.woken (.recv (.ok frame) now)))
    | .nodeReceives now =>
      match net.up with
      | [] => none
      | frame :: rest => { net with up := rest }.nodeStep T od (.woken (.recv (.ok frame) now))
    | .loseUp i => some (.lost, { net with up := net.up.eraseIdx i })
    | .loseDown i => some (.lost, { net with down := net.down.eraseIdx i })

end Machine

/-! ### The steps of the caller -/

section Caller

variable {T : CanTransport φ ε} {tgt : Target} {nodeId : UInt8} {retries attempt : UInt8}
  {start : UInt64 → Checked (SdoResult Unit × SdoClient)} {finish : SdoOutcome → Checked ρ}
  {s s' : RetryState ε ρ} {x x' : BytesState ε ρ} {a : BytesAction φ ε} {e : BytesEvent φ}

/-- The state the loop of the retries goes on with. -/
theorem RetryState.next_spec (hx : x ≠ .subscribing)
    (h : RetryState.next retries attempt x = some s') :
    attempt.toNat ≤ s'.attempt.toNat ∧
      (s'.state = .subscribing → attempt.toNat < s'.attempt.toNat) ∧
        (∀ d, s'.state = .driving d ↔ x = .driving d) ∧
          ∀ v, s'.result = some (.ok v) → x = .returned (.ok v) := by
  rcases x with - | d | (err | v)
  · exact absurd rfl hx
  · cases h
    simp
  · simp only [next] at h
    split at h
    · cases h
      simp
    · -- another attempt is made
      obtain ⟨m, hm, rfl⟩ := Option.map_eq_some_iff.mp h
      have hlt : attempt.toNat < m.toNat := by rw [toNat_of_nextAttempt hm]; omega
      exact ⟨hlt.le, fun _ => hlt, by simp, by simp⟩
  · cases h
    simp

/-- What a step of `upload_bytes` or `download_bytes` is. -/
theorem bytesMachine_step_cases
    (h : (bytesMachine T tgt nodeId start finish).step x a = some (e, x')) :
    (∃ r now, x = .subscribing ∧ a = .subscribed r now ∧ e = .subscribes (subscribeFor nodeId) ∧
      ((∃ err, x' = .returned (.error err)) ∨
        ∃ c, start now = .ok (.ok (), c) ∧ x' = .driving (.init c))) ∨
      ∃ d d' a' e', x = .driving d ∧ a = .drive a' ∧ e = .drive e' ∧
        (driveMachine T tgt).step d a' = some (e', d') ∧
          BytesState.ofDrive finish d' = some x' := by
  cases x with
  | returned r => simp [bytesMachine] at h
  | subscribing =>
    left
    cases a with
    | drive a' => cases h
    | subscribed r now =>
      refine ⟨r, now, rfl, rfl, ?_⟩
      rcases r with err | u
      · cases h
        exact ⟨rfl, .inl ⟨_, rfl⟩⟩
      · rcases hst : start now with p | ⟨err | u, c⟩
        · simp [bytesMachine, hst] at h
        · simp only [bytesMachine, hst, Option.some.injEq, Prod.mk.injEq] at h
          exact ⟨h.1.symm, .inl ⟨_, h.2.symm⟩⟩
        · simp only [bytesMachine, hst, Option.some.injEq, Prod.mk.injEq] at h
          exact ⟨h.1.symm, .inr ⟨c, rfl, h.2.symm⟩⟩
  | driving d =>
    right
    cases a with
    | subscribed r now => cases h
    | drive a' =>
      rcases hx : (driveMachine T tgt).step d a' with - | ⟨e', d'⟩
      · simp [bytesMachine, hx] at h
      · simp only [bytesMachine, hx, Option.map_eq_some_iff, Prod.mk.injEq] at h
        obtain ⟨x₁, hx₁, rfl, rfl⟩ := h
        exact ⟨d, d', a', e', rfl, rfl, rfl, hx, hx₁⟩

/-- What `drive` has come to, and the state of `upload_bytes` or `download_bytes`. -/
theorem BytesState.ofDrive_spec {d : DriveState ε} (h : BytesState.ofDrive finish d = some x) :
    x ≠ .subscribing ∧ (∀ d', x = .driving d' → d' = d ∧ d.result = none) ∧
      ∀ v, x = .returned (.ok v) →
        ∃ outcome, d.result = some (.ok outcome) ∧ finish outcome = .ok v := by
  unfold ofDrive at h
  split at h
  · next hres =>
    cases h
    exact ⟨by simp, fun d' hd => ⟨(BytesState.driving.inj hd).symm, hres⟩, by simp⟩
  · cases h
    simp
  · next outcome hres =>
    split at h
    · cases h
    · next v hv =>
      cases h
      refine ⟨by simp, by simp, ?_⟩
      intro v' hv'
      obtain rfl := Except.ok.inj (BytesState.returned.inj hv')
      exact ⟨outcome, hres, hv⟩

/-- A step of the caller is one of its attempt. -/
theorem retryMachine_step_eq {M : Machine (BytesState ε ρ) (BytesAction φ ε) (BytesEvent φ)}
    (h : (retryMachine M retries).step s a = some (e, s')) :
    s.result = none ∧ ∃ x, M.step s.state a = some (e, x) ∧
      RetryState.next retries s.attempt x = some s' := by
  obtain ⟨attempt, x, result⟩ := s
  cases result with
  | some r => cases h
  | none =>
    rcases hx : M.step x a with - | ⟨e₁, x₁⟩
    · simp [retryMachine, hx] at h
    · simp only [retryMachine, hx, Option.map_eq_some_iff, Prod.mk.injEq] at h
      obtain ⟨s₁, hs₁, rfl, rfl⟩ := h
      exact ⟨rfl, x₁, rfl, hs₁⟩

end Caller

/-! ### The bus that follows -/

/-- The dictionary calls in the history of a stack. -/
def NetEvent.calls : NetEvent φ ε → List OdCall
  | .node (.called calls) => calls
  | _ => []

def netCalls (h : List (NetAction φ ε × NetEvent φ ε)) : List OdCall :=
  h.flatMap fun x => x.2.calls

theorem netCalls_append_singleton (h : List (NetAction φ ε × NetEvent φ ε)) (a : NetAction φ ε)
    (e : NetEvent φ ε) : netCalls (h ++ [(a, e)]) = netCalls h ++ e.calls := by
  simp [netCalls]

/-- The frames of a CAN channel are those of the channel `l`. -/
def Carries (T : CanTransport φ ε) (frames : List φ) (l : List (SdoFrame × ℕ)) : Prop :=
  frames.map (canToSdo T) = l.map fun x => some x.1

/-- Of a frame that was made of an SDO frame, the transport hands that SDO frame back. -/
def CanTransport.Lawful (T : CanTransport φ ε) : Prop :=
  ∀ f frame, sdoToCan T f = .ok frame → canToSdo T frame = some f

/-- What the client of the bus has to do with the caller. -/
structure RetryState.Drives (cfg : SdoConfig) (opens : BusAction σ → Prop)
    (finish : SdoOutcome → Checked ρ) (s : RetryState ε ρ) (h : List (BusAction σ × BusEvent))
    (b : Bus N σ) : Prop where
  cfg : b.client.cfg = cfg
  /-- In an attempt it is the client of the attempt. -/
  driving : ∀ d, s.state = .driving d → d.result = none ∧ b.client = d.client
  idle : (∀ d, s.state ≠ .driving d) → b.client.state = .idle
  /-- Not more transfers are begun than attempts. -/
  current : b.current ≤ s.attempt.toNat
  fresh : s.state = .subscribing → b.current < s.attempt.toNat
  opened : ∀ a ∈ begun h, opens a
  /-- A value is that of an outcome of the client. -/
  outcome : ∀ v, s.result = some (.ok v) → ∃ act f i outcome,
    (act, .answered f i (.ok (some outcome))) ∈ h ∧ finish outcome = .ok v

/-- How the start of an attempt appears on the bus of the state machines. -/
def Starts (N : ℕ) (tgt : Target) (od : ObjectDictionary σ) (nodeId : UInt8) (cfg : SdoConfig)
    (opens : BusAction σ → Prop) (start : UInt64 → Checked (SdoResult Unit × SdoClient)) : Prop :=
  ∀ now c, start now = .ok (.ok (), c) → ∃ act, opens act ∧ ∀ b : Bus N σ,
    b.client.state = .idle → b.client.cfg = cfg →
      busStep tgt od nodeId b act = some (.began, { b with client := c, current := b.current + 1 })

/-- The bus of the state machines has the server and the channels of the stack. -/
structure Net.Shows (T : CanTransport φ ε) (nodeId : UInt8)
    (h : List (NetAction φ ε × NetEvent φ ε)) (net : Net N σ φ ε ρ) (b : Bus N σ) : Prop where
  wf : b.WellFormed nodeId
  server : b.server = net.node.server
  dict : b.dict = net.node.dict
  up : Carries T net.up b.toServer
  down : Carries T net.down b.toClient
  calls : b.calls.map Prod.fst = netCalls h

/-- The bus, with the history `h'`, follows the stack. -/
structure Net.Follows (T : CanTransport φ ε) (nodeId : UInt8) (cfg : SdoConfig)
    (opens : BusAction σ → Prop) (finish : SdoOutcome → Checked ρ)
    (h : List (NetAction φ ε × NetEvent φ ε)) (net : Net N σ φ ε ρ)
    (h' : List (BusAction σ × BusEvent)) (b : Bus N σ) : Prop extends
    Net.Shows T nodeId h net b where
  caller : net.caller.Drives cfg opens finish h' b

section Carries

variable {T : CanTransport φ ε} {frames : List φ} {l : List (SdoFrame × ℕ)} {frame : φ}

theorem Carries.append {frames' : List φ} {l' : List (SdoFrame × ℕ)} (h : Carries T frames l)
    (h' : Carries T frames' l') : Carries T (frames ++ frames') (l ++ l') := by
  unfold Carries at h h' ⊢
  rw [List.map_append, List.map_append, h, h']

theorem Carries.eraseIdx (h : Carries T frames l) (i : ℕ) :
    Carries T (frames.eraseIdx i) (l.eraseIdx i) := by
  unfold Carries at h ⊢
  rw [← List.eraseIdx_map, ← List.eraseIdx_map, h]

theorem Carries.of_cons (h : Carries T (frame :: frames) l) :
    ∃ f i rest, l = (f, i) :: rest ∧ canToSdo T frame = some f ∧ Carries T frames rest := by
  cases l with
  | nil => cases h
  | cons x rest =>
    obtain ⟨hx, hrest⟩ := List.cons.inj h
    exact ⟨x.1, x.2, rest, rfl, hx, hrest⟩

theorem Carries.exists_cons {f : SdoFrame} {i : ℕ} (h : Carries T frames ((f, i) :: l)) :
    ∃ frame rest, frames = frame :: rest ∧ canToSdo T frame = some f := by
  cases frames with
  | nil => cases h
  | cons frame rest => exact ⟨frame, rest, rfl, (List.cons.inj h).1⟩

end Carries

/-! ### The bus follows the caller -/

/-- The steps `k` of the bus begin no transfer, leave the server alone, send what is in
`frames`, and leave `down` on the way to the client. -/
structure Bus.Moved (T : CanTransport φ ε) (tgt : Target) (od : ObjectDictionary σ) (nodeId : UInt8)
    (frames : List φ) (down : List (SdoFrame × ℕ)) (b : Bus N σ)
    (k : List (BusAction σ × BusEvent)) (b' : Bus N σ) : Prop where
  run : (busMachine tgt od nodeId).Run b k b'
  notBegun : ∀ x ∈ k, x.2 ≠ .began
  server : b'.server = b.server
  dict : b'.dict = b.dict
  calls : b'.calls = b.calls
  current : b'.current = b.current
  up : ∃ l, b'.toServer = b.toServer ++ l ∧ Carries T frames l
  down : b'.toClient = down

section Follow

variable {T : CanTransport φ ε} {tgt : Target} {od : ObjectDictionary σ} {nodeId : UInt8}
  {retries : UInt8} {cfg : SdoConfig} {opens : BusAction σ → Prop}
  {start : UInt64 → Checked (SdoResult Unit × SdoClient)} {finish : SdoOutcome → Checked ρ}
  {b b₁ b₂ : Bus N σ} {k k₁ k₂ : List (BusAction σ × BusEvent)} {frames : List φ}
  {down : List (SdoFrame × ℕ)} {d d' : DriveState ε} {a : DriveAction φ ε} {e : DriveEvent φ}

theorem Bus.run_single {act : BusAction σ} {ev : BusEvent}
    (hs : busStep tgt od nodeId b act = some (ev, b₁)) :
    (busMachine tgt od nodeId).Run b [(act, ev)] b₁ :=
  .single hs

/-- One step that sends nothing. -/
theorem Bus.Moved.single {act : BusAction σ} {ev : BusEvent}
    (hs : busStep tgt od nodeId b act = some (ev, b₁)) (hev : ev ≠ .began)
    (hserver : b₁.server = b.server) (hdict : b₁.dict = b.dict) (hcalls : b₁.calls = b.calls)
    (hcur : b₁.current = b.current) (hup : b₁.toServer = b.toServer) (hdown : b₁.toClient = down) :
    b.Moved T tgt od nodeId [] down [(act, ev)] b₁ where
  run := Bus.run_single hs
  notBegun := by
    intro x hx
    obtain rfl := List.mem_singleton.mp hx
    exact hev
  server := hserver
  dict := hdict
  calls := hcalls
  current := hcur
  up := ⟨[], by rw [hup, List.append_nil], rfl⟩
  down := hdown

/-- No step. -/
theorem Bus.Moved.refl (b : Bus N σ) :
    b.Moved T tgt od nodeId [] b.toClient [] b where
  run := .start
  notBegun := by simp
  server := rfl
  dict := rfl
  calls := rfl
  current := rfl
  up := ⟨[], (List.append_nil _).symm, rfl⟩
  down := rfl

theorem Bus.Moved.trans (h₁ : b.Moved T tgt od nodeId frames down k₁ b₁)
    (h₂ : b₁.Moved T tgt od nodeId [] b₁.toClient k₂ b₂) :
    b.Moved T tgt od nodeId frames down (k₁ ++ k₂) b₂ where
  run := h₁.run.trans h₂.run
  notBegun := by
    intro x hx
    rcases List.mem_append.mp hx with hx | hx
    · exact h₁.notBegun x hx
    · exact h₂.notBegun x hx
  server := h₂.server.trans h₁.server
  dict := h₂.dict.trans h₁.dict
  calls := h₂.calls.trans h₁.calls
  current := h₂.current.trans h₁.current
  up := by
    obtain ⟨l, hl, hc⟩ := h₁.up
    obtain ⟨l', hl', hc'⟩ := h₂.up
    obtain rfl : l' = [] := List.map_eq_nil_iff.mp hc'.symm
    exact ⟨l, by rw [hl', hl, List.append_nil], hc⟩
  down := h₂.down.trans h₁.down

/-- The client has got to where `drive` has, and if that is an outcome it has reported it. -/
def Bus.Reaches (b : Bus N σ) (k : List (BusAction σ × BusEvent)) (d : DriveState ε) : Prop :=
  b.client = d.client ∧ ∀ outcome, d.result = some (.ok outcome) →
    ∃ act f i, (act, .answered f i (.ok (some outcome))) ∈ k

/-- In a quiet step the bus does the same, with `m` frames delivered. -/
def Bus.Keeps (tgt : Target) (od : ObjectDictionary σ) (nodeId : UInt8) (b : Bus N σ) (m : ℕ)
    (b' : Bus N σ) (d : DriveState ε) : Prop :=
  ∃ r, b.Calms tgt od nodeId r m b' ∧ d = .ofClient r b'.client

/-- A frame can be made of every SDO frame with a standard identifier, of 11 bits. -/
def CanTransport.Total (T : CanTransport φ ε) : Prop :=
  ∀ f : SdoFrame, f.cobId.toNat < 2 ^ 11 → ∃ frame, sdoToCan T f = .ok frame

/-- The pending frame is handed over, or lost. -/
theorem exists_moved_send (hT : T.Lawful) (hw : b.WellFormed nodeId) {out : SdoFrame}
    {r : Except ε Unit} (htx : b.client.pendingTx = some out) (hs : driveSend T b.client.drained out r = (e, d')) :
    ∃ k b', b.Moved T tgt od nodeId (BytesEvent.drive e).frame?.toList b.toClient k b' ∧
      b'.Reaches k d' ∧
        (T.Total → (DriveAction.sent r : DriveAction φ ε).Quiet b.client.Due →
          b.Keeps tgt od nodeId 0 b' d') := by
  have hsend : busStep tgt od nodeId b .clientTransmit
      = some (.other (.ok none), { b with
          client := b.client.drained, toServer := b.toServer ++ [(out, b.current)] }) := by
    simp [busStep, SdoClient.pollTransmit, htx, SdoClient.drained]
  unfold driveSend at hs
  split at hs
  · -- the frame cannot be made: the bus sends it and loses it
    next err hf =>
    obtain ⟨rfl, rfl⟩ := Prod.mk.inj hs
    have hlose : (busMachine tgt od nodeId).step { b with
        client := b.client.drained, toServer := b.toServer ++ [(out, b.current)] }
        (.loseToServer b.toServer.length)
          = some (.other (.ok none), { b with client := b.client.drained }) := by
      simp [busMachine, busStep, List.eraseIdx_append_of_length_le]
    exact ⟨_, _, ⟨(Bus.run_single hsend).snoc hlose, by simp, rfl, rfl, rfl, rfl,
      ⟨[], (List.append_nil _).symm, rfl⟩, rfl⟩, ⟨rfl, fun _ h => (by cases h)⟩, fun htot _ => by
        obtain ⟨frame, hframe⟩ := htot out ((hw.pendingTx htx).1 ▸ SdoFrame.rsdoId_lt nodeId)
        cases hf.symm.trans hframe⟩
  · next frame hf =>
    have hone : Carries T [frame] [(out, b.current)] := by
      simp [Carries, hT _ _ hf]
    have hmoved : b.Moved T tgt od nodeId [frame] b.toClient
        [(.clientTransmit, .other (.ok none))] { b with
          client := b.client.drained, toServer := b.toServer ++ [(out, b.current)] } :=
      ⟨Bus.run_single hsend, by simp, rfl, rfl, rfl, rfl, ⟨_, rfl, hone⟩, rfl⟩
    split at hs <;> obtain ⟨rfl, rfl⟩ := Prod.mk.inj hs
    · exact ⟨_, _, hmoved, ⟨rfl, fun _ h => (by cases h)⟩, fun _ hq => hq.elim⟩
    · exact ⟨_, _, hmoved, ⟨rfl, fun _ h => (by cases h)⟩, fun _ _ => ⟨_, .step hsend trivial, rfl⟩⟩

/-- `drive` wakes up, with nothing from the server. -/
theorem exists_moved_wake (hw : b.WellFormed nodeId) {w : Wake φ ε}
    (hrecv : (DriveAction.woken w).Receives (foreignToCaller T nodeId))
    (hs : driveWake T tgt b.client w = some d') :
    ∃ k b', b.Moved T tgt od nodeId [] b.toClient k b' ∧ b'.Reaches k d' ∧
      ((DriveAction.woken w).Quiet b.client.Due → b.Keeps tgt od nodeId 0 b' d') := by
  rcases w with (err | frame) | now
  · cases hs
    exact ⟨[], b, .refl b, ⟨rfl, fun _ h => (by cases h)⟩, fun hq => hq.elim⟩
  · next now =>
    unfold driveWake at hs
    cases hf : canToSdo T frame with
    | none =>
      simp only [hf, Option.some.injEq] at hs
      subst hs
      exact ⟨[], b, .refl b, ⟨rfl, fun _ h => (by cases h)⟩, fun _ => ⟨_, .refl, rfl⟩⟩
    | some f =>
      -- the client ignores what is not from its server
      have hne : SdoFrame.nodeOfTsdo f.cobId ≠ some nodeId := by
        simpa [DriveAction.Receives, foreignToCaller, hf] using hrecv
      have hign : b.client.handleFrame tgt f now = .ok (.ok none, b.client) :=
        SdoClient.handleFrame_of_not_answers (SdoClient.not_answers_of_foreign hw.client hne)
      simp only [hf, hign, Option.some.injEq] at hs
      subst hs
      exact ⟨[], b, .refl b, ⟨rfl, fun _ h => (by cases h)⟩, fun _ => ⟨_, .refl, rfl⟩⟩
  · unfold driveWake at hs
    cases hdl : b.client.pollTimeout with
    | none => simp [hdl] at hs
    | some dl =>
      simp only [hdl, Option.some.injEq] at hs
      subst hs
      have hstep : busStep tgt od nodeId b (.clientTimeout now)
          = some (.other (b.client.handleTimeout now).1,
            { b with client := (b.client.handleTimeout now).2 }) := rfl
      refine ⟨_, _, .single hstep (by simp) rfl rfl rfl rfl rfl rfl, ⟨?_, ?_⟩, ?_⟩
      · rw [ofClient_eq]
      · intro outcome h
        rw [ofClient_eq] at h
        rcases b.client.handleTimeout_cases now with heq | heq <;> rw [heq] at h <;> cases h
      · intro hq
        have hno : b.client.handleTimeout now = (.ok none, b.client) :=
          SdoClient.handleTimeout_of_not_due hq
        refine ⟨_, .step hstep hq, ?_⟩
        rw [hno]
        rfl

/-- `drive` receives a frame of the server. -/
theorem exists_moved_receive {frame : φ} {f : SdoFrame} {i : ℕ} {now : UInt64}
    (hb : b.toClient = (f, i) :: down) (hf : canToSdo T frame = some f)
    (hs : driveWake T tgt b.client (.recv (.ok frame) now) = some d') :
    ∃ k b', b.Moved T tgt od nodeId [] down k b' ∧ b'.Reaches k d' ∧
      b.Keeps tgt od nodeId 1 b' d' := by
  unfold driveWake at hs
  rcases hx : b.client.handleFrame tgt f now with p | ⟨r, c⟩
  · simp [hf, hx] at hs
  · simp only [hf, hx, Option.some.injEq] at hs
    subst hs
    have hstep : busStep tgt od nodeId b (.deliverToClient now)
        = some (.answered f i r, { b with client := c, toClient := down }) := by
      simp [busStep, hb, hx]
    refine ⟨_, _, .single hstep (by simp) rfl rfl rfl rfl rfl rfl, ⟨?_, ?_⟩,
      ⟨r, .step hstep trivial, rfl⟩⟩
    · rw [ofClient_eq]
    · intro outcome h
      rw [ofClient_eq] at h
      rw [eq_of_returnOf_ok h]
      exact ⟨_, f, i, List.mem_singleton_self _⟩

/-! #### The caller -/

theorem begun_eq_nil (hk : ∀ x ∈ k, x.2 ≠ .began) : begun k = [] := by
  rw [begun, List.filterMap_eq_nil_iff]
  intro x hx
  rw [if_neg (hk x hx)]

theorem begun_append (h k : List (BusAction σ × BusEvent)) : begun (h ++ k) = begun h ++ begun k :=
  List.filterMap_append

/-- The bus never changes the configuration of its client. -/
theorem Bus.cfg_run (hr : (busMachine tgt od nodeId).Run b k b₁) :
    b₁.client.cfg = b.client.cfg := by
  refine hr.invariant (P := fun _ b₁ => b₁.client.cfg = b.client.cfg) rfl ?_
  intro h b₁ a e b₂ ih hs
  rcases busStep_client hs with heq | ⟨a', e', hs'⟩
  · rw [heq, ih]
  · exact (callStep_of_step hs').cfg.trans ih

/-- **The client of the bus keeps up with an attempt**: with what `drive` has come to, or, once
the attempt has ended, with nothing in flight. -/
theorem RetryState.Drives.next {s s' : RetryState ε ρ} {x : BytesState ε ρ}
    {h : List (BusAction σ × BusEvent)} (hd : s.Drives cfg opens finish h b)
    (hm : b.Moved T tgt od nodeId frames down k b₁) (hreach : b₁.Reaches k d')
    (hx : BytesState.ofDrive finish d' = some x)
    (hnext : RetryState.next retries s.attempt x = some s') :
    ∃ k' b₂, b.Moved T tgt od nodeId frames down k' b₂ ∧
      s'.Drives cfg opens finish (h ++ k') b₂ := by
  obtain ⟨hsub, hdrive, hret⟩ := BytesState.ofDrive_spec hx
  obtain ⟨hle, hfresh, hstate, hres⟩ := RetryState.next_spec hsub hnext
  have hopened : ∀ {l b₂}, b.Moved T tgt od nodeId frames down l b₂ →
      ∀ a ∈ begun (h ++ l), opens a := by
    intro l b₂ hl a ha
    rw [begun_append, begun_eq_nil hl.notBegun, List.append_nil] at ha
    exact hd.opened a ha
  by_cases hgo : ∃ d₁, x = .driving d₁
  · -- the attempt goes on
    obtain ⟨d₁, hd₁⟩ := hgo
    have hs' : s'.state = .driving d₁ := (hstate d₁).mpr hd₁
    refine ⟨k, b₁, hm, (Bus.cfg_run hm.run).trans hd.cfg, ?_, fun hno => absurd hs' (hno d₁),
      ?_, ?_, hopened hm, ?_⟩
    · intro d₂ hd₂
      obtain ⟨rfl, hnone⟩ := hdrive d₂ ((hstate d₂).mp hd₂)
      exact ⟨hnone, hreach.1⟩
    · exact hm.current.trans_le (hd.current.trans hle)
    · intro hs
      rw [hs'] at hs
      cases hs
    · intro v hv
      rw [hres v hv] at hd₁
      cases hd₁
  · -- it has ended, and what is left of its transfer is given up
    have hno : ∀ d₂, s'.state ≠ .driving d₂ := fun d₂ hd₂ => hgo ⟨d₂, (hstate d₂).mp hd₂⟩
    have habort : b₁.Moved T tgt od nodeId [] b₁.toClient [(.abort .protocolTimeout,
        .other (.ok none))] { b₁ with client := b₁.client.abort .protocolTimeout } :=
      .single rfl (by simp) rfl rfl rfl rfl rfl rfl
    have hall := hm.trans habort
    refine ⟨_, _, hall, (Bus.cfg_run hall.run).trans hd.cfg, fun d₂ hd₂ => absurd hd₂ (hno d₂),
      fun _ => SdoClient.state_abortWith _ _, ?_, ?_, hopened hall, ?_⟩
    · exact hm.current.trans_le (hd.current.trans hle)
    · intro hs
      exact (hm.current.trans_le hd.current).trans_lt (hfresh hs)
    · intro v hv
      obtain ⟨outcome, hout, hfin⟩ := hret v (hres v hv)
      obtain ⟨act, f, i, hmem⟩ := hreach.2 outcome hout
      exact ⟨act, f, i, outcome, by simp [hmem], hfin⟩

/-- A caller that has no attempt under way begins one, or fails to. -/
theorem RetryState.Drives.subscribed {s s' : RetryState ε ρ} {h : List (BusAction σ × BusEvent)}
    {now : UInt64} {x : BytesState ε ρ} (hd : s.Drives cfg opens finish h b)
    (hstate : s.state = .subscribing) (hstart : Starts N tgt od nodeId cfg opens start)
    (hx : (∃ err, x = .returned (.error err)) ∨
      ∃ c, start now = .ok (.ok (), c) ∧ x = .driving (.init c))
    (hnext : RetryState.next retries s.attempt x = some s') :
    ∃ k b', (busMachine tgt od nodeId).Run b k b' ∧ b'.server = b.server ∧ b'.dict = b.dict ∧
      b'.calls = b.calls ∧ b'.toServer = b.toServer ∧ b'.toClient = b.toClient ∧
        s'.Drives cfg opens finish (h ++ k) b' := by
  have hidle : b.client.state = .idle := hd.idle fun d hs => by rw [hstate] at hs; cases hs
  have hlt := hd.fresh hstate
  rcases hx with ⟨err, rfl⟩ | ⟨c, hc, rfl⟩
  · -- the attempt has failed before it began
    obtain ⟨hle, hfresh, hst, hres⟩ :=
      RetryState.next_spec (x := .returned (.error err)) (by simp) hnext
    refine ⟨[], b, .start, rfl, rfl, rfl, rfl, rfl, hd.cfg, ?_, fun _ => hidle,
      hlt.le.trans hle, fun _ => hlt.trans_le hle, ?_, ?_⟩
    · intro d hd'
      cases (hst d).mp hd'
    · rw [List.append_nil]
      exact hd.opened
    · intro v hv
      cases hres v hv
  · obtain rfl := Option.some.inj hnext
    obtain ⟨act, hopens, hact⟩ := hstart now c hc
    have hs := hact b hidle hd.cfg
    refine ⟨_, _, .single hs, rfl, rfl, rfl, rfl, rfl, (Bus.cfg_run (.single hs)).trans hd.cfg,
      ?_, fun hno => absurd rfl (hno _), hlt, by simp, ?_, by simp⟩
    · intro d hd'
      obtain rfl := BytesState.driving.inj hd'
      exact ⟨rfl, rfl⟩
    · intro a ha
      rw [begun_append_singleton, if_pos rfl] at ha
      rcases List.mem_append.mp ha with ha | ha
      · exact hd.opened a ha
      · obtain rfl := List.mem_singleton.mp ha
        exact hopens

/-! #### The server -/

/-- The steps `k` of the bus begin no transfer, leave the client alone, take the server to where
its loop is in `n`, make the calls, send what is in `frames`, and leave `up` on the way to the
server. -/
structure Bus.Serves (T : CanTransport φ ε) (tgt : Target) (od : ObjectDictionary σ)
    (nodeId : UInt8) (n : ServeState N σ ε) (frames : List φ) (calls : List OdCall)
    (up : List (SdoFrame × ℕ)) (b : Bus N σ) (k : List (BusAction σ × BusEvent)) (b' : Bus N σ) :
    Prop where
  run : (busMachine tgt od nodeId).Run b k b'
  notBegun : ∀ x ∈ k, x.2 ≠ .began
  client : b'.client = b.client
  current : b'.current = b.current
  server : b'.server = n.server
  dict : b'.dict = n.dict
  calls : b'.calls.map Prod.fst = b.calls.map Prod.fst ++ calls
  up : b'.toServer = up
  down : ∃ l, b'.toClient = b.toClient ++ l ∧ Carries T frames l

variable {n n' : ServeState N σ ε} {e' : ServeEvent φ} {w : Wake φ ε}

/-- The calls of a step of the server. -/
def ServeEvent.calls : ServeEvent φ → List OdCall
  | .handedOver .. => []
  | .called calls => calls

theorem serveMachine_step_cases (hs : (serveMachine T od).step n a = some (e', n')) :
    (∃ out r, n.server.pendingTx = some out ∧ a = .sent r ∧
      serveSend T { n with server := n.server.drained } out r = some (e', n')) ∨
    ∃ w, n.server.pendingTx = none ∧ a = .woken w ∧ serveWake T od n w = some (e', n') := by
  obtain ⟨⟨cfg, state, tx, dl⟩, dict, failed⟩ := n
  rcases failed with - | err <;> rcases tx with - | out <;> rcases a with r | w <;>
    simp [serveMachine, SdoServer.pollTransmit] at hs ⊢
  · exact hs
  · exact hs

/-- The pending frame of the server is handed over. -/
theorem exists_serves_send (hT : T.Lawful) (hserver : b.server = n.server) (hdict : b.dict = n.dict)
    {out : SdoFrame} {r : Except ε Unit} (htx : n.server.pendingTx = some out)
    (hs : serveSend T { n with server := n.server.drained } out r = some (e', n')) :
    ∃ k b', b.Serves T tgt od nodeId n' e'.frame?.toList e'.calls b.toServer k b' ∧
      b.Calms tgt od nodeId (.ok none) 0 b' := by
  unfold serveSend at hs
  rcases hf : sdoToCan T out with err | frame
  · simp [hf] at hs
  · have hone : Carries T [frame] [(out, b.reply)] := by
      simp [Carries, hT _ _ hf]
    have hsend : busStep tgt od nodeId b .serverTransmit = some (.other (.ok none),
        { b with server := n.server.drained, toClient := b.toClient ++ [(out, b.reply)] }) := by
      simp [busStep, SdoServer.pollTransmit, hserver, htx, SdoServer.drained]
    rcases r with err | u <;> simp only [hf, Option.some.injEq, Prod.mk.injEq] at hs <;>
    · obtain ⟨rfl, rfl⟩ := hs
      exact ⟨_, _, ⟨Bus.run_single hsend, by simp, rfl, rfl, rfl, hdict,
        (List.append_nil _).symm, rfl, _, rfl, hone⟩, .step hsend trivial⟩

/-- The server does nothing. -/
theorem Bus.Serves.refl (hserver : b.server = n.server) (hdict : b.dict = n.dict) :
    b.Serves T tgt od nodeId n [] [] b.toServer [] b where
  run := .start
  notBegun := by simp
  client := rfl
  current := rfl
  server := hserver
  dict := hdict
  calls := (List.append_nil _).symm
  up := rfl
  down := ⟨[], (List.append_nil _).symm, rfl⟩

/-- The loop of the server wakes up, with nothing from the caller. -/
theorem exists_serves_wake (hw : b.WellFormed nodeId) (hserver : b.server = n.server)
    (hdict : b.dict = n.dict) (hrecv : (DriveAction.woken w).Receives (foreignToNode T nodeId))
    (hs : serveWake T od n w = some (e', n')) :
    ∃ k b', b.Serves T tgt od nodeId n' e'.frame?.toList e'.calls b.toServer k b' ∧
      ((DriveAction.woken w).Quiet b.server.Due → b.Calms tgt od nodeId (.ok none) 0 b') := by
  rcases w with (err | frame) | now
  · cases hs
    exact ⟨[], b, .refl hserver hdict, fun _ => .refl⟩
  · next now =>
    unfold serveWake at hs
    cases hf : canToSdo T frame with
    | none =>
      simp only [hf, Option.some.injEq, Prod.mk.injEq] at hs
      obtain ⟨rfl, rfl⟩ := hs
      exact ⟨[], b, .refl hserver hdict, fun _ => .refl⟩
    | some f =>
      -- the server ignores what is not for it
      have hne : ¬ n.server.Addressed f := by
        rw [SdoServer.Addressed, ← hserver, hw.server]
        simpa [DriveAction.Receives, foreignToNode, hf] using hrecv
      have hign : n.server.handleFrame f now od.recording (n.dict, [])
          = .ok ((.ok (), n.server), (n.dict, [])) := (ServerStep.ignored hne).handleFrame_eq
      simp only [hf, hign, Option.some.injEq, Prod.mk.injEq] at hs
      obtain ⟨rfl, rfl⟩ := hs
      exact ⟨[], b, .refl hserver hdict, fun _ => .refl⟩
  · unfold serveWake at hs
    cases hdl : n.server.pollTimeout with
    | none => simp [hdl] at hs
    | some dl =>
      simp only [hdl, Option.some.injEq, Prod.mk.injEq] at hs
      obtain ⟨rfl, rfl⟩ := hs
      rcases hx : n.server.handleTimeout now with ⟨err | u, s⟩
      · have hstep : busStep tgt od nodeId b (.serverTimeout now)
            = some (.other (.error err), { b with server := s, reply := b.session }) := by
          simp [busStep, hserver, hx]
        exact ⟨_, _, ⟨Bus.run_single hstep, by simp, rfl, rfl, rfl, hdict,
          (List.append_nil _).symm, rfl, [], (List.append_nil _).symm, rfl⟩,
          fun hq => .step hstep hq⟩
      · have hstep : busStep tgt od nodeId b (.serverTimeout now)
            = some (.other (.ok none), { b with server := s }) := by
          simp [busStep, hserver, hx]
        exact ⟨_, _, ⟨Bus.run_single hstep, by simp, rfl, rfl, rfl, hdict,
          (List.append_nil _).symm, rfl, [], (List.append_nil _).symm, rfl⟩,
          fun hq => .step hstep hq⟩

/-- The loop of the server receives a frame of the caller. -/
theorem exists_serves_receive (hserver : b.server = n.server) (hdict : b.dict = n.dict)
    {frame : φ} {f : SdoFrame} {i : ℕ} {up : List (SdoFrame × ℕ)} {now : UInt64}
    (hb : b.toServer = (f, i) :: up) (hf : canToSdo T frame = some f)
    (hs : serveWake T od n (.recv (.ok frame) now) = some (e', n')) :
    ∃ k b', b.Serves T tgt od nodeId n' e'.frame?.toList e'.calls up k b' ∧
      b.Calms tgt od nodeId (.ok none) 1 b' := by
  unfold serveWake at hs
  rcases hx : n.server.handleFrame f now od.recording (n.dict, []) with p | ⟨⟨r, s⟩, dict, calls⟩
  · simp [hf, hx] at hs
  · simp only [hf, hx, Option.some.injEq, Prod.mk.injEq] at hs
    obtain ⟨rfl, rfl⟩ := hs
    have hstep : busStep tgt od nodeId b (.deliverToServer now)
        = some (.served f i r calls, { b with
          server := s, dict := dict, toServer := up
          session := if f.IsInit then i else b.session
          reply := i, calls := b.calls ++ calls.map fun c => (c, i) }) := by
      simp [busStep, hb, hserver, hdict, hx]
    refine ⟨_, _, ⟨Bus.run_single hstep, by simp, rfl, rfl, rfl, rfl, ?_, rfl, [],
      (List.append_nil _).symm, rfl⟩, .step hstep trivial⟩
    simp [ServeEvent.calls, Function.comp_def]

/-! #### The stack -/

variable {net net' : Net N σ φ ε ρ} {h : List (NetAction φ ε × NetEvent φ ε)}
  {h' : List (BusAction σ × BusEvent)} {ev : NetEvent φ ε} {act : NetAction φ ε} {m : ℕ}

/-- The step receives nothing that was sent to it, or the head of the channel `l`, of which
`rest` is left; that is, `m` frames. -/
def DriveAction.From (p : φ → Bool) (l rest : List φ) (m : ℕ) (a : DriveAction φ ε) : Prop :=
  (a.Receives p ∧ rest = l ∧ m = 0) ∨
    ∃ frame now, l = frame :: rest ∧ a = .woken (.recv (.ok frame) now) ∧ m = 1

def BytesAction.From (p : φ → Bool) (l rest : List φ) (m : ℕ) : BytesAction φ ε → Prop
  | .drive a => a.From p l rest m
  | .subscribed .. => rest = l ∧ m = 0

/-- A frame is received that the other one has sent. -/
def NetAction.receives : NetAction φ ε → Bool
  | .callerReceives _ | .nodeReceives _ => true
  | _ => false

/-- A step of the stack is one of the caller or of the server, or a loss. -/
inductive NetStep (T : CanTransport φ ε) (od : ObjectDictionary σ) (nodeId retries : UInt8)
    (M : Machine (BytesState ε ρ) (BytesAction φ ε) (BytesEvent φ)) (net : Net N σ φ ε ρ)
    (act : NetAction φ ε) (ev : NetEvent φ ε) (net' : Net N σ φ ε ρ) : Prop
  | caller {a : BytesAction φ ε} {rest : List φ}
      (hsrc : a.From (foreignToCaller T nodeId) net.down rest (if act.receives then 1 else 0))
      (hquiet : act.Quiet net → a.Quiet net.caller.state)
      (hs : ({ net with down := rest } : Net N σ φ ε ρ).callerStep retries M a = some (ev, net'))
  | node {a : DriveAction φ ε} {rest : List φ}
      (hsrc : a.From (foreignToNode T nodeId) net.up rest (if act.receives then 1 else 0))
      (hquiet : act.Quiet net → a.Quiet net.node.server.Due)
      (hs : ({ net with up := rest } : Net N σ φ ε ρ).nodeStep T od a = some (ev, net'))
  | loseUp {i : ℕ} (hact : act = .loseUp i) (hev : ev = .lost)
      (hnet : net' = { net with up := net.up.eraseIdx i })
  | loseDown {i : ℕ} (hact : act = .loseDown i) (hev : ev = .lost)
      (hnet : net' = { net with down := net.down.eraseIdx i })

theorem netStep_of_step {M : Machine (BytesState ε ρ) (BytesAction φ ε) (BytesEvent φ)}
    (hs : (netMachine T od nodeId retries M).step net act = some (ev, net')) :
    NetStep T od nodeId retries M net act ev net' := by
  cases act with
  | caller a =>
    obtain ⟨hrecv, hs⟩ := Option.ite_none_right_eq_some.mp hs
    refine .caller ?_ id hs
    cases a with
    | subscribed => exact ⟨rfl, rfl⟩
    | drive a => exact .inl ⟨hrecv, rfl, rfl⟩
  | node a =>
    obtain ⟨hrecv, hs⟩ := Option.ite_none_right_eq_some.mp hs
    exact .node (.inl ⟨hrecv, rfl, rfl⟩) id hs
  | callerReceives now =>
    rcases hdown : net.down with - | ⟨frame, rest⟩
    · simp [netMachine, hdown] at hs
    · simp only [netMachine, hdown] at hs
      refine .caller (a := .drive (.woken (.recv (.ok frame) now))) ?_ (fun _ => trivial) hs
      exact Or.inr ⟨frame, now, hdown, rfl, rfl⟩
  | nodeReceives now =>
    rcases hup : net.up with - | ⟨frame, rest⟩
    · simp [netMachine, hup] at hs
    · simp only [netMachine, hup] at hs
      exact .node (.inr ⟨frame, now, hup, rfl, rfl⟩) (fun _ => trivial) hs
  | loseUp i =>
    cases hs
    exact .loseUp rfl rfl rfl
  | loseDown i =>
    cases hs
    exact .loseDown rfl rfl rfl

/-- The bus takes the steps that go with a step of `drive`. -/
theorem Net.Shows.drive_step (hT : T.Lawful) (hb : net.Shows T nodeId h b)
    (hclient : b.client = d.client) (hs : (driveMachine T tgt).step d a = some (e, d'))
    {rest : List φ} (hsrc : a.From (foreignToCaller T nodeId) net.down rest m) :
    ∃ k b₁ down, b.Moved T tgt od nodeId (BytesEvent.drive e).frame?.toList down k b₁ ∧
      Carries T rest down ∧ b₁.Reaches k d' ∧
        (T.Total → a.Quiet b.client.Due → b.Keeps tgt od nodeId m b₁ d') := by
  obtain ⟨-, hcases⟩ := driveMachine_step_cases hs
  rw [← hclient] at hcases
  rcases hcases with ⟨out, r, htx, rfl, hsend⟩ | ⟨w, htx, rfl, rfl, hwake⟩
  · obtain ⟨-, rfl, rfl⟩ | ⟨frame, now, -, hact, -⟩ := hsrc
    · obtain ⟨k, b₁, hm, hreach, hkeeps⟩ := exists_moved_send hT hb.wf htx hsend
      exact ⟨k, b₁, _, hm, hb.down, hreach, hkeeps⟩
    · cases hact
  · rcases hsrc with ⟨hrecv, rfl, rfl⟩ | ⟨frame, now, hdown, hact, rfl⟩
    · obtain ⟨k, b₁, hm, hreach, hkeeps⟩ := exists_moved_wake hb.wf hrecv hwake
      exact ⟨k, b₁, _, hm, hb.down, hreach, fun _ => hkeeps⟩
    · cases hact
      obtain ⟨f, i, l, htoClient, hframe, hrest⟩ := (hdown ▸ hb.down).of_cons
      obtain ⟨k, b₁, hm, hreach, hkeeps⟩ := exists_moved_receive htoClient hframe hwake
      exact ⟨k, b₁, l, hm, hrest, hreach, fun _ _ => hkeeps⟩

/-- And then has the channels of the stack again. -/
theorem Net.Shows.moved (hb : net.Shows T nodeId h b)
    (hm : b.Moved T tgt od nodeId frames down k b₁) {rest : List φ} (hdown : Carries T rest down)
    (s' : RetryState ε ρ) (hev : ev.calls = []) :
    Net.Shows T nodeId (h ++ [(act, ev)])
      { net with caller := s', up := net.up ++ frames, down := rest } b₁ where
  wf := reachable_wellFormed hb.wf hm.run
  server := hm.server.trans hb.server
  dict := hm.dict.trans hb.dict
  up := by
    obtain ⟨l, hl, hc⟩ := hm.up
    exact hl ▸ hb.up.append hc
  down := hm.down ▸ hdown
  calls := by rw [hm.calls, hb.calls, netCalls_append_singleton, hev, List.append_nil]

/-- The bus takes the steps that go with a step of the server. -/
theorem Net.Shows.node_step (hT : T.Lawful) (hb : net.Shows T nodeId h b) {rest : List φ}
    (hs : ({ net with up := rest } : Net N σ φ ε ρ).nodeStep T od a = some (ev, net'))
    (hsrc : a.From (foreignToNode T nodeId) net.up rest m) :
    ∃ k b', (busMachine tgt od nodeId).Run b k b' ∧ (∀ x ∈ k, x.2 ≠ .began) ∧
      b'.client = b.client ∧ b'.current = b.current ∧ net'.caller = net.caller ∧
        net'.Shows T nodeId (h ++ [(act, ev)]) b' ∧
          (a.Quiet b.server.Due → b.Calms tgt od nodeId (.ok none) m b') := by
  obtain ⟨⟨e', n'⟩, hstep, heq⟩ := Option.map_eq_some_iff.mp hs
  obtain ⟨rfl, rfl⟩ := Prod.mk.inj heq
  have key : ∃ k b' l, b.Serves T tgt od nodeId n' e'.frame?.toList e'.calls l k b' ∧
      Carries T rest l ∧ (a.Quiet b.server.Due → b.Calms tgt od nodeId (.ok none) m b') := by
    rcases serveMachine_step_cases hstep with ⟨out, r, htx, rfl, hsend⟩ | ⟨w, htx, rfl, hwake⟩
    · obtain ⟨-, rfl, rfl⟩ | ⟨frame, now, -, hact, -⟩ := hsrc
      · obtain ⟨k, b', hm, hcalms⟩ := exists_serves_send hT hb.server hb.dict htx hsend
        exact ⟨k, b', _, hm, hb.up, fun _ => hcalms⟩
      · cases hact
    · rcases hsrc with ⟨hrecv, rfl, rfl⟩ | ⟨frame, now, hup, hact, rfl⟩
      · obtain ⟨k, b', hm, hcalms⟩ := exists_serves_wake hb.wf hb.server hb.dict hrecv hwake
        exact ⟨k, b', _, hm, hb.up, hcalms⟩
      · cases hact
        obtain ⟨f, i, l, htoServer, hframe, hrest⟩ := (hup ▸ hb.up).of_cons
        obtain ⟨k, b', hm, hcalms⟩ := exists_serves_receive hb.server hb.dict htoServer hframe hwake
        exact ⟨k, b', l, hm, hrest, fun _ => hcalms⟩
  obtain ⟨k, b', l, hm, hrest, hcalms⟩ := key
  obtain ⟨l', hl', hc⟩ := hm.down
  refine ⟨k, b', hm.run, hm.notBegun, hm.client, hm.current, rfl, ?_, hcalms⟩
  refine ⟨reachable_wellFormed hb.wf hm.run, hm.server, hm.dict, hm.up ▸ hrest, ?_, ?_⟩
  · rw [hl']
    exact hb.down.append hc
  · rw [hm.calls, hb.calls, netCalls_append_singleton]
    cases e' <;> rfl

/-- **The bus follows a step of the caller.** -/
theorem Net.Follows.caller_step (hT : T.Lawful) (hstart : Starts N tgt od nodeId cfg opens start)
    (hf : net.Follows T nodeId cfg opens finish h h' b) {a : BytesAction φ ε} {rest : List φ}
    (hs : ({ net with down := rest } : Net N σ φ ε ρ).callerStep retries
      (bytesMachine T tgt nodeId start finish) a = some (ev, net'))
    (hsrc : a.From (foreignToCaller T nodeId) net.down rest m) :
    ∃ k b', (busMachine tgt od nodeId).Run b k b' ∧
      net'.Follows T nodeId cfg opens finish (h ++ [(act, ev)]) (h' ++ k) b' := by
  obtain ⟨⟨e₁, s'⟩, hstep, heq⟩ := Option.map_eq_some_iff.mp hs
  obtain ⟨rfl, rfl⟩ := Prod.mk.inj heq
  obtain ⟨-, x, hM, hnext⟩ := retryMachine_step_eq hstep
  rcases bytesMachine_step_cases hM with ⟨r, now, hstate, rfl, rfl, hx⟩ |
    ⟨d, d', a', e', hstate, rfl, rfl, hdrive, hofDrive⟩
  · -- the subscription
    obtain ⟨rfl, -⟩ := hsrc
    obtain ⟨k, b', hr, hserver, hdict, hcalls, hup, hdown, hd'⟩ :=
      hf.caller.subscribed hstate hstart hx hnext
    refine ⟨k, b', hr, ⟨reachable_wellFormed hf.wf hr, hserver.trans hf.server,
      hdict.trans hf.dict, ?_, hdown ▸ hf.down, ?_⟩, hd'⟩
    · rw [hup]
      exact (List.append_nil net.up).symm ▸ hf.up
    · rw [hcalls, hf.calls, netCalls_append_singleton]
      exact (List.append_nil _).symm
  · -- a step of `drive`
    obtain ⟨hnone, hclient⟩ := hf.caller.driving d hstate
    obtain ⟨k, b₁, down, hm, hdown, hreach, -⟩ := hf.drive_step hT hclient hdrive hsrc
    obtain ⟨k', b', hm', hd'⟩ := hf.caller.next hm hreach hofDrive hnext
    exact ⟨k', b', hm'.run, hf.moved hm' hdown s' rfl, hd'⟩

/-- **The bus follows a step of the server.** -/
theorem Net.Follows.node_step (hT : T.Lawful) (hf : net.Follows T nodeId cfg opens finish h h' b)
    {rest : List φ}
    (hs : ({ net with up := rest } : Net N σ φ ε ρ).nodeStep T od a = some (ev, net'))
    (hsrc : a.From (foreignToNode T nodeId) net.up rest m) :
    ∃ k b', (busMachine tgt od nodeId).Run b k b' ∧
      net'.Follows T nodeId cfg opens finish (h ++ [(act, ev)]) (h' ++ k) b' := by
  obtain ⟨k, b', hr, hnew, hclient, hcur, hcaller, hb, -⟩ := hf.toShows.node_step hT hs hsrc
  -- nothing has happened to the client
  have hd := hf.caller
  refine ⟨k, b', hr, hb, hcaller ▸ ⟨hclient ▸ hd.cfg, fun d hd' => hclient ▸ hd.driving d hd',
    fun hno => hclient ▸ hd.idle hno, hcur ▸ hd.current, fun hs => hcur ▸ hd.fresh hs, ?_, ?_⟩⟩
  · intro a ha
    rw [begun_append, begun_eq_nil hnew, List.append_nil] at ha
    exact hd.opened a ha
  · intro v hv
    obtain ⟨act, f, i, outcome, hmem, hfin⟩ := hd.outcome v hv
    exact ⟨act, f, i, outcome, List.mem_append_left _ hmem, hfin⟩

/-- A frame is lost. -/
theorem Net.Follows.lost (hf : net.Follows T nodeId cfg opens finish h h' b) {up down : List φ}
    {i : ℕ} {lose : BusAction σ} {b' : Bus N σ}
    (hs : busStep tgt od nodeId b lose = some (.other (.ok none), b'))
    (hb : b' = { b with toServer := b.toServer.eraseIdx i } ∧ up = net.up.eraseIdx i ∧
        down = net.down ∨
      b' = { b with toClient := b.toClient.eraseIdx i } ∧ down = net.down.eraseIdx i ∧
        up = net.up) :
    Net.Follows T nodeId cfg opens finish (h ++ [(act, .lost)]) { net with up := up, down := down }
      (h' ++ [(lose, .other (.ok none))]) b' := by
  have hd := hf.caller
  have hwf := (busStep_of_step hf.wf hs).2
  have hcalls : b.calls.map Prod.fst = netCalls (h ++ [(act, .lost)]) := by
    rw [hf.calls, netCalls_append_singleton]
    exact (List.append_nil _).symm
  have hopened : ∀ a ∈ begun (h' ++ [(lose, .other (.ok none))]), opens a := by
    intro a ha
    rw [begun_append_singleton, if_neg (by simp), List.append_nil] at ha
    exact hd.opened a ha
  have hout : ∀ v, net.caller.result = some (.ok v) → ∃ act f i outcome,
      (act, .answered f i (.ok (some outcome))) ∈ h' ++ [(lose, .other (.ok none))] ∧
        finish outcome = .ok v := by
    intro v hv
    obtain ⟨act, f, i, outcome, hmem, hfin⟩ := hd.outcome v hv
    exact ⟨act, f, i, outcome, List.mem_append_left _ hmem, hfin⟩
  rcases hb with ⟨rfl, rfl, rfl⟩ | ⟨rfl, rfl, rfl⟩
  · exact ⟨⟨hwf, hf.server, hf.dict, hf.up.eraseIdx i, hf.down, hcalls⟩,
      hd.cfg, hd.driving, hd.idle, hd.current, hd.fresh, hopened, hout⟩
  · exact ⟨⟨hwf, hf.server, hf.dict, hf.up, hf.down.eraseIdx i, hcalls⟩,
      hd.cfg, hd.driving, hd.idle, hd.current, hd.fresh, hopened, hout⟩

/-- **Every step of the stack is followed.** -/
theorem Net.Follows.step (hT : T.Lawful) (hstart : Starts N tgt od nodeId cfg opens start)
    (hf : net.Follows T nodeId cfg opens finish h h' b)
    (hs : (netMachine T od nodeId retries (bytesMachine T tgt nodeId start finish)).step net act
      = some (ev, net')) :
    ∃ k b', (busMachine tgt od nodeId).Run b k b' ∧
      net'.Follows T nodeId cfg opens finish (h ++ [(act, ev)]) (h' ++ k) b' := by
  cases netStep_of_step hs with
  | caller hsrc _ hs => exact hf.caller_step hT hstart hs hsrc
  | node hsrc _ hs => exact hf.node_step hT hs hsrc
  | @loseUp i hact hev hnet =>
    subst hev hnet
    have hlose : busStep tgt od nodeId b (.loseToServer i)
        = some (.other (.ok none), { b with toServer := b.toServer.eraseIdx i }) := rfl
    exact ⟨_, _, Bus.run_single hlose, hf.lost hlose (.inl ⟨rfl, rfl, rfl⟩)⟩
  | @loseDown i hact hev hnet =>
    subst hev hnet
    have hlose : busStep tgt od nodeId b (.loseToClient i)
        = some (.other (.ok none), { b with toClient := b.toClient.eraseIdx i }) := rfl
    exact ⟨_, _, Bus.run_single hlose, hf.lost hlose (.inr ⟨rfl, rfl, rfl⟩)⟩

/-- **A run of the stack is one of the state machines.** -/
theorem net_simulated (hT : T.Lawful) (hstart : Starts N tgt od nodeId cfg opens start)
    {s : SdoServer N} (hs : s.cfg.nodeId = nodeId) {dict : σ}
    (hr : (netMachine T od nodeId retries (bytesMachine T tgt nodeId start finish)).Run
      (.init s dict) h net) :
    ∃ h' b, (busMachine tgt od nodeId).Run (.start (.new cfg) s dict) h' b ∧
      net.Follows T nodeId cfg opens finish h h' b := by
  refine hr.simulated (R := fun h net h' b => net.Follows T nodeId cfg opens finish h h' b) ?_
    fun h net act ev net' h' b hf hs => hf.step hT hstart hs
  exact ⟨⟨Bus.wellFormed_start hs rfl rfl, rfl, rfl, rfl, rfl, rfl⟩, rfl,
    fun d hd => (by cases hd), fun _ => rfl, Nat.zero_le _, fun _ => Nat.zero_lt_one,
    by simp [begun], fun v hv => (by cases hv)⟩

end Follow

end CanopenSdo
