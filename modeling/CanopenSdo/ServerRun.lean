import CanopenSdo.Lib.Machine
import CanopenSdo.Lib.Segment
import CanopenSdo.ServerStep

/-!
# Runs of the server

The server as a machine: any frames at any times, with polls and timeouts between them,
against a dictionary whose contents may change at any moment.

What a run has done is said in terms of what the server has heard: the frames addressed
to its node, each with the dictionary calls it led to, and the timeouts that made it
abort.  No other step changes its state (`serverStep_cases`).

## Main definitions

* `ServerAction`, `ServerEvent`, `serverMachine`.
* `SdoServer.Due` — the deadline has passed.
* `ServerCallStep` — what a call does.
* `Heard`, `heard` — what the server has heard in a run.
* `ServerState.InRange` — the positions are inside the buffer.

## Main results

* `serverCallStep_of_step` — every call does what `ServerCallStep` says.
* `serverStep_cases` — the steps of the server, by what it hears.
* `server_inRange` — **in every run the positions stay inside the buffer.**
* `server_remembers` — **what the server remembers is a matter of what it has heard.**
-/

namespace CanopenSdo

open Wire

variable {N : ℕ} {σ : Type}

/-! ### The machine -/

/-- A call on the server, or a change of the dictionary. -/
inductive ServerAction (σ : Type) where
  | handleFrame (f : SdoFrame) (now : UInt64)
  | pollTransmit
  | handleTimeout (now : UInt64)
  /-- The application changes the dictionary. -/
  | odChange (dict : σ)

/-- What a call returns, with the dictionary calls it made. -/
inductive ServerEvent where
  | handled (r : SdoResult Unit) (calls : List OdCall)
  | transmitted (tx : Option SdoFrame)
  | timeout (r : SdoResult Unit)
  | changed
  deriving DecidableEq

/-- The dictionary calls of a step. -/
def ServerEvent.calls : ServerEvent → List OdCall
  | .handled _ calls => calls
  | _ => []

/-- One step of the server and its dictionary; a call that panics is refused. -/
def serverStep (od : ObjectDictionary σ) (x : SdoServer N × σ) :
    ServerAction σ → Option (ServerEvent × (SdoServer N × σ))
  | .handleFrame f now =>
    match x.1.handleFrame f now od.recording (x.2, []) with
    | .error _ => none
    | .ok ((r, s), (o, calls)) => some (.handled r calls, (s, o))
  | .pollTransmit =>
    let (tx, s) := x.1.pollTransmit
    some (.transmitted tx, (s, x.2))
  | .handleTimeout now =>
    let (r, s) := x.1.handleTimeout now
    some (.timeout r, (s, x.2))
  | .odChange dict => some (.changed, (x.1, dict))

/-- The server as a machine. -/
def serverMachine (N : ℕ) (od : ObjectDictionary σ) :
    Machine (SdoServer N × σ) (ServerAction σ) ServerEvent := ⟨serverStep od⟩

/-! ### What the server hears -/

/-- What the server of a node hears. -/
inductive Heard where
  /-- A frame addressed to the node, with the dictionary calls it led to. -/
  | frame (f : SdoFrame) (calls : List OdCall)
  /-- A timeout that made the server abort. -/
  | timedOut
  deriving DecidableEq

/-- What the server of a node hears in a step. -/
def heardIn (nodeId : UInt8) : ServerAction σ × ServerEvent → Option Heard
  | (.handleFrame f _, .handled _ calls) =>
    if SdoFrame.nodeOfRsdo f.cobId = some nodeId then some (.frame f calls) else none
  | (.handleTimeout _, .timeout (.error _)) => some .timedOut
  | _ => none

/-- What the server of a node has heard in a run. -/
def heard (nodeId : UInt8) (h : List (ServerAction σ × ServerEvent)) : List Heard :=
  h.filterMap (heardIn nodeId)

theorem heard_append_singleton (nodeId : UInt8) (h : List (ServerAction σ × ServerEvent))
    (x : ServerAction σ × ServerEvent) :
    heard nodeId (h ++ [x]) = heard nodeId h ++ (heardIn nodeId x).toList := by
  rw [heard, List.filterMap_append]
  cases hx : heardIn nodeId x <;> simp [heard, hx]

/-! ### What a call does -/

/-- The deadline has passed. -/
def SdoServer.Due (s : SdoServer N) (now : UInt64) : Prop := ∃ t, s.deadline = some t ∧ t ≤ now

/-- What a call does to the server and its dictionary. -/
inductive ServerCallStep (od : ObjectDictionary σ) (s : SdoServer N) (o : σ) :
    ServerAction σ → ServerEvent → SdoServer N → σ → Prop
  | frame {f : SdoFrame} {now : UInt64} {r : SdoResult Unit} {calls : List OdCall}
      {s' : SdoServer N} {o' : σ} (h : ServerStep od.recording s f now (o, []) r s' (o', calls)) :
      ServerCallStep od s o (.handleFrame f now) (.handled r calls) s' o'
  | transmitted : ServerCallStep od s o .pollTransmit (.transmitted s.pendingTx) s.drained o
  | early {now : UInt64} (hd : ¬ s.Due now) :
      ServerCallStep od s o (.handleTimeout now) (.timeout (.ok ())) s o
  | expired {now : UInt64} {idx : UInt16} {sub : UInt8} (hd : s.Due now)
      (ho : s.state.object = some (idx, sub)) :
      ServerCallStep od s o (.handleTimeout now)
        (.timeout (.error (.clientAborted .protocolTimeout))) (s.aborted idx sub .protocolTimeout) o
  | leftover {now : UInt64} (hd : s.Due now) (hst : s.state = .idle) :
      ServerCallStep od s o (.handleTimeout now) (.timeout (.ok ())) { s with deadline := none } o
  | changed {dict : σ} : ServerCallStep od s o (.odChange dict) .changed s dict

namespace SdoServer

variable {s : SdoServer N} {now : UInt64}

/-- A timeout that is not due changes nothing. -/
theorem handleTimeout_of_not_due (h : ¬ s.Due now) : s.handleTimeout now = (.ok (), s) := by
  unfold handleTimeout
  split
  · rfl
  · next t ht =>
    -- a deadline that has not passed is later than `now`
    have hlt : now < t := by
      rw [← UInt64.not_le]
      intro hle
      exact h ⟨t, ht, hle⟩
    rw [if_pos hlt]

/-- A timeout that is due aborts the transfer in flight. -/
theorem handleTimeout_of_due (h : s.Due now) {idx : UInt16} {sub : UInt8}
    (ho : s.state.object = some (idx, sub)) :
    s.handleTimeout now
      = (.error (.clientAborted .protocolTimeout), s.aborted idx sub .protocolTimeout) := by
  obtain ⟨t, ht, hle⟩ := h
  unfold ServerState.object at ho
  unfold handleTimeout
  rw [ht]
  simp only [if_neg (UInt64.not_lt.mpr hle)]
  cases hst : s.state <;> rw [hst] at ho <;> cases ho <;> rfl

/-- A deadline an idle server is left with is dropped. -/
theorem handleTimeout_of_idle (h : s.Due now) (hst : s.state = .idle) :
    s.handleTimeout now = (.ok (), { s with deadline := none }) := by
  obtain ⟨t, ht, hle⟩ := h
  unfold handleTimeout
  rw [ht]
  simp only [if_neg (UInt64.not_lt.mpr hle), hst]

end SdoServer

/-- A server is idle, or in the middle of a transfer of an object. -/
theorem ServerState.idle_or_object (st : ServerState N) :
    st = .idle ∨ ∃ idx sub, st.object = some (idx, sub) := by
  cases st with
  | idle => exact .inl rfl
  | uploading => exact .inr ⟨_, _, rfl⟩
  | downloading => exact .inr ⟨_, _, rfl⟩

section Steps

variable {od : ObjectDictionary σ} {s s' : SdoServer N} {o o' : σ} {a : ServerAction σ}
  {e : ServerEvent} {f : SdoFrame} {now : UInt64} {r : SdoResult Unit}

theorem serverStep_handleFrame_iff {calls : List OdCall} :
    (serverMachine N od).step (s, o) (.handleFrame f now) = some (.handled r calls, (s', o')) ↔
      ServerStep od.recording s f now (o, []) r s' (o', calls) := by
  rw [← handleFrame_eq_ok_iff]
  rcases hf : s.handleFrame f now od.recording (o, []) with p | ⟨⟨r₁, s₁⟩, o₁, calls₁⟩
  · simp [serverMachine, serverStep, hf]
  · simp only [serverMachine, serverStep, hf, Option.some.injEq, Prod.mk.injEq,
      ServerEvent.handled.injEq, Except.ok.injEq]
    tauto

/-- **Every call does what `ServerCallStep` says.** -/
theorem serverCallStep_of_step (h : (serverMachine N od).step (s, o) a = some (e, (s', o'))) :
    ServerCallStep od s o a e s' o' := by
  cases a with
  | handleFrame f now =>
    rcases hf : s.handleFrame f now od.recording (o, []) with p | ⟨⟨r, s₁⟩, o₁, calls⟩
    · simp [serverMachine, serverStep, hf] at h
    · simp only [serverMachine, serverStep, hf, Option.some.injEq, Prod.mk.injEq] at h
      obtain ⟨rfl, rfl, rfl⟩ := h
      exact .frame (handleFrame_eq_ok_iff.mp hf)
  | pollTransmit =>
    cases h
    exact .transmitted
  | handleTimeout now =>
    simp only [serverMachine, serverStep, Option.some.injEq, Prod.mk.injEq] at h
    obtain ⟨rfl, rfl, rfl⟩ := h
    by_cases hd : s.Due now
    · rcases s.state.idle_or_object with hst | ⟨idx, sub, ho⟩
      · rw [SdoServer.handleTimeout_of_idle hd hst]
        exact .leftover hd hst
      · rw [SdoServer.handleTimeout_of_due hd ho]
        exact .expired hd ho
    · rw [SdoServer.handleTimeout_of_not_due hd]
      exact .early hd
  | odChange dict =>
    cases h
    exact .changed

/-- No call changes the configuration. -/
theorem ServerCallStep.cfg (h : ServerCallStep od s o a e s' o') : s'.cfg = s.cfg := by
  cases h with
  | frame hstep => exact hstep.cfg
  | _ => rfl

/-- **The steps of the server**: it hears nothing, and nothing happens that matters; or
its deadline has passed; or it handles a frame. -/
theorem serverStep_cases (h : (serverMachine N od).step (s, o) a = some (e, (s', o'))) :
    (heardIn s.cfg.nodeId (a, e) = none ∧ s'.cfg = s.cfg ∧ s'.state = s.state ∧ e.calls = []) ∨
      (heardIn s.cfg.nodeId (a, e) = some .timedOut ∧ s'.cfg = s.cfg ∧ s'.state = .idle ∧
        e.calls = []) ∨
      ∃ f now r calls, a = .handleFrame f now ∧ e = .handled r calls ∧ s.Addressed f ∧
        heardIn s.cfg.nodeId (a, e) = some (.frame f calls) ∧ s'.cfg = s.cfg ∧
          ServerStep od.recording s f now (o, []) r s' (o', calls) := by
  cases serverCallStep_of_step h with
  | @frame f now r calls _ _ hstep =>
    by_cases ha : s.Addressed f
    · exact .inr (.inr ⟨f, now, r, calls, rfl, rfl, ha, if_pos ha, hstep.cfg, hstep⟩)
    · obtain ⟨-, rfl, hcalls⟩ := hstep.unique (.ignored ha)
      have hnil : calls = [] := congrArg Prod.snd hcalls
      exact .inl ⟨if_neg ha, rfl, rfl, hnil⟩
  | expired => exact .inr (.inl ⟨rfl, rfl, rfl, rfl⟩)
  | _ => exact .inl ⟨rfl, rfl, rfl, rfl⟩

end Steps

/-! ### The positions stay inside the buffer -/

/-- The positions are inside the buffer, and what was sent is a part of the value. -/
def ServerState.InRange : ServerState N → Prop
  | .idle => True
  | .uploading _ _ _ len sent _ => sent ≤ len ∧ len ≤ N
  | .downloading _ _ _ len _ _ => len ≤ N

theorem ServerStep.inRange {od : ObjectDictionary σ} {s s' : SdoServer N} {f : SdoFrame}
    {now : UInt64} {o o' : σ} {r : SdoResult Unit} (h : ServerStep od s f now o r s' o')
    (hs : s.state.InRange) : s'.state.InRange := by
  cases h with
  | ignored => exact hs
  | initUploadSegmented _ _ _ hlen => exact ⟨Nat.zero_le _, hlen⟩
  | uploadSegmentMore _ _ hst _ hlen =>
    rw [hst] at hs
    exact ⟨hlen.le, hs.2⟩
  | initDownloadSegmented => exact Nat.zero_le _
  | downloadSegmentMore _ _ _ _ hfit => exact hfit
  | _ => trivial

/-- No call takes the positions out of the buffer. -/
theorem inRange_of_serverStep {od : ObjectDictionary σ} {s s' : SdoServer N} {o o' : σ}
    {a : ServerAction σ} {e : ServerEvent}
    (h : (serverMachine N od).step (s, o) a = some (e, (s', o'))) (hs : s.state.InRange) :
    s'.state.InRange := by
  rcases serverStep_cases h with ⟨-, -, hst, -⟩ | ⟨-, -, hst, -⟩ |
    ⟨f, now, r, calls, -, -, -, -, -, hstep⟩
  · exact hst ▸ hs
  · exact hst ▸ trivial
  · exact hstep.inRange hs

/-- **In every run the positions stay inside the buffer**, and the configuration stays
what it was. -/
theorem server_inRange {od : ObjectDictionary σ} {cfg : ServerConfig} {o o' : σ}
    {s : SdoServer N} {h : List (ServerAction σ × ServerEvent)}
    (hr : (serverMachine N od).Run (.new cfg, o) h (s, o')) : s.cfg = cfg ∧ s.state.InRange := by
  refine hr.invariant (P := fun _ x => x.1.cfg = cfg ∧ x.1.state.InRange) ⟨rfl, trivial⟩ ?_
  rintro h ⟨s, o⟩ a e ⟨s', o'⟩ ⟨hcfg, hs⟩ hstep
  exact ⟨(serverCallStep_of_step hstep).cfg.trans hcfg, inRange_of_serverStep hstep hs⟩

/-! ### What the server remembers -/

/-- **What the server remembers is a matter of what it has heard.**  Let `V` be a part of
the transfer in flight, and let `R l y` say that there is one with the part `y` once `l` has
been heard.  If there is none at first and after a timeout, and every frame keeps the two
in agreement, then they agree along every run. -/
theorem server_remembers {β : Type*} {V : ServerState N → Option β} {R : List Heard → β → Prop}
    {od : ObjectDictionary σ} {cfg : ServerConfig} {o o' : σ} {s : SdoServer N}
    {h : List (ServerAction σ × ServerEvent)} (hidle : V .idle = none) (hnil : ∀ y, ¬ R [] y)
    (htimedOut : ∀ l y, ¬ R (l ++ [.timedOut]) y)
    (hframe : ∀ l (s s' : SdoServer N) f now o r o' calls, s.Addressed f → s.state.InRange →
      ServerStep od.recording s f now (o, []) r s' (o', calls) →
        (∀ y, V s.state = some y ↔ R l y) →
          ∀ y, V s'.state = some y ↔ R (l ++ [.frame f calls]) y)
    (hr : (serverMachine N od).Run (.new cfg, o) h (s, o')) (y : β) :
    V s.state = some y ↔ R (heard cfg.nodeId h) y := by
  have hnone : ∀ y, V .idle ≠ some y := by
    intro y hy
    rw [hidle] at hy
    cases hy
  -- the exits of a frame need the positions in range, so the three go through together
  have key : s.cfg = cfg ∧ s.state.InRange ∧
      ∀ y, V s.state = some y ↔ R (heard cfg.nodeId h) y := by
    refine hr.invariant (P := fun h x => x.1.cfg = cfg ∧ x.1.state.InRange ∧
      ∀ y, V x.1.state = some y ↔ R (heard cfg.nodeId h) y)
      ⟨rfl, trivial, fun y => iff_of_false (hnone y) (hnil y)⟩ ?_
    rintro h ⟨s, o⟩ a e ⟨s', o'⟩ ⟨rfl, hin, hview⟩ hstep
    rw [heard_append_singleton]
    rcases serverStep_cases hstep with ⟨hh, hc, hst, -⟩ | ⟨hh, hc, hst, -⟩ |
      ⟨f, now, r, calls, -, -, ha, hh, hc, hstep⟩
    · -- nothing was heard
      rw [hh, hst, Option.toList_none, List.append_nil]
      exact ⟨hc, hin, hview⟩
    · -- the deadline has passed
      rw [hh, hst, Option.toList_some]
      exact ⟨hc, trivial, fun y => iff_of_false (hnone y) (htimedOut _ y)⟩
    · -- a frame
      rw [hh, Option.toList_some]
      exact ⟨hc, hstep.inRange hin, hframe _ _ _ _ _ _ _ _ _ ha hin hstep hview⟩
  exact key.2.2 y

end CanopenSdo
