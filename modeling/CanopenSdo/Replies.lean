import CanopenSdo.Answer
import CanopenSdo.ServerSafety

/-!
# Every request is answered once

After a frame has been handled, one frame is pending or none: none after an abort of the
client, and for every other frame to the node exactly one, under the identifier of its
responses.  A call that returns `Ok` has queued the response of the request's kind, a call
that fails the abort with the code it reports.

`AnswerTo` and `Finishes` are about the frames alone; `ServerStep.replied` ties them to
the exits of the server, and here they are read off in every reachable state.

## Main results

* `SdoServer.pendingTx_aborted` — what is pending after an abort.
* `every_request_answered` — **every request gets one answer of the right kind.**
-/

namespace CanopenSdo

open Wire

variable {N : ℕ} {σ : Type} {od : ObjectDictionary σ} {cfg : ServerConfig} {o₀ o : σ}
  {s : SdoServer N} {h : List (ServerAction σ × ServerEvent)}

/-- The frame is an abort with this code. -/
def SdoFrame.AbortsWith (g : SdoFrame) (code : SdoAbortCode) : Prop :=
  g.cs = csAbort ∧ wordOf g.data = code.raw

theorem SdoFrame.abortsWith_abort (id : UInt16) (idx : UInt16) (sub : UInt8)
    (code : SdoAbortCode) : AbortsWith ⟨id, Wire.abort idx sub code⟩ code :=
  ⟨cs_abort id idx sub code, wordOf_abort idx sub code⟩

/-- What the answer to a request must be, for the result the call has returned. -/
structure SdoServer.Answered (s : SdoServer N) (f g : SdoFrame) (r : SdoResult Unit) : Prop where
  pending : s.pendingTx = some g
  id : g.cobId.toNat = 0x580 + s.cfg.nodeId.toNat
  /-- The response of the request's kind, which may end the transfer. -/
  ok : r = .ok () → AnswerTo f g ∧ (s.state = .idle ↔ Finishes f g)
  /-- The abort with the code that is reported. -/
  error : ∀ e, r = .error e → ∃ code, e = .clientAborted code ∧ g.AbortsWith code ∧
    s.state = .idle ∧ s.deadline = none

/-- Every exit on a request has its answer. -/
theorem ServerStep.answered {s s' : SdoServer N} {f : SdoFrame} {now : UInt64} {o o' : σ}
    {r : SdoResult Unit} (h : ServerStep od s f now o r s' o') (hn : s.cfg.nodeId ≤ 127)
    (ha : s.Addressed f) (hcs : f.cs ≠ csAbort) : ∃ g, s'.Answered f g r := by
  have hid : ∀ data, (⟨SdoFrame.tsdoId s.cfg.nodeId, data⟩ : SdoFrame).cobId.toNat
      = 0x580 + s'.cfg.nodeId.toNat := by
    intro data
    rw [h.cfg]
    exact SdoFrame.toNat_tsdoId hn
  rcases r with e | ⟨⟩
  · obtain ⟨idx, sub, code, rfl, rfl⟩ := h.aborted_of_error
    refine ⟨_, rfl, hid _, nofun, ?_⟩
    intro e he
    obtain rfl := Except.error.inj he
    exact ⟨code, rfl, SdoFrame.abortsWith_abort _ idx sub code, rfl, rfl⟩
  · obtain ⟨data, htx, hans, hidle⟩ := h.replied ha hcs
    exact ⟨_, htx, hid data, fun _ => ⟨hans, hidle⟩, nofun⟩

/-- **Every request gets exactly one answer of the right kind.**  In every reachable state
every frame is handled.  A frame for another node changes nothing, an abort of the client
leaves the server idle with nothing pending, and every other frame has its answer. -/
theorem every_request_answered (hn : cfg.nodeId ≤ 127)
    (hr : (serverMachine N od).Run (.new cfg, o₀) h (s, o)) (f : SdoFrame) (now : UInt64) :
    ∃ r s' o', s.handleFrame f now od o = .ok ((r, s'), o') ∧
      (SdoFrame.nodeOfRsdo f.cobId ≠ some cfg.nodeId → r = .ok () ∧ s' = s ∧ o' = o) ∧
      (SdoFrame.nodeOfRsdo f.cobId = some cfg.nodeId →
        (f.cs = csAbort → r = .ok () ∧ s'.state = .idle ∧ s'.pendingTx = none ∧
          s'.deadline = none) ∧
        (f.cs ≠ csAbort → ∃ g, s'.Answered f g r)) := by
  obtain ⟨rfl, hrange⟩ := server_inRange hr
  have hexit : ∃ r s' o', ServerStep od s f now o r s' o' := exists_serverStep_of_inRange hrange
  obtain ⟨r, s', o', hstep⟩ := hexit
  refine ⟨r, s', o', hstep.handleFrame_eq, ?_, ?_⟩
  · intro ha
    exact hstep.unique (.ignored ha)
  · intro ha
    constructor
    · intro hcs
      obtain ⟨rfl, rfl, -⟩ := hstep.unique (.clientAbort ha hcs)
      exact ⟨rfl, rfl, rfl, rfl⟩
    · intro hcs
      exact hstep.answered hn ha hcs

/-- The segment request after the first segment of eight bytes is answered with the final
one. -/
theorem every_request_answered_lyingRun :
    ∃ r s' o', lyingRun.2.1.handleFrame ⟨0x610, ⟨[0x70, 0, 0, 0, 0, 0, 0, 0], rfl⟩⟩ 2 lyingOd 100
        = .ok ((r, s'), o') ∧
      ∃ g, s'.Answered ⟨0x610, ⟨[0x70, 0, 0, 0, 0, 0, 0, 0], rfl⟩⟩ g r := by
  obtain ⟨r, s', o', heq, -, hans⟩ := every_request_answered (by decide) run_lyingRun
    ⟨0x610, ⟨[0x70, 0, 0, 0, 0, 0, 0, 0], rfl⟩⟩ 2
  exact ⟨r, s', o', heq, (hans (by decide)).2 (by decide)⟩

end CanopenSdo
