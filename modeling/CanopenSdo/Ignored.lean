import CanopenSdo.LifeCycle
import CanopenSdo.Lib.Insertion

/-!
# Frames that are no answers

On a shared bus a client sees the frames of everyone.  A frame that does not answer its
outstanding request leaves it exactly as it was: the transfer with all it has received, the
pending frame and the deadline.  So a run is not changed by such frames, however many come
and whenever they do.

## Main definitions

* `SdoClient.AnsweredBy` — the frame answers the outstanding request.
* `NonAnswer` — the calls that deliver anything else.
* `sentFrame` — the frame a call hands out.

## Main results

* `handleFrame_of_not_answeredBy` — a frame that is no answer changes nothing.
* `non_answers_change_nothing` — **nor do any number of them, anywhere in a run.**
-/

namespace CanopenSdo

open Wire

/-- The frame answers the outstanding request of the transfer in flight: it is a response of
its node, and an abort of its object or what its phase waits for. -/
def SdoClient.AnsweredBy (c : SdoClient) (f : SdoFrame) : Prop :=
  ∃ node idx sub, c.transfer = some (node, idx, sub) ∧ f.cobId.toNat = 0x580 + node.toNat ∧
    ((f.cs = csAbort ∧ f.Names idx sub) ∨ c.state.Awaits f)

/-- The call delivers a frame with a standard identifier that is no answer. -/
def NonAnswer (c : SdoClient) : ClientCall → Prop
  | .handleFrame f _ => f.cobId.toNat < 2 ^ 11 ∧ ¬ c.AnsweredBy f
  | _ => False

/-- The frame a call hands out. -/
def sentFrame (x : ClientCall × ClientReturn × SdoClient) : Option SdoFrame :=
  match x.2.1 with
  | .transmitted tx => tx
  | _ => none

section Ignored

variable {tgt : Target} {c : SdoClient} {f : SdoFrame}

/-- What the handlers take for an answer is one. -/
theorem SdoClient.Answers.answeredBy (h : c.Answers f) (hstd : f.cobId.toNat < 2 ^ 11) :
    c.AnsweredBy f := by
  obtain ⟨node, idx, sub, ht, hn, hkind⟩ := SdoClient.answers_iff.mp h
  exact ⟨node, idx, sub, ht, SdoFrame.toNat_of_nodeOfTsdo hstd hn, hkind⟩

/-- **A frame that is no answer changes nothing.** -/
theorem handleFrame_of_not_answeredBy (hstd : f.cobId.toNat < 2 ^ 11) (h : ¬ c.AnsweredBy f)
    (now : UInt64) : c.handleFrame tgt f now = .ok (.ok none, c) := by
  refine SdoClient.handleFrame_of_not_answers ?_
  intro ha
  exact h (ha.answeredBy hstd)

/-- To the machine such a call is silent. -/
theorem NonAnswer.step {a : ClientCall} (h : NonAnswer c a) :
    (callMachine tgt).step c a = some (.returned (.ok none), c) := by
  cases a with
  | handleFrame f now =>
    have hf : c.handleFrame tgt f now = .ok (.ok none, c) :=
      handleFrame_of_not_answeredBy h.1 h.2 now
    simp only [callMachine, callStep, hf]
  | _ => exact h.elim

end Ignored

/-- **A frame that does not answer the outstanding request leaves the client exactly as it
was**, and inserting any number of such frames anywhere into a run changes nothing else:
every call returns what it did, hands out the frame it did, and leaves the client as it
did, deadline included. -/
theorem non_answers_change_nothing (tgt : Target) (c : SdoClient) :
    (∀ f now, f.cobId.toNat < 2 ^ 11 → ¬ c.AnsweredBy f →
      c.handleFrame tgt f now = .ok (.ok none, c)) ∧
    ∀ as as', (callMachine tgt).Filled NonAnswer c as as' →
      ∃ hist hist' c', (callMachine tgt).traced.exec c as = some (hist, c') ∧
        (callMachine tgt).traced.exec c as' = some (hist', c') ∧
        Inserted (fun x => (∃ f now, x.1 = .handleFrame f now) ∧ x.2.1 = .returned (.ok none))
          hist hist' ∧
        hist'.filterMap sentFrame = hist.filterMap sentFrame := by
  constructor
  · intro f now hstd h
    exact handleFrame_of_not_answeredBy hstd h now
  · intro as as' hfilled
    -- by induction on the insertions: each is a step that changes nothing
    obtain ⟨hist, hist', c', h₁, h₂, hins⟩ := hfilled.exec fun _ _ => NonAnswer.step
    refine ⟨hist, hist', c', h₁, h₂, ?_, ?_⟩
    · refine hins.mono ?_
      rintro x ⟨c, a, ha, rfl⟩
      cases a with
      | handleFrame f now => exact ⟨⟨f, now, rfl⟩, rfl⟩
      | _ => exact ha.elim
    · refine hins.filterMap_eq ?_
      rintro x ⟨c, a, -, rfl⟩
      rfl

/-- An abort of another node, for the same object. -/
def foreignFrame : SdoFrame := ⟨0x591, ⟨[0x80, 0, 0x20, 0, 0, 0, 4, 5], rfl⟩⟩

theorem not_answeredBy_foreignFrame {c : SdoClient} {idx : UInt16} {sub : UInt8}
    (ht : c.transfer = some (0x10, idx, sub)) : ¬ c.AnsweredBy foreignFrame := by
  rintro ⟨node, idx', sub', ht', hid, -⟩
  cases ht.symm.trans ht'
  cases hid

/-- An abort of another node may come before and after the pending frame is taken, and the
read still times out as it would have. -/
theorem non_answers_change_nothing_announcedRead :
    announcedRead.2.handleFrame .bits64 foreignFrame 7 = .ok (.ok none, announcedRead.2) ∧
    ∃ hist hist' c',
      (callMachine .bits64).traced.exec announcedRead.2
        [.pollTransmit, .handleTimeout 150000005] = some (hist, c') ∧
      (callMachine .bits64).traced.exec announcedRead.2
        [.handleFrame foreignFrame 7, .pollTransmit, .handleFrame foreignFrame 8,
          .handleTimeout 150000005] = some (hist', c') ∧
      Inserted (fun x => (∃ f now, x.1 = .handleFrame f now) ∧ x.2.1 = .returned (.ok none))
        hist hist' ∧
      hist'.filterMap sentFrame = hist.filterMap sentFrame := by
  obtain ⟨hframe, hruns⟩ := non_answers_change_nothing .bits64 announcedRead.2
  have hstd : foreignFrame.cobId.toNat < 2 ^ 11 := by decide
  have hno : ¬ announcedRead.2.AnsweredBy foreignFrame :=
    not_answeredBy_foreignFrame (show _ = some (0x10, 0x2000, 0) by decide +kernel)
  have hno' : ¬ (announcedRead.2.pollTransmit.2).AnsweredBy foreignFrame :=
    not_answeredBy_foreignFrame (show _ = some (0x10, 0x2000, 0) by decide +kernel)
  refine ⟨hframe _ 7 hstd hno, hruns _ _ ?_⟩
  apply Machine.Filled.insert ⟨hstd, hno⟩
  have hpoll : (callMachine .bits64).step announcedRead.2 .pollTransmit = some
    (.transmitted announcedRead.2.pollTransmit.1, announcedRead.2.pollTransmit.2) := rfl
  apply Machine.Filled.keep hpoll
  apply Machine.Filled.insert ⟨hstd, hno'⟩
  have hexpired : (callMachine .bits64).step announcedRead.2.pollTransmit.2
    (.handleTimeout 150000005) = some (_, _) := rfl
  exact .keep hexpired (.nil _)

end CanopenSdo
