import CanopenSdo.ServerStep

/-!
# Dictionaries that answer alike

The server knows its dictionary by the answers to its calls only.  Where two dictionaries
give the same answers, from states that are related, a server does the same with the one as
with the other: it sends the same frames, returns the same results and goes through the same
states.

## Main definitions

* `ObjectDictionary.Simulation` — every call of related states has one answer, and leaves
  related states.

## Main results

* `ServerStep.simulated` — **a server cannot tell such dictionaries apart.**
* `ObjectDictionary.recording_shift` — what a recording dictionary has on record changes
  nothing.
-/

namespace CanopenSdo

variable {N : ℕ} {σ τ : Type}

/-- Every call of the dictionary `od` has the answer that `od'` gives in a related state,
and the states stay related. -/
structure ObjectDictionary.Simulation (od : ObjectDictionary σ) (od' : ObjectDictionary τ)
    (R : σ → τ → Prop) : Prop where
  read : ∀ {n : ℕ} {o o' : σ} {q : τ} {idx : UInt16} {sub : UInt8} {b buf : Bytes n}
    {x : Except SdoAbortCode ℕ}, R o q → od.read o idx sub b = (x, buf, o') →
      ∃ q', od'.read q idx sub b = (x, buf, q') ∧ R o' q'
  write : ∀ {o o' : σ} {q : τ} {idx : UInt16} {sub : UInt8} {d : List UInt8}
    {x : Except SdoAbortCode Unit}, R o q → od.write o idx sub d = (x, o') →
      ∃ q', od'.write q idx sub d = (x, q') ∧ R o' q'

section

variable {od : ObjectDictionary σ} {od' : ObjectDictionary τ} {R : σ → τ → Prop}

/-- **A server cannot tell such dictionaries apart.** -/
theorem ServerStep.simulated (hsim : od.Simulation od' R) {s s' : SdoServer N} {f : SdoFrame}
    {now : UInt64} {o o' : σ} {q : τ} {r : SdoResult Unit} (hR : R o q)
    (h : ServerStep od s f now o r s' o') : ∃ q', ServerStep od' s f now q r s' q' ∧ R o' q' := by
  cases h with
  -- the exits that make a call
  | initUploadRefused ha hcs hr =>
    obtain ⟨q', hr', hR'⟩ := hsim.read hR hr
    exact ⟨q', .initUploadRefused ha hcs hr', hR'⟩
  | initUploadTooLarge ha hcs hr hlen =>
    obtain ⟨q', hr', hR'⟩ := hsim.read hR hr
    exact ⟨q', .initUploadTooLarge ha hcs hr' hlen, hR'⟩
  | initUploadExpedited ha hcs hr hlen h =>
    obtain ⟨q', hr', hR'⟩ := hsim.read hR hr
    exact ⟨q', .initUploadExpedited ha hcs hr' hlen h, hR'⟩
  | initUploadSegmented ha hcs hr hlen h =>
    obtain ⟨q', hr', hR'⟩ := hsim.read hR hr
    exact ⟨q', .initUploadSegmented ha hcs hr' hlen h, hR'⟩
  | initDownloadRefused ha hcs he hw =>
    obtain ⟨q', hw', hR'⟩ := hsim.write hR hw
    exact ⟨q', .initDownloadRefused ha hcs he hw', hR'⟩
  | initDownloadExpedited ha hcs he hw =>
    obtain ⟨q', hw', hR'⟩ := hsim.write hR hw
    exact ⟨q', .initDownloadExpedited ha hcs he hw', hR'⟩
  | downloadSegmentRefused ha hcs hst ht hfit hc hsize hw =>
    obtain ⟨q', hw', hR'⟩ := hsim.write hR hw
    exact ⟨q', .downloadSegmentRefused ha hcs hst ht hfit hc hsize hw', hR'⟩
  | downloadSegmentLast ha hcs hst ht hfit hc hsize hw =>
    obtain ⟨q', hw', hR'⟩ := hsim.write hR hw
    exact ⟨q', .downloadSegmentLast ha hcs hst ht hfit hc hsize hw', hR'⟩
  -- the exits that make none
  | ignored ha => exact ⟨q, .ignored ha, hR⟩
  | clientAbort ha hcs => exact ⟨q, .clientAbort ha hcs, hR⟩
  | uploadSegmentUnexpected ha hcs hst => exact ⟨q, .uploadSegmentUnexpected ha hcs hst, hR⟩
  | uploadSegmentToggle ha hcs hst ht => exact ⟨q, .uploadSegmentToggle ha hcs hst ht, hR⟩
  | uploadSegmentMore ha hcs hst ht hlen hN =>
    exact ⟨q, .uploadSegmentMore ha hcs hst ht hlen hN, hR⟩
  | uploadSegmentLast ha hcs hst ht hsent hlen hN =>
    exact ⟨q, .uploadSegmentLast ha hcs hst ht hsent hlen hN, hR⟩
  | initDownloadTooLarge ha hcs he hsize hN =>
    exact ⟨q, .initDownloadTooLarge ha hcs he hsize hN, hR⟩
  | initDownloadSegmented ha hcs he hN => exact ⟨q, .initDownloadSegmented ha hcs he hN, hR⟩
  | downloadSegmentUnexpected ha hcs hst => exact ⟨q, .downloadSegmentUnexpected ha hcs hst, hR⟩
  | downloadSegmentToggle ha hcs hst ht => exact ⟨q, .downloadSegmentToggle ha hcs hst ht, hR⟩
  | downloadSegmentOverflow ha hcs hst ht hfit =>
    exact ⟨q, .downloadSegmentOverflow ha hcs hst ht hfit, hR⟩
  | downloadSegmentMore ha hcs hst ht hfit hc =>
    exact ⟨q, .downloadSegmentMore ha hcs hst ht hfit hc, hR⟩
  | downloadSegmentMismatch ha hcs hst ht hfit hc hsize =>
    exact ⟨q, .downloadSegmentMismatch ha hcs hst ht hfit hc hsize, hR⟩
  | unknownCommand ha hcs => exact ⟨q, .unknownCommand ha hcs, hR⟩

/-- What the server computes with the one dictionary, it computes with the other. -/
theorem SdoServer.handleFrame_simulated (hsim : od.Simulation od' R) {s s' : SdoServer N}
    {f : SdoFrame} {now : UInt64} {o o' : σ} {q : τ} {r : SdoResult Unit} (hR : R o q)
    (h : s.handleFrame f now od o = .ok ((r, s'), o')) :
    ∃ q', s.handleFrame f now od' q = .ok ((r, s'), q') ∧ R o' q' := by
  obtain ⟨q', hstep, hR'⟩ := (handleFrame_eq_ok_iff.mp h).simulated hsim hR
  exact ⟨q', hstep.handleFrame_eq, hR'⟩

end

/-! ### What is on record -/

namespace ObjectDictionary

variable (od : ObjectDictionary σ) (log : List OdCall)

/-- The calls on record may be followed by others: the answers are the same. -/
theorem recording_shift :
    od.recording.Simulation od.recording fun p q => q = (p.1, log ++ p.2) where
  read := by
    rintro n o o' - idx sub b buf x rfl h
    obtain ⟨rfl, rfl, rfl⟩ : _ = x ∧ _ = buf ∧ _ = o' := by simpa [recording] using h
    exact ⟨_, rfl, by simp⟩
  write := by
    rintro o o' - idx sub d x rfl h
    obtain ⟨rfl, rfl⟩ : _ = x ∧ _ = o' := by simpa [recording] using h
    exact ⟨_, rfl, by simp⟩

/-- And they may be taken off the record. -/
theorem recording_unshift :
    od.recording.Simulation od.recording fun p q => p = (q.1, log ++ q.2) where
  read := by
    rintro n - o' q idx sub b buf x rfl h
    obtain ⟨rfl, rfl, rfl⟩ : _ = x ∧ _ = buf ∧ _ = o' := by simpa [recording] using h
    exact ⟨_, rfl, by simp⟩
  write := by
    rintro - o' q idx sub d x rfl h
    obtain ⟨rfl, rfl⟩ : _ = x ∧ _ = o' := by simpa [recording] using h
    exact ⟨_, rfl, by simp⟩

end ObjectDictionary

end CanopenSdo
