import Mathlib.Tactic

/-!
# Checked computations

A program with bounds-checked slices and overflow-checked arithmetic either
computes a value or stops.  `Checked α` is such a computation: `.ok a` is the
value `a`, `.error p` is a stop for the reason `p`.  The primitives below are
the partial operations of a slice-based systems language; everything else in a
program is total and needs no monad.

Each primitive has one lemma for the range in which it succeeds, and `bind_ok`
and `eq_ok_of_bind` take a computation apart, so that no later proof unfolds the
monad.

## Main definitions

* `Panic`, `Checked` — the reasons to stop, and the computations.
* `Checked.sub`, `Checked.slice`, `Checked.guard` — checked subtraction, slicing, and
  asserting.
-/

/-- Why a checked computation stops. -/
inductive Panic where
  /-- A subtraction of a larger number from a smaller one. -/
  | subOverflow
  /-- A slice that is not inside its array. -/
  | sliceRange
  /-- More capacity than an allocation may have. -/
  | capacityOverflow
  /-- A branch the program declares unreachable. -/
  | unreachable
  /-- A failed assertion. -/
  | assertion
  deriving DecidableEq, Repr, Inhabited

/-- A computation that yields a value or stops. -/
abbrev Checked (α : Type*) := Except Panic α

namespace Checked

universe u

variable {α β : Type u}

@[simp] theorem bind_ok (a : α) (f : α → Checked β) : (Except.ok a : Checked α) >>= f = f a := rfl

@[simp] theorem pure_eq_ok (a : α) : (pure a : Checked α) = .ok a := rfl

@[simp] theorem map_ok (f : α → β) (a : α) : f <$> (Except.ok a : Checked α) = .ok (f a) := rfl

/-- A sequence that yields a value yields one at its first step. -/
theorem eq_ok_of_bind {x : Checked α} {f : α → Checked β} {b : β} (h : x >>= f = .ok b) :
    ∃ a, x = .ok a ∧ f a = .ok b := by
  cases x with
  | ok a => exact ⟨a, rfl, h⟩
  | error p => cases h

/-- An image that is a value is the image of a value. -/
theorem eq_ok_of_map {x : Checked α} {f : α → β} {b : β} (h : f <$> x = .ok b) :
    ∃ a, x = .ok a ∧ f a = b := by
  cases x with
  | ok a => exact ⟨a, rfl, by simpa using h⟩
  | error p => cases h

/-! ### Primitives -/

/-- Checked subtraction. -/
def sub (a b : ℕ) : Checked ℕ := if b ≤ a then .ok (a - b) else .error .subOverflow

theorem sub_of_le {a b : ℕ} (h : b ≤ a) : sub a b = .ok (a - b) := if_pos h

/-- The slice `l[lo..hi]`. -/
def slice (l : List α) (lo hi : ℕ) : Checked (List α) :=
  if lo ≤ hi ∧ hi ≤ l.length then .ok ((l.drop lo).take (hi - lo)) else .error .sliceRange

theorem slice_of_le {l : List α} {lo n : ℕ} (h : lo + n ≤ l.length) :
    slice l lo (lo + n) = .ok ((l.drop lo).take n) := by
  simp [slice, h]

/-- A slice that is taken is inside its list. -/
theorem slice_eq_ok {l r : List α} {lo hi : ℕ} (h : slice l lo hi = .ok r) :
    lo ≤ hi ∧ hi ≤ l.length ∧ r = (l.drop lo).take (hi - lo) := by
  unfold slice at h
  split at h
  · next hr => exact ⟨hr.1, hr.2, (Except.ok.inj h).symm⟩
  · cases h

/-- Go on only if the condition holds. -/
def guard (p : Prop) [Decidable p] (reason : Panic) : Checked Unit :=
  if p then .ok () else .error reason

theorem guard_of {p : Prop} [Decidable p] (reason : Panic) (h : p) : guard p reason = .ok () :=
  if_pos h

theorem of_guard_eq_ok {p : Prop} [Decidable p] {reason : Panic} {u : Unit}
    (h : guard p reason = .ok u) : p := by
  unfold guard at h
  split at h
  · assumption
  · cases h

end Checked
