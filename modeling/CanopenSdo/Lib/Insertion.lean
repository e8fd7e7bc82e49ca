import CanopenSdo.Lib.Machine

/-!
# Actions that change nothing

An action is silent in a state if the machine takes it and stays where it is.  A sequence
of actions may be filled up with silent ones: the machine takes the filled-up sequence as
it takes the original one, ends in the same state, and its history is the original history
with the silent steps inserted.

To say that nothing else changes, the machine is made to report the state after each step
(`Machine.traced`), so that a history shows every state in between.

## Main definitions

* `Inserted p l l'` — `l'` is `l` with items inserted, which all satisfy `p`.
* `Machine.Filled M noise s as as'` — `as'` is `as` with noise inserted.
* `Machine.traced` — the machine that reports the state after each step.

## Main results

* `Inserted.filterMap_eq` — what the inserted items do not contribute to stays as it is.
* `Filled.exec` — **filling up with silent actions changes nothing.**
-/

universe u v w

/-- The list `l'` is `l` with items inserted, which all satisfy `p`. -/
inductive Inserted {β : Type u} (p : β → Prop) : List β → List β → Prop
  | nil : Inserted p [] []
  | keep (x : β) {l l' : List β} (h : Inserted p l l') : Inserted p (x :: l) (x :: l')
  | insert {x : β} {l l' : List β} (hx : p x) (h : Inserted p l l') : Inserted p l (x :: l')

theorem Inserted.mono {β : Type u} {p q : β → Prop} {l l' : List β} (h : Inserted p l l')
    (hpq : ∀ x, p x → q x) : Inserted q l l' := by
  induction h with
  | nil => exact .nil
  | keep x _ ih => exact .keep x ih
  | insert hx _ ih => exact .insert (hpq _ hx) ih

/-- What the inserted items do not contribute to stays as it is. -/
theorem Inserted.filterMap_eq {β : Type u} {γ : Type v} {p : β → Prop} {g : β → Option γ}
    {l l' : List β} (h : Inserted p l l') (hg : ∀ x, p x → g x = none) :
    l'.filterMap g = l.filterMap g := by
  induction h with
  | nil => rfl
  | keep x _ ih =>
    cases hx : g x with
    | none => rw [List.filterMap_cons_none hx, List.filterMap_cons_none hx, ih]
    | some y => rw [List.filterMap_cons_some hx, List.filterMap_cons_some hx, ih]
  | insert hx _ ih => rw [List.filterMap_cons_none (hg _ hx), ih]

namespace Machine

variable {σ : Type u} {α : Type v} {ε : Type w}

/-- The machine that reports the state after each step. -/
def traced (M : Machine σ α ε) : Machine σ α (ε × σ) where
  step := fun s a => (M.step s a).map fun r => (r, r.2)

theorem step_traced (M : Machine σ α ε) (s : σ) (a : α) :
    M.traced.step s a = (M.step s a).map fun r => (r, r.2) := rfl

theorem traced_step {M : Machine σ α ε} {s t : σ} {a : α} {e : ε}
    (hs : M.step s a = some (e, t)) : M.traced.step s a = some ((e, t), t) := by
  rw [step_traced, hs, Option.map_some]

/-- The actions `as'` are the actions `as`, which the machine takes from `s`, with noise
inserted: actions that are noise in the state in which they come. -/
inductive Filled (M : Machine σ α ε) (noise : σ → α → Prop) : σ → List α → List α → Prop
  | nil (s : σ) : Filled M noise s [] []
  | keep {s t : σ} {a : α} {e : ε} {as as' : List α} (hs : M.step s a = some (e, t))
      (h : Filled M noise t as as') : Filled M noise s (a :: as) (a :: as')
  | insert {s : σ} {a : α} {as as' : List α} (ha : noise s a) (h : Filled M noise s as as') :
      Filled M noise s as (a :: as')

variable {M : Machine σ α ε} {noise : σ → α → Prop}

/-- **Filling up with silent actions changes nothing.**  Every state in between is the same,
so is the last one, and the history is the same but for the steps that were inserted. -/
theorem Filled.exec {silent : α → ε} (hnoise : ∀ s a, noise s a → M.step s a = some (silent a, s))
    {s : σ} {as as' : List α} (h : M.Filled noise s as as') :
    ∃ hist hist' t, M.traced.exec s as = some (hist, t) ∧ M.traced.exec s as' = some (hist', t) ∧
      Inserted (fun x => ∃ s a, noise s a ∧ x = (a, silent a, s)) hist hist' := by
  induction h with
  | nil s => exact ⟨[], [], s, rfl, rfl, .nil⟩
  | @keep s t a e as as' hs _ ih =>
    obtain ⟨hist, hist', t', h₁, h₂, hins⟩ := ih
    have hstep : M.traced.step s a = some ((e, t), t) := traced_step hs
    refine ⟨(a, e, t) :: hist, (a, e, t) :: hist', t', ?_, ?_, .keep _ hins⟩
    · rw [exec_cons_of_step hstep, h₁, Option.map_some]
    · rw [exec_cons_of_step hstep, h₂, Option.map_some]
  | @insert s a as as' ha _ ih =>
    obtain ⟨hist, hist', t', h₁, h₂, hins⟩ := ih
    have hstep : M.traced.step s a = some ((silent a, s), s) := traced_step (hnoise s a ha)
    refine ⟨hist, (a, silent a, s) :: hist', t', h₁, ?_, .insert ⟨s, a, ha, rfl⟩ hins⟩
    rw [exec_cons_of_step hstep, h₂, Option.map_some]

end Machine
