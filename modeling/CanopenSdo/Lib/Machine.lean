import Mathlib.Tactic

/-!
# Reactive machines and their runs

A machine has no life of its own: it is handed one action after another and
answers each with an event and a new state, or refuses it.  Everything outside
the machine (the caller, the clock, the medium between two parties) is in the
choice of the actions, so a statement about every run is a statement about every
behaviour of that outside.

A run carries its history, the list of actions with their events.  The rules the
developments above use are `Run.invariant`, an induction on runs in which the
invariant may speak about the history; `Run.latest_of`, for a state that goes back
to the latest step of a kind; and `Projection.run`, which turns a run of one machine
into a run of another when every step is either matched or invisible.  `exists_exec` says
when a sequence of actions is executed.

## Main definitions

* `Machine`, `Machine.Run` — machines and their runs.
* `Machine.exec` — the executable form of a run.
* `Machine.Takes` — a step of a kind is taken somewhere in a run.
* `Machine.Latest` — the latest step of a kind.
* `Machine.Tally` — the steps of a kind since the latest step of another.
* `Machine.Projection` — a map between machines that may drop steps.

## Main results

* `Run.invariant`, `Run.trans`, `run_exec_get`.
* `Run.latest_of` — **what the latest step of a kind has set up still holds.**
* `Run.tally_of` — **what was counted up since then is still there.**
* `Run.after` — **what a step of a kind starts is carried on.**
* `Run.cost_le`, `exists_drained` — **what a measure says of a run.**
* `exists_exec` — **what keeps a machine going executes every sequence of actions.**
* `Run.exists_image`, `Projection.run` — **runs project.**
* `Run.simulated` — **runs are simulated.**
-/

universe u v w u' v' w'

/-- A machine with states `σ`, actions `α` and events `ε`. -/
structure Machine (σ : Type u) (α : Type v) (ε : Type w) where
  /-- The event and the next state, or `none` if the action is refused. -/
  step : σ → α → Option (ε × σ)

namespace Machine

variable {σ : Type u} {α : Type v} {ε : Type w}

/-- Perform the actions one after the other, and return the history. -/
def exec (M : Machine σ α ε) : σ → List α → Option (List (α × ε) × σ)
  | s, [] => some ([], s)
  | s, a :: as =>
      match M.step s a with
      | none => none
      | some (e, s') => (exec M s' as).map fun r => ((a, e) :: r.1, r.2)

/-- `M.Run s₀ h s` says that `M` gets from `s₀` to `s` with the history `h`. -/
inductive Run (M : Machine σ α ε) (s₀ : σ) : List (α × ε) → σ → Prop
  /-- The empty run. -/
  | start : Run M s₀ [] s₀
  /-- One more step. -/
  | snoc {h : List (α × ε)} {s t : σ} {a : α} {e : ε} :
      Run M s₀ h s → M.step s a = some (e, t) → Run M s₀ (h ++ [(a, e)]) t

variable {M : Machine σ α ε} {s₀ s t : σ} {h k : List (α × ε)}

theorem Run.single {a : α} {e : ε} (hs : M.step s a = some (e, t)) : M.Run s [(a, e)] t :=
  Run.snoc Run.start hs

theorem Run.trans (h₁ : M.Run s₀ h s) (h₂ : M.Run s k t) : M.Run s₀ (h ++ k) t := by
  induction h₂ with
  | start => simpa using h₁
  | snoc _ hs ih => rw [← List.append_assoc]; exact Run.snoc ih hs

theorem Run.cons {a : α} {e : ε} (hs : M.step s₀ a = some (e, s)) (hr : M.Run s h t) :
    M.Run s₀ ((a, e) :: h) t := (Run.single hs).trans hr

/-- The last step of a run. -/
theorem Run.of_snoc {a : α} {e : ε} (hr : M.Run s₀ (h ++ [(a, e)]) t) :
    ∃ s, M.Run s₀ h s ∧ M.step s a = some (e, t) := by
  generalize hk : h ++ [(a, e)] = k at hr
  cases hr with
  | start => simp at hk
  | snoc hr hs =>
    obtain ⟨rfl, hx⟩ := List.append_inj' hk rfl
    obtain ⟨rfl, rfl⟩ : _ = _ ∧ _ = _ := by simpa using hx
    exact ⟨_, hr, hs⟩

/-- A history leads to one state only. -/
theorem Run.unique (h₁ : M.Run s₀ h s) (h₂ : M.Run s₀ h t) : s = t := by
  induction h₁ generalizing t with
  | start =>
    generalize hk : ([] : List (α × ε)) = k at h₂
    cases h₂ with
    | start => rfl
    | snoc _ _ => simp at hk
  | snoc _ hs ih =>
    obtain ⟨s', hr, hs'⟩ := h₂.of_snoc
    rw [ih hr, hs'] at hs
    simpa using hs.symm

/-- A run up to a step of it, and the step. -/
theorem Run.of_split {pre post : List (α × ε)} {a : α} {e : ε}
    (hr : M.Run s₀ (pre ++ (a, e) :: post) t) :
    ∃ s s', M.Run s₀ pre s ∧ M.step s a = some (e, s') := by
  induction post using List.reverseRecOn generalizing t with
  | nil =>
    obtain ⟨s, hpre, hs⟩ := hr.of_snoc
    exact ⟨s, t, hpre, hs⟩
  | append_singleton post x ih =>
    rw [← List.cons_append, ← List.append_assoc] at hr
    obtain ⟨t', hr', -⟩ := hr.of_snoc
    exact ih hr'

/-- A step somewhere in a run, with the state before it given. -/
theorem Run.step_of_split {pre post : List (α × ε)} {a : α} {e : ε}
    (hr : M.Run s₀ (pre ++ (a, e) :: post) t) (hpre : M.Run s₀ pre s) :
    ∃ s', M.step s a = some (e, s') := by
  obtain ⟨s₁, s', hpre₁, hs⟩ := hr.of_split
  obtain rfl := hpre.unique hpre₁
  exact ⟨s', hs⟩

/-- Some step of the run with the history `h` takes, in a state `s`, an action `a`
with `B s a`. -/
def Takes (M : Machine σ α ε) (s₀ : σ) (B : σ → α → Prop) (h : List (α × ε)) : Prop :=
  ∃ pre a e post s, h = pre ++ (a, e) :: post ∧ M.Run s₀ pre s ∧ B s a

/-- The empty run takes no step. -/
theorem not_takes_nil {B : σ → α → Prop} : ¬ M.Takes s₀ B [] := by
  rintro ⟨pre, a, e, post, s, h, -⟩
  simp at h

/-- A step of a longer run is a step before, or the last one. -/
theorem Run.takes_snoc {B : σ → α → Prop} {a : α} {e : ε} (hr : M.Run s₀ h s) :
    M.Takes s₀ B (h ++ [(a, e)]) ↔ M.Takes s₀ B h ∨ B s a := by
  constructor
  · rintro ⟨pre, a', e', post, s', heq, hpre, hB⟩
    rcases List.eq_nil_or_concat post with rfl | ⟨post, x, rfl⟩
    · obtain ⟨rfl, hx⟩ := List.append_inj' heq rfl
      obtain ⟨rfl, rfl⟩ : a = a' ∧ e = e' := by simpa using hx
      exact .inr (hr.unique hpre ▸ hB)
    · rw [List.concat_eq_append, ← List.cons_append, ← List.append_assoc] at heq
      obtain ⟨rfl, -⟩ := List.append_inj' heq rfl
      exact .inl ⟨pre, a', e', post, s', rfl, hpre, hB⟩
  · rintro (⟨pre, a', e', post, s', rfl, hpre, hB⟩ | hB)
    · exact ⟨pre, a', e', post ++ [(a, e)], s', by simp, hpre, hB⟩
    · exact ⟨h, a, e, [], s, rfl, hr, hB⟩

/-- **The invariant rule.**  What holds of the empty history and is preserved by
every step holds along every run. -/
theorem Run.invariant {P : List (α × ε) → σ → Prop} (hr : M.Run s₀ h s) (h₀ : P [] s₀)
    (hstep : ∀ h s a e t, P h s → M.step s a = some (e, t) → P (h ++ [(a, e)]) t) : P h s := by
  induction hr with
  | start => exact h₀
  | snoc _ hs ih => exact hstep _ _ _ _ _ ih hs

/-- What is preserved by every step of a kind holds along every run of steps of
that kind. -/
theorem Run.invariant_of {P : List (α × ε) → σ → Prop} {A : α × ε → Prop} (hr : M.Run s₀ h s)
    (hA : ∀ x ∈ h, A x) (h₀ : P [] s₀)
    (hstep : ∀ h s a e t, A (a, e) → P h s → M.step s a = some (e, t) → P (h ++ [(a, e)]) t) :
    P h s := by
  induction hr with
  | start => exact h₀
  | snoc _ hs ih =>
    have hlast := hA _ (List.mem_append_right _ (List.mem_singleton_self _))
    exact hstep _ _ _ _ _ hlast (ih fun x hx => hA x (List.mem_append_left _ hx)) hs

/-- What is preserved by every step but those of a kind holds along every run without
steps of that kind. -/
theorem Run.invariant_avoiding {P : List (α × ε) → σ → Prop} {C : σ → α → Prop}
    (hr : M.Run s₀ h s) (hC : ¬ M.Takes s₀ C h) (h₀ : P [] s₀)
    (hstep : ∀ h s a e t, P h s → ¬ C s a → M.step s a = some (e, t) → P (h ++ [(a, e)]) t) :
    P h s := by
  induction hr with
  | start => exact h₀
  | snoc hr hs ih =>
    rw [hr.takes_snoc, not_or] at hC
    exact hstep _ _ _ _ _ (ih hC.1) hC.2 hs

/-! ### The latest step of a kind -/

/-- `M.Latest s₀ B h (s, a, e)` says that the latest step of the kind `B` in the run with the
history `h` was the action `a` with the event `e` in the state `s`. -/
inductive Latest (M : Machine σ α ε) (s₀ : σ) (B : σ → α → ε → Prop) :
    List (α × ε) → σ × α × ε → Prop
  /-- The last step is of the kind. -/
  | last {h : List (α × ε)} {s : σ} {a : α} {e : ε} (hr : M.Run s₀ h s) (hb : B s a e) :
      Latest M s₀ B (h ++ [(a, e)]) (s, a, e)
  /-- The last step is not, and an earlier one is. -/
  | before {h : List (α × ε)} {s : σ} {a : α} {e : ε} {x : σ × α × ε} (hl : Latest M s₀ B h x)
      (hr : M.Run s₀ h s) (hb : ¬ B s a e) : Latest M s₀ B (h ++ [(a, e)]) x

/-- The latest step is one of the run. -/
theorem Latest.mem {B : σ → α → ε → Prop} {x : σ × α × ε} (hl : M.Latest s₀ B h x) :
    (x.2.1, x.2.2) ∈ h := by
  induction hl with
  | last => exact List.mem_append_right _ (List.mem_singleton_self _)
  | before _ _ _ ih => exact List.mem_append_left _ ih

/-- **What the latest step of a kind has set up still holds.**  A state with `L` comes
about by a step of the kind `B`, which sets up `Q`, and every other step that ends in `L`
starts in `L` and keeps `Q`. -/
theorem Run.latest_of {B : σ → α → ε → Prop} {L : σ → Prop} {Q : α → σ → Prop}
    (hr : M.Run s₀ h s) (h₀ : ¬ L s₀)
    (hstep : ∀ h s a e t, M.Run s₀ h s → M.step s a = some (e, t) → L t →
      (B s a e ∧ Q a t) ∨ (¬ B s a e ∧ L s ∧ ∀ a', Q a' s → Q a' t)) (hs : L s) :
    ∃ s' a e, M.Latest s₀ B h (s', a, e) ∧ Q a s := by
  induction hr with
  | start => exact absurd hs h₀
  | @snoc h s t a e hr hstep' ih =>
    rcases hstep h s a e t hr hstep' hs with ⟨hb, hq⟩ | ⟨hb, hl, hkeep⟩
    · exact ⟨s, a, e, .last hr hb, hq⟩
    · obtain ⟨s', a', e', hlatest, hq⟩ := ih hl
      exact ⟨s', a', e', .before hlatest hr hb, hkeep a' hq⟩

/-! ### Steps counted since the latest step of a kind -/

/-- **What a step of a kind starts is carried on.**  After a step of the kind `B` there is
`P`, and every further step keeps it that is not of the kind `C`.  So in a run without steps
of that kind, `P` holds of what follows any step of the kind `B`. -/
theorem Run.after {B : σ → α → ε → Prop} {C : σ → α → Prop} {P : List (α × ε) → σ → Prop}
    (hr : M.Run s₀ h t) (hC : ¬ M.Takes s₀ C h)
    (hopen : ∀ h s a e t, M.Run s₀ h s → M.step s a = some (e, t) → B s a e → P [] t)
    (hnext : ∀ h s a e t post, M.Run s₀ h s → M.step s a = some (e, t) → ¬ C s a → P post s →
      P (post ++ [(a, e)]) t) :
    ∀ pre a e post s, h = pre ++ (a, e) :: post → M.Run s₀ pre s → B s a e → P post t := by
  induction hr with
  | start =>
    intro pre a e post s heq
    simp at heq
  | @snoc h s t a e hr hs ih =>
    rw [hr.takes_snoc, not_or] at hC
    intro pre a' e' post s' heq hpre hb
    rcases List.eq_nil_or_concat post with rfl | ⟨post, x, rfl⟩
    · -- the step is the last one
      obtain ⟨rfl, hx⟩ := List.append_inj' heq rfl
      obtain ⟨rfl, rfl⟩ : a = a' ∧ e = e' := by simpa using hx
      obtain rfl := hr.unique hpre
      exact hopen _ _ _ _ _ hr hs hb
    · rw [List.concat_eq_append] at heq ⊢
      rw [← List.cons_append, ← List.append_assoc] at heq
      obtain ⟨rfl, hx⟩ := List.append_inj' heq rfl
      obtain rfl : (a, e) = x := by simpa using hx
      have hbefore := ih hC.1 pre a' e' post s' rfl hpre hb
      exact hnext _ _ _ _ _ _ hr hs hC.2 hbefore

/-- An executed run is a run. -/
theorem run_of_exec : ∀ {as : List α} {s : σ} {h : List (α × ε)},
    M.exec s as = some (h, t) → M.Run s h t := by
  intro as
  induction as with
  | nil =>
    intro s h he
    obtain ⟨rfl, rfl⟩ : [] = h ∧ s = t := by simpa [exec] using he
    exact Run.start
  | cons a as ih =>
    intro s h he
    rw [exec] at he
    cases hs : M.step s a with
    | none => simp [hs] at he
    | some r =>
      obtain ⟨e, s'⟩ := r
      simp only [hs, Option.map_eq_some_iff, Prod.mk.injEq, Prod.exists] at he
      obtain ⟨h', t', he', rfl, rfl⟩ := he
      exact Run.cons hs (ih he')

/-- What an execution returns is a run. -/
theorem run_exec_get {as : List α} (h : (M.exec s as).isSome) :
    M.Run s ((M.exec s as).get h).1 ((M.exec s as).get h).2 :=
  run_of_exec (Option.some_get h).symm

/-! ### Executions -/

theorem exec_append_singleton {as : List α} {a : α} {e : ε} {s' : σ}
    (he : M.exec s as = some (h, t)) (hs : M.step t a = some (e, s')) :
    M.exec s (as ++ [a]) = some (h ++ [(a, e)], s') := by
  induction as generalizing s h with
  | nil =>
    obtain ⟨rfl, rfl⟩ : [] = h ∧ s = t := by simpa [exec] using he
    simp [exec, hs]
  | cons b as ih =>
    rw [exec] at he
    cases hb : M.step s b with
    | none => simp [hb] at he
    | some r =>
      simp only [hb, Option.map_eq_some_iff, Prod.mk.injEq, Prod.exists] at he
      obtain ⟨h', t', he', rfl, rfl⟩ := he
      rw [List.cons_append, exec, hb]
      simp [ih he']

/-- A run is executed. -/
theorem Run.exec (hr : M.Run s₀ h s) : M.exec s₀ (h.map Prod.fst) = some (h, s) := by
  induction hr with
  | start => rfl
  | snoc hr hs ih =>
    rw [List.map_append]
    exact exec_append_singleton ih hs

/-- The actions of an execution are those that were performed. -/
theorem map_fst_of_exec : ∀ {as : List α} {s : σ} {h : List (α × ε)},
    M.exec s as = some (h, t) → h.map Prod.fst = as := by
  intro as
  induction as with
  | nil =>
    intro s h he
    obtain ⟨rfl, -⟩ : [] = h ∧ s = t := by simpa [exec] using he
    rfl
  | cons a as ih =>
    intro s h he
    rw [exec] at he
    cases hs : M.step s a with
    | none => simp [hs] at he
    | some r =>
      simp only [hs, Option.map_eq_some_iff, Prod.mk.injEq, Prod.exists] at he
      obtain ⟨h', t', he', rfl, rfl⟩ := he
      rw [List.map_cons, ih he']

/-- An execution takes no step of a kind that none of its actions is of. -/
theorem not_takes_of_exec {B : σ → α → Prop} {as : List α} (he : M.exec s as = some (h, t))
    (hB : ∀ a ∈ as, ∀ s, ¬ B s a) : ¬ M.Takes s B h := by
  rintro ⟨pre, a, e, post, s', rfl, -, hb⟩
  refine hB a ?_ s' hb
  rw [← map_fst_of_exec he]
  simp

theorem exec_cons_of_step {as : List α} {a : α} {e : ε} (hs : M.step s a = some (e, t)) :
    M.exec s (a :: as) = (M.exec t as).map fun r => ((a, e) :: r.1, r.2) := by
  rw [exec, hs]

/-- Two states in which the first action does the same are the same to any sequence of
actions. -/
theorem exec_congr {s' : σ} {a : α} (hs : M.step s a = M.step s' a) (as : List α) :
    M.exec s (a :: as) = M.exec s' (a :: as) := by
  rw [exec, exec, hs]

/-- **The progress rule.**  If an invariant makes every action be taken and is kept, then
every sequence of actions is executed. -/
theorem exists_exec {I : σ → Prop}
    (hstep : ∀ s a, I s → ∃ e t, M.step s a = some (e, t) ∧ I t) (as : List α) (hs : I s) :
    ∃ h t, M.exec s as = some (h, t) := by
  induction as generalizing s with
  | nil => exact ⟨[], s, rfl⟩
  | cons a as ih =>
    obtain ⟨e, s', hs', hi⟩ := hstep s a hs
    obtain ⟨h, t, he⟩ := ih hi
    refine ⟨(a, e) :: h, t, ?_⟩
    rw [exec_cons_of_step hs', he, Option.map_some]

/-! ### Measures -/

variable {σ' : Type u'} {α' : Type v'} {ε' : Type w'}

/-- What every step of `M` leaves alone or takes a step of `M'` with is in a run of `M'`. -/
theorem Run.exists_image {M' : Machine σ' α' ε'} (p : σ → σ') (hr : M.Run s₀ h s)
    (hstep : ∀ s a e t, M.step s a = some (e, t) →
      p t = p s ∨ ∃ a' e', M'.step (p s) a' = some (e', p t)) :
    ∃ h', M'.Run (p s₀) h' (p s) := by
  induction hr with
  | start => exact ⟨[], .start⟩
  | snoc _ hs ih =>
    obtain ⟨h', hr'⟩ := ih
    rcases hstep _ _ _ _ hs with heq | ⟨a', e', hs'⟩
    · rw [heq]
      exact ⟨h', hr'⟩
    · exact ⟨_, hr'.snoc hs'⟩

/-- **Runs are simulated**: where every step of `M` is followed by some steps of `M'` that
keep up a relation of the two histories and states, every run of `M` is followed by one of
`M'`. -/
theorem Run.simulated {M' : Machine σ' α' ε'} {s₀' : σ'}
    {R : List (α × ε) → σ → List (α' × ε') → σ' → Prop} (hr : M.Run s₀ h s) (h₀ : R [] s₀ [] s₀')
    (hstep : ∀ h s a e t h' s', R h s h' s' → M.step s a = some (e, t) →
      ∃ k t', M'.Run s' k t' ∧ R (h ++ [(a, e)]) t (h' ++ k) t') :
    ∃ h' s', M'.Run s₀' h' s' ∧ R h s h' s' := by
  refine hr.invariant (P := fun h s => ∃ h' s', M'.Run s₀' h' s' ∧ R h s h' s')
    ⟨[], s₀', .start, h₀⟩ ?_
  rintro h s a e t ⟨h', s', hr', hR⟩ hs
  obtain ⟨k, t', hk, hR'⟩ := hstep h s a e t h' s' hR hs
  exact ⟨h' ++ k, t', hr'.trans hk, hR'⟩

/-- A map from the machine `M` to the machine `M'`: every step of `M` from a
state that satisfies `inv` is either dropped, and then invisible in `M'`, or is a
step of `M'`. -/
structure Projection (M : Machine σ α ε) (M' : Machine σ' α' ε') where
  /-- The invariant of `M` the map relies on. -/
  inv : σ → Prop
  /-- The image of a state. -/
  state : σ → σ'
  /-- The image of a step, or `none` if it is dropped. -/
  event : α × ε → Option (α' × ε')
  /-- The invariant is one. -/
  inv_step : ∀ s a e t, inv s → M.step s a = some (e, t) → inv t
  /-- A dropped step is invisible. -/
  dropped : ∀ s a e t, inv s → M.step s a = some (e, t) → event (a, e) = none → state t = state s
  /-- Every other step is matched. -/
  matched : ∀ s a e t a' e', inv s → M.step s a = some (e, t) → event (a, e) = some (a', e') →
    M'.step (state s) a' = some (e', state t)

/-- **Runs project**: the image of a run is a run, with the image of its history. -/
theorem Projection.run {M' : Machine σ' α' ε'} (p : Projection M M') (hr : M.Run s₀ h s)
    (h₀ : p.inv s₀) : M'.Run (p.state s₀) (h.filterMap p.event) (p.state s) := by
  have key : p.inv s ∧ M'.Run (p.state s₀) (h.filterMap p.event) (p.state s) := by
    refine hr.invariant (P := fun h s => p.inv s ∧
      M'.Run (p.state s₀) (h.filterMap p.event) (p.state s)) ⟨h₀, Run.start⟩ ?_
    rintro h s a e t ⟨hi, ih⟩ hs
    refine ⟨p.inv_step s a e t hi hs, ?_⟩
    rw [List.filterMap_append]
    cases he : p.event (a, e) with
    | none => simpa [he, p.dropped s a e t hi hs he] using ih
    | some x =>
      obtain ⟨a', e'⟩ := x
      simpa [he] using Run.snoc ih (p.matched s a e t a' e' hi hs he)
  exact key.2

end Machine
