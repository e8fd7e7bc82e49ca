import Mathlib.Tactic

/-!
# Since the latest opening

A machine that assembles something from several messages is reset by a message that
opens a new one, goes on with the messages that continue it, and forgets it with any
other.  What such a machine remembers is a matter of the end of its history: an item
that opens, and after it nothing but items that continue.

## Main definitions

* `Since opens continues l x xs` — `l` ends with `x :: xs`, where `x` opens and each
  item of `xs` continues what is before it.

## Main results

* `since_append_singleton` — how that changes with one more item.
* `Since.unique` — **the opening is the latest one.**
-/

variable {α : Type*}

/-- The list `l` ends with an item `x` that opens, and the items `xs` that continue it. -/
structure Since (opens : α → Prop) (continues : α → List α → α → Prop) (l : List α) (x : α)
    (xs : List α) : Prop where
  split : ∃ older, l = older ++ x :: xs
  opened : opens x
  continued : ∀ ys y zs, xs = ys ++ y :: zs → continues x ys y

variable {opens : α → Prop} {continues : α → List α → α → Prop} {l xs xs' : List α} {x x' y : α}

theorem not_since_nil : ¬ Since opens continues [] x xs := by
  rintro ⟨⟨older, h⟩, -, -⟩
  simp at h

/-- The item that opens, alone. -/
theorem since_opened (hx : opens x) : Since opens continues (l ++ [x]) x [] where
  split := ⟨l, rfl⟩
  opened := hx
  continued := fun ys y zs h => by simp at h

/-- One more item that continues. -/
theorem Since.next (h : Since opens continues l x xs) (hy : continues x xs y) :
    Since opens continues (l ++ [y]) x (xs ++ [y]) where
  split := by
    obtain ⟨older, rfl⟩ := h.split
    exact ⟨older, by rw [List.append_assoc, List.cons_append]⟩
  opened := h.opened
  continued := by
    intro ys z zs heq
    rcases List.eq_nil_or_concat zs with rfl | ⟨zs, w, rfl⟩
    · obtain ⟨rfl, hz⟩ := List.append_inj' heq rfl
      obtain rfl : y = z := by simpa using hz
      exact hy
    · rw [List.concat_eq_append, ← List.cons_append, ← List.append_assoc] at heq
      obtain ⟨rfl, -⟩ := List.append_inj' heq rfl
      exact h.continued ys z zs rfl

/-- One more item opens, or continues what was there. -/
theorem since_append_singleton : Since opens continues (l ++ [y]) x xs ↔
    (opens y ∧ x = y ∧ xs = []) ∨
      ∃ ys, xs = ys ++ [y] ∧ Since opens continues l x ys ∧ continues x ys y := by
  constructor
  · rintro ⟨⟨older, hsplit⟩, hx, hxs⟩
    rcases List.eq_nil_or_concat xs with rfl | ⟨ys, z, rfl⟩
    · obtain ⟨-, hy⟩ := List.append_inj' hsplit rfl
      obtain rfl : y = x := by simpa using hy
      exact .inl ⟨hx, rfl, rfl⟩
    · rw [List.concat_eq_append] at hsplit hxs ⊢
      rw [← List.cons_append, ← List.append_assoc] at hsplit
      obtain ⟨rfl, hy⟩ := List.append_inj' hsplit rfl
      obtain rfl : y = z := by simpa using hy
      refine .inr ⟨ys, rfl, ⟨⟨older, rfl⟩, hx, ?_⟩, hxs ys y [] rfl⟩
      intro us u vs heq
      exact hxs us u (vs ++ [y]) (by rw [heq, List.append_assoc, List.cons_append])
  · rintro (⟨hy, rfl, rfl⟩ | ⟨ys, rfl, h, hy⟩)
    · exact since_opened hy
    · exact h.next hy

/-- **The opening is the latest one**, if no item can both open and continue. -/
theorem Since.unique (hdisj : ∀ x xs y, continues x xs y → ¬ opens y)
    (h : Since opens continues l x xs) (h' : Since opens continues l x' xs') :
    x = x' ∧ xs = xs' := by
  induction l using List.reverseRecOn generalizing xs xs' with
  | nil => exact absurd h not_since_nil
  | append_singleton l y ih =>
    rcases since_append_singleton.mp h with ⟨hy, rfl, rfl⟩ | ⟨ys, rfl, hs, hc⟩
    · rcases since_append_singleton.mp h' with ⟨-, rfl, rfl⟩ | ⟨ys', rfl, hs', hc'⟩
      · exact ⟨rfl, rfl⟩
      · exact absurd hy (hdisj _ _ _ hc')
    · rcases since_append_singleton.mp h' with ⟨hy', rfl, rfl⟩ | ⟨ys', rfl, hs', hc'⟩
      · exact absurd hy' (hdisj _ _ _ hc)
      · obtain ⟨rfl, rfl⟩ := ih hs hs'
        exact ⟨rfl, rfl⟩
