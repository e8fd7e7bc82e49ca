import Mathlib.Tactic

/-!
# Stores and legal histories

A store gives every key a value, or none.  It is read and written; a history is the list of
the reads and writes that were successful, each with its value.  The history is legal if
every read has the value that the store then has.

Somebody who sees a history only, and knows that it is legal, knows what the reads return:
a read that follows a write of its key, with no other write of the key in between, returns
what was written.

## Main definitions

* `Store`, `StoreOp`.
* `Store.Legal` — the history is one of the store.

## Main results

* `Store.Legal.append_iff` — a history is legal if its parts are.
* `Store.Legal.frame` — a key that is not written keeps its value.
* `Store.Legal.get_of_put` — **a read returns what was written last.**
* `Store.Legal.of_puts` — writing one value again and again is writing it once.
-/

universe u v

/-- A value for every key, or none. -/
abbrev Store (κ : Type u) (ν : Type v) := κ → Option ν

/-- A successful operation on a store. -/
inductive StoreOp (κ : Type u) (ν : Type v) where
  | get (k : κ) (v : ν)
  | put (k : κ) (v : ν)
  deriving DecidableEq

namespace Store

variable {κ : Type u} {ν : Type v} [DecidableEq κ]

/-- The operations can be performed on the store `m`, one after the other, and leave `m'`. -/
inductive Legal : Store κ ν → List (StoreOp κ ν) → Store κ ν → Prop
  | nil (m : Store κ ν) : Legal m [] m
  | get {m m' : Store κ ν} {k : κ} {v : ν} {ops : List (StoreOp κ ν)} (hk : m k = some v)
      (h : Legal m ops m') : Legal m (.get k v :: ops) m'
  | put {m m' : Store κ ν} {k : κ} {v : ν} {ops : List (StoreOp κ ν)}
      (h : Legal (Function.update m k (some v)) ops m') : Legal m (.put k v :: ops) m'

variable {m m' m'' : Store κ ν} {k : κ} {v w : ν} {ops ops' : List (StoreOp κ ν)}

theorem Legal.append (h : Legal m ops m') (h' : Legal m' ops' m'') :
    Legal m (ops ++ ops') m'' := by
  induction h with
  | nil => exact h'
  | get hk _ ih => exact .get hk (ih h')
  | put _ ih => exact .put (ih h')

/-- A history is legal if its parts are. -/
theorem Legal.append_iff :
    Legal m (ops ++ ops') m'' ↔ ∃ m', Legal m ops m' ∧ Legal m' ops' m'' := by
  constructor
  · intro h
    induction ops generalizing m with
    | nil => exact ⟨m, .nil m, h⟩
    | cons op ops ih =>
      cases h with
      | get hk h =>
        obtain ⟨m', h₁, h₂⟩ := ih h
        exact ⟨m', .get hk h₁, h₂⟩
      | put h =>
        obtain ⟨m', h₁, h₂⟩ := ih h
        exact ⟨m', .put h₁, h₂⟩
  · rintro ⟨m', h₁, h₂⟩
    exact h₁.append h₂

/-- A key that is not written keeps its value. -/
theorem Legal.frame (h : Legal m ops m') (hk : ∀ v, .put k v ∉ ops) : m' k = m k := by
  induction h with
  | nil => rfl
  | get _ _ ih => exact ih fun v hv => hk v (List.mem_cons_of_mem _ hv)
  | @put _ _ k' v' _ _ ih =>
    have hne : k ≠ k' := by
      rintro rfl
      exact hk v' List.mem_cons_self
    rw [ih fun v hv => hk v (List.mem_cons_of_mem _ hv), Function.update_of_ne hne]

/-- A read returns what was there at the start, if the key is not written before. -/
theorem Legal.get_of_not_put {pre post : List (StoreOp κ ν)}
    (h : Legal m (pre ++ .get k w :: post) m') (hpre : ∀ v, .put k v ∉ pre) : m k = some w := by
  obtain ⟨m₁, h₁, h₂⟩ := append_iff.mp h
  cases h₂ with
  | get hk => rwa [h₁.frame hpre] at hk

/-- A history that writes nothing leaves the store as it was. -/
theorem Legal.eq_of_not_put (h : Legal m ops m') (hops : ∀ k v, .put k v ∉ ops) : m' = m :=
  funext fun k => h.frame (hops k)

/-- Writing one value to one key again and again is writing it once. -/
theorem Legal.of_puts (h : Legal m ops m') (hops : ∀ op ∈ ops, op = .put k v) :
    m' = if ops = [] then m else Function.update m k (some v) := by
  induction h with
  | nil => simp
  | get => simp at hops
  | @put m _ k' v' ops _ ih =>
    obtain ⟨⟨rfl, rfl⟩, hops⟩ := by simpa using hops
    rw [ih hops, if_neg (List.cons_ne_nil _ _)]
    split
    · rfl
    · exact Function.update_idem _ _ _

end Store
