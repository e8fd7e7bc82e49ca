import CanopenSdo.Lib.Machine

/-!
# Trying again

A trial is a machine that is started in some state and is done when it has a result, a value
or an error.  To retry it is to start it again whenever it fails with an error that may pass,
as long as there are attempts left.

What a run of the loop is, is a matter of the runs of the trial alone: some runs that failed,
one after the other, and then the one that the loop is in or has returned from.

## Main definitions

* `Trial`, `Trial.retry` — a trial, and the loop that tries it again.
* `Trial.Failed` — some attempts that failed.

## Main results

* `Trial.retry_run` — **a run of the loop is a number of attempts.**
* `Trial.retry_forall` — what every attempt does is all that the loop does.
-/

universe u v w u' v'

/-- A machine that is started in a state, and is done when it has a result. -/
structure Trial (σ : Type u) (α : Type v) (ε : Type w) (E : Type u') (ρ : Type v') where
  machine : Machine σ α ε
  start : σ
  /-- The result, once there is one. -/
  result : σ → Option (Except E ρ)
  /-- There is none at the start. -/
  result_start : result start = none

namespace Trial

variable {σ : Type u} {α : Type v} {ε : Type w} {E : Type u'} {ρ : Type v'}

/-- The loop: the number of the attempt, the trial, and what the loop has returned. -/
structure Retrying (σ : Type u) (E : Type u') (ρ : Type v') where
  attempt : ℕ
  state : σ
  returned : Option (Except E ρ)

/-- The loop before the first step. -/
def init (t : Trial σ α ε E ρ) : Retrying σ E ρ := ⟨1, t.start, none⟩

/-- What the loop does when the trial has got to the state `x`: it goes on, returns the
result, or starts the trial again. -/
def next (t : Trial σ α ε E ρ) (transient : E → Bool) (limit n : ℕ) (x : σ) : Retrying σ E ρ :=
  match t.result x with
  | none => ⟨n, x, none⟩
  | some (.ok v) => ⟨n, x, some (.ok v)⟩
  | some (.error e) =>
    if limit ≤ n ∨ transient e = false then ⟨n, x, some (.error e)⟩ else ⟨n + 1, t.start, none⟩

/-- The loop that tries the trial again, up to `limit` times, if its error is transient. -/
def retry (t : Trial σ α ε E ρ) (transient : E → Bool) (limit : ℕ) :
    Machine (Retrying σ E ρ) α ε where
  step := fun s a =>
    match s.returned with
    | some _ => none
    | none => (t.machine.step s.state a).map fun x => (x.1, t.next transient limit s.attempt x.2)

/-- Some attempts that failed with a transient error, with their history. -/
inductive Failed (t : Trial σ α ε E ρ) (transient : E → Bool) : ℕ → List (α × ε) → Prop
  | none : Failed t transient 0 []
  | more {n : ℕ} {h k : List (α × ε)} {x : σ} {e : E} (hf : Failed t transient n h)
      (hr : t.machine.Run t.start k x) (hx : t.result x = some (.error e))
      (he : transient e = true) : Failed t transient (n + 1) (h ++ k)

/-- Where the loop is after the history `h`: `n` attempts have failed, and the one after them
has the history `k`. -/
structure At (t : Trial σ α ε E ρ) (transient : E → Bool) (limit : ℕ) (h : List (α × ε))
    (s : Retrying σ E ρ) (n : ℕ) (k : List (α × ε)) : Prop where
  history : ∃ h₁, h = h₁ ++ k ∧ t.Failed transient n h₁
  run : t.machine.Run t.start k s.state
  attempt : s.attempt = n + 1
  bound : n < limit
  /-- The loop returns the result of the attempt: a value, or an error that is not to be
  tried again. -/
  result : t.result s.state = s.returned
  final : ∀ e, s.returned = some (.error e) → limit ≤ n + 1 ∨ transient e = false

variable {t : Trial σ α ε E ρ} {transient : E → Bool} {limit : ℕ} {h : List (α × ε)}
  {s s' : Retrying σ E ρ} {a : α} {e : ε}

theorem next_of_none {x : σ} {n : ℕ} (hx : t.result x = none) :
    t.next transient limit n x = ⟨n, x, none⟩ := by
  simp [next, hx]

theorem next_of_ok {x : σ} {n : ℕ} {v : ρ} (hx : t.result x = some (.ok v)) :
    t.next transient limit n x = ⟨n, x, some (.ok v)⟩ := by
  simp [next, hx]

theorem next_of_final {x : σ} {n : ℕ} {err : E} (hx : t.result x = some (.error err))
    (hf : limit ≤ n ∨ transient err = false) :
    t.next transient limit n x = ⟨n, x, some (.error err)⟩ := by
  simp [next, hx, hf]

theorem next_of_transient {x : σ} {n : ℕ} {err : E} (hx : t.result x = some (.error err))
    (hn : n < limit) (he : transient err = true) :
    t.next transient limit n x = ⟨n + 1, t.start, none⟩ := by
  simp [next, hx, he, Nat.not_le.mpr hn]

theorem At.step {n : ℕ} {k : List (α × ε)} (hs : t.At transient limit h s n k)
    (hstep : (t.retry transient limit).step s a = some (e, s')) :
    ∃ n' k', t.At transient limit (h ++ [(a, e)]) s' n' k' := by
  obtain ⟨m, x, ret⟩ := s
  obtain ⟨⟨h₁, rfl, hf⟩, hr, rfl, hlim, -, -⟩ := hs
  cases ret with
  | some r => cases hstep
  | none =>
    obtain ⟨⟨e', x'⟩, hx, hnext⟩ := Option.map_eq_some_iff.mp hstep
    obtain ⟨rfl, rfl⟩ := Prod.mk.inj hnext
    have hr' := hr.snoc hx
    have hhist : ∃ h₂, h₁ ++ k ++ [(a, e')] = h₂ ++ (k ++ [(a, e')]) ∧ t.Failed transient n h₂ :=
      ⟨h₁, List.append_assoc .., hf⟩
    rcases hres : t.result x' with - | err | v
    · -- the attempt goes on
      simp only [next_of_none hres]
      exact ⟨n, _, hhist, hr', rfl, hlim, hres, nofun⟩
    · by_cases hagain : limit ≤ n + 1 ∨ transient err = false
      · simp only [next_of_final hres hagain]
        refine ⟨n, _, hhist, hr', rfl, hlim, hres, ?_⟩
        rintro err' h
        obtain rfl := Except.error.inj (Option.some.inj h)
        exact hagain
      · -- the attempt has failed, and another one is made
        rw [not_or, Bool.not_eq_false, not_le] at hagain
        simp only [next_of_transient hres hagain.1 hagain.2]
        have hfail := hf.more hr' hres hagain.2
        rw [← List.append_assoc] at hfail
        exact ⟨n + 1, [], ⟨_, (List.append_nil _).symm, hfail⟩, .start, rfl, hagain.1,
          t.result_start, nofun⟩
    · simp only [next_of_ok hres]
      exact ⟨n, _, hhist, hr', rfl, hlim, hres, nofun⟩

/-- **A run of the loop is a number of attempts**: all but the last have failed with a
transient error, and there are no more of them than the limit allows. -/
theorem retry_run (hlim : 0 < limit) (hr : (t.retry transient limit).Run t.init h s) :
    ∃ n k, t.At transient limit h s n k := by
  refine hr.invariant (P := fun h s => ∃ n k, t.At transient limit h s n k) ?_ ?_
  · exact ⟨0, [], ⟨[], rfl, .none⟩, .start, rfl, hlim, t.result_start, nofun⟩
  · rintro h s a e s' ⟨n, k, hs⟩ hstep
    exact hs.step hstep

theorem Failed.forall_mem {n : ℕ} {Q : α × ε → Prop} (hf : t.Failed transient n h)
    (hQ : ∀ k x, t.machine.Run t.start k x → ∀ y ∈ k, Q y) : ∀ y ∈ h, Q y := by
  induction hf with
  | none => simp
  | more _ hr _ _ ih =>
    intro y hy
    rcases List.mem_append.mp hy with hy | hy
    · exact ih y hy
    · exact hQ _ _ hr y hy

/-- What every attempt does is all that the loop does. -/
theorem retry_forall (hlim : 0 < limit) (hr : (t.retry transient limit).Run t.init h s)
    {Q : α × ε → Prop} (hQ : ∀ k x, t.machine.Run t.start k x → ∀ y ∈ k, Q y) : ∀ y ∈ h, Q y := by
  obtain ⟨n, k, ⟨h₁, rfl, hf⟩, hrun, -⟩ := retry_run hlim hr
  intro y hy
  rcases List.mem_append.mp hy with hy | hy
  · exact hf.forall_mem hQ y hy
  · exact hQ k _ hrun y hy

end Trial
