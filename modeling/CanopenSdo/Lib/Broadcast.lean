import CanopenSdo.Lib.Machine

/-!
# Parties on a broadcast medium

A party acts on its own, and hears messages through its ports.  What a party sends is
put into the queue of every port of every party, its own ports included; each port takes
its queue in order, at its own pace.

The same party can be run alone, where its queues hold its own messages only.  If no
party reacts to what another one has sent, then what it does on the shared medium is what
it does alone: leave out of a run all actions of the other parties and all deliveries of
their messages, and what remains is a run of the party alone, with the same events.

## Main definitions

* `Party`, `Party.alone`, `Party.together` — a party, alone and with others.
* `Separated` — no party reacts to the messages of another.
* `ownStep` — the step of a shared run that concerns one party.

## Main results

* `Separated.run_alone` — **a shared run, seen by one party, is a run of that party alone.**
* `Separated.ignored_of_run` — what the left out deliveries return.
-/

universe u

/-- A party with states `σ` and ports `ρ`: it performs actions `α`, it hears messages `μ`
under circumstances `τ` (the time, say), and either is answered with an event `ε`. -/
structure Party (σ α ρ τ μ ε : Type u) where
  /-- An action of the party itself, or `none` if it is refused. -/
  act : σ → α → Option (ε × σ)
  /-- The delivery of a message to a port. -/
  hear : σ → ρ → μ → τ → Option (ε × σ)
  /-- The message an action has sent. -/
  sent : ε → Option μ

namespace Party

variable {ι ρ α τ μ ε : Type u} {σ : ι → Type u}

/-- A step of a party. -/
inductive Move (α ρ τ : Type u) where
  /-- An action of its own. -/
  | act (a : α)
  /-- A port takes the head of its queue. -/
  | hear (k : ρ) (t : τ)

/-- A party with the queues of its ports. -/
@[ext] structure Alone (σ ρ μ : Type u) where
  state : σ
  queue : ρ → List μ

/-- Parties with the queues of their ports; each message with the party that sent it. -/
structure Together (ι : Type u) (σ : ι → Type u) (ρ μ : Type u) where
  state : ∀ i, σ i
  queue : ι → ρ → List (ι × μ)

/-- A party before its first step. -/
def Alone.start {σ : Type u} (s : σ) : Alone σ ρ μ := ⟨s, fun _ => []⟩

/-- Parties before their first step. -/
def Together.start (s : ∀ i, σ i) : Together ι σ ρ μ := ⟨s, fun _ _ => []⟩

/-! ### What one party sees -/

section Seen

variable [DecidableEq ι]

/-- The messages of the party `i` in a queue. -/
def ownPart (i : ι) (q : List (ι × μ)) : List μ :=
  q.filterMap fun x => if x.1 = i then some x.2 else none

@[simp] theorem ownPart_nil (i : ι) : ownPart i ([] : List (ι × μ)) = [] := rfl

theorem ownPart_append (i : ι) (q q' : List (ι × μ)) :
    ownPart i (q ++ q') = ownPart i q ++ ownPart i q' := List.filterMap_append

theorem ownPart_cons_self (i : ι) (m : μ) (q : List (ι × μ)) :
    ownPart i ((i, m) :: q) = m :: ownPart i q := by
  simp [ownPart]

theorem ownPart_cons_of_ne {i j : ι} (h : j ≠ i) (m : μ) (q : List (ι × μ)) :
    ownPart i ((j, m) :: q) = ownPart i q := by
  simp [ownPart, h]

theorem ownPart_sent_self (i : ι) (l : List μ) : ownPart i (l.map fun m => (i, m)) = l := by
  induction l with
  | nil => rfl
  | cons m l ih => rw [List.map_cons, ownPart_cons_self, ih]

theorem ownPart_sent_of_ne {i j : ι} (h : j ≠ i) (l : List μ) :
    ownPart i (l.map fun m => (j, m)) = [] := by
  induction l with
  | nil => rfl
  | cons m l ih => rw [List.map_cons, ownPart_cons_of_ne h, ih]

/-- What the party `i` is and still has to hear of its own messages. -/
def Together.part (x : Together ι σ ρ μ) (i : ι) : Alone (σ i) ρ μ where
  state := x.state i
  queue := fun k => ownPart i (x.queue i k)

/-- The step of a shared run, if it concerns the party `i`: an action of `i`, or the
delivery to `i` of a message of `i`. -/
def ownStep (i : ι) : (ι × Move α ρ τ) × (ε × ι) → Option (Move α ρ τ × ε)
  | ((j, a), (e, k)) => if j = i ∧ k = i then some (a, e) else none

theorem ownStep_self (i : ι) (a : Move α ρ τ) (e : ε) : ownStep i ((i, a), (e, i)) = some (a, e) :=
  if_pos ⟨rfl, rfl⟩

theorem ownStep_eq_none {i j k : ι} (h : ¬ (j = i ∧ k = i)) (a : Move α ρ τ) (e : ε) :
    ownStep i ((j, a), (e, k)) = none :=
  if_neg h

/-- What the party `i` does in a shared run, with the deliveries of messages from elsewhere. -/
def eventsOf (i : ι) (h : List ((ι × Move α ρ τ) × (ε × ι))) : List ε :=
  h.filterMap fun st => if st.1.1 = i then some st.2.1 else none

theorem eventsOf_cons_self (i k : ι) (a : Move α ρ τ) (e : ε)
    (h : List ((ι × Move α ρ τ) × (ε × ι))) :
    eventsOf i (((i, a), (e, k)) :: h) = e :: eventsOf i h := by
  simp [eventsOf]

theorem eventsOf_cons_of_ne {i j : ι} (hj : j ≠ i) (k : ι) (a : Move α ρ τ) (e : ε)
    (h : List ((ι × Move α ρ τ) × (ε × ι))) :
    eventsOf i (((j, a), (e, k)) :: h) = eventsOf i h := by
  simp [eventsOf, hj]

/-- What is read off the events of a party is read off its own steps, if the deliveries of
messages from elsewhere contribute nothing. -/
theorem flatMap_eventsOf {β : Type*} {i : ι} {g : ε → List β}
    {h : List ((ι × Move α ρ τ) × (ε × ι))}
    (hg : ∀ st ∈ h, st.1.1 = i → st.2.2 ≠ i → g st.2.1 = []) :
    (eventsOf i h).flatMap g = (h.filterMap (ownStep i)).flatMap fun st => g st.2 := by
  induction h with
  | nil => rfl
  | cons st h ih =>
    obtain ⟨⟨j, a⟩, e, k⟩ := st
    have ih := ih fun st hst => hg st (List.mem_cons_of_mem _ hst)
    by_cases hj : j = i
    · subst hj
      rw [eventsOf_cons_self, List.flatMap_cons, ih]
      by_cases hk : k = j
      · subst hk
        rw [List.filterMap_cons_some (ownStep_self k a e), List.flatMap_cons]
      · have hnil : g e = [] := hg _ List.mem_cons_self rfl hk
        rw [List.filterMap_cons_none (ownStep_eq_none (fun h => hk h.2) a e), hnil, List.nil_append]
    · rw [eventsOf_cons_of_ne hj, ih,
        List.filterMap_cons_none (ownStep_eq_none (fun h => hj h.1) a e)]

end Seen

/-! ### The machines -/

variable [DecidableEq ρ]

/-- A party as a machine of its own. -/
def alone {σ : Type u} (p : Party σ α ρ τ μ ε) : Machine (Alone σ ρ μ) (Move α ρ τ) ε where
  step x
    | .act a =>
      (p.act x.state a).map fun r =>
        (r.1, { state := r.2, queue := fun k => x.queue k ++ (p.sent r.1).toList })
    | .hear k t =>
      match x.queue k with
      | [] => none
      | m :: rest =>
        (p.hear x.state k m t).map fun r =>
          (r.1, { state := r.2, queue := Function.update x.queue k rest })

variable [DecidableEq ι]

/-- The parties after an action of `i`. -/
def Together.acted (p : ∀ i, Party (σ i) α ρ τ μ ε) (x : Together ι σ ρ μ) (i : ι) (e : ε)
    (s : σ i) : Together ι σ ρ μ where
  state := Function.update x.state i s
  queue := fun j k => x.queue j k ++ ((p i).sent e).toList.map fun m => (i, m)

/-- The parties after `i` has taken a message from the port `k`. -/
def Together.heard (x : Together ι σ ρ μ) (i : ι) (k : ρ) (s : σ i) (rest : List (ι × μ)) :
    Together ι σ ρ μ where
  state := Function.update x.state i s
  queue := Function.update x.queue i (Function.update (x.queue i) k rest)

/-- Parties on one medium.  An event comes with the party it is due to: that whose action
it is, or that whose message was delivered. -/
def together (p : ∀ i, Party (σ i) α ρ τ μ ε) :
    Machine (Together ι σ ρ μ) (ι × Move α ρ τ) (ε × ι) where
  step x
    | (i, .act a) =>
      ((p i).act (x.state i) a).map fun r =>
        ((r.1, i), x.acted p i r.1 r.2)
    | (i, .hear k t) =>
      match x.queue i k with
      | [] => none
      | (j, m) :: rest =>
        ((p i).hear (x.state i) k m t).map fun r =>
          ((r.1, j), x.heard i k r.2 rest)

/-! ### The steps of the shared medium -/

section Steps

variable {p : ∀ i, Party (σ i) α ρ τ μ ε} {x y : Together ι σ ρ μ} {i j : ι} {a : Move α ρ τ} {e : ε}

/-- **The steps of a shared medium**: a party acts, or a port takes the head of its queue. -/
theorem together_cases (h : (together p).step x (i, a) = some ((e, j), y)) :
    (∃ b s, a = .act b ∧ j = i ∧ (p i).act (x.state i) b = some (e, s) ∧ y = x.acted p i e s) ∨
      ∃ k t m rest s, a = .hear k t ∧ x.queue i k = (j, m) :: rest ∧
        (p i).hear (x.state i) k m t = some (e, s) ∧ y = x.heard i k s rest := by
  cases a with
  | act b =>
    simp only [together, Option.map_eq_some_iff, Prod.mk.injEq, Prod.exists] at h
    obtain ⟨e', s, hs, ⟨rfl, rfl⟩, rfl⟩ := h
    exact .inl ⟨b, s, rfl, rfl, hs, rfl⟩
  | hear k t =>
    cases hq : x.queue i k with
    | nil => simp [together, hq] at h
    | cons q rest =>
      obtain ⟨n, m⟩ := q
      simp only [together, hq, Option.map_eq_some_iff, Prod.mk.injEq, Prod.exists] at h
      obtain ⟨e', s, hs, ⟨rfl, rfl⟩, rfl⟩ := h
      exact .inr ⟨k, t, m, rest, s, rfl, hq, hs, rfl⟩

/-- The port that has taken a message holds the rest, every other one what it held. -/
theorem Together.heard_queue (x : Together ι σ ρ μ) (i : ι) (k : ρ) (s : σ i)
    (rest : List (ι × μ)) (j : ι) (l : ρ) :
    (x.heard i k s rest).queue j l = if j = i ∧ l = k then rest else x.queue j l := by
  show Function.update x.queue i (Function.update (x.queue i) k rest) j l = _
  by_cases hj : j = i
  · subst hj
    rw [Function.update_self]
    by_cases hl : l = k
    · subst hl
      rw [Function.update_self, if_pos ⟨rfl, rfl⟩]
    · rw [Function.update_of_ne hl, if_neg fun h => hl h.2]
  · rw [Function.update_of_ne hj, if_neg fun h => hj h.1]

/-- A step of another party is invisible. -/
theorem part_of_ne (h : (together p).step x (i, a) = some ((e, j), y)) {l : ι} (hl : l ≠ i) :
    y.part l = x.part l := by
  obtain ⟨b, s, -, rfl, hs, rfl⟩ | ⟨k, t, m, rest, s, -, hq, hs, rfl⟩ := together_cases h
  · refine Alone.ext (Function.update_of_ne hl _ _) (funext ?_)
    intro k
    show ownPart l (_ ++ _) = _
    rw [ownPart_append, ownPart_sent_of_ne hl.symm, List.append_nil]
    rfl
  · refine Alone.ext (Function.update_of_ne hl _ _) (funext ?_)
    intro k'
    show ownPart l ((x.heard i k s rest).queue l k') = _
    rw [x.heard_queue, if_neg fun h => hl h.1]
    rfl

/-- An action, or the delivery of a message of one's own, is a step of the party alone. -/
theorem alone_step (h : (together p).step x (i, a) = some ((e, i), y)) :
    (p i).alone.step (x.part i) a = some (e, y.part i) := by
  obtain ⟨b, s, rfl, -, hs, rfl⟩ | ⟨k, t, m, rest, s, rfl, hq, hs, rfl⟩ := together_cases h
  · have hs' : (p i).act (x.part i).state b = some (e, s) := hs
    simp only [alone, hs', Option.map_some, Option.some.injEq, Prod.mk.injEq, true_and]
    refine Alone.ext (Function.update_self _ _ _).symm (funext ?_)
    intro k
    show ownPart i (x.queue i k) ++ _ = ownPart i (_ ++ _)
    rw [ownPart_append, ownPart_sent_self]
  · have hhead : (x.part i).queue k = m :: ownPart i rest := by
      show ownPart i (x.queue i k) = _
      rw [hq, ownPart_cons_self]
    have hs' : (p i).hear (x.part i).state k m t = some (e, s) := hs
    simp only [alone, hhead, hs', Option.map_some, Option.some.injEq, Prod.mk.injEq, true_and]
    refine Alone.ext (Function.update_self _ _ _).symm (funext ?_)
    intro k'
    show Function.update (x.part i).queue k _ k' = ownPart i ((x.heard i k s rest).queue i k')
    rw [x.heard_queue]
    by_cases hk : k' = k
    · subst hk
      rw [Function.update_self, if_pos ⟨rfl, rfl⟩]
    · rw [Function.update_of_ne hk, if_neg fun h => hk h.2]
      rfl

end Steps

/-! ### Parties that do not react to each other -/

/-- No party reacts to the messages of another: as long as its own invariant holds, such
a message leaves it as it is. -/
structure Separated (p : ∀ i, Party (σ i) α ρ τ μ ε) where
  /-- What holds of the states of a party. -/
  Inv : ∀ i, σ i → Prop
  /-- What holds of the messages of a party. -/
  Own : ι → μ → Prop
  /-- What holds of the events of a message from elsewhere. -/
  Ignored : ε → Prop
  act : ∀ {i s a e t}, Inv i s → (p i).act s a = some (e, t) →
    Inv i t ∧ ∀ m, (p i).sent e = some m → Own i m
  hear : ∀ {i s k m c e t}, Inv i s → (p i).hear s k m c = some (e, t) → Inv i t
  foreign : ∀ {i j s k m c e t}, Inv i s → Own j m → j ≠ i →
    (p i).hear s k m c = some (e, t) → t = s ∧ Ignored e

namespace Separated

variable {p : ∀ i, Party (σ i) α ρ τ μ ε} (S : Separated p) {x y : Together ι σ ρ μ} {i j : ι}
  {a : Move α ρ τ} {e : ε}

/-- What holds of the parties of a shared medium. -/
structure Holds (x : Together ι σ ρ μ) : Prop where
  state : ∀ i, S.Inv i (x.state i)
  queue : ∀ i k, ∀ q ∈ x.queue i k, S.Own q.1 q.2

variable {S}

omit [DecidableEq ρ] in
theorem Holds.update (hx : S.Holds x) {s : σ i} (hs : S.Inv i s) (j : ι) :
    S.Inv j (Function.update x.state i s j) := by
  rcases eq_or_ne j i with rfl | hne
  · rw [Function.update_self]
    exact hs
  · rw [Function.update_of_ne hne]
    exact hx.state j

omit [DecidableEq ρ] [DecidableEq ι] in
theorem holds_start {s : ∀ i, σ i} (hs : ∀ i, S.Inv i (s i)) : S.Holds (.start s) :=
  ⟨hs, fun _ _ _ hq => nomatch hq⟩

/-- A step of a shared medium keeps what holds of it. -/
theorem Holds.step (hx : S.Holds x) (h : (together p).step x (i, a) = some ((e, j), y)) :
    S.Holds y := by
  obtain ⟨b, s, -, rfl, hs, rfl⟩ | ⟨k, t, m, rest, s, -, hq, hs, rfl⟩ := together_cases h
  · obtain ⟨hinv, hown⟩ := S.act (hx.state _) hs
    refine ⟨hx.update hinv, ?_⟩
    intro l k q hmem
    rcases List.mem_append.mp hmem with hmem | hmem
    · exact hx.queue l k q hmem
    · obtain ⟨m, hm, rfl⟩ := List.mem_map.mp hmem
      exact hown m (Option.mem_toList.mp hm)
  · refine ⟨hx.update (S.hear (hx.state _) hs), fun l k' q hmem => hx.queue l k' q ?_⟩
    -- what is left of a queue is a part of it
    rw [x.heard_queue] at hmem
    split at hmem
    next h =>
      obtain ⟨rfl, rfl⟩ := h
      rw [hq]
      exact List.mem_cons_of_mem _ hmem
    next => exact hmem

/-- The delivery of a message from elsewhere is invisible, and returns nothing. -/
theorem Holds.foreign (hx : S.Holds x) (h : (together p).step x (i, a) = some ((e, j), y))
    (hj : j ≠ i) : y.part i = x.part i ∧ S.Ignored e := by
  obtain ⟨b, s, -, rfl, hs, rfl⟩ | ⟨k, t, m, rest, s, -, hq, hs, rfl⟩ := together_cases h
  · exact absurd rfl hj
  · have hown := hx.queue i k (j, m) (by rw [hq]; exact List.mem_cons_self)
    obtain ⟨rfl, hignored⟩ := S.foreign (hx.state i) hown hj hs
    refine ⟨Alone.ext (Function.update_self _ _ _) (funext ?_), hignored⟩
    intro k'
    show ownPart i ((x.heard i k (x.state i) rest).queue i k') = ownPart i (x.queue i k')
    rw [x.heard_queue]
    split
    next h => rw [h.2, hq, ownPart_cons_of_ne hj]
    next => rfl

/-- What one party sees of a shared medium, as a map between machines. -/
def projection (S : Separated p) (i : ι) : Machine.Projection (together p) (p i).alone where
  inv := S.Holds
  state := fun x => x.part i
  event := ownStep i
  inv_step := fun x a e y hx h => hx.step h
  dropped := by
    rintro x ⟨j, a⟩ ⟨e, k⟩ y hx h hnone
    by_cases hj : i = j
    · subst hj
      have hk : k ≠ i := fun hk => by simp [ownStep, hk] at hnone
      exact (hx.foreign h hk).1
    · exact part_of_ne h hj
  matched := by
    rintro x ⟨j, a⟩ ⟨e, k⟩ y a' e' hx h hsome
    by_cases hjk : j = i ∧ k = i
    · obtain ⟨rfl, rfl⟩ : a = a' ∧ e = e' := by simpa [ownStep, hjk] using hsome
      obtain ⟨rfl, rfl⟩ := hjk
      exact alone_step h
    · simp [ownStep, hjk] at hsome

variable {h : List ((ι × Move α ρ τ) × (ε × ι))}

/-- **A shared run, seen by one party, is a run of that party alone.** -/
theorem run_alone (S : Separated p) (hx : S.Holds x) (hr : (together p).Run x h y) (i : ι) :
    (p i).alone.Run (x.part i) (h.filterMap (ownStep i)) (y.part i) :=
  (S.projection i).run hr hx

/-- A delivery that does not concern the party that hears it returns nothing. -/
theorem ignored_of_run (S : Separated p) (hx : S.Holds x) (hr : (together p).Run x h y) :
    ∀ st ∈ h, st.1.1 ≠ st.2.2 → S.Ignored st.2.1 := by
  have key : S.Holds y ∧ ∀ st ∈ h, st.1.1 ≠ st.2.2 → S.Ignored st.2.1 := by
    refine hr.invariant (P := fun h y => S.Holds y ∧ ∀ st ∈ h, st.1.1 ≠ st.2.2 → S.Ignored st.2.1)
      ⟨hx, nofun⟩ ?_
    rintro h x ⟨i, a⟩ ⟨e, j⟩ y ⟨hx, ih⟩ hs
    refine ⟨hx.step hs, ?_⟩
    intro st hst hne
    rcases List.mem_append.mp hst with hst | hst
    · exact ih st hst hne
    · obtain rfl := List.mem_singleton.mp hst
      exact (hx.foreign hs hne.symm).2
  exact key.2

end Separated

end Party
