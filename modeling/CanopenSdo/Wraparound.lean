import CanopenSdo.Asynch
import CanopenSdo.Deadline

/-!
# Deadlines and the end of the clock

A deadline is the sum `now + timeout` of two 64-bit words, and wraparound is not handled:
a deadline beyond the end of the clock wraps to one that has passed.  Up to there the sum
is exact, and then no machine gives up early.

The timeout of the async functions is a duration, of which the client gets the
nanoseconds.  It gets all of them as long as they fit into 64 bits.

## Main results

* `deadline_wraps` — an endless timeout on a clock that has started is over at once.
* `deadline_exact` — **no transfer is given up before its timeout has passed, as long as
  the deadline is on the clock.**
-/

namespace CanopenSdo

open Wire

variable {N : ℕ} {σ : Type}

/-- The word `d` is the deadline of a request at `now`: the sum, as far as the clock goes. -/
def IsDeadline (now timeout d : UInt64) : Prop :=
  d.toNat = (now.toNat + timeout.toNat) % 2 ^ 64 ∧
    (now.toNat + timeout.toNat < 2 ^ 64 → d.toNat = now.toNat + timeout.toNat)

theorem isDeadline_add (now timeout : UInt64) : IsDeadline now timeout (now + timeout) :=
  ⟨UInt64.toNat_add now timeout, toNat_add_of_lt⟩

/-- Whoever gives up at a deadline has waited for it. -/
theorem IsDeadline.le {now timeout d now' : UInt64} (hd : IsDeadline now timeout d)
    (hle : d ≤ now') (hclock : now.toNat + timeout.toNat < 2 ^ 64) :
    now.toNat + timeout.toNat ≤ now'.toNat := by
  rw [← hd.2 hclock]
  exact UInt64.le_iff_toNat_le.mp hle

/-- A timeout that fits into 64 bits is kept, and the default is 150 ms. -/
theorem toNat_configFrom {timeout : Option ℕ} (h : ∀ d ∈ timeout, d < 2 ^ 64) :
    (configFrom timeout).timeout.toNat = timeout.getD 150000000 := by
  cases timeout with
  | none => rfl
  | some d => exact UInt64.toNat_ofNat_of_lt' (h d rfl)

/-! ### The calls that set a deadline -/

/-- A call that queues a request sets the deadline. -/
theorem CallStep.setBy {tgt : Target} {c c' : SdoClient} {a : ClientCall} {e : ClientReturn}
    (h : CallStep tgt c a e c') (hq : c.Queues a e) : c'.SetBy a := by
  cases h with
  | refused ha => cases a <;> exact hq.elim
  | beganUpload => exact ⟨_, rfl, rfl⟩
  | beganDownload => exact ⟨_, rfl, rfl⟩
  | transmitted => exact hq.elim
  | early => exact hq.elim
  | expired => exact hq.elim
  | aborted => exact hq.elim
  | frame hf =>
    cases hf.effect with
    | unchanged ha => exact absurd hq ha
    | finished _ hr =>
      -- the end of a transfer is no `Ok(None)`
      rcases hr with ⟨_, rfl⟩ | ⟨-, _, rfl⟩ | ⟨-, rfl⟩ <;> exact hq.elim
    | aborted => exact hq.elim
    | continued => exact ⟨_, rfl, rfl⟩

theorem CallStep.isDeadline {tgt : Target} {c c' : SdoClient} {a : ClientCall} {e : ClientReturn}
    {t : UInt64} (h : CallStep tgt c a e c') (hq : c.Queues a e) (ht : a.time? = some t) :
    ∃ d, c'.deadline = some d ∧ IsDeadline t c.cfg.timeout d := by
  obtain ⟨t', ht', hd⟩ := h.setBy hq
  obtain rfl := Option.some.inj (ht.symm.trans ht')
  rw [h.cfg] at hd
  exact ⟨_, hd, isDeadline_add _ _⟩

/-- A request that is accepted and leaves a transfer in progress sets the deadline, if the
server has a timeout. -/
theorem ServerCallStep.isDeadline {od : ObjectDictionary σ} {s s' : SdoServer N} {o o' : σ}
    {a : ServerAction σ} {e : ServerEvent} {t : UInt64} (h : ServerCallStep od s o a e s' o')
    (hacc : SdoServer.Accepts (s, o) a e) (hs' : s'.state ≠ .idle) (ht : a.time? = some t)
    (hpos : s.cfg.timeout > 0) :
    ∃ d, s'.deadline = some d ∧ IsDeadline t s.cfg.timeout d := by
  rcases h.timer hs' with ⟨-, t', ht', hd⟩ | ⟨hna, -⟩
  · obtain rfl := Option.some.inj (ht.symm.trans ht')
    simp only [h.cfg, if_pos hpos] at hd
    exact ⟨_, hd, isDeadline_add _ _⟩
  · exact absurd hacc hna

/-- A client that gives up had its deadline set by its latest request. -/
theorem client_gives_up {tgt : Target} {cfg : SdoConfig} {c : SdoClient}
    {h : List (ClientCall × ClientReturn)} (hr : (callMachine tgt).Run (.new cfg) h c)
    {now : UInt64} (ht : (c.handleTimeout now).1 = .error (.clientAborted .protocolTimeout)) :
    ∃ c₀ a e t d, (callMachine tgt).Latest (.new cfg) SdoClient.Queues h (c₀, a, e) ∧
      a.time? = some t ∧ IsDeadline t cfg.timeout d ∧ d ≤ now := by
  by_cases hdue : c.Due now
  · obtain ⟨d, hd, hle⟩ := hdue
    have hst : c.state ≠ .idle := by
      rw [ne_eq, (client_sound hr).deadline, hd]
      exact nofun
    obtain ⟨c₀, a, e, t, hl, hat, hset⟩ := client_timer hr hst
    obtain rfl := Option.some.inj (hd.symm.trans hset)
    exact ⟨c₀, a, e, t, _, hl, hat, isDeadline_add _ _, hle⟩
  · rw [SdoClient.handleTimeout_of_not_due hdue] at ht
    cases ht

/-- A server that gives up had its deadline set by the latest request it accepted. -/
theorem server_gives_up {od : ObjectDictionary σ} {cfg : ServerConfig} {o₀ o : σ}
    {s : SdoServer N} {h : List (ServerAction σ × ServerEvent)}
    (hr : (serverMachine N od).Run (.new cfg, o₀) h (s, o)) {now : UInt64}
    (ht : (s.handleTimeout now).1 = .error (.clientAborted .protocolTimeout)) :
    ∃ x a e t d, (serverMachine N od).Latest (.new cfg, o₀) SdoServer.Accepts h (x, a, e) ∧
      a.time? = some t ∧ IsDeadline t cfg.timeout d ∧ d ≤ now := by
  by_cases hdue : s.Due now
  · obtain ⟨d, hd, hle⟩ := hdue
    have hst : s.state ≠ .idle := by
      intro hst
      rw [server_deadline_of_idle hr hst] at hd
      cases hd
    obtain ⟨x, a, e, t, hl, hat, hset⟩ := server_timer hr hst
    rw [hd] at hset
    split at hset
    · obtain rfl := Option.some.inj hset
      exact ⟨x, a, e, t, _, hl, hat, isDeadline_add _ _, hle⟩
    · cases hset
  · rw [SdoServer.handleTimeout_of_not_due hdue] at ht
    cases ht

/-! ### The end of the clock -/

/-- An endless timeout on a clock that has started: the deadline is in the past, and the
transfer is given up at once. -/
theorem deadline_wraps : ∃ c,
    (SdoClient.new ⟨0xFFFFFFFFFFFFFFFF⟩).beginUpload 0x10 0x2000 0 1 = (.ok (), c) ∧
      c.deadline = some 0 ∧
      ¬ min ((1 : UInt64).toNat + (0xFFFFFFFFFFFFFFFF : UInt64).toNat) (2 ^ 64 - 1)
        ≤ (0 : UInt64).toNat ∧
      (c.handleTimeout 1).1 = .error (.clientAborted .protocolTimeout) :=
  ⟨_, rfl, by decide +kernel, by decide, by decide +kernel⟩

/-- **No transfer is given up before its timeout has passed, as long as the deadline is on
the clock.**  The async functions keep every timeout that fits into 64 bits; each call that
sets a deadline sets it to the sum; and in every run a machine that gives up has waited for
the deadline of its latest request, so for the whole timeout if that sum is on the clock. -/
theorem deadline_exact :
    (∀ timeout : Option ℕ, (∀ d ∈ timeout, d < 2 ^ 64) →
      (configFrom timeout).timeout.toNat = timeout.getD 150000000) ∧
    (∀ tgt c a e c' t, (callMachine tgt).step c a = some (e, c') → c.Queues a e →
      a.time? = some t → ∃ d, c'.deadline = some d ∧ IsDeadline t c.cfg.timeout d) ∧
    (∀ (N : ℕ) (σ : Type) (od : ObjectDictionary σ) (s s' : SdoServer N) (o o' : σ) a e t,
      (serverMachine N od).step (s, o) a = some (e, (s', o')) → SdoServer.Accepts (s, o) a e →
      s'.state ≠ .idle → a.time? = some t → s.cfg.timeout > 0 →
        ∃ d, s'.deadline = some d ∧ IsDeadline t s.cfg.timeout d) ∧
    (∀ tgt cfg h c now, (callMachine tgt).Run (.new cfg) h c →
      (c.handleTimeout now).1 = .error (.clientAborted .protocolTimeout) →
      ∃ c₀ a e t, (callMachine tgt).Latest (.new cfg) SdoClient.Queues h (c₀, a, e) ∧
        a.time? = some t ∧ (t.toNat + cfg.timeout.toNat < 2 ^ 64 →
          t.toNat + cfg.timeout.toNat ≤ now.toNat)) ∧
    ∀ (N : ℕ) (σ : Type) (od : ObjectDictionary σ) cfg o₀ o h (s : SdoServer N) now,
      (serverMachine N od).Run (.new cfg, o₀) h (s, o) →
      (s.handleTimeout now).1 = .error (.clientAborted .protocolTimeout) →
      ∃ x a e t, (serverMachine N od).Latest (.new cfg, o₀) SdoServer.Accepts h (x, a, e) ∧
        a.time? = some t ∧ (t.toNat + cfg.timeout.toNat < 2 ^ 64 →
          t.toNat + cfg.timeout.toNat ≤ now.toNat) := by
  refine ⟨?_, ?_, ?_, ?_, ?_⟩
  · intro timeout h
    exact toNat_configFrom h
  · intro tgt c a e c' t hs hq ht
    exact (callStep_of_step hs).isDeadline hq ht
  · intro N σ od s s' o o' a e t hs hacc hst ht hpos
    exact (serverCallStep_of_step hs).isDeadline hacc hst ht hpos
  · intro tgt cfg h c now hr ht
    obtain ⟨c₀, a, e, t, d, hl, hat, hd, hle⟩ := client_gives_up hr ht
    exact ⟨c₀, a, e, t, hl, hat, hd.le hle⟩
  · intro N σ od cfg o₀ o h s now hr ht
    obtain ⟨x, a, e, t, d, hl, hat, hd, hle⟩ := server_gives_up hr ht
    exact ⟨x, a, e, t, hl, hat, hd.le hle⟩

/-- The read that was announced is given up 150 ms after a call of its run, and a timeout of
one day is kept. -/
theorem deadline_exact_announcedRead :
    (configFrom (some 86400000000000)).timeout.toNat = 86400000000000 ∧
      ∃ x ∈ announcedRead.1, ∃ t ∈ x.1.time?, t.toNat + 150000000 ≤ 150000005 := by
  obtain ⟨hcfg, -, -, hclient, -⟩ := deadline_exact
  have htime : ∀ x ∈ announcedRead.1, ∀ t ∈ x.1.time?, t.toNat + 150000000 < 2 ^ 64 :=
    forall_mem_of_all (by decide +kernel)
  have hgives : (announcedRead.2.handleTimeout 150000005).1
      = .error (.clientAborted .protocolTimeout) := by decide +kernel
  obtain ⟨c₀, a, e, t, hl, hat, hle⟩ := hclient _ _ _ _ _ run_announcedRead hgives
  refine ⟨hcfg _ (by decide), _, hl.mem, t, hat, ?_⟩
  exact hle (htime _ hl.mem t hat)

end CanopenSdo
