import CanopenSdo.LifeCycle
import CanopenSdo.ServerSafety

/-!
# Deadlines

A deadline says when a machine gives up waiting.  Which one is set is a statement about
the history: the latest call that queued a request, at a client, or that accepted one, at
a server, has set it, and no call since has moved it.  So a peer can push a deadline back
by nothing but an answer that advances the transfer.

The proof has one case per call (`CallStep.timer`, `ServerCallStep.timer`): either it is of
the kind that sets the deadline and has set it, or it leaves the deadline of a transfer
alone.  `Machine.Run.latest_of` makes a statement about the history of that.

## Main definitions

* `SdoClient.Queues`, `SdoServer.Accepts` — the calls that set a deadline.
* `ClientDue`, `ServerDue` — when a machine gives up, read off its history.
* `SdoClient.TimedBy`, `SdoServer.TimedBy` — a machine that gives up at this time.

## Main results

* `timeouts_fire_when_due` — **both machines give up exactly when they are due.**
-/

namespace CanopenSdo

open Wire

variable {N : ℕ} {σ : Type}

/-! ### The client -/

/-- The time of a call. -/
def ClientCall.time? : ClientCall → Option UInt64
  | .beginUpload _ _ _ now | .beginDownload _ _ _ _ now | .handleTimeout now
  | .handleFrame _ now => some now
  | .pollTransmit | .abort _ => none

/-- The call queues a request: a transfer begins, or the frame is an answer that led to the
next request. -/
def SdoClient.Queues (c : SdoClient) : ClientCall → ClientReturn → Prop
  | .beginUpload .., .began (.ok ()) | .beginDownload .., .began (.ok ()) => True
  | .handleFrame f _, .returned (.ok none) => c.Answers f
  | _, _ => False

/-- The deadline is that of a request queued by the call. -/
def SdoClient.SetBy (a : ClientCall) (c : SdoClient) : Prop :=
  ∃ t, a.time? = some t ∧ c.deadline = some (t + c.cfg.timeout)

/-- **A call sets the deadline of the transfer in flight, or leaves it alone.** -/
theorem CallStep.timer {tgt : Target} {c c' : SdoClient} {a : ClientCall} {e : ClientReturn}
    (h : CallStep tgt c a e c') (hc' : c'.state ≠ .idle) :
    (c.Queues a e ∧ c'.SetBy a) ∨
      (¬ c.Queues a e ∧ c.state ≠ .idle ∧ c'.deadline = c.deadline ∧ c'.cfg = c.cfg) := by
  cases h with
  | @refused a _ ha =>
    refine .inr ⟨?_, hc', rfl, rfl⟩
    cases a <;> exact id
  | beganUpload => exact .inl ⟨trivial, _, rfl, rfl⟩
  | beganDownload => exact .inl ⟨trivial, _, rfl, rfl⟩
  | transmitted => exact .inr ⟨id, hc', rfl, rfl⟩
  | early => exact .inr ⟨id, hc', rfl, rfl⟩
  | expired => exact absurd (c.state_abortWith _) hc'
  | aborted => exact absurd (c.state_abortWith _) hc'
  | frame hf =>
    cases hf.effect with
    | unchanged ha => exact .inr ⟨ha, hc', rfl, rfl⟩
    | finished => exact absurd rfl hc'
    | aborted => exact absurd (c.state_abortWith _) hc'
    | continued ha => exact .inl ⟨ha, _, rfl, rfl⟩

section Client

variable {tgt : Target} {cfg : SdoConfig} {c : SdoClient} {h : List (ClientCall × ClientReturn)}

/-- The deadline of a transfer is that of its latest request. -/
theorem client_timer (hr : (callMachine tgt).Run (.new cfg) h c) (hc : c.state ≠ .idle) :
    ∃ c₀ a e t, (callMachine tgt).Latest (.new cfg) SdoClient.Queues h (c₀, a, e) ∧
      a.time? = some t ∧ c.deadline = some (t + cfg.timeout) := by
  have hlatest := hr.latest_of (B := SdoClient.Queues) (L := fun c => c.state ≠ .idle)
    (Q := SdoClient.SetBy) (fun h => h rfl) ?_ hc
  · obtain ⟨c₀, a, e, hl, t, ht, hd⟩ := hlatest
    rw [client_cfg hr] at hd
    exact ⟨c₀, a, e, t, hl, ht, hd⟩
  · intro _ c a e c' _ hs hc'
    rcases (callStep_of_step hs).timer hc' with hset | ⟨hq, hc, hd, hcfg⟩
    · exact .inl hset
    · refine .inr ⟨hq, hc, ?_⟩
      rintro a' ⟨t, ht, hset⟩
      exact ⟨t, ht, by rw [hd, hcfg, hset]⟩

/-- When a client gives up: never if it is idle, and otherwise one timeout after the call
that queued its latest request. -/
def ClientDue (tgt : Target) (cfg : SdoConfig) (h : List (ClientCall × ClientReturn))
    (c : SdoClient) : Option ℕ → Prop
  | none => c.state = .idle
  | some d => c.state ≠ .idle ∧ ∃ c₀ a e t,
      (callMachine tgt).Latest (.new cfg) SdoClient.Queues h (c₀, a, e) ∧ a.time? = some t ∧
        d = t.toNat + cfg.timeout.toNat

/-- The client gives up at the time `due`, and frames that are no answers, polls and early
timeouts do not change that. -/
structure SdoClient.TimedBy (tgt : Target) (c : SdoClient) (due : Option ℕ) : Prop where
  deadline : c.pollTimeout.map UInt64.toNat = due
  ignored : ∀ f now, ¬ c.Answers f → c.handleFrame tgt f now = .ok (.ok none, c)
  polled : c.pollTransmit.2.pollTimeout = c.pollTimeout
  fires : ∀ now d, due = some d → d ≤ now.toNat → ∃ node idx sub,
    c.transfer = some (node, idx, sub) ∧
      c.handleTimeout now = (.error (.clientAborted .protocolTimeout),
        c.queueAbort node idx sub .protocolTimeout)
  waits : ∀ now, (∀ d, due = some d → now.toNat < d) → c.handleTimeout now = (.ok none, c)

/-- A deadline that is still ahead has not passed. -/
theorem not_passed_of_lt {deadline : Option UInt64} {now : UInt64}
    (h : ∀ d, deadline.map UInt64.toNat = some d → now.toNat < d) :
    ¬ ∃ t, deadline = some t ∧ t ≤ now := by
  rintro ⟨t, rfl, hle⟩
  have hnow : now.toNat < t.toNat := h t.toNat rfl
  exact absurd (UInt64.le_iff_toNat_le.mp hle) (Nat.not_le.mpr hnow)

/-- A client with a deadline exactly while a transfer is in flight gives up at it. -/
theorem SdoClient.Sound.timedBy (hc : c.Sound) :
    c.TimedBy tgt (c.deadline.map UInt64.toNat) where
  deadline := rfl
  ignored := fun f now ha => SdoClient.handleFrame_of_not_answers ha
  polled := rfl
  fires := by
    intro now d hd hle
    obtain ⟨t, ht, rfl⟩ := Option.map_eq_some_iff.mp hd
    have hst : c.state ≠ .idle := by
      rw [ne_eq, hc.deadline, ht]
      exact nofun
    obtain ⟨node, idx, sub, htr, habort⟩ := SdoClient.exists_transfer hst
    have hdue : c.Due now := ⟨t, ht, UInt64.le_iff_toNat_le.mpr hle⟩
    refine ⟨node, idx, sub, htr, ?_⟩
    rw [SdoClient.handleTimeout_of_due hdue, habort]
  waits := fun now hlt => SdoClient.handleTimeout_of_not_due (not_passed_of_lt hlt)

/-- A sum that fits into 64 bits. -/
theorem toNat_add_of_lt {t d : UInt64} (h : t.toNat + d.toNat < 2 ^ 64) :
    (t + d).toNat = t.toNat + d.toNat := by
  rw [UInt64.toNat_add, Nat.mod_eq_of_lt h]

/-- The deadline of a client is when it is due. -/
theorem client_due (hr : (callMachine tgt).Run (.new cfg) h c)
    (hclock : ∀ x ∈ h, ∀ t ∈ x.1.time?, t.toNat + cfg.timeout.toNat < 2 ^ 64) :
    ClientDue tgt cfg h c (c.deadline.map UInt64.toNat) := by
  by_cases hst : c.state = .idle
  · rw [(client_sound hr).deadline.mp hst]
    exact hst
  · obtain ⟨c₀, a, e, t, hl, ht, hd⟩ := client_timer hr hst
    rw [hd]
    exact ⟨hst, c₀, a, e, t, hl, ht, toNat_add_of_lt (hclock _ hl.mem t ht)⟩

end Client

/-! ### The server -/

/-- The time of a call. -/
def ServerAction.time? : ServerAction σ → Option UInt64
  | .handleFrame _ now | .handleTimeout now => some now
  | .pollTransmit | .odChange _ => none

/-- The call accepts a request: the frame is addressed to the node, no abort, and not
refused. -/
def SdoServer.Accepts (x : SdoServer N × σ) : ServerAction σ → ServerEvent → Prop
  | .handleFrame f _, .handled (.ok ()) _ => x.1.Addressed f ∧ f.cs ≠ csAbort
  | _, _ => False

/-- The deadline is that of a request accepted by the call, if there are deadlines at all. -/
def SdoServer.SetBy (a : ServerAction σ) (x : SdoServer N × σ) : Prop :=
  ∃ t, a.time? = some t ∧
    x.1.deadline = if x.1.cfg.timeout > 0 then some (t + x.1.cfg.timeout) else none

/-- What a frame does to the deadline: nothing, or there is none and no transfer, or a
transfer goes on with the deadline of the frame. -/
theorem ServerStep.timer {od : ObjectDictionary σ} {s s' : SdoServer N} {f : SdoFrame}
    {now : UInt64} {o o' : σ} {r : SdoResult Unit} (h : ServerStep od s f now o r s' o') :
    (¬ s.Addressed f ∧ s' = s) ∨ (s'.state = .idle ∧ s'.deadline = none) ∨
      (s.Addressed f ∧ f.cs ≠ csAbort ∧ r = .ok () ∧
        ∃ st out, s' = s.serving st out now ∧ st ≠ .idle) := by
  have hne : ∀ {cs}, f.cs = cs → cs ≠ csAbort → f.cs ≠ csAbort := fun hcs h => hcs ▸ h
  cases h with
  | ignored ha => exact .inl ⟨ha, rfl⟩
  -- the exits through `serving`
  | initUploadSegmented ha hcs | uploadSegmentMore ha hcs | initDownloadSegmented ha hcs
  | downloadSegmentMore ha hcs =>
    exact .inr (.inr ⟨ha, hne hcs (by decide), rfl, _, _, rfl, nofun⟩)
  | _ => exact .inr (.inl ⟨rfl, rfl⟩)

/-- **A call sets the deadline of the transfer in progress, or leaves it alone.** -/
theorem ServerCallStep.timer {od : ObjectDictionary σ} {s s' : SdoServer N} {o o' : σ}
    {a : ServerAction σ} {e : ServerEvent} (h : ServerCallStep od s o a e s' o')
    (hs' : s'.state ≠ .idle) :
    (SdoServer.Accepts (s, o) a e ∧ SdoServer.SetBy a (s', o')) ∨
      (¬ SdoServer.Accepts (s, o) a e ∧ s.state ≠ .idle ∧ s'.deadline = s.deadline ∧
        s'.cfg = s.cfg) := by
  cases h with
  | @frame f now r calls _ _ hstep =>
    rcases hstep.timer with ⟨ha, rfl⟩ | ⟨hst, -⟩ | ⟨ha, hcs, rfl, st, out, rfl, -⟩
    · refine .inr ⟨?_, hs', rfl, rfl⟩
      -- a frame for another node is none the server accepts
      intro hacc
      unfold SdoServer.Accepts at hacc
      split at hacc
      · next heq _ =>
        cases heq
        exact ha hacc.1
      · exact hacc
    · exact absurd hst hs'
    · exact .inl ⟨⟨ha, hcs⟩, now, rfl, rfl⟩
  | transmitted => exact .inr ⟨id, hs', rfl, rfl⟩
  | early => exact .inr ⟨id, hs', rfl, rfl⟩
  | expired => exact absurd rfl hs'
  | leftover _ hst => exact absurd hst hs'
  | changed => exact .inr ⟨id, hs', rfl, rfl⟩

/-- An idle server has no deadline. -/
theorem ServerCallStep.deadline_of_idle {od : ObjectDictionary σ} {s s' : SdoServer N} {o o' : σ}
    {a : ServerAction σ} {e : ServerEvent} (h : ServerCallStep od s o a e s' o')
    (hs : s.state = .idle → s.deadline = none) (hs' : s'.state = .idle) : s'.deadline = none := by
  cases h with
  | frame hstep =>
    rcases hstep.timer with ⟨-, rfl⟩ | ⟨-, hd⟩ | ⟨-, -, -, st, out, rfl, hst⟩
    · exact hs hs'
    · exact hd
    · exact absurd hs' hst
  | transmitted => exact hs hs'
  | early => exact hs hs'
  | expired => rfl
  | leftover => rfl
  | changed => exact hs hs'

section Server

variable {od : ObjectDictionary σ} {cfg : ServerConfig} {o₀ o : σ} {s : SdoServer N}
  {h : List (ServerAction σ × ServerEvent)}

theorem server_deadline_of_idle (hr : (serverMachine N od).Run (.new cfg, o₀) h (s, o)) :
    s.state = .idle → s.deadline = none := by
  refine hr.invariant (P := fun _ x => x.1.state = .idle → x.1.deadline = none) (fun _ => rfl) ?_
  rintro h ⟨s, o⟩ a e ⟨s', o'⟩ hs hstep
  exact (serverCallStep_of_step hstep).deadline_of_idle hs

/-- The deadline of a segmented transfer is that of the latest request accepted. -/
theorem server_timer (hr : (serverMachine N od).Run (.new cfg, o₀) h (s, o))
    (hs : s.state ≠ .idle) :
    ∃ x a e t, (serverMachine N od).Latest (.new cfg, o₀) SdoServer.Accepts h (x, a, e) ∧
      a.time? = some t ∧
        s.deadline = if cfg.timeout > 0 then some (t + cfg.timeout) else none := by
  have hlatest := hr.latest_of (B := SdoServer.Accepts) (L := fun x => x.1.state ≠ .idle)
    (Q := SdoServer.SetBy) (fun h => h rfl) ?_ hs
  · obtain ⟨x, a, e, hl, t, ht, hd⟩ := hlatest
    rw [(server_inRange hr).1] at hd
    exact ⟨x, a, e, t, hl, ht, hd⟩
  · rintro _ ⟨s, o⟩ a e ⟨s', o'⟩ _ hstep hs'
    rcases (serverCallStep_of_step hstep).timer hs' with hset | ⟨hacc, hs, hd, hcfg⟩
    · exact .inl hset
    · refine .inr ⟨hacc, hs, ?_⟩
      rintro a' ⟨t, ht, hset⟩
      exact ⟨t, ht, by rw [hd, hcfg, hset]⟩

/-- When a server gives up: never if it is idle or has no timeout, and otherwise one
timeout after the latest request it has accepted. -/
def ServerDue (od : ObjectDictionary σ) (cfg : ServerConfig) (o₀ : σ)
    (h : List (ServerAction σ × ServerEvent)) (s : SdoServer N) : Option ℕ → Prop
  | none => s.state = .idle ∨ cfg.timeout = 0
  | some d => s.state ≠ .idle ∧ cfg.timeout > 0 ∧ ∃ x a e t,
      (serverMachine N od).Latest (.new cfg, o₀) SdoServer.Accepts h (x, a, e) ∧
        a.time? = some t ∧ d = t.toNat + cfg.timeout.toNat

/-- The server gives up at the time `due`, and frames for other nodes, polls and early
timeouts do not change that. -/
structure SdoServer.TimedBy (od : ObjectDictionary σ) (s : SdoServer N) (due : Option ℕ) :
    Prop where
  deadline : s.pollTimeout.map UInt64.toNat = due
  ignored : ∀ f now o, ¬ s.Addressed f → s.handleFrame f now od o = .ok ((.ok (), s), o)
  polled : s.pollTransmit.2.pollTimeout = s.pollTimeout
  fires : ∀ now d, due = some d → d ≤ now.toNat → ∃ idx sub,
    s.state.object = some (idx, sub) ∧
      s.handleTimeout now = (.error (.clientAborted .protocolTimeout),
        s.aborted idx sub .protocolTimeout)
  waits : ∀ now, (∀ d, due = some d → now.toNat < d) → s.handleTimeout now = (.ok (), s)

/-- A server that has no deadline when it is idle gives up at its deadline. -/
theorem SdoServer.timedBy (hs : s.state = .idle → s.deadline = none) :
    s.TimedBy od (s.deadline.map UInt64.toNat) where
  deadline := rfl
  ignored := fun f now o ha => (ServerStep.ignored ha).handleFrame_eq
  polled := rfl
  fires := by
    intro now d hd hle
    obtain ⟨t, ht, rfl⟩ := Option.map_eq_some_iff.mp hd
    have hdue : s.Due now := ⟨t, ht, UInt64.le_iff_toNat_le.mpr hle⟩
    rcases s.state.idle_or_object with hst | ⟨idx, sub, ho⟩
    · rw [hs hst] at ht
      cases ht
    · exact ⟨idx, sub, ho, SdoServer.handleTimeout_of_due hdue ho⟩
  waits := fun now hlt => SdoServer.handleTimeout_of_not_due (not_passed_of_lt hlt)

/-- The deadline of a server is when it is due. -/
theorem server_due (hr : (serverMachine N od).Run (.new cfg, o₀) h (s, o))
    (hclock : ∀ x ∈ h, ∀ t ∈ x.1.time?, t.toNat + cfg.timeout.toNat < 2 ^ 64) :
    ServerDue od cfg o₀ h s (s.deadline.map UInt64.toNat) := by
  by_cases hst : s.state = .idle
  · rw [server_deadline_of_idle hr hst]
    exact .inl hst
  · obtain ⟨x, a, e, t, hl, ht, hd⟩ := server_timer hr hst
    rw [hd]
    split
    · next hpos =>
      exact ⟨hst, hpos, x, a, e, t, hl, ht, toNat_add_of_lt (hclock _ hl.mem t ht)⟩
    · -- a timeout of zero is none
      next hpos =>
      refine .inr ?_
      rw [← UInt64.toNat_inj]
      rw [gt_iff_lt, UInt64.lt_iff_toNat_lt] at hpos
      exact Nat.eq_zero_of_not_pos hpos

end Server

/-! ### Both machines -/

/-- **Timeouts fire exactly when they are due**, at both machines and in every run whose
times leave room for the timeout: the machine has the deadline its history says, aborts
the transfer in flight from then on, and changes nothing before. -/
theorem timeouts_fire_when_due :
    (∀ (tgt : Target) (cfg : SdoConfig) (h : List (ClientCall × ClientReturn)) (c : SdoClient),
      (callMachine tgt).Run (.new cfg) h c →
      (∀ x ∈ h, ∀ t ∈ x.1.time?, t.toNat + cfg.timeout.toNat < 2 ^ 64) →
      ∃ due, ClientDue tgt cfg h c due ∧ c.TimedBy tgt due) ∧
    ∀ (N : ℕ) (σ : Type) (od : ObjectDictionary σ) (cfg : ServerConfig) (o₀ o : σ)
      (h : List (ServerAction σ × ServerEvent)) (s : SdoServer N),
      (serverMachine N od).Run (.new cfg, o₀) h (s, o) →
      (∀ x ∈ h, ∀ t ∈ x.1.time?, t.toNat + cfg.timeout.toNat < 2 ^ 64) →
      ∃ due, ServerDue od cfg o₀ h s due ∧ s.TimedBy od due := by
  constructor
  · intro tgt cfg h c hr hclock
    exact ⟨_, client_due hr hclock, (client_sound hr).timedBy⟩
  · intro N σ od cfg o₀ o h s hr hclock
    exact ⟨_, server_due hr hclock, SdoServer.timedBy (server_deadline_of_idle hr)⟩

/-- The times of a concrete history, checked one by one. -/
theorem forall_mem_of_all {α β : Type} {time? : α → Option β} {p : β → Prop} [DecidablePred p]
    {l : List α} (h : (l.all fun x => (time? x).all fun t => decide (p t)) = true) :
    ∀ x ∈ l, ∀ t ∈ time? x, p t := by
  intro x hx t ht
  have hall := List.all_eq_true.mp h x hx
  rw [Option.mem_def.mp ht] at hall
  exact of_decide_eq_true hall

/-- The read that was announced at 5 ns is given up 150 ms later, and the server that has
sent a segment at 1 ns one second later. -/
theorem timeouts_fire_when_due_announcedRead :
    announcedRead.2.TimedBy .bits64 (some 150000005) ∧
      lyingRun.2.1.TimedBy lyingOd (some 1000000001) := by
  obtain ⟨hclient, hserver⟩ := timeouts_fire_when_due
  constructor
  · obtain ⟨due, -, htimed⟩ := hclient _ _ _ _ run_announcedRead
      (forall_mem_of_all (by decide +kernel))
    have hdue : some 150000005 = due := Eq.trans (by decide +kernel) htimed.deadline
    rw [hdue]
    exact htimed
  · obtain ⟨due, -, htimed⟩ := hserver _ _ _ _ _ _ _ _ run_lyingRun
      (forall_mem_of_all (by decide +kernel))
    have hdue : some 1000000001 = due := Eq.trans (by decide +kernel) htimed.deadline
    rw [hdue]
    exact htimed

end CanopenSdo
