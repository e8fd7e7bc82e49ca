import CanopenSdo.Stack

/-!
# The dictionary calls of a read and of a write

`net_simulated` says that the bus of the state machines follows every run of the stack.  So
the dictionary of a server gets at most one call for each attempt of a caller, and what the
first attempt returns is what the dictionary has been called for, exactly once.  Later
attempts may take the answer to an earlier one for their own.  For a value of up to four
bytes that does no harm: whatever the caller returns, the call has been made.

## Main definitions

* `Bus.First` — how far a bus has got with its first transfer.
* `Exchange` — a transfer of one request and one answer.
* `callerProjection` — the stack, as its caller sees it.

## Main results

* `Bus.first_agreement` — **the first transfer of a bus, if it has completed, was performed
  exactly once.**
* `Bus.exchanged` — **a transfer of one request and one answer that has completed shows a call
  that has been made.**
* `stack_reads`, `stack_writes` — **the calls of a read and of a write with retries.**
-/

namespace CanopenSdo

open Wire

variable {N : ℕ} {σ φ ε ρ : Type}

/-! ### The first transfer of a bus -/

/-- Nothing has been begun, and nothing but aborts is on the way to the client. -/
structure View.Untouched (v : View N) : Prop where
  client : v.client = .idle
  up : v.up = []
  down : ∀ x ∈ v.down, x.1.cs = csAbort
  calls : v.calls = []

section First

variable {tgt : Target} {od : ObjectDictionary σ} {nodeId : UInt8} {op : Option Opening}
  {v v' : View N} {e : BusEvent} {b b' : Bus N σ} {a : BusAction σ}
  {h : List (BusAction σ × BusEvent)} {s : SdoServer N} {dict : σ} {c : SdoClient}

theorem View.Untouched.step (hv : v.Untouched) (hstep : BusStep tgt od nodeId op v e v')
    (hnew : e ≠ .began) :
    v'.Untouched ∧ ∀ f i outcome, e ≠ .answered f i (.ok (some outcome)) := by
  cases hstep with
  | began => exact absurd rfl hnew
  | lost hup hdown =>
    refine ⟨⟨hv.client, List.eq_nil_of_sublist_nil (hv.up ▸ hup), ?_, hv.calls⟩, by simp⟩
    exact fun x hx => hv.down x (hdown.subset hx)
  | quit hc => exact absurd hv.client hc
  | timedOut ho hl =>
    refine ⟨⟨hv.client, hv.up, ?_, hv.calls⟩, by simp⟩
    intro x hx
    rcases List.mem_append.mp hx with hx | hx
    · exact hv.down x (hl.subset hx)
    · obtain rfl := List.mem_singleton.mp hx
      exact SdoFrame.cs_abort _ _ _ _
  | served hup => cases hv.up.symm.trans hup
  | @answered _ _ rest l f i c c' r now hdown hc hf hup =>
    -- an idle client ignores everything
    have hign : c.handleFrame tgt f now = .ok (.ok none, c) :=
      SdoClient.handleFrame_of_not_answers (SdoClient.not_answers_of_idle (hc.trans hv.client))
    rw [hign] at hf
    cases hf
    refine ⟨⟨hc.trans hv.client, hup.symm.trans hv.up, ?_, hv.calls⟩, by simp⟩
    exact fun x hx => hv.down x (hdown ▸ List.mem_cons_of_mem _ hx)

/-- The first transfer begins. -/
theorem View.Untouched.opened (hv : b.view.Untouched) (hw : b.WellFormed nodeId)
    (hs : busStep tgt od nodeId b a = some (.began, b')) {P : Protocol N tgt od nodeId}
    (hP : a.opening nodeId = some P.toOpening) :
    b'.WellFormed nodeId ∧ P.Tracks b'.current b'.view ∧ b'.view.Sole := by
  obtain ⟨hstep, hw'⟩ := busStep_of_step hw hs
  rw [hP] at hstep
  refine ⟨hw', ?_⟩
  show P.Tracks b'.view.current b'.view ∧ b'.view.Sole
  generalize b'.view = v' at hstep
  cases hstep with
  | @began _ _ l hc hl =>
    obtain rfl := List.eq_nil_of_sublist_nil (hv.up ▸ hl)
    refine ⟨Protocol.Tracks.opened (by simp) ?_ (by simp [hv.calls]), by simp, by simp [hv.calls]⟩
    exact fun x hx => ClientState.not_awaits_abort (hv.down x hx)

/-- How far a bus has got with its first transfer. -/
inductive Bus.First (tgt : Target) (od : ObjectDictionary σ) (nodeId : UInt8)
    (h : List (BusAction σ × BusEvent)) (b : Bus N σ) : Prop
  | none (hbegun : begun h = []) (hw : b.WellFormed nodeId) (hv : b.view.Untouched)
      (hout : ∀ act f i outcome, (act, .answered f i (.ok (some outcome))) ∉ h)
  | one {a : BusAction σ} {P : Protocol N tgt od nodeId} (hn : nodeId ≤ 127)
      (hbegun : begun h = [a]) (hb : b.FirstTransfer P h)
      (hagrees : ∀ S, P.session S → Agrees a S.outcome S.total)
  | more (hbegun : 2 ≤ (begun h).length)

theorem Bus.First.step (hb : b.First tgt od nodeId h)
    (hs : busStep tgt od nodeId b a = some (e, b')) : b'.First tgt od nodeId (h ++ [(a, e)]) := by
  have hbegun := begun_append_singleton h a e
  by_cases hnew : e = .began
  · subst hnew
    rw [if_pos rfl] at hbegun
    cases hb with
    | none h₀ hw hv hout =>
      obtain ⟨hn, -, P, hP, hagrees⟩ := exists_protocol hs
      obtain ⟨hw', htracks, hsole⟩ := hv.opened hw hs hP
      refine .one hn (by rw [hbegun, h₀, List.nil_append]) ⟨hw', htracks, hsole, ?_⟩ hagrees
      intro act f i outcome hmem
      rcases List.mem_append.mp hmem with hmem | hmem
      · exact absurd hmem (hout act f i outcome)
      · cases List.mem_singleton.mp hmem
    | one _ h₁ _ _ => exact .more (by simp [hbegun, h₁])
    | more h₂ =>
      refine .more ?_
      rw [hbegun, List.length_append]
      omega
  · rw [if_neg hnew, List.append_nil] at hbegun
    cases hb with
    | none h₀ hw hv hout =>
      obtain ⟨hstep, hw'⟩ := busStep_of_step hw hs
      obtain ⟨hv', hno⟩ := hv.step hstep hnew
      refine .none (hbegun.trans h₀) hw' hv' ?_
      intro act f i outcome hmem
      rcases List.mem_append.mp hmem with hmem | hmem
      · exact hout act f i outcome hmem
      · exact hno f i outcome (Prod.mk.inj (List.mem_singleton.mp hmem)).2.symm
    | one hn h₁ hb hagrees => exact .one hn (hbegun.trans h₁) (hb.step hn hs hnew) hagrees
    | more h₂ => exact .more (hbegun ▸ h₂)

theorem Bus.first_run (hs : s.cfg.nodeId = nodeId) (htx : s.pendingTx = none)
    (hc : c.state = .idle) (hctx : c.pendingTx = none)
    (hr : (busMachine tgt od nodeId).Run (Bus.start c s dict) h b) : b.First tgt od nodeId h := by
  refine hr.invariant (P := fun h b => b.First tgt od nodeId h) ?_ fun _ _ _ _ _ hb hs =>
    hb.step hs
  refine .none rfl (Bus.wellFormed_start hs hc hctx) ⟨hc, ?_, ?_, rfl⟩ (by simp)
  · simp [Bus.view, Bus.start, hctx]
  · simp [Bus.view, Bus.start, htx]

/-- **The first transfer of a bus, if it has completed, was performed exactly once**, also
where frames were heard and timeouts have fired before it. -/
theorem Bus.first_agreement (hs : s.cfg.nodeId = nodeId) (htx : s.pendingTx = none)
    (hc : c.state = .idle) (hctx : c.pendingTx = none)
    (hr : (busMachine tgt od nodeId).Run (Bus.start c s dict) h b) (hone : (begun h).length ≤ 1)
    {act : BusAction σ} {f : SdoFrame} {i : ℕ} {outcome : SdoOutcome}
    (hend : (act, .answered f i (.ok (some outcome))) ∈ h) :
    ∃ a ∈ begun h, Agrees a outcome (b.calls.map Prod.fst) := by
  cases Bus.first_run hs htx hc hctx hr with
  | none _ _ _ hout => exact absurd hend (hout act f i outcome)
  | @one a P hn hbegun hb hagrees =>
    obtain ⟨-, -, S, hS, rfl, hcalls⟩ := hb.completed act f i outcome hend
    refine ⟨a, by simp [hbegun], ?_⟩
    have hall : b.calls.map Prod.fst = S.total := hb.sole.callsOf_eq.symm.trans hcalls
    rw [hall]
    exact hagrees S hS
  | more hbegun => omega

/-- An outcome is that of a transfer that was begun. -/
theorem Bus.begun_ne_nil (hs : s.cfg.nodeId = nodeId) (htx : s.pendingTx = none)
    (hc : c.state = .idle) (hctx : c.pendingTx = none)
    (hr : (busMachine tgt od nodeId).Run (Bus.start c s dict) h b) {act : BusAction σ}
    {f : SdoFrame} {i : ℕ} {outcome : SdoOutcome}
    (hend : (act, .answered f i (.ok (some outcome))) ∈ h) : begun h ≠ [] := by
  cases Bus.first_run hs htx hc hctx hr with
  | none _ _ _ hout => exact absurd hend (hout act f i outcome)
  | one _ hbegun => simp [hbegun]
  | more hbegun =>
    intro hnil
    simp [hnil] at hbegun

/-- What was begun has once been begun by a step. -/
theorem exists_step_of_mem_begun {b₀ : Bus N σ} (hr : (busMachine tgt od nodeId).Run b₀ h b) :
    ∀ a ∈ begun h, ∃ b₁ b₂ : Bus N σ, busStep tgt od nodeId b₁ a = some (.began, b₂) := by
  refine hr.invariant (P := fun h _ => ∀ a ∈ begun h, ∃ b₁ b₂ : Bus N σ,
    busStep tgt od nodeId b₁ a = some (.began, b₂)) (by simp [begun]) ?_
  intro h b a e b' ih hs a' hmem
  rw [begun_append_singleton] at hmem
  rcases List.mem_append.mp hmem with hmem | hmem
  · exact ih a' hmem
  · split at hmem
    · next he =>
      obtain rfl := List.mem_singleton.mp hmem
      subst he
      exact ⟨b, b', hs⟩
    · cases hmem

end First

/-! ### One request, one answer -/

/-- A transfer that is over with one request and one answer: of a value of up to four bytes. -/
structure Exchange (N : ℕ) (tgt : Target) (od : ObjectDictionary σ) (nodeId : UInt8) where
  opening : Opening
  /-- The command specifiers of the request and of the answer. -/
  ccs : UInt8
  scs : UInt8
  /-- The call is such that its answer is the last one. -/
  Short : OdCall → Prop
  /-- The answer `f` is one to the call, and the client reports the outcome for it. -/
  Shows : OdCall → SdoOutcome → SdoFrame → Prop
  ccs_ne : ccs ≠ csAbort
  scs_ne : scs ≠ csAbort
  answer : ∀ {f g : SdoFrame}, AnswerTo f g → g.cs = scs → f.cs = ccs
  served : ∀ {s s' : SdoServer N} {now : UInt64} {o o' : σ} {r : SdoResult Unit}
    {log : List OdCall} {g : SdoFrame}, s.cfg.nodeId = nodeId →
    s.handleFrame opening.init now od.recording (o, []) = .ok ((r, s'), (o', log)) →
      s'.pendingTx = some g → g.cs = scs → ∃ call ∈ log, ∃ outcome, Shows call outcome g
  answered : ∀ {c c' : SdoClient} {f : SdoFrame} {now : UInt64} {r : SdoResult (Option SdoOutcome)},
    ClientStep tgt c f now r c' → c.state = opening.client →
      (f.cs = scs → ∃ call outcome, Short call ∧ Shows call outcome f) →
        (c' = c ∨ (c'.state = .idle ∧ c'.pendingTx = none)) ∧
          ∀ outcome, r = .ok (some outcome) →
            f.cs = scs ∧ ∀ call outcome', Short call → Shows call outcome' f → outcome' = outcome

/-- A bus on which one such transfer is begun, again and again. -/
structure View.Exchanges {tgt : Target} {od : ObjectDictionary σ} {nodeId : UInt8}
    (E : Exchange N tgt od nodeId) (v : View N) : Prop where
  client : v.client = .idle ∨ v.client = E.opening.client
  up : ∀ x ∈ v.up, x.1.cs = E.ccs → x.1 = E.opening.init
  down : ∀ x ∈ v.down, x.1.cs = E.scs →
    ∃ call ∈ v.calls.map Prod.fst, ∃ outcome, E.Shows call outcome x.1

section Exchange

variable {tgt : Target} {od : ObjectDictionary σ} {nodeId : UInt8} {idx : UInt16} {sub : UInt8}
  {d : List UInt8} {op : Option Opening} {v v' : View N} {e : BusEvent} {b b' : Bus N σ}
  {a : BusAction σ} {h : List (BusAction σ × BusEvent)} {s s' : SdoServer N} {dict : σ}
  {c c' : SdoClient} {f g : SdoFrame} {now : UInt64} {o o' : σ} {log : List OdCall}
  {E : Exchange N tgt od nodeId}

/-- Calls are only ever added. -/
theorem busStep_calls (hstep : BusStep tgt od nodeId op v e v') :
    ∃ log, v'.calls = v.calls ++ log := by
  cases hstep with
  | served => exact ⟨_, rfl⟩
  | _ => exact ⟨[], (List.append_nil _).symm⟩

/-- The client of such a transfer, idle or not. -/
theorem Exchange.answered' {r : SdoResult (Option SdoOutcome)} (E : Exchange N tgt od nodeId)
    (hstep : ClientStep tgt c f now r c') (hc : c.state = .idle ∨ c.state = E.opening.client)
    (hf : f.cs = E.scs → ∃ call outcome, E.Short call ∧ E.Shows call outcome f) :
    (c' = c ∨ (c'.state = .idle ∧ c'.pendingTx = none)) ∧
      ∀ outcome, r = .ok (some outcome) →
        f.cs = E.scs ∧ ∀ call outcome', E.Short call → E.Shows call outcome' f →
          outcome' = outcome := by
  rcases hc with hst | hst
  · obtain ⟨rfl, rfl⟩ := hstep.unique (.ignored (SdoClient.not_answers_of_idle hst))
    exact ⟨.inl rfl, by simp⟩
  · exact E.answered hstep hst hf

theorem View.Exchanges.step (hn : nodeId ≤ 127) (hv : v.Exchanges E)
    (hstep : BusStep tgt od nodeId op v e v')
    (hop : e = .began → ∀ T, op = some T → T = E.opening)
    (hreq : ∀ x ∈ v.up, IsRequest nodeId x.1)
    (hshort : ∀ call ∈ v.calls.map Prod.fst, E.Short call) :
    v'.Exchanges E ∧ ∀ f i outcome, e = .answered f i (.ok (some outcome)) →
      ∃ call ∈ v'.calls.map Prod.fst, E.Short call ∧ E.Shows call outcome f := by
  cases hstep with
  | @began _ T l hc hl =>
    obtain rfl := hop rfl T rfl
    refine ⟨⟨.inr rfl, ?_, hv.down⟩, by simp⟩
    intro x hx hcs
    rcases List.mem_append.mp hx with hx | hx
    · exact hv.up x (hl.subset hx) hcs
    · obtain rfl := List.mem_singleton.mp hx
      rfl
  | lost hup hdown =>
    exact ⟨⟨hv.client, fun x hx => hv.up x (hup.subset hx),
      fun x hx => hv.down x (hdown.subset hx)⟩, by simp⟩
  | quit hc hl hg =>
    refine ⟨⟨.inl rfl, ?_, hv.down⟩, by simp⟩
    intro x hx hcs
    rcases List.mem_append.mp hx with hx | hx
    · exact hv.up x (hl.subset hx) hcs
    · obtain rfl := List.mem_singleton.mp hx
      exact absurd (hcs.symm.trans hg) E.ccs_ne
  | timedOut ho hl =>
    refine ⟨⟨hv.client, hv.up, ?_⟩, by simp⟩
    intro x hx hcs
    rcases List.mem_append.mp hx with hx | hx
    · exact hv.down x (hl.subset hx) hcs
    · obtain rfl := List.mem_singleton.mp hx
      exact absurd (hcs.symm.trans (SdoFrame.cs_abort _ _ _ _)) E.scs_ne
  | @served _ _ rest l f i s s' o o' r log now hup hs hcfg hf hl =>
    refine ⟨⟨hv.client, fun x hx => hv.up x (hup ▸ List.mem_cons_of_mem _ hx), ?_⟩, by simp⟩
    intro x hx hcs
    simp only [View.served, List.map_append, List.map_map, Function.comp_def, List.map_id',
      List.mem_append]
    rcases List.mem_append.mp hx with hx | hx
    · obtain ⟨call, hcall, hshows⟩ := hv.down x (hl.subset hx) hcs
      exact ⟨call, .inl hcall, hshows⟩
    · -- the answer to the frame
      obtain ⟨g, htx, rfl⟩ : ∃ g, s'.pendingTx = some g ∧ x = (g, i) := by
        cases htx : s'.pendingTx with
        | none => simp [htx] at hx
        | some g => exact ⟨g, rfl, by simpa [htx] using hx⟩
      have hfmem : (f, i) ∈ v.up := hup ▸ List.mem_cons_self
      have hgne : g.cs ≠ csAbort := fun habort => E.scs_ne (hcs.symm.trans habort)
      rcases (handleFrame_eq_ok_iff.mp hf).answer ((hreq _ hfmem).addressed hn hcfg) with
        ⟨-, rfl⟩ | ⟨idx', sub', code, -, rfl⟩ | ⟨-, data, htx', hans⟩
      · cases htx
      · obtain rfl := Option.some.inj htx
        exact absurd (SdoFrame.cs_abort _ idx' sub' code) hgne
      · obtain rfl := Option.some.inj (htx'.symm.trans htx)
        have hfeq : f = E.opening.init := hv.up _ hfmem (E.answer hans hcs)
        subst hfeq
        obtain ⟨call, hcall, hshows⟩ := E.served hcfg hf htx hcs
        exact ⟨call, .inr hcall, hshows⟩
  | @answered _ _ rest l f i c c' r now hdown hc hf hup =>
    have hfmem : (f, i) ∈ v.down := hdown ▸ List.mem_cons_self
    have hmade : f.cs = E.scs → ∃ call outcome, E.Short call ∧ E.Shows call outcome f := by
      intro hcs
      obtain ⟨call, hcall, outcome, hshows⟩ := hv.down _ hfmem hcs
      exact ⟨call, outcome, hshort call hcall, hshows⟩
    obtain ⟨hstate, hout⟩ :=
      E.answered' (SdoClient.handleFrame_eq_ok_iff.mp hf) (hc ▸ hv.client) hmade
    refine ⟨⟨?_, ?_, fun x hx => hv.down x (hdown ▸ List.mem_cons_of_mem _ hx)⟩, ?_⟩
    · show c'.state = .idle ∨ c'.state = E.opening.client
      rcases hstate with rfl | ⟨hidle, -⟩
      · exact hc ▸ hv.client
      · exact .inl hidle
    · intro x hx hcs
      refine hv.up x ?_ hcs
      rcases hstate with rfl | ⟨-, htx⟩
      · exact hup ▸ hx
      · rw [hup]
        simp only [View.answered, htx, pendingFrame_none, List.append_nil] at hx
        exact List.mem_append_left _ hx
    · intro f' i' outcome he
      obtain ⟨rfl, rfl, rfl⟩ := BusEvent.answered.inj he
      obtain ⟨hcs, heq⟩ := hout outcome rfl
      obtain ⟨call, hcall, outcome', hshows⟩ := hv.down _ hfmem hcs
      obtain rfl := heq call outcome' (hshort call hcall) hshows
      exact ⟨call, hcall, hshort call hcall, hshows⟩

/-- What holds of a bus on which such a transfer is begun, again and again. -/
structure Bus.Exchanging (E : Exchange N tgt od nodeId) (h : List (BusAction σ × BusEvent))
    (b : Bus N σ) : Prop where
  view : b.view.Exchanges E
  completed : ∀ act f i outcome, (act, .answered f i (.ok (some outcome))) ∈ h →
    ∃ call ∈ b.calls.map Prod.fst, E.Short call ∧ E.Shows call outcome f

theorem Bus.Exchanging.step (hn : nodeId ≤ 127) (hb : b.Exchanging E h)
    (hw : b.WellFormed nodeId) (hstep : BusStep tgt od nodeId (a.opening nodeId) b.view e b'.view)
    (hop : e = .began → a.opening nodeId = some E.opening)
    (hshort : ∀ call ∈ b.calls.map Prod.fst, E.Short call) :
    b'.Exchanging E (h ++ [(a, e)]) := by
  obtain ⟨hv, hnew⟩ := hb.view.step hn hstep
    (fun he T hT => Option.some.inj (hT.symm.trans (hop he))) (fun x hx => (hw.up x hx).1) hshort
  refine ⟨hv, ?_⟩
  intro act f i outcome hmem
  rcases List.mem_append.mp hmem with hmem | hmem
  · obtain ⟨call, hcall, hshows⟩ := hb.completed act f i outcome hmem
    obtain ⟨log, hlog⟩ := busStep_calls hstep
    refine ⟨call, ?_, hshows⟩
    rw [show b'.calls = b.calls ++ log from hlog, List.map_append]
    exact List.mem_append_left _ hcall
  · exact hnew f i outcome (Prod.mk.inj (List.mem_singleton.mp hmem)).2.symm

/-- **A transfer of one request and one answer that has completed shows a call that has been
made**, whatever happened to the bus and however often the transfer was begun. -/
theorem Bus.exchanged (E : Exchange N tgt od nodeId) (hs : s.cfg.nodeId = nodeId)
    (htx : s.pendingTx = none) (hc : c.state = .idle) (hctx : c.pendingTx = none)
    (hn : nodeId ≤ 127) (hr : (busMachine tgt od nodeId).Run (Bus.start c s dict) h b)
    (hbegun : ∀ a ∈ begun h, a.opening nodeId = some E.opening)
    (hshort : ∀ call ∈ b.calls.map Prod.fst, E.Short call) {act : BusAction σ} {i : ℕ}
    {outcome : SdoOutcome} (hend : (act, .answered f i (.ok (some outcome))) ∈ h) :
    ∃ call ∈ b.calls.map Prod.fst, E.Short call ∧ E.Shows call outcome f := by
  have key : b.WellFormed nodeId ∧ ((∀ a ∈ begun h, a.opening nodeId = some E.opening) →
      (∀ call ∈ b.calls.map Prod.fst, E.Short call) → b.Exchanging E h) := by
    refine hr.invariant (P := fun h b => b.WellFormed nodeId ∧
      ((∀ a ∈ begun h, a.opening nodeId = some E.opening) →
        (∀ call ∈ b.calls.map Prod.fst, E.Short call) → b.Exchanging E h)) ?_ ?_
    · refine ⟨Bus.wellFormed_start hs hc hctx, fun _ _ => ⟨⟨.inl hc, ?_, ?_⟩, by simp⟩⟩
      · simp [Bus.view, Bus.start, hctx]
      · simp [Bus.view, Bus.start, htx]
    · rintro h b a e b' ⟨hw, ih⟩ hs
      obtain ⟨hstep, hw'⟩ := busStep_of_step hw hs
      refine ⟨hw', fun hall hshort => ?_⟩
      rw [begun_append_singleton] at hall
      obtain ⟨log, hlog⟩ := busStep_calls hstep
      have hshort' : ∀ call ∈ b.calls.map Prod.fst, E.Short call := by
        intro call hcall
        apply hshort
        rw [show b'.calls = b.calls ++ log from hlog, List.map_append]
        exact List.mem_append_left _ hcall
      have hb := ih (fun a ha => hall a (List.mem_append_left _ ha)) hshort'
      refine hb.step hn hw hstep ?_ hshort'
      rintro rfl
      exact hall a (by simp)
  exact (key.2 hbegun hshort).completed act f i outcome hend

/-! #### Short writes -/

/-- A server that acknowledges a short write has made it. -/
theorem writes_of_ack (hn : nodeId ≤ 127) (hs : s.cfg.nodeId = nodeId) (h₁ : 1 ≤ d.length)
    (h₄ : d.length ≤ 4) {r : SdoResult Unit}
    (hf : s.handleFrame (initDownloadRequest nodeId idx sub d) now od.recording (o, [])
      = .ok ((r, s'), (o', log)))
    (htx : s'.pendingTx = some g) (hcs : g.cs ≠ csAbort) : .write idx sub d (.ok ()) ∈ log := by
  rcases hw : od.write o idx sub d with ⟨code | u, o₁⟩
  · -- a write that is refused is answered with an abort
    have hrec := od.write_recording hw []
    rw [SdoServer.handleFrame_initDownloadRequest_refused hn hs h₁ h₄ hrec] at hf
    cases hf
    obtain rfl := Option.some.inj htx
    exact absurd (SdoFrame.cs_abort _ idx sub code) hcs
  · have hrec := od.write_recording hw []
    rw [SdoServer.handleFrame_initDownloadRequest_expedited hn hs h₁ h₄ hrec] at hf
    cases hf
    simp

/-- The client of a short write ends it on the acknowledgement, and on nothing else. -/
theorem ClientStep.of_inline {r : SdoResult (Option SdoOutcome)} (h : ClientStep tgt c f now r c')
    (h₄ : d.length ≤ 4) (hst : c.state = .downloading (.start nodeId idx sub d)) :
    (c' = c ∨ (c'.state = .idle ∧ c'.pendingTx = none)) ∧
      ∀ outcome, r = .ok (some outcome) →
        f.cs = scsInitDownload ∧ outcome = .downloadCompleted := by
  have hph : (DownloadCtx.start nodeId idx sub d).phase = .awaitingInit true := by
    simp [DownloadCtx.start, h₄]
  cases h with
  | ignored => exact ⟨.inl rfl, by simp⟩
  | serverAbort => exact ⟨.inr ⟨rfl, rfl⟩, by simp⟩
  | downloadExpedited _ _ _ hcs => exact ⟨.inr ⟨rfl, rfl⟩, by simp [hcs]⟩
  | downloadInit hst' _ hph' | downloadToggle hst' _ hph' | downloadMore hst' _ hph'
  | downloadLast hst' _ hph' =>
    obtain rfl := ClientState.downloading.inj (hst'.symm.trans hst)
    cases hph'.symm.trans hph
  | uploadExpedited hst' | uploadInit hst' | uploadToggle hst' | uploadMore hst'
  | uploadMismatch hst' | uploadLast hst' => cases hst'.symm.trans hst

/-- The write of a short value. -/
def Exchange.write (tgt : Target) (od : ObjectDictionary σ) (hn : nodeId ≤ 127) (idx : UInt16)
    (sub : UInt8) (h₁ : 1 ≤ d.length) (h₄ : d.length ≤ 4) : Exchange N tgt od nodeId where
  opening := .download nodeId idx sub d
  ccs := ccsInitDownload
  scs := scsInitDownload
  Short := fun _ => True
  Shows := fun call outcome _ => call = .write idx sub d (.ok ()) ∧ outcome = .downloadCompleted
  ccs_ne := by decide
  scs_ne := by decide
  answer := fun hans hcs => (hans.initDownload_of_cs hcs).1
  served := by
    intro s s' now o o' r log g hs hf htx hcs
    have hgne : g.cs ≠ csAbort := by
      rw [hcs]
      decide
    exact ⟨_, writes_of_ack hn hs h₁ h₄ hf htx hgne, _, rfl, rfl⟩
  answered := by
    intro c c' f now r hstep hst _
    obtain ⟨hstate, hout⟩ := hstep.of_inline h₄ hst
    refine ⟨hstate, fun outcome hr => ?_⟩
    obtain ⟨hcs, rfl⟩ := hout outcome hr
    exact ⟨hcs, fun call outcome' _ hshows => hshows.2⟩

/-! #### Short reads -/

/-- The read of a value that is sent inline. -/
def OdCall.ReadsInline : OdCall → Prop
  | .read _ _ (.ok len) buf => 1 ≤ (buf.take len).length ∧ (buf.take len).length ≤ 4
  | _ => True

/-- A server that answers a read shows what the dictionary has read. -/
theorem reads_of_reply (hn : nodeId ≤ 127) (hs : s.cfg.nodeId = nodeId) {r : SdoResult Unit}
    (hf : s.handleFrame (initUploadRequest nodeId idx sub) now od.recording (o, [])
      = .ok ((r, s'), (o', log)))
    (htx : s'.pendingTx = some g) (hcs : g.cs ≠ csAbort) :
    ∃ len buf, .read idx sub (.ok len) buf ∈ log ∧
      g = initUploadReply nodeId idx sub (buf.take len) := by
  rcases hread : od.read o idx sub (Bytes.zero N) with ⟨code | len, buf, o₁⟩
  · have hrec := od.read_recording hread []
    rw [SdoServer.handleFrame_initUploadRequest_refused hn hs hrec] at hf
    cases hf
    obtain rfl := Option.some.inj htx
    exact absurd (SdoFrame.cs_abort _ idx sub code) hcs
  · have hrec := od.read_recording hread []
    by_cases hlen : len ≤ N
    · rw [SdoServer.handleFrame_initUploadRequest hn hs hrec hlen] at hf
      refine ⟨len, buf.data, ?_⟩
      subst hs
      split at hf <;>
      · cases hf
        obtain rfl := Option.some.inj htx
        exact ⟨by simp, rfl⟩
    · rw [SdoServer.handleFrame_initUploadRequest_tooLarge hn hs hrec (by omega)] at hf
      cases hf
      obtain rfl := Option.some.inj htx
      exact absurd (SdoFrame.cs_abort _ idx sub .outOfMemory) hcs

/-- The frame is the reply to the read, which makes the client report the value. -/
def ShowsRead (nodeId : UInt8) (idx : UInt16) (sub : UInt8) (call : OdCall) (outcome : SdoOutcome)
    (f : SdoFrame) : Prop :=
  ∃ len buf, call = .read idx sub (.ok len) buf ∧ outcome = .uploadCompleted (buf.take len) ∧
    f = initUploadReply nodeId idx sub (buf.take len)

/-- The client of a read ends it on a reply that shows a short value, with that value. -/
theorem ClientStep.of_reply {r : SdoResult (Option SdoOutcome)} (h : ClientStep tgt c f now r c')
    (hn : nodeId ≤ 127) (hst : c.state = .uploading (.start nodeId idx sub)) {call : OdCall}
    {outcome : SdoOutcome} (hshort : call.ReadsInline)
    (hf : ShowsRead nodeId idx sub call outcome f) :
    r = .ok (some outcome) ∧ c' = c.clearTransfer := by
  obtain ⟨len, buf, rfl, rfl, rfl⟩ := hf
  have heq := h.handleFrame_eq
  rw [SdoClient.handleFrame_initUploadReply_expedited hn hst hshort] at heq
  obtain ⟨hr, hc⟩ := Prod.mk.inj (Except.ok.inj heq)
  exact ⟨hr.symm, hc.symm⟩

/-- On any other frame it does nothing, or gives up. -/
theorem ClientStep.of_not_reply {r : SdoResult (Option SdoOutcome)}
    (h : ClientStep tgt c f now r c') (hst : c.state = .uploading (.start nodeId idx sub))
    (hcs : f.cs ≠ scsInitUpload) :
    (c' = c ∨ (c'.state = .idle ∧ c'.pendingTx = none)) ∧
      ∀ outcome, r ≠ .ok (some outcome) := by
  cases h with
  | ignored => exact ⟨.inl rfl, by simp⟩
  | serverAbort => exact ⟨.inr ⟨rfl, rfl⟩, by simp⟩
  | uploadExpedited _ _ _ hcs' | uploadInit _ _ _ hcs' => exact absurd hcs' hcs
  | uploadToggle hst' _ hph' | uploadMore hst' _ hph' | uploadMismatch hst' _ hph'
  | uploadLast hst' _ hph' =>
    obtain rfl := ClientState.uploading.inj (hst'.symm.trans hst)
    cases hph'
  | downloadExpedited hst' | downloadInit hst' | downloadToggle hst' | downloadMore hst'
  | downloadLast hst' => cases hst'.symm.trans hst

/-- The read of an object, with values that are sent inline. -/
def Exchange.read (tgt : Target) (od : ObjectDictionary σ) (hn : nodeId ≤ 127) (idx : UInt16)
    (sub : UInt8) : Exchange N tgt od nodeId where
  opening := .upload nodeId idx sub
  ccs := ccsInitUpload
  scs := scsInitUpload
  Short := OdCall.ReadsInline
  Shows := ShowsRead nodeId idx sub
  ccs_ne := by decide
  scs_ne := by decide
  answer := fun hans hcs => (hans.initUpload_of_cs hcs).1
  served := by
    intro s s' now o o' r log g hs hf htx hcs
    have hgne : g.cs ≠ csAbort := by
      rw [hcs]
      decide
    obtain ⟨len, buf, hmem, hg⟩ := reads_of_reply hn hs hf htx hgne
    exact ⟨_, hmem, _, len, buf, rfl, rfl, hg⟩
  answered := by
    intro c c' f now r hstep hst hshows
    by_cases hcs : f.cs = scsInitUpload
    · obtain ⟨call, outcome, hshort, hs⟩ := hshows hcs
      obtain ⟨rfl, rfl⟩ := hstep.of_reply hn hst hshort hs
      refine ⟨.inr ⟨rfl, rfl⟩, ?_⟩
      rintro _ ⟨⟩
      refine ⟨hcs, fun call' outcome' hshort' hs' => ?_⟩
      have heq := (hstep.of_reply hn hst hshort' hs').1
      exact (Option.some.inj (Except.ok.inj heq)).symm
    · obtain ⟨hstate, hno⟩ := hstep.of_not_reply hst hcs
      exact ⟨hstate, fun outcome hr => absurd hr (hno outcome)⟩

end Exchange

/-! ### The stack -/

section Stack

variable {T : CanTransport φ ε} {tgt : Target} {od : ObjectDictionary σ} {nodeId : UInt8}
  {idx : UInt16} {sub : UInt8} {data : List UInt8} {timeout : Option ℕ} {retries : UInt8}
  {s : SdoServer N} {dict : σ} {h : List (NetAction φ ε × NetEvent φ ε)}
  {net : Net N σ φ ε ρ} {h' : List (BusAction σ × BusEvent)} {b : Bus N σ} {cfg : SdoConfig}
  {opens : BusAction σ → Prop} {finish : SdoOutcome → Checked ρ}
  {M : Machine (BytesState ε ρ) (BytesAction φ ε) (BytesEvent φ)}

theorem starts_upload : Starts N tgt od nodeId (configFrom timeout)
    (fun a => ∃ now, a = .beginUpload idx sub now) (startUpload nodeId idx sub timeout) := by
  intro now c hc
  have hbegin := startUpload_eq_ok hc
  obtain ⟨err, he⟩ | ⟨hv, -, he⟩ :=
    (SdoClient.new (configFrom timeout)).beginUpload_cases nodeId idx sub now
  · cases he.symm.trans hbegin
  · obtain ⟨-, rfl⟩ := Prod.mk.inj (hbegin.symm.trans he)
    refine ⟨.beginUpload idx sub now, ⟨now, rfl⟩, ?_⟩
    intro b hidle hcfg
    rw [← hcfg]
    simp only [busStep, SdoClient.beginUpload_of_idle hv hidle]
    rfl

theorem starts_download : Starts N tgt od nodeId (configFrom timeout)
    (fun a => ∃ now, a = .beginDownload idx sub data now)
    (startDownload nodeId idx sub data timeout) := by
  intro now c hc
  obtain ⟨err, he⟩ | ⟨hv, -, hd, he⟩ :=
    (SdoClient.new (configFrom timeout)).beginDownload_cases nodeId idx sub data now
  · cases he.symm.trans hc
  · obtain ⟨-, rfl⟩ := Prod.mk.inj (Except.ok.inj (hc.symm.trans he))
    refine ⟨.beginDownload idx sub data now, ⟨now, rfl⟩, ?_⟩
    intro b hidle hcfg
    rw [← hcfg]
    simp only [busStep, SdoClient.beginDownload_of_idle hv hidle hd]
    rfl

theorem Net.callerStep_eq {net' : Net N σ φ ε ρ} {a : BytesAction φ ε} {ev : NetEvent φ ε}
    (hs : net.callerStep retries M a = some (ev, net')) :
    ∃ e, ev = .caller a e ∧ (retryMachine M retries).step net.caller a = some (e, net'.caller) ∧
      net'.node = net.node := by
  obtain ⟨⟨e, s'⟩, hstep, heq⟩ := Option.map_eq_some_iff.mp hs
  obtain ⟨rfl, rfl⟩ := Prod.mk.inj heq
  exact ⟨e, rfl, hstep, rfl⟩

theorem Net.nodeStep_eq {net' : Net N σ φ ε ρ} {a : DriveAction φ ε} {ev : NetEvent φ ε}
    (hs : net.nodeStep T od a = some (ev, net')) :
    ∃ e, ev = .node e ∧ (serveMachine T od).step net.node a = some (e, net'.node) ∧
      net'.caller = net.caller := by
  obtain ⟨⟨e, n'⟩, hstep, heq⟩ := Option.map_eq_some_iff.mp hs
  obtain ⟨rfl, rfl⟩ := Prod.mk.inj heq
  exact ⟨e, rfl, hstep, rfl⟩

/-- What a step of the stack is to the caller and to the server. -/
theorem netMachine_step_cases {net' : Net N σ φ ε ρ} {act : NetAction φ ε} {ev : NetEvent φ ε}
    (hs : (netMachine T od nodeId retries M).step net act = some (ev, net')) :
    (∃ a e, ev = .caller a e ∧ (retryMachine M retries).step net.caller a = some (e, net'.caller) ∧
      net'.node = net.node) ∨
    (∃ a e, ev = .node e ∧ (serveMachine T od).step net.node a = some (e, net'.node) ∧
      net'.caller = net.caller) ∨
    (ev = .lost ∧ net'.caller = net.caller ∧ net'.node = net.node) := by
  cases netStep_of_step hs with
  | caller _ _ hs =>
    obtain ⟨e, rfl, hstep, hnode⟩ := Net.callerStep_eq hs
    exact .inl ⟨_, e, rfl, hstep, hnode⟩
  | node _ _ hs =>
    obtain ⟨e, rfl, hstep, hcaller⟩ := Net.nodeStep_eq hs
    exact .inr (.inl ⟨_, e, rfl, hstep, hcaller⟩)
  | loseUp _ hev hnet | loseDown _ hev hnet =>
    subst hev hnet
    exact .inr (.inr ⟨rfl, rfl, rfl⟩)

/-- The step of the caller in a step of the stack, if it is one. -/
def NetEvent.callerStep? : NetEvent φ ε → Option (BytesAction φ ε × BytesEvent φ)
  | .caller a e => some (a, e)
  | _ => none

/-- The stack, as its caller sees it. -/
def callerProjection (T : CanTransport φ ε) (od : ObjectDictionary σ) (nodeId retries : UInt8)
    (M : Machine (BytesState ε ρ) (BytesAction φ ε) (BytesEvent φ)) :
    Machine.Projection (netMachine (N := N) T od nodeId retries M) (retryMachine M retries) where
  inv := fun _ => True
  state := Net.caller
  event := fun x => x.2.callerStep?
  inv_step := fun _ _ _ _ _ _ => trivial
  dropped := by
    intro net act ev net' _ hs hev
    rcases netMachine_step_cases hs with ⟨a, e, rfl, -⟩ | ⟨a, e, rfl, -, hc⟩ | ⟨-, hc, -⟩
    · cases hev
    · exact hc
    · exact hc
  matched := by
    intro net act ev net' a e _ hs hev
    rcases netMachine_step_cases hs with ⟨a', e', rfl, hstep, -⟩ | ⟨a', e', rfl, -⟩ | ⟨rfl, -⟩
    · obtain ⟨rfl, rfl⟩ := Prod.mk.inj (Option.some.inj hev)
      exact hstep
    · cases hev
    · cases hev

/-- The attempts of the caller are bounded. -/
theorem attempt_le (hr : (netMachine T od nodeId retries M).Run (.init s dict) h net) :
    net.caller.attempt.toNat ≤ maxAttempts retries := by
  have hrun := (callerProjection T od nodeId retries M).run hr trivial
  obtain ⟨n, k, hat⟩ := retry_attempts hrun
  exact hat.attempt.trans_le hat.bound

/-- Not more calls are made than transfers are begun. -/
theorem Bus.Accounted.length_calls_le (hb : b.Accounted nodeId h') :
    b.calls.length ≤ b.current := by
  have horder : (b.calls.map Prod.snd).Pairwise (· < ·) :=
    hb.ordered.order.sublist (List.sublist_append_left _ _)
  have hsub : b.calls.map Prod.snd ⊆ List.range' 1 b.current := by
    intro i hi
    have hle : i ≤ b.current := hb.ordered.bound i (List.mem_append_left _ hi)
    obtain ⟨x, hx, rfl⟩ := List.mem_map.mp hi
    obtain ⟨k, a, hk, -, -⟩ := hb.asked.calls x hx
    rw [List.mem_range'_1]
    omega
  have hlen := (List.subperm_of_subset (horder.imp Nat.ne_of_lt) hsub).length_le
  rwa [List.length_map, List.length_range'] at hlen

/-- **One call at most for each attempt**, and what the attempts ask for. -/
theorem Net.Follows.calls_spec (hf : net.Follows T nodeId cfg opens finish h h' b)
    (hacc : b.Accounted nodeId h') :
    (netCalls h).length ≤ net.caller.attempt.toNat ∧
      ∀ call ∈ netCalls h, ∃ a, opens a ∧ a.Asks call := by
  rw [← hf.calls]
  constructor
  · rw [List.length_map]
    exact hacc.length_calls_le.trans hf.caller.current
  · intro call hcall
    obtain ⟨x, hx, rfl⟩ := List.mem_map.mp hcall
    obtain ⟨k, a, -, ha, hasks⟩ := hacc.asked.calls x hx
    exact ⟨a, hf.caller.opened a (List.mem_of_getElem? ha), hasks⟩

/-- **The value of the first attempt is that of its one call.** -/
theorem Net.Follows.agrees (hf : net.Follows T nodeId cfg opens finish h h' b)
    (hs : s.cfg.nodeId = nodeId) (htx : s.pendingTx = none)
    (hr : (busMachine tgt od nodeId).Run (.start (.new cfg) s dict) h' b)
    (hfirst : net.caller.attempt = 1) {v : ρ} (hv : net.caller.result = some (.ok v)) :
    ∃ a outcome, opens a ∧ finish outcome = .ok v ∧ Agrees a outcome (netCalls h) := by
  have hacc := Bus.accounted_run hs rfl rfl hr
  obtain ⟨act, f, i, outcome, hmem, hfin⟩ := hf.caller.outcome v hv
  have hone : (begun h').length ≤ 1 := by
    have hcur := hf.caller.current
    rw [hfirst] at hcur
    exact hacc.asked.count ▸ hcur
  obtain ⟨a, ha, hagrees⟩ := Bus.first_agreement hs htx rfl rfl hr hone hmem
  exact ⟨a, outcome, hf.caller.opened a ha, hfin, hf.calls ▸ hagrees⟩

/-! #### Reads -/

section Read

variable {net : Net N σ φ ε (List UInt8)}

/-- The dictionary gets reads of the object only. -/
theorem netCalls_of_read (hT : T.Lawful) (hs : s.cfg.nodeId = nodeId)
    (hr : (netMachine T od nodeId retries (uploadBytes T tgt nodeId idx sub timeout)).Run
      (.init s dict) h net) :
    (netCalls h).length ≤ net.caller.attempt.toNat ∧
      ∀ call ∈ netCalls h, ∃ r buf, call = .read idx sub r buf := by
  obtain ⟨h', b, hr', hf⟩ := net_simulated hT starts_upload hs hr
  obtain ⟨hlen, hasks⟩ := hf.calls_spec (Bus.accounted_run hs rfl rfl hr')
  refine ⟨hlen, ?_⟩
  intro call hcall
  obtain ⟨_, ⟨now, rfl⟩, hask⟩ := hasks call hcall
  cases call with
  | read idx' sub' r buf =>
    obtain ⟨rfl, rfl⟩ := hask
    exact ⟨r, buf, rfl⟩
  | write => cases hask

/-- The value that a first attempt returns is that of the one call. -/
theorem netCalls_of_first_read (hT : T.Lawful) (hs : s.cfg.nodeId = nodeId)
    (htx : s.pendingTx = none)
    (hr : (netMachine T od nodeId retries (uploadBytes T tgt nodeId idx sub timeout)).Run
      (.init s dict) h net) (hone : net.caller.attempt = 1) {v : List UInt8}
    (hres : net.caller.result = some (.ok v)) :
    ∃ len buf, len ≤ buf.length ∧ netCalls h = [.read idx sub (.ok len) buf] ∧
      v = buf.take len := by
  obtain ⟨h', b, hr', hf⟩ := net_simulated hT starts_upload hs hr
  obtain ⟨_, outcome, ⟨now, rfl⟩, hfin, hagrees⟩ := hf.agrees hs htx hr' hone hres
  cases outcome with
  | uploadCompleted w =>
    obtain rfl := Except.ok.inj hfin
    exact hagrees
  | downloadCompleted => cases hfin

/-- Where the dictionary delivers only values that are sent inline, what any attempt returns is
one of them. -/
theorem netCalls_of_inline_read (hT : T.Lawful) (hs : s.cfg.nodeId = nodeId)
    (htx : s.pendingTx = none)
    (hr : (netMachine T od nodeId retries (uploadBytes T tgt nodeId idx sub timeout)).Run
      (.init s dict) h net) (hinline : ∀ call ∈ netCalls h, call.ReadsInline) {v : List UInt8}
    (hres : net.caller.result = some (.ok v)) :
    ∃ len buf, .read idx sub (.ok len) buf ∈ netCalls h ∧ v = buf.take len := by
  obtain ⟨h', b, hr', hf⟩ := net_simulated hT starts_upload hs hr
  obtain ⟨act, f, i, outcome, hmem, hfin⟩ := hf.caller.outcome v hres
  obtain ⟨a, ha⟩ := List.exists_mem_of_ne_nil _ (Bus.begun_ne_nil hs htx rfl rfl hr' hmem)
  obtain ⟨b₁, b₂, hstep⟩ := exists_step_of_mem_begun hr' a ha
  obtain ⟨hn, -⟩ := exists_protocol hstep
  have hopened : ∀ a ∈ begun h', a.opening nodeId = some (.upload nodeId idx sub) := by
    intro a ha
    obtain ⟨now, rfl⟩ := hf.caller.opened a ha
    rfl
  obtain ⟨_, hcall, -, len, buf, rfl, rfl, -⟩ := Bus.exchanged (.read tgt od hn idx sub) hs htx
    rfl rfl hn hr' hopened (hf.calls.symm ▸ hinline) hmem
  obtain rfl := Except.ok.inj hfin
  exact ⟨len, buf, hf.calls ▸ hcall, rfl⟩

/-- **The dictionary calls of a read with retries**, on a bus that may lose anything and that
others use too: one at most for each attempt, of which there are at most `max retries 1`, and
each of them a read of the object; and if the first attempt returns a value, exactly the one
call that has delivered it. -/
theorem stack_reads (hT : T.Lawful) (hs : s.cfg.nodeId = nodeId)
    (hr : (netMachine T od nodeId retries (uploadBytes T tgt nodeId idx sub timeout)).Run
      (.init s dict) h net) :
    (netCalls h).length ≤ net.caller.attempt.toNat ∧
      net.caller.attempt.toNat ≤ maxAttempts retries ∧
      (∀ call ∈ netCalls h, ∃ r buf, call = .read idx sub r buf) ∧
      (s.pendingTx = none → net.caller.attempt = 1 → ∀ v, net.caller.result = some (.ok v) →
        ∃ len buf, len ≤ buf.length ∧ netCalls h = [.read idx sub (.ok len) buf] ∧
          v = buf.take len) := by
  obtain ⟨hlen, hcalls⟩ := netCalls_of_read hT hs hr
  refine ⟨hlen, attempt_le hr, hcalls, ?_⟩
  intro htx hone v hv
  exact netCalls_of_first_read hT hs htx hr hone hv

end Read

/-! #### Writes -/

section Write

variable {net : Net N σ φ ε Unit}

/-- The dictionary gets writes only, and if the data are sent inline, writes of these. -/
theorem netCalls_of_write (hT : T.Lawful) (hs : s.cfg.nodeId = nodeId)
    (hr : (netMachine T od nodeId retries (downloadBytes T tgt nodeId idx sub data timeout)).Run
      (.init s dict) h net) :
    (netCalls h).length ≤ net.caller.attempt.toNat ∧
      ∀ call ∈ netCalls h, ∃ idx' sub' d r, call = .write idx' sub' d r ∧
        (data.length ≤ 4 → idx' = idx ∧ sub' = sub ∧ d = data) := by
  obtain ⟨h', b, hr', hf⟩ := net_simulated hT starts_download hs hr
  obtain ⟨hlen, hasks⟩ := hf.calls_spec (Bus.accounted_run hs rfl rfl hr')
  refine ⟨hlen, ?_⟩
  intro call hcall
  obtain ⟨_, ⟨now, rfl⟩, hask⟩ := hasks call hcall
  cases call with
  | read => cases hask
  | write idx' sub' d r => exact ⟨idx', sub', d, r, rfl, hask⟩

/-- A first attempt that returns `Ok` has made the one call. -/
theorem netCalls_of_first_write (hT : T.Lawful) (hs : s.cfg.nodeId = nodeId)
    (htx : s.pendingTx = none)
    (hr : (netMachine T od nodeId retries (downloadBytes T tgt nodeId idx sub data timeout)).Run
      (.init s dict) h net) (hone : net.caller.attempt = 1)
    (hres : net.caller.result = some (.ok ())) : netCalls h = [.write idx sub data (.ok ())] := by
  obtain ⟨h', b, hr', hf⟩ := net_simulated hT starts_download hs hr
  obtain ⟨_, outcome, ⟨now, rfl⟩, hfin, hagrees⟩ := hf.agrees hs htx hr' hone hres
  cases outcome with
  | uploadCompleted w => cases hfin
  | downloadCompleted => exact hagrees

/-- Any attempt that returns `Ok` has written data that are sent inline. -/
theorem netCalls_of_inline_write (hT : T.Lawful) (hs : s.cfg.nodeId = nodeId)
    (htx : s.pendingTx = none) (h₄ : data.length ≤ 4)
    (hr : (netMachine T od nodeId retries (downloadBytes T tgt nodeId idx sub data timeout)).Run
      (.init s dict) h net) (hres : net.caller.result = some (.ok ())) :
    .write idx sub data (.ok ()) ∈ netCalls h := by
  obtain ⟨h', b, hr', hf⟩ := net_simulated hT starts_download hs hr
  obtain ⟨act, f, i, outcome, hmem, -⟩ := hf.caller.outcome () hres
  obtain ⟨a, ha⟩ := List.exists_mem_of_ne_nil _ (Bus.begun_ne_nil hs htx rfl rfl hr' hmem)
  obtain ⟨b₁, b₂, hstep⟩ := exists_step_of_mem_begun hr' a ha
  obtain ⟨hn, -⟩ := exists_protocol hstep
  have hopened : ∀ a ∈ begun h', a.opening nodeId = some (.download nodeId idx sub data) := by
    intro a ha
    obtain ⟨now, rfl⟩ := hf.caller.opened a ha
    rfl
  obtain ⟨now, rfl⟩ := hf.caller.opened a ha
  obtain ⟨call, hcall, -, rfl, -⟩ := Bus.exchanged
    (.write tgt od hn idx sub (length_pos_of_began hstep) h₄) hs htx rfl rfl hn hr' hopened
      (fun _ _ => trivial) hmem
  exact hf.calls ▸ hcall

/-- **The dictionary calls of a write with retries**: one at most for each attempt, and each of
them a write; data of up to four bytes are written as they are or not at all; and if the first
attempt returns `Ok`, exactly the one write of the data, which has succeeded. -/
theorem stack_writes (hT : T.Lawful) (hs : s.cfg.nodeId = nodeId)
    (hr : (netMachine T od nodeId retries (downloadBytes T tgt nodeId idx sub data timeout)).Run
      (.init s dict) h net) :
    (netCalls h).length ≤ net.caller.attempt.toNat ∧
      net.caller.attempt.toNat ≤ maxAttempts retries ∧
      (∀ call ∈ netCalls h, ∃ idx' sub' d r, call = .write idx' sub' d r ∧
        (data.length ≤ 4 → idx' = idx ∧ sub' = sub ∧ d = data)) ∧
      (s.pendingTx = none → net.caller.attempt = 1 → net.caller.result = some (.ok ()) →
        netCalls h = [.write idx sub data (.ok ())]) := by
  obtain ⟨hlen, hcalls⟩ := netCalls_of_write hT hs hr
  refine ⟨hlen, attempt_le hr, hcalls, ?_⟩
  intro htx hone hv
  exact netCalls_of_first_write hT hs htx hr hone hv

end Write

end Stack

/-! ### Two attempts -/

theorem lawful_pairTransport : pairTransport.Lawful := by
  intro f frame hf
  have hlen : f.data.data.length ≤ 8 := f.data.size.le
  obtain rfl : (.standard f.cobId, f.data.data) = frame := by
    simpa [sdoToCan, pairTransport, hlen] using hf
  simp [canToSdo, pairTransport, f.data.size]

/-- The caller subscribes. -/
def callerBegins (now : UInt64) : NetAction (CanId × List UInt8) Unit :=
  .caller (.subscribed (.ok ()) now)

/-- `k` requests, and their answers. -/
def netRounds (now : UInt64) : ℕ → List (NetAction (CanId × List UInt8) Unit)
  | 0 => []
  | k + 1 => [.caller (.drive (.sent (.ok ()))), .nodeReceives now, .node (.sent (.ok ())),
      .callerReceives now] ++ netRounds now k

/-- The first answer is lost, frames of another node are heard, and a second attempt takes `k`
requests. -/
def lostAnswer (k : ℕ) : List (NetAction (CanId × List UInt8) Unit) :=
  [callerBegins 0, .caller (.drive (.sent (.ok ()))), .nodeReceives 0, .node (.sent (.ok ())),
    .loseDown 0,
    .node (.woken (.recv (.ok (.standard 0x611, [0x40, 0, 0x20, 0, 0, 0, 0, 0])) 1)),
    .caller (.drive (.woken (.recv (.ok (.standard 0x591, [0x60, 0, 0x20, 0, 0, 0, 0, 0])) 1))),
    .caller (.drive (.woken (.expiry 150000000))), callerBegins 150000000]
      ++ netRounds 150000000 k

/-- Eight bytes are read in the first attempt. -/
def readStack : List (NetAction (CanId × List UInt8) Unit × NetEvent (CanId × List UInt8) Unit) ×
    Net 16 (List (UInt16 × UInt8 × List UInt8)) (CanId × List UInt8) Unit (List UInt8) :=
  ((netMachine pairTransport loopOd 0x10 3 (uploadBytes pairTransport .bits64 0x10 0x2000 0
    none)).exec (.init (.new (.new 0x10)) counting) (callerBegins 0 :: netRounds 0 3)).get rfl

/-- Eight bytes are read in the second attempt. -/
def readAgain : List (NetAction (CanId × List UInt8) Unit × NetEvent (CanId × List UInt8) Unit) ×
    Net 16 (List (UInt16 × UInt8 × List UInt8)) (CanId × List UInt8) Unit (List UInt8) :=
  ((netMachine pairTransport loopOd 0x10 3 (uploadBytes pairTransport .bits64 0x10 0x2000 0
    none)).exec (.init (.new (.new 0x10)) counting) (lostAnswer 3)).get rfl

/-- Two attempts make two calls, and a first attempt that returns a value makes one. -/
theorem stack_reads_readAgain :
    (readAgain.2.caller.result = some (.ok [1, 2, 3, 4, 5, 6, 7, 8]) ∧
      (netCalls readAgain.1).length = 2 ∧
      ∀ call ∈ netCalls readAgain.1, ∃ r buf, call = .read 0x2000 0 r buf) ∧
    ∃ len buf, netCalls readStack.1 = [.read 0x2000 0 (.ok len) buf] ∧
      [1, 2, 3, 4, 5, 6, 7, 8] = buf.take len := by
  have hs : (SdoServer.new (.new 0x10) : SdoServer 16).cfg.nodeId = 0x10 := rfl
  constructor
  · have hr : (netMachine pairTransport loopOd 0x10 3 (uploadBytes pairTransport .bits64 0x10
        0x2000 0 none)).Run (.init (.new (.new 0x10)) counting) readAgain.1 readAgain.2 :=
      Machine.run_exec_get _
    obtain ⟨hlen, -, hcalls, -⟩ := stack_reads lawful_pairTransport hs hr
    refine ⟨rfl, Nat.le_antisymm hlen ?_, hcalls⟩
    decide +kernel
  · have hr : (netMachine pairTransport loopOd 0x10 3 (uploadBytes pairTransport .bits64 0x10
        0x2000 0 none)).Run (.init (.new (.new 0x10)) counting) readStack.1 readStack.2 :=
      Machine.run_exec_get _
    obtain ⟨-, -, -, hfirst⟩ := stack_reads lawful_pairTransport hs hr
    obtain ⟨len, buf, -, hcalls, hv⟩ := hfirst rfl rfl _ rfl
    exact ⟨len, buf, hcalls, hv⟩

/-- Eight bytes are written in the first attempt. -/
def writeStack : List (NetAction (CanId × List UInt8) Unit × NetEvent (CanId × List UInt8) Unit) ×
    Net 16 (List (UInt16 × UInt8 × List UInt8)) (CanId × List UInt8) Unit Unit :=
  ((netMachine pairTransport loopOd 0x10 3 (downloadBytes pairTransport .bits64 0x10 0x2000 0
    [8, 7, 6, 5, 4, 3, 2, 1] none)).exec (.init (.new (.new 0x10)) counting)
      (callerBegins 0 :: netRounds 0 3)).get rfl

/-- Two bytes are written in both attempts. -/
def writeAgain : List (NetAction (CanId × List UInt8) Unit × NetEvent (CanId × List UInt8) Unit) ×
    Net 16 (List (UInt16 × UInt8 × List UInt8)) (CanId × List UInt8) Unit Unit :=
  ((netMachine pairTransport loopOd 0x10 3 (downloadBytes pairTransport .bits64 0x10 0x2000 0
    [5, 7] none)).exec (.init (.new (.new 0x10)) counting) (lostAnswer 1)).get rfl

theorem stack_writes_writeAgain :
    (writeAgain.2.caller.result = some (.ok ()) ∧ (netCalls writeAgain.1).length = 2 ∧
      ∀ call ∈ netCalls writeAgain.1, ∃ r, call = .write 0x2000 0 [5, 7] r) ∧
    netCalls writeStack.1 = [.write 0x2000 0 [8, 7, 6, 5, 4, 3, 2, 1] (.ok ())] := by
  have hs : (SdoServer.new (.new 0x10) : SdoServer 16).cfg.nodeId = 0x10 := rfl
  constructor
  · have hr : (netMachine pairTransport loopOd 0x10 3 (downloadBytes pairTransport .bits64 0x10
        0x2000 0 [5, 7] none)).Run (.init (.new (.new 0x10)) counting) writeAgain.1 writeAgain.2 :=
      Machine.run_exec_get _
    obtain ⟨hlen, -, hcalls, -⟩ := stack_writes lawful_pairTransport hs hr
    refine ⟨rfl, Nat.le_antisymm hlen ?_, ?_⟩
    · decide +kernel
    · intro call hcall
      obtain ⟨idx, sub, d, r, rfl, hshort⟩ := hcalls call hcall
      obtain ⟨rfl, rfl, rfl⟩ := hshort (by decide)
      exact ⟨r, rfl⟩
  · have hr : (netMachine pairTransport loopOd 0x10 3 (downloadBytes pairTransport .bits64 0x10
        0x2000 0 [8, 7, 6, 5, 4, 3, 2, 1] none)).Run (.init (.new (.new 0x10)) counting)
          writeStack.1 writeStack.2 := Machine.run_exec_get _
    obtain ⟨-, -, -, hfirst⟩ := stack_writes lawful_pairTransport hs hr
    exact hfirst rfl rfl rfl

end CanopenSdo
