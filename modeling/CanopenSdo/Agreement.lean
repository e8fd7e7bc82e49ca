import CanopenSdo.Loopback
import CanopenSdo.Session

/-!
# Agreement of client and server

While a transfer is in flight, the bus is in one of a few phases: the init request has
not been handled yet (`Requested`); request `p` is outstanding (`Outstanding`); answer
`p` is (`Answered`); or nothing more can come (`Stuck`).  In each phase at most one frame
on the bus can move the transfer on, whatever else is lost, delayed or left over from
earlier transfers, and the server's place in the value is the client's.

Aborts are everywhere and change nothing: they end the transfer, or are ignored.

## Main definitions

* `callsOf`, `live` — the calls of one transfer, the frames that are no aborts.
* `Protocol.Tracks` — the phases.

## Main results

* `Protocol.Tracks.step` — every step that opens no transfer stays in the phases, and a
  completed transfer has made exactly its calls.
* `bus_agreement` — **a completed transfer was performed, exactly once.**
-/

namespace CanopenSdo

open Wire
open scoped List

variable {N : ℕ} {σ : Type}

/-! ### Calls and live frames -/

/-- The calls the requests of the transfer `t` have made. -/
def callsOf (t : ℕ) (calls : List (OdCall × ℕ)) : List OdCall :=
  (calls.filter fun x => x.2 = t).map Prod.fst

theorem callsOf_append_self (t : ℕ) (calls : List (OdCall × ℕ)) (log : List OdCall) :
    callsOf t (calls ++ log.map fun c => (c, t)) = callsOf t calls ++ log := by
  simp [callsOf, List.filter_append, List.filter_map, Function.comp_def]

theorem callsOf_append_of_ne {t i : ℕ} (h : i ≠ t) (calls : List (OdCall × ℕ))
    (log : List OdCall) : callsOf t (calls ++ log.map fun c => (c, i)) = callsOf t calls := by
  simp [callsOf, List.filter_append, List.filter_map, Function.comp_def, h]

/-- The frames that are no aborts. -/
def live (l : List (SdoFrame × ℕ)) : List (SdoFrame × ℕ) := l.filter fun x => x.1.cs ≠ csAbort

theorem live_append (l k : List (SdoFrame × ℕ)) : live (l ++ k) = live l ++ live k :=
  List.filter_append ..

theorem live_abort {f : SdoFrame} (h : f.cs = csAbort) (i : ℕ) : live [(f, i)] = [] := by
  simp [live, h]

theorem live_mono {l k : List (SdoFrame × ℕ)} (h : l <+ k) : live l <+ live k := h.filter _

theorem live_eq_nil {l k : List (SdoFrame × ℕ)} (h : l <+ k) (hk : live k = []) : live l = [] :=
  List.eq_nil_of_sublist_nil (hk ▸ live_mono h)

/-- Without live frames every frame is an abort. -/
theorem cs_of_live_eq_nil {l : List (SdoFrame × ℕ)} (h : live l = []) {x : SdoFrame × ℕ}
    (hx : x ∈ l) : x.1.cs = csAbort := by
  by_contra hne
  have hmem : x ∈ live l := List.mem_filter.mpr ⟨hx, by simpa using hne⟩
  rw [h] at hmem
  cases hmem

/-! ### The phases -/

section Phases

variable {tgt : Target} {od : ObjectDictionary σ} {nodeId : UInt8}

/-- The init request of the transfer `t` has not been handled.  What is in front of it,
and what is on its way to the client, is of earlier transfers. -/
structure Protocol.Requested (P : Protocol N tgt od nodeId) (t : ℕ) (v : View N) : Prop where
  client : v.client = P.client
  up : ∃ A B, v.up = A ++ B ∧
    (∀ x ∈ A, x.2 ≠ t ∧ ¬ (x.1.cs = P.init.cs ∧ x.1.Names P.idx P.sub)) ∧ B <+ [(P.init, t)]
  down : ∀ x ∈ v.down, ¬ P.client.Awaits x.1
  calls : callsOf t v.calls = []

/-- The server can go on with request `p` and has made the calls so far, or it is idle. -/
def Session.ServerAt (S : Session N tgt od nodeId) (t p : ℕ) (v : View N) : Prop :=
  v.server = .idle ∨ (S.ready p v.server ∧ callsOf t v.calls = S.calls p)

/-- Request `p` has not been handled. -/
structure Session.Outstanding (S : Session N tgt od nodeId) (t p : ℕ) (v : View N) : Prop where
  pos : 1 ≤ p
  client : v.client = S.ctx p
  up : v.up <+ [(S.req p, t)]
  down : live v.down = []
  server : S.ServerAt t p v

/-- Request `p` has been handled, and its answer not.  Only before answer 0 can there be
frames of earlier transfers. -/
structure Session.Answered (S : Session N tgt od nodeId) (t p : ℕ) (v : View N) : Prop where
  client : v.client = S.ctx p
  up : v.up = []
  down : ∃ D C, v.down = D ++ C ∧ (p ≠ 0 → D = []) ∧ (∀ x ∈ D, ¬ v.client.Awaits x.1) ∧
    live C <+ [(S.resp p, t)] ∧ (live C ≠ [] → callsOf t v.calls = S.calls (p + 1))
  server : S.ServerAt t (p + 1) v

/-- Nothing the client waits for is on its way or can be asked for. -/
structure View.Stuck (v : View N) : Prop where
  up : v.up = []
  down : ∀ x ∈ v.down, ¬ v.client.Awaits x.1
  server : v.server = .idle

/-- The phases of the transfer `t`. -/
inductive Protocol.Tracks (P : Protocol N tgt od nodeId) (t : ℕ) (v : View N) : Prop
  | idle (h : v.client = .idle)
  | requested (h : P.Requested t v)
  | stuck (h : v.Stuck)
  | outstanding {S : Session N tgt od nodeId} {p : ℕ} (hS : P.session S) (h : S.Outstanding t p v)
  | answered {S : Session N tgt od nodeId} {p : ℕ} (hS : P.session S) (h : S.Answered t p v)

/-- The transfer has ended with an outcome of the protocol, its calls have been made, and
no request of it is left. -/
def Protocol.Completed (P : Protocol N tgt od nodeId) (t : ℕ) (outcome : SdoOutcome) (v : View N) :
    Prop :=
  v.client = .idle ∧ v.up = [] ∧
    ∃ S, P.session S ∧ outcome = S.outcome ∧ callsOf t v.calls = S.total

namespace Protocol

variable {P : Protocol N tgt od nodeId} {t : ℕ} {v : View N}

/-! ### Losing frames -/

theorem Tracks.lost (h : P.Tracks t v) {up down : List (SdoFrame × ℕ)} (hup : up <+ v.up)
    (hdown : down <+ v.down) : P.Tracks t { v with up := up, down := down } := by
  cases h with
  | idle h => exact .idle h
  | requested h =>
    -- what is left of the old frames, and of the init request behind them
    obtain ⟨A, B, hAB, hA, hB⟩ := h.up
    rw [hAB] at hup
    obtain ⟨A', B', rfl, hA', hB'⟩ := List.sublist_append_iff.mp hup
    exact .requested ⟨h.client, ⟨A', B', rfl, fun x hx => hA x (hA'.subset hx), hB'.trans hB⟩,
      fun x hx => h.down x (hdown.subset hx), h.calls⟩
  | stuck h =>
    refine .stuck ⟨?_, fun x hx => h.down x (hdown.subset hx), h.server⟩
    exact List.eq_nil_of_sublist_nil (h.up ▸ hup)
  | outstanding hS h =>
    -- the request itself may have been lost, which leaves no answer to come
    refine .outstanding hS ⟨h.pos, h.client, hup.trans h.up, ?_, h.server⟩
    exact live_eq_nil hdown h.down
  | answered hS h =>
    obtain ⟨D, C, hDC, hp, hD, hC, hcalls⟩ := h.down
    rw [hDC] at hdown
    obtain ⟨D', C', rfl, hD', hC'⟩ := List.sublist_append_iff.mp hdown
    refine .answered hS ⟨h.client, List.eq_nil_of_sublist_nil (h.up ▸ hup),
      ⟨D', C', rfl, ?_, fun x hx => hD x (hD'.subset hx), (live_mono hC').trans hC,
        fun hne => hcalls fun hnil => hne ?_⟩, h.server⟩
    · intro hp0
      exact List.eq_nil_of_sublist_nil (hp hp0 ▸ hD')
    · exact live_eq_nil hC' hnil

/-! ### The server's timeout -/

theorem Tracks.timedOut (h : P.Tracks t v) (hs : v.server ≠ .idle) {l : List (SdoFrame × ℕ)}
    (hl : l <+ v.down) {g : SdoFrame} (hg : g.cs = csAbort) (i : ℕ) :
    P.Tracks t { v with server := .idle, down := l ++ [(g, i)] } := by
  -- an abort behind the frames that are left
  have hdown : ∀ {st : ClientState}, (∀ x ∈ v.down, ¬ st.Awaits x.1) →
      ∀ x ∈ l ++ [(g, i)], ¬ st.Awaits x.1 := by
    intro st hv x hx
    rcases List.mem_append.mp hx with hx | hx
    · exact hv x (hl.subset hx)
    · obtain rfl := List.mem_singleton.mp hx
      exact ClientState.not_awaits_abort hg
  cases h with
  | idle h => exact .idle h
  | requested h => exact .requested ⟨h.client, h.up, hdown h.down, h.calls⟩
  | stuck h => exact absurd h.server hs
  | outstanding hS h =>
    refine .outstanding hS ⟨h.pos, h.client, h.up, ?_, .inl rfl⟩
    rw [live_append, live_abort hg, List.append_nil]
    exact live_eq_nil hl h.down
  | answered hS h =>
    obtain ⟨D, C, hDC, hp, hD, hC, hcalls⟩ := h.down
    rw [hDC] at hl
    obtain ⟨D', C', rfl, hD', hC'⟩ := List.sublist_append_iff.mp hl
    have hlive : live (C' ++ [(g, i)]) = live C' := by
      rw [live_append, live_abort hg, List.append_nil]
    refine .answered hS ⟨h.client, h.up, ⟨D', C' ++ [(g, i)], List.append_assoc ..,
      ?_, fun x hx => hD x (hD'.subset hx), ?_, fun hne => hcalls fun hnil => hne ?_⟩,
      .inl rfl⟩
    · intro hp0
      exact List.eq_nil_of_sublist_nil (hp hp0 ▸ hD')
    · rw [hlive]
      exact (live_mono hC').trans hC
    · rw [hlive]
      exact live_eq_nil hC' hnil

/-! ### The server handles a frame -/

section Served

variable {rest l : List (SdoFrame × ℕ)} {f : SdoFrame} {i : ℕ} {s s' : SdoServer N} {o o' : σ}
  {r : SdoResult Unit} {log : List OdCall} {now : UInt64} {session : ℕ}
  (hup : v.up = (f, i) :: rest) (hs : s.state = v.server) (hn : s.cfg.nodeId = nodeId)
  (hf : s.handleFrame f now od.recording (o, []) = .ok ((r, s'), (o', log))) (hl : l <+ v.down)

/-- After the server's abort nothing can come any more. -/
theorem stuck_of_hasAborted (hs : s'.HasAborted) (hrest : rest = [])
    (hdown : ∀ x ∈ l, ¬ v.client.Awaits x.1) :
    (v.served s' rest l i session log).Stuck := by
  obtain ⟨hst, g, hg, hcs⟩ := hs
  refine ⟨hrest, ?_, hst⟩
  intro x hx
  rw [View.served, hg] at hx
  rcases List.mem_append.mp hx with hx | hx
  · exact hdown x hx
  · obtain rfl := List.mem_singleton.mp hx
    exact ClientState.not_awaits_abort hcs

include hup hs hn hf hl

/-- An outstanding request is handled. -/
theorem Tracks.served_outstanding {S : Session N tgt od nodeId} {p : ℕ} (hS : P.session S)
    (h : S.Outstanding t p v) (ha : s.Addressed f) :
    P.Tracks t (v.served s' rest l i session log) := by
  obtain ⟨rfl, rfl, rfl⟩ : f = S.req p ∧ i = t ∧ rest = [] := by
    simpa [hup, List.sublist_singleton, and_assoc] using h.up
  have hlive : live l = [] := live_eq_nil hl h.down
  -- what is left of the answers so far are aborts
  have hdown : ∀ x ∈ l, ¬ v.client.Awaits x.1 := fun x hx =>
    ClientState.not_awaits_abort (cs_of_live_eq_nil hlive hx)
  rcases h.server with hidle | ⟨hready, hcalls⟩
  · -- the server has given the transfer up, and refuses its next segment
    have hstep := (handleFrame_eq_ok_iff.mp hf).of_idle ha (hs.trans hidle) (S.req_segment p h.pos)
    exact .stuck (stuck_of_hasAborted (hstep ▸ s.hasAborted_aborted _ _ _) rfl hdown)
  · rcases S.server_step hn h.pos (hs ▸ hready) hf with hab | ⟨htx, hlog, hnext⟩
    · exact .stuck (stuck_of_hasAborted hab rfl hdown)
    · have hnow : callsOf i (v.served s' [] l i session log).calls = S.calls (p + 1) := by
        rw [View.served, callsOf_append_self, hcalls, hlog]
      refine .answered hS ⟨h.client, rfl, ⟨[], l ++ [(S.resp p, i)], ?_, fun _ => rfl, by simp, ?_,
        fun _ => hnow⟩, hnext.imp id fun hr => ⟨hr, hnow⟩⟩
      · rw [View.served, htx]
        rfl
      · rw [live_append, hlive]
        exact List.filter_sublist

omit hs in
/-- In front of a new transfer's init request, a frame of an earlier one is handled; or
the init request is. -/
theorem Tracks.served_requested (h : P.Requested t v) (ha : s.Addressed f) :
    P.Tracks t (v.served s' rest l i session log) := by
  obtain ⟨A, B, hAB, hA, hB⟩ := h.up
  rw [hup] at hAB
  have hdown : ∀ x ∈ l, ¬ P.client.Awaits x.1 := fun x hx => h.down x (hl.subset hx)
  rcases A with - | ⟨y, A⟩
  · -- the init request
    rw [List.nil_append] at hAB
    obtain ⟨rfl, rfl, rfl⟩ : f = P.init ∧ i = t ∧ rest = [] := by
      simpa [← hAB, List.sublist_singleton, and_assoc] using hB
    rcases P.opens hn hf with hab | ⟨S, hS, hctx, htx, hlog, hnext⟩
    · exact .stuck (stuck_of_hasAborted hab rfl (h.client ▸ hdown))
    · have hnow : callsOf i (v.served s' [] l i session log).calls = S.calls (0 + 1) := by
        rw [View.served, callsOf_append_self, h.calls, List.nil_append, ← hlog]
      refine .answered (p := 0) hS ⟨h.client.trans hctx.symm, rfl,
        ⟨l, [(S.resp 0, i)], ?_, fun hne => absurd rfl hne, ?_, List.filter_sublist,
          fun _ => hnow⟩, hnext.imp id fun hr => ⟨hr, hnow⟩⟩
      · rw [View.served, htx]
        rfl
      · exact h.client ▸ hdown
  · -- a frame of an earlier transfer
    rw [List.cons_append, List.cons.injEq] at hAB
    obtain ⟨rfl, rfl⟩ := hAB
    obtain ⟨hne, hrep⟩ := hA (f, i) List.mem_cons_self
    refine .requested ⟨h.client, ⟨A, B, rfl, fun x hx => hA x (List.mem_cons_of_mem _ hx), hB⟩,
      ?_, ?_⟩
    · intro x hx
      rcases List.mem_append.mp hx with hx | hx
      · exact hdown x hx
      · intro haw
        cases hg : s'.pendingTx with
        | none => simp [hg] at hx
        | some g =>
          simp only [hg, pendingFrame_some, List.mem_singleton] at hx
          subst hx
          exact hrep (P.awaits haw ((handleFrame_eq_ok_iff.mp hf).answerTo_of_awaits ha hg haw))
    · rw [View.served, callsOf_append_of_ne hne]
      exact h.calls

theorem Tracks.served (h : P.Tracks t v) (ha : s.Addressed f) :
    P.Tracks t (v.served s' rest l i session log) := by
  cases h with
  | idle h => exact .idle h
  | requested h => exact served_requested hup hn hf hl h ha
  | stuck h => rw [h.up] at hup; cases hup
  | outstanding hS h => exact served_outstanding hup hs hn hf hl hS h ha
  | answered hS h => rw [h.up] at hup; cases hup

end Served

/-! ### The client handles a frame -/

section Answered

variable {rest l : List (SdoFrame × ℕ)} {f : SdoFrame} {i : ℕ} {c c' : SdoClient}
  {r : SdoResult (Option SdoOutcome)} {now : UInt64}
  (hdown : v.down = (f, i) :: rest) (hc : c.state = v.client)
  (hf : c.handleFrame tgt f now = .ok (r, c')) (hup : v.up = l ++ pendingFrame c.pendingTx v.current)

/-- What a delivered frame leads to: the phases go on, and an outcome is that of the
transfer, ended by an answer of its own. -/
def AfterAnswer (P : Protocol N tgt od nodeId) (t i : ℕ) (r : SdoResult (Option SdoOutcome))
    (v : View N) : Prop :=
  P.Tracks t v ∧ ∀ outcome, r = .ok (some outcome) → i = t ∧ P.Completed t outcome v

include hdown hc hf hup

/-- A frame the client does not wait for. -/
theorem Tracks.answered_other (h : P.Tracks t v) (hna : ¬ v.client.Awaits f) :
    AfterAnswer P t i r (v.answered c' rest l) := by
  rw [← hc] at hna
  rcases (SdoClient.handleFrame_eq_ok_iff.mp hf).of_not_awaits hna with
    ⟨rfl, rfl⟩ | ⟨hst, -, code, rfl⟩
  · refine ⟨?_, fun outcome he => (by cases he)⟩
    have heq : v.answered c' rest l = { v with up := v.up, down := rest } := by
      rw [View.answered, hc, ← hup]
    rw [heq]
    exact h.lost (List.Sublist.refl _) (hdown ▸ List.sublist_cons_self _ _)
  · exact ⟨.idle hst, fun outcome he => (by cases he)⟩

/-- The answer the client waits for. -/
theorem Tracks.answered_live {S : Session N tgt od nodeId} {p : ℕ} (hS : P.session S)
    (ht : v.current = t) (hctx : v.client = S.ctx p) (hupnil : v.up = [])
    (hresp : f = S.resp p) (hi : i = t) (hrest : live rest = [])
    (hcalls : callsOf t v.calls = S.calls (p + 1)) (hserver : S.ServerAt t (p + 1) v) :
    AfterAnswer P t i r (v.answered c' rest l) := by
  have hlnil : l = [] := by
    rw [hupnil] at hup
    exact (List.append_eq_nil_iff.mp hup.symm).1
  subst hresp hlnil
  rcases S.client_step (hc.trans hctx) hf with ⟨rfl, rfl, htotal⟩ | ⟨rfl, hst, htx⟩ |
    ⟨⟨code, rfl⟩, hst⟩
  · -- it was the last one
    refine ⟨.idle rfl, fun outcome he => ⟨hi, rfl, rfl, S, hS, ?_, hcalls.trans htotal⟩⟩
    exact (Option.some.inj (Except.ok.inj he)).symm
  · refine ⟨.outstanding hS ⟨Nat.succ_pos p, hst, ?_, hrest, hserver⟩, fun outcome he => (by cases he)⟩
    rw [View.answered, htx, ht]
    exact List.Sublist.refl _
  · exact ⟨.idle hst, fun outcome he => (by cases he)⟩

theorem Tracks.answered_frame (h : P.Tracks t v) (ht : v.current = t) :
    AfterAnswer P t i r (v.answered c' rest l) := by
  cases h with
  | idle h =>
    exact (Tracks.idle h).answered_other hdown hc hf hup (by rw [h]; exact id)
  | requested h =>
    refine (Tracks.requested h).answered_other hdown hc hf hup ?_
    rw [h.client]
    exact h.down (f, i) (hdown ▸ List.mem_cons_self)
  | stuck h =>
    exact (Tracks.stuck h).answered_other hdown hc hf hup
      (h.down (f, i) (hdown ▸ List.mem_cons_self))
  | outstanding hS h =>
    refine (Tracks.outstanding hS h).answered_other hdown hc hf hup ?_
    exact ClientState.not_awaits_abort (cs_of_live_eq_nil h.down (hdown ▸ List.mem_cons_self))
  | answered hS h =>
    obtain ⟨D, C, hDC, hp, hD, hC, hcalls⟩ := h.down
    rcases D with - | ⟨y, D⟩
    · by_cases hcs : f.cs = csAbort
      · -- an abort is nothing a phase waits for
        exact (Tracks.answered hS h).answered_other hdown hc hf hup
          (ClientState.not_awaits_abort hcs)
      · -- the head is live, so it is the answer, and no other answer is behind it
        have hlive : live C = (f, i) :: live rest := by
          rw [List.nil_append] at hDC
          rw [← hDC, hdown, live, List.filter_cons_of_pos (by simpa using hcs)]
          rfl
        obtain ⟨hresp, hi, hrest⟩ : f = _ ∧ i = t ∧ live rest = [] := by
          simpa [hlive, List.sublist_singleton, and_assoc] using hC
        exact answered_live hdown hc hf hup hS ht h.client h.up hresp hi hrest
          (hcalls (by rw [hlive]; simp)) h.server
    · -- a frame in front of the first answer
      rw [hdown, List.cons_append, List.cons.injEq] at hDC
      obtain ⟨rfl, -⟩ := hDC
      exact (Tracks.answered hS h).answered_other hdown hc hf hup (hD (f, i) List.mem_cons_self)

end Answered

/-! ### One step -/

variable {op : Option Opening} {v' : View N} {e : BusEvent}

/-- **Every step that opens no transfer stays in the phases**, and a step that completes
the transfer is an answer of its own. -/
theorem Tracks.step (hn : nodeId ≤ 127) (hstep : BusStep tgt od nodeId op v e v')
    (hnew : e ≠ .began) (hreq : ∀ x ∈ v.up, IsRequest nodeId x.1) (h : P.Tracks v.current v) :
    P.Tracks v.current v' ∧ ∀ f i outcome, e = .answered f i (.ok (some outcome)) →
      i = v.current ∧ P.Completed v.current outcome v' := by
  cases hstep with
  | began => exact absurd rfl hnew
  | lost hup hdown => exact ⟨h.lost hup hdown, fun f i outcome he => (by cases he)⟩
  | quit hc hl hg => exact ⟨.idle rfl, fun f i outcome he => (by cases he)⟩
  | timedOut ho hl =>
    have hs : v.server ≠ .idle := by
      intro hidle
      rw [hidle] at ho
      cases ho
    exact ⟨h.timedOut hs hl (SdoFrame.cs_abort _ _ _ _) _, fun f i outcome he => (by cases he)⟩
  | served hup hs hcfg hf hl =>
    have hmem : (_, _) ∈ v.up := hup ▸ List.mem_cons_self
    have ha := (hreq _ hmem).addressed hn hcfg
    exact ⟨h.served hup hs hcfg hf hl ha, fun f i outcome he => (by cases he)⟩
  | answered hdown hc hf hup =>
    obtain ⟨htracks, hdone⟩ := h.answered_frame hdown hc hf hup rfl
    refine ⟨htracks, ?_⟩
    intro f i outcome he
    cases he
    exact hdone outcome rfl

/-- A transfer that has completed stays as it is: the client is idle, and no request is
left for which the server could make a call. -/
theorem Completed.step {outcome : SdoOutcome} (hstep : BusStep tgt od nodeId op v e v')
    (hnew : e ≠ .began) (h : P.Completed t outcome v) : P.Completed t outcome v' := by
  obtain ⟨hidle, hnil, hS⟩ := h
  cases hstep with
  | began => exact absurd rfl hnew
  | lost hup hdown => exact ⟨hidle, List.eq_nil_of_sublist_nil (hnil ▸ hup), hS⟩
  | quit hc => exact absurd hidle hc
  | timedOut ho hl => exact ⟨hidle, hnil, hS⟩
  | served hup =>
    rw [hnil] at hup
    cases hup
  | answered hdown hc hf hup =>
    rw [hidle] at hc
    obtain ⟨-, rfl⟩ := (SdoClient.handleFrame_eq_ok_iff.mp hf).of_idle hc
    exact ⟨hc, hup.symm.trans hnil, hS⟩

/-! ### The opening -/

/-- When a transfer is opened, nothing that is on its way can be taken for one of its
own frames, except that it may be for the same object and of an earlier transfer; and
the server may be anywhere. -/
theorem Tracks.opened {l : List (SdoFrame × ℕ)}
    (hup : ∀ x ∈ l, x.2 ≠ t ∧ ¬ (x.1.cs = P.init.cs ∧ x.1.Names P.idx P.sub))
    (hdown : ∀ x ∈ v.down, ¬ P.client.Awaits x.1) (hcalls : ∀ x ∈ v.calls, x.2 ≠ t) :
    P.Tracks t { v with client := P.client, up := l ++ [(P.init, t)], current := t } := by
  refine .requested ⟨rfl, ⟨l, [(P.init, t)], rfl, hup, List.Sublist.refl _⟩, hdown, ?_⟩
  have hnil : v.calls.filter (fun x => x.2 = t) = [] :=
    List.filter_eq_nil_iff.mpr fun x hx => by simpa using hcalls x hx
  rw [callsOf, hnil]
  rfl

end Protocol

end Phases

/-! ### What a completed transfer has done -/

/-- The calls agree with the outcome the client reports for the transfer `a` opened: a
download has written its payload, once and with success, and nothing else; an upload has
read its object once, and returns what the dictionary delivered. -/
def Agrees : BusAction σ → SdoOutcome → List OdCall → Prop
  | .beginUpload idx sub _, .uploadCompleted v, calls =>
    ∃ len buf, len ≤ buf.length ∧ calls = [.read idx sub (.ok len) buf] ∧ v = buf.take len
  | .beginDownload idx sub d _, .downloadCompleted, calls => calls = [.write idx sub d (.ok ())]
  | _, _, _ => False

section Opening

variable {tgt : Target} {od : ObjectDictionary σ} {nodeId : UInt8} {b b' : Bus N σ}
  {a : BusAction σ}

/-- A call that opens a transfer: the client was idle, and the transfer has a protocol
whose sessions agree with it. -/
theorem exists_protocol (h : busStep tgt od nodeId b a = some (.began, b')) :
    nodeId ≤ 127 ∧ b.client.state = .idle ∧ ∃ P : Protocol N tgt od nodeId,
      a.opening nodeId = some P.toOpening ∧ ∀ S, P.session S → Agrees a S.outcome S.total := by
  cases a with
  | beginUpload idx sub now =>
    obtain ⟨err, he⟩ | ⟨hv, hst, -⟩ := b.client.beginUpload_cases nodeId idx sub now
    · simp [busStep, he] at h
    · refine ⟨hv.2, hst, uploadProtocol hv.2 idx sub, rfl, ?_⟩
      rintro S ⟨buf, len, hlen, rfl⟩
      exact ⟨len, buf.data, hlen.trans_eq buf.size.symm, rfl, rfl⟩
  | beginDownload idx sub d now =>
    obtain ⟨err, he⟩ | ⟨hv, hst, hd, -⟩ := b.client.beginDownload_cases nodeId idx sub d now
    · simp [busStep, he] at h
    · refine ⟨hv.2, hst, downloadProtocol hv.2 idx sub hd, rfl, ?_⟩
      rintro S rfl
      rfl
  -- the other steps report no opening
  | deliverToServer now | deliverToClient now | foreignToServer f now | foreignToClient f now =>
    simp only [busStep] at h
    split at h
    · cases h
    · split at h <;> simp at h
  | serverTimeout now =>
    simp only [busStep] at h
    split at h <;> simp at h
  | _ => simp [busStep] at h

end Opening

/-! ### A bus with a single transfer -/

/-- Every request on its way, and every call, is of the current transfer. -/
structure View.Sole (v : View N) : Prop where
  up : ∀ x ∈ v.up, x.2 = v.current
  calls : ∀ x ∈ v.calls, x.2 = v.current

section Sole

variable {tgt : Target} {od : ObjectDictionary σ} {nodeId : UInt8} {op : Option Opening}
  {v v' : View N} {e : BusEvent}

theorem mem_append_pendingFrame {l : List (SdoFrame × ℕ)} {tx : Option SdoFrame} {i : ℕ}
    (hl : ∀ x ∈ l, x.2 = i) : ∀ x ∈ l ++ pendingFrame tx i, x.2 = i := by
  intro x hx
  rcases List.mem_append.mp hx with hx | hx
  · exact hl x hx
  · cases tx with
    | none => cases hx
    | some g =>
      obtain rfl := List.mem_singleton.mp hx
      rfl

theorem View.Sole.step (hstep : BusStep tgt od nodeId op v e v') (hnew : e ≠ .began)
    (h : v.Sole) : v'.Sole := by
  cases hstep with
  | began => exact absurd rfl hnew
  | lost hup hdown => exact ⟨fun x hx => h.up x (hup.subset hx), h.calls⟩
  | @quit _ _ l g _ hc hl hg =>
    have hup : ∀ x ∈ l ++ pendingFrame (some g) v.current, x.2 = v.current :=
      mem_append_pendingFrame fun x hx => h.up x (hl.subset hx)
    exact ⟨hup, h.calls⟩
  | timedOut ho hl => exact ⟨h.up, h.calls⟩
  | served hup hs hcfg hf hl =>
    have hi := h.up _ (hup ▸ List.mem_cons_self)
    refine ⟨fun x hx => h.up x (hup ▸ List.mem_cons_of_mem _ hx), ?_⟩
    intro x hx
    rcases List.mem_append.mp hx with hx | hx
    · exact h.calls x hx
    · obtain ⟨y, -, rfl⟩ := List.mem_map.mp hx
      exact hi
  | answered hdown hc hf hup =>
    refine ⟨mem_append_pendingFrame fun x hx => h.up x ?_, h.calls⟩
    rw [hup]
    exact List.mem_append_left _ hx

/-- With a single transfer, its calls are all calls. -/
theorem View.Sole.callsOf_eq (h : v.Sole) : callsOf v.current v.calls = v.calls.map Prod.fst := by
  have hall : v.calls.filter (fun x => x.2 = v.current) = v.calls :=
    List.filter_eq_self.mpr fun x hx => by simpa using h.calls x hx
  rw [callsOf, hall]

end Sole

/-! ### Agreement -/

section Agreement

variable {tgt : Target} {od : ObjectDictionary σ} {nodeId : UInt8} {c : SdoClient}
  {s : SdoServer N} {dict : σ} {a : BusAction σ} {b₁ b₂ : Bus N σ} {h : List (BusAction σ × BusEvent)}

/-- An idle client with nothing pending, and any server of the node. -/
theorem Bus.wellFormed_start (hs : s.cfg.nodeId = nodeId) (hc : c.state = .idle)
    (htx : c.pendingTx = none) : (Bus.start c s dict).WellFormed nodeId where
  server := hs
  client := by
    intro x hx
    rw [Bus.start, SdoClient.transfer_of_idle hc] at hx
    cases hx
  up := by
    intro x hx
    rw [Bus.view, Bus.start, htx] at hx
    cases hx
  session := le_rfl
  calls := fun x hx => (by cases hx)

/-- A call that opens a transfer overwrites the client's pending frame. -/
theorem busStep_began_drained {b b' : Bus N σ} (ha : busStep tgt od nodeId b a = some (.began, b')) :
    busStep tgt od nodeId { b with client := b.client.drained } a = some (.began, b') := by
  obtain ⟨hn, hst, P, hP, -⟩ := exists_protocol ha
  cases a with
  | beginUpload idx sub now =>
    rcases b.client.beginUpload_cases nodeId idx sub now with ⟨err, he⟩ | ⟨hv, -, he⟩
    · simp [busStep, he] at ha
    · rw [← ha]
      simp only [busStep, he, SdoClient.beginUpload_of_idle hv (c := b.client.drained) hst]
      rfl
  | beginDownload idx sub d now =>
    rcases b.client.beginDownload_cases nodeId idx sub d now with ⟨err, he⟩ | ⟨hv, -, hd, he⟩
    · simp [busStep, he] at ha
    · rw [← ha]
      simp only [busStep, he, SdoClient.beginDownload_of_idle hv (c := b.client.drained) hst hd]
      rfl
  | _ => cases hP

/-- What holds of the bus from the opening of its first transfer on. -/
structure Bus.FirstTransfer (P : Protocol N tgt od nodeId) (h : List (BusAction σ × BusEvent))
    (b : Bus N σ) : Prop where
  wf : b.WellFormed nodeId
  tracks : P.Tracks b.current b.view
  sole : b.view.Sole
  completed : ∀ act f i outcome, (act, .answered f i (.ok (some outcome))) ∈ h →
    P.Completed b.current outcome b.view

theorem busStep_current {b b' : Bus N σ} {e : BusEvent} {op : Option Opening}
    (hstep : BusStep tgt od nodeId op b.view e b'.view) (hnew : e ≠ .began) :
    b'.current = b.current := by
  have hcur : b'.view.current = b.view.current := by
    generalize b'.view = v' at hstep
    cases hstep with
    | began => exact absurd rfl hnew
    | _ => rfl
  exact hcur

theorem Bus.FirstTransfer.step {P : Protocol N tgt od nodeId} {b b' : Bus N σ} {e : BusEvent}
    (hn : nodeId ≤ 127) (hb : b.FirstTransfer P h)
    (hs : busStep tgt od nodeId b a = some (e, b')) (hnew : e ≠ .began) :
    b'.FirstTransfer P (h ++ [(a, e)]) := by
  obtain ⟨hstep, hwf⟩ := busStep_of_step hb.wf hs
  have hcur := busStep_current hstep hnew
  obtain ⟨htracks, hdone⟩ := hb.tracks.step hn hstep hnew fun x hx => (hb.wf.up x hx).1
  refine ⟨hwf, hcur ▸ htracks, hb.sole.step hstep hnew, ?_⟩
  intro act f i outcome hmem
  rw [hcur]
  rcases List.mem_append.mp hmem with hmem | hmem
  · exact (hb.completed act f i outcome hmem).step hstep hnew
  · obtain ⟨-, rfl⟩ := Prod.mk.inj (List.mem_singleton.mp hmem)
    exact (hdone f i outcome rfl).2

/-- **A completed transfer was performed, exactly once.**  An idle client opens a transfer
to a server in any state, over empty channels; the bus then takes any steps that open no
other transfer.  If one of them has reported an outcome, the dictionary has been called for
it and for nothing else. -/
theorem bus_agreement (hs : s.cfg.nodeId = nodeId) (htx : s.pendingTx = none)
    (ha : (busMachine tgt od nodeId).step (Bus.start c s dict) a = some (.began, b₁))
    (hr : (busMachine tgt od nodeId).Run b₁ h b₂) (hnew : ∀ x ∈ h, x.2 ≠ .began)
    {act : BusAction σ} {e : BusEvent} {outcome : SdoOutcome} (hend : (act, e) ∈ h)
    (hout : e.outcome = some outcome) :
    Agrees a outcome (b₂.calls.map Prod.fst) := by
  obtain ⟨hn, hst, P, hP, hagrees⟩ := exists_protocol ha
  have hst : c.state = .idle := hst
  -- the client may have an old frame pending, but opening the transfer overwrites it
  have hwf₀ : (Bus.start c.drained s dict).WellFormed nodeId := Bus.wellFormed_start hs hst rfl
  have hbegan := busStep_began_drained ha
  obtain ⟨hstep, hwf⟩ := busStep_of_step hwf₀ hbegan
  rw [hP] at hstep
  have hfirst : b₁.FirstTransfer P [] := by
    have hup : (Bus.start c.drained s dict).view.up = [] := rfl
    have hdown : (Bus.start c.drained s dict).view.down = [] := by
      rw [Bus.view, Bus.start, htx]
      rfl
    generalize hv : b₁.view = v at hstep
    cases hstep with
    | @began _ _ l hc hl =>
      obtain rfl := List.eq_nil_of_sublist_nil (hup ▸ hl)
      refine ⟨hwf, ?_, ?_, fun act f i outcome hmem => (by cases hmem)⟩
      · rw [hv, ← show b₁.view.current = b₁.current from rfl, hv]
        refine Protocol.Tracks.opened (fun x hx => (by cases hx)) ?_
          fun x hx => (by cases hx)
        intro x hx
        rw [hdown] at hx
        cases hx
      · rw [hv]
        refine ⟨?_, fun x hx => (by cases hx)⟩
        intro x hx
        obtain rfl := List.mem_singleton.mp hx
        rfl
  -- by induction on the run: every step stays in the phases of this one transfer
  have hlast : b₂.FirstTransfer P h :=
    hr.invariant_of (P := fun h b => b.FirstTransfer P h) hnew hfirst
      fun h b a e b' hne hb hs => hb.step hn hs hne
  -- a timeout brings no outcome, and no frame of another node
  obtain ⟨f, i, rfl⟩ := answered_of_mem hwf hr _ hend outcome hout
  obtain ⟨-, -, S, hS, hout, hcalls⟩ := hlast.completed act f i outcome hend
  have hall : b₂.calls.map Prod.fst = S.total := hlast.sole.callsOf_eq.symm.trans hcalls
  rw [hall, hout]
  exact hagrees S hS

end Agreement

/-! ### A run -/

/-- A server of the node `0x10` in the middle of a read its client has given up. -/
def busyServer : SdoServer 16 :=
  { cfg := .new 0x10, state := .uploading 0x1018 1 (Bytes.zero 16) 16 7 true, pendingTx := none,
    deadline := some 500 }

/-- `k` requests and their answers, with nothing lost. -/
def busRounds : ℕ → List (BusAction σ)
  | 0 => []
  | k + 1 => [.clientTransmit, .deliverToServer 0, .serverTransmit, .deliverToClient 0]
      ++ busRounds k

/-- The bus after `begin_upload` has been called on a new client. -/
def readStart : Bus 16 (List (UInt16 × UInt8 × List UInt8)) :=
  { Bus.start (.new .default) busyServer counting with
    client := (SdoClient.new .default).uploadStarted 0x10 0x2000 0 0
    current := 1 }

/-- The run that reads an object of 8 bytes in two segments. -/
def readRun : List (BusAction (List (UInt16 × UInt8 × List UInt8)) × BusEvent)
    × Bus 16 (List (UInt16 × UInt8 × List UInt8)) :=
  ((busMachine .bits64 loopOd 0x10).exec readStart (busRounds 3)).get rfl

theorem run_readRun : (busMachine .bits64 loopOd 0x10).Run readStart readRun.1 readRun.2 :=
  Machine.run_exec_get _

theorem getLast_readRun : readRun.1.getLast? = some (.deliverToClient 0,
    .answered (uploadSegment 0x10 [1, 2, 3, 4, 5, 6, 7, 8] 1) 1
      (.ok (some (.uploadCompleted [1, 2, 3, 4, 5, 6, 7, 8])))) := rfl

theorem bus_agreement_readRun :
    Agrees (σ := List (UInt16 × UInt8 × List UInt8)) (.beginUpload 0x2000 0 0)
      (.uploadCompleted [1, 2, 3, 4, 5, 6, 7, 8]) (readRun.2.calls.map Prod.fst) := by
  have hs : busyServer.cfg.nodeId = 0x10 := rfl
  have hopen : (busMachine .bits64 loopOd 0x10).step (.start (.new .default) busyServer counting)
      (.beginUpload 0x2000 0 0) = some (.began, readStart) := rfl
  have hnew : ∀ x ∈ readRun.1, x.2 ≠ .began := by decide +kernel
  exact bus_agreement hs rfl hopen run_readRun hnew (List.mem_of_getLast? getLast_readRun) rfl

end CanopenSdo
