import CanopenSdo.Agreement

/-!
# Answers to earlier transfers

A frame carries an object at most, and no transfer.  An answer that has been under way
for so long that its transfer was given up, and another one opened for the same object,
ends the wrong transfer: `stale_ack_ends_download` is a write that is reported as done
before the server has seen it.

It takes a frame of an earlier transfer that is still under way when the new one is
opened: an answer the new client waits for, or an abort of its object, or a request the
server would answer so, or a server that is still busy with the object.  On a bus that
is clear of these (`View.ClearFor`) only frames of the new transfer end it.

## Main definitions

* `SdoFrame.Provokes` — the request may be answered with an abort of the object.
* `SdoServer.RefusesUnder` — the object the server refuses a request under.
* `View.ClearFor`, `View.Owned` — before a transfer is opened, and while it is in flight.

## Main results

* `ServerStep.refused` — what the server aborts when it refuses a request.
* `ServerStep.abort_names` — which request makes the server abort an object.
* `View.Owned.step` — every abort of the object is of the transfer in flight.
* `ended_by_own_answer` — **on a clear bus no answer to an old transfer ends a new one.**
-/

namespace CanopenSdo

open Wire
open scoped List

variable {N : ℕ} {σ : Type}

/-! ### Which aborts the server sends -/

/-- The server may answer the request with an abort of this object, even when it is not
busy with it: the request opens a transfer of the object, or is a segment that no
transfer expects, which is answered with an abort of the object 0. -/
def SdoFrame.Provokes (f : SdoFrame) (idx : UInt16) (sub : UInt8) : Prop :=
  (f.IsInit ∧ f.Names idx sub) ∨
    ((f.cs = ccsUploadSegment ∨ f.cs = ccsDownloadSegment) ∧ idx = 0 ∧ sub = 0)

instance (f : SdoFrame) (idx : UInt16) (sub : UInt8) : Decidable (f.Provokes idx sub) :=
  inferInstanceAs (Decidable (_ ∨ _))

section Server

variable {od : ObjectDictionary σ} {s s' : SdoServer N} {f g : SdoFrame} {now : UInt64} {o o' : σ}
  {r : SdoResult Unit} {nodeId : UInt8} {idx : UInt16} {sub : UInt8}

theorem SdoFrame.not_isInit_of_cs {cs : UInt8} (hf : f.cs = cs) (hup : cs ≠ ccsInitUpload)
    (hdown : cs ≠ ccsInitDownload) : ¬ f.IsInit := by
  rintro (h | h)
  · exact hup (hf.symm.trans h)
  · exact hdown (hf.symm.trans h)

theorem not_isInit_uploadSegment (hcs : f.cs = ccsUploadSegment) : ¬ f.IsInit :=
  SdoFrame.not_isInit_of_cs hcs (by decide) (by decide)

theorem not_isInit_downloadSegment (hcs : f.cs = ccsDownloadSegment) : ¬ f.IsInit :=
  SdoFrame.not_isInit_of_cs hcs (by decide) (by decide)

/-- The object of the server's abort. -/
theorem SdoServer.names_aborted {i : UInt16} {j : UInt8} {code : SdoAbortCode}
    (hg : (s.aborted i j code).pendingTx = some g) (hm : g.Names idx sub) : i = idx ∧ j = sub := by
  obtain rfl := Option.some.inj hg
  have hij := SdoFrame.names_abort (SdoFrame.tsdoId s.cfg.nodeId) i j code
  exact ⟨hij.1.symm.trans hm.1, hij.2.symm.trans hm.2⟩

/-- The segment belongs to the transfer the server is in the middle of: it goes in the same
direction. -/
def ServerState.Expects : ServerState N → SdoFrame → Prop
  | .idle, _ => False
  | .uploading .., f => f.cs = ccsUploadSegment
  | .downloading .., f => f.cs = ccsDownloadSegment

theorem ServerState.Expects.not_isInit {st : ServerState N} (h : st.Expects f) : ¬ f.IsInit := by
  cases st with
  | idle => exact h.elim
  | uploading => exact not_isInit_uploadSegment h
  | downloading => exact not_isInit_downloadSegment h

theorem ServerState.not_expects_uploadSegment {st : ServerState N} (hf : f.cs = ccsUploadSegment)
    (hst : ∀ idx sub buf len sent toggle, st ≠ .uploading idx sub buf len sent toggle) :
    ¬ st.Expects f := by
  cases st with
  | idle => exact id
  | uploading => exact absurd rfl (hst _ _ _ _ _ _)
  | downloading => exact fun hexp => absurd (hf.symm.trans hexp) (by decide)

theorem ServerState.not_expects_downloadSegment {st : ServerState N}
    (hf : f.cs = ccsDownloadSegment)
    (hst : ∀ idx sub buf len expected toggle, st ≠ .downloading idx sub buf len expected toggle) :
    ¬ st.Expects f := by
  cases st with
  | idle => exact id
  | uploading => exact fun hexp => absurd (hf.symm.trans hexp) (by decide)
  | downloading => exact absurd rfl (hst _ _ _ _ _ _)

/-- The object the server refuses a request under: that of an init request, that of the
transfer a segment belongs to, and 0/0 for a segment that belongs to none. -/
inductive SdoServer.RefusesUnder (s : SdoServer N) (f : SdoFrame) : UInt16 → UInt8 → Prop
  | init (hf : f.IsInit) : RefusesUnder s f (indexOf f.data) (subindexOf f.data)
  | segment {idx : UInt16} {sub : UInt8} (hf : s.state.Expects f)
      (ho : s.state.object = some (idx, sub)) : RefusesUnder s f idx sub
  | unexpected (hf : f.cs = ccsUploadSegment ∨ f.cs = ccsDownloadSegment)
      (hst : ¬ s.state.Expects f) : RefusesUnder s f 0 0

/-- **What the server aborts when it refuses a request.** -/
theorem ServerStep.refused {e : SdoError} (h : ServerStep od s f now o (.error e) s' o')
    (hreq : IsRequest nodeId f) :
    ∃ idx sub code, s' = s.aborted idx sub code ∧ s.RefusesUnder f idx sub := by
  cases h with
  | initUploadRefused _ hf => exact ⟨_, _, _, rfl, .init (.inl hf)⟩
  | initUploadTooLarge _ hf => exact ⟨_, _, _, rfl, .init (.inl hf)⟩
  | initDownloadRefused _ hf => exact ⟨_, _, _, rfl, .init (.inr hf)⟩
  | initDownloadTooLarge _ hf => exact ⟨_, _, _, rfl, .init (.inr hf)⟩
  | uploadSegmentUnexpected _ hf hst =>
    exact ⟨_, _, _, rfl, .unexpected (.inl hf) (ServerState.not_expects_uploadSegment hf hst)⟩
  | downloadSegmentUnexpected _ hf hst =>
    exact ⟨_, _, _, rfl, .unexpected (.inr hf) (ServerState.not_expects_downloadSegment hf hst)⟩
  | uploadSegmentToggle _ hf hst | downloadSegmentToggle _ hf hst
  | downloadSegmentOverflow _ hf hst | downloadSegmentMismatch _ hf hst
  | downloadSegmentRefused _ hf hst =>
    exact ⟨_, _, _, rfl, .segment (by rw [hst]; exact hf) (by rw [hst]; rfl)⟩
  | unknownCommand _ hf =>
    -- a client of the node sends none of these
    rcases hreq.2 with h | (h | h) | h | h
    · exact absurd h hf.1
    · exact absurd h hf.2.1
    · exact absurd h hf.2.2.2.1
    · exact absurd h hf.2.2.1
    · exact absurd h hf.2.2.2.2

/-- A call that leaves an abort pending has refused the frame. -/
theorem ServerStep.error_of_abort (h : ServerStep od s f now o r s' o') (ha : s.Addressed f)
    (hg : s'.pendingTx = some g) (hcs : g.cs = csAbort) : ∃ e, r = .error e := by
  rcases h.answer ha with ⟨-, rfl⟩ | ⟨idx, sub, code, hr, -⟩ | ⟨-, data, htx, hans⟩
  · cases hg
  · exact ⟨_, hr⟩
  · obtain rfl := Option.some.inj (htx.symm.trans hg)
    exact absurd hcs hans.ne_abort

/-- **A server that sends an abort of an object was provoked to, or was busy with it.** -/
theorem ServerStep.abort_names (h : ServerStep od s f now o r s' o') (ha : s.Addressed f)
    (hreq : IsRequest nodeId f) (hg : s'.pendingTx = some g) (hcs : g.cs = csAbort)
    (hm : g.Names idx sub) :
    f.Provokes idx sub ∨ (¬ f.IsInit ∧ s.state.object = some (idx, sub)) := by
  obtain ⟨e, rfl⟩ := h.error_of_abort ha hg hcs
  obtain ⟨i, j, code, rfl, hunder⟩ := h.refused hreq
  obtain ⟨rfl, rfl⟩ := SdoServer.names_aborted hg hm
  cases hunder with
  | init hf => exact .inl (.inl ⟨hf, rfl, rfl⟩)
  | segment hf ho => exact .inr ⟨hf.not_isInit, ho⟩
  | unexpected hf => exact .inl (.inr ⟨hf, rfl, rfl⟩)

/-- **A server busy with an object was asked for it by this frame, or was before.** -/
theorem ServerStep.object_names (h : ServerStep od s f now o r s' o') (ha : s.Addressed f)
    (ho : s'.state.object = some (idx, sub)) :
    (f.IsInit ∧ f.Names idx sub) ∨ (¬ f.IsInit ∧ s.state.object = some (idx, sub)) := by
  cases h with
  | ignored hna => exact absurd ha hna
  | initUploadSegmented _ hf =>
    obtain ⟨rfl, rfl⟩ := Prod.mk.inj (Option.some.inj ho)
    exact .inl ⟨.inl hf, rfl, rfl⟩
  | initDownloadSegmented _ hf =>
    obtain ⟨rfl, rfl⟩ := Prod.mk.inj (Option.some.inj ho)
    exact .inl ⟨.inr hf, rfl, rfl⟩
  | uploadSegmentMore _ hf hst =>
    obtain ⟨rfl, rfl⟩ := Prod.mk.inj (Option.some.inj ho)
    exact .inr ⟨not_isInit_uploadSegment hf, by rw [hst]; rfl⟩
  | downloadSegmentMore _ hf hst =>
    obtain ⟨rfl, rfl⟩ := Prod.mk.inj (Option.some.inj ho)
    exact .inr ⟨not_isInit_downloadSegment hf, by rw [hst]; rfl⟩
  | _ => cases ho

end Server

section Client

variable {tgt : Target} {c c' : SdoClient} {f : SdoFrame} {now : UInt64}
  {r : SdoResult (Option SdoOutcome)}

/-- The client goes on with its object, or is idle. -/
theorem ClientStep.object (h : ClientStep tgt c f now r c') :
    c'.state.object = none ∨ c'.state.object = c.state.object := by
  cases h with
  | ignored => exact .inr rfl
  | uploadInit hst => exact .inr (by rw [hst]; rfl)
  | uploadMore hst => exact .inr (by rw [hst]; rfl)
  | downloadInit hst => exact .inr (by rw [hst]; rfl)
  | downloadMore hst => exact .inr (by rw [hst]; rfl)
  | _ => exact .inl rfl

/-- The server's abort that ends a transfer names its object. -/
theorem ClientStep.names_of_serverAborted (h : ClientStep tgt c f now r c') {code : SdoAbortCode}
    (hr : r = .error (.serverAborted code)) :
    f.cs = csAbort ∧ ∃ idx sub, c.state.object = some (idx, sub) ∧ f.Names idx sub := by
  cases h with
  | serverAbort ht hn hcs hm =>
    refine ⟨hcs, _, _, ?_, hm⟩
    unfold SdoClient.transfer at ht
    cases hst : c.state with
    | idle => simp [hst] at ht
    | uploading u | downloading d =>
      simp only [hst, Option.some.injEq, Prod.mk.injEq] at ht
      rw [← ht.2.1, ← ht.2.2]
      rfl
  | _ => cases hr

end Client

/-! ### The frames of the transfer in flight -/

/-- Nothing on the bus can be taken for a part of the transfer that is about to be
opened. -/
structure View.ClearFor (T : Opening) (v : View N) : Prop where
  /-- No frame the new client would take for its answer is on its way. -/
  down : ∀ x ∈ v.down, ¬ T.client.Awaits x.1 ∧ ¬ (x.1.cs = csAbort ∧ x.1.Names T.idx T.sub)
  /-- No request is that makes the server send one. -/
  up : ∀ x ∈ v.up, ¬ x.1.Provokes T.idx T.sub
  server : v.server.object ≠ some (T.idx, T.sub)

/-- The aborts of the object, and the server while it is busy with it, are of the
transfer `t`; and in front of its requests there are only harmless ones. -/
structure View.Owned (T : Opening) (t : ℕ) (v : View N) : Prop where
  client : ∀ x, v.client.object = some x → x = (T.idx, T.sub)
  down : ∀ x ∈ v.down, x.1.cs = csAbort → x.1.Names T.idx T.sub → x.2 = t
  server : v.server.object = some (T.idx, T.sub) → v.session = t
  up : ∃ A B, v.up = A ++ B ∧ (∀ x ∈ A, x.2 ≠ t ∧ ¬ x.1.Provokes T.idx T.sub) ∧
    (∀ x ∈ B, x.2 = t) ∧ (v.session = t → A = [])

namespace View

variable {tgt : Target} {od : ObjectDictionary σ} {nodeId : UInt8} {op : Option Opening}
  {T : Opening} {v v' : View N} {e : BusEvent}

/-- The requests that are left, and one more of the transfer in flight. -/
theorem Owned.up_append {t : ℕ} (h : v.Owned T t) {l : List (SdoFrame × ℕ)} (hl : l <+ v.up)
    (tx : Option SdoFrame) :
    ∃ A B, l ++ pendingFrame tx t = A ++ B ∧ (∀ x ∈ A, x.2 ≠ t ∧ ¬ x.1.Provokes T.idx T.sub) ∧
      (∀ x ∈ B, x.2 = t) ∧ (v.session = t → A = []) := by
  obtain ⟨A, B, hAB, hA, hB, hses⟩ := h.up
  rw [hAB] at hl
  obtain ⟨A', B', rfl, hA', hB'⟩ := List.sublist_append_iff.mp hl
  refine ⟨A', B' ++ pendingFrame tx t, List.append_assoc .., fun x hx => hA x (hA'.subset hx),
    mem_append_pendingFrame fun x hx => hB x (hB'.subset hx), ?_⟩
  intro ht
  exact List.eq_nil_of_sublist_nil (hses ht ▸ hA')

/-- The server handles a request.  A request of an earlier transfer is in front of those
of the one in flight, so the server is not busy with the object yet, and the request
does not make it so. -/
theorem Owned.served {t i : ℕ} (h : v.Owned T t) {rest l : List (SdoFrame × ℕ)} {f : SdoFrame}
    {s s' : SdoServer N} {o o' : σ} {r : SdoResult Unit} {log : List OdCall} {now : UInt64}
    (hup : v.up = (f, i) :: rest) (hs : s.state = v.server)
    (hf : s.handleFrame f now od.recording (o, []) = .ok ((r, s'), (o', log))) (hl : l <+ v.down)
    (ha : s.Addressed f) (hreq : IsRequest nodeId f) :
    (v.served s' rest l i (if f.IsInit then i else v.session) log).Owned T t := by
  have hstep : ServerStep od.recording s f now (o, []) r s' (o', log) :=
    handleFrame_eq_ok_iff.mp hf
  obtain ⟨A, B, hAB, hA, hB, hses⟩ := h.up
  -- a frame that is harmless leaves the server as it is towards the object
  have hharm : f.Provokes T.idx T.sub → i = t := by
    intro hp
    rcases A with - | ⟨y, A⟩
    · exact hB (f, i) (by rw [← List.nil_append B, ← hAB, hup]; exact List.mem_cons_self)
    · rw [hup, List.cons_append, List.cons.injEq] at hAB
      obtain ⟨rfl, -⟩ := hAB
      exact absurd hp (hA (f, i) List.mem_cons_self).2
  have hbusy : v.server.object = some (T.idx, T.sub) → i = t := by
    intro ho
    have hnil := hses (h.server ho)
    exact hB (f, i) (by rw [← List.nil_append B, ← hnil, ← hAB, hup]; exact List.mem_cons_self)
  refine ⟨h.client, ?_, ?_, ?_⟩
  · intro x hx hcs hm
    rcases List.mem_append.mp hx with hx | hx
    · exact h.down x (hl.subset hx) hcs hm
    · cases hg : s'.pendingTx with
      | none => simp [hg] at hx
      | some g =>
        simp only [hg, pendingFrame_some, List.mem_singleton] at hx
        subst hx
        rcases hstep.abort_names ha hreq hg hcs hm with hp | ⟨-, ho⟩
        · exact hharm hp
        · exact hbusy (hs ▸ ho)
  · intro ho
    show (if f.IsInit then i else v.session) = t
    rcases hstep.object_names ha ho with ⟨hi, hm⟩ | ⟨hi, ho⟩
    · rw [if_pos hi]
      exact hharm (.inl ⟨hi, hm⟩)
    · rw [if_neg hi]
      exact h.server (hs ▸ ho)
  · rcases A with - | ⟨y, A⟩
    · have hrest : rest ⊆ B := by
        rw [← List.nil_append B, ← hAB, hup]
        exact List.subset_cons_self _ _
      exact ⟨[], rest, rfl, by simp, fun x hx => hB x (hrest hx), fun _ => rfl⟩
    · rw [hup, List.cons_append, List.cons.injEq] at hAB
      obtain ⟨rfl, hrest⟩ := hAB
      refine ⟨A, B, hrest, fun x hx => hA x (List.mem_cons_of_mem _ hx), hB, ?_⟩
      intro ht
      -- the session is of another transfer, before and after
      have hne : i ≠ t := (hA (f, i) List.mem_cons_self).1
      change (if f.IsInit then i else v.session) = t at ht
      split at ht
      · exact absurd ht hne
      · cases hses ht

/-- **Every abort of the object is of the transfer in flight.** -/
theorem Owned.step (hn : nodeId ≤ 127) (hstep : BusStep tgt od nodeId op v e v')
    (hnew : e ≠ .began) (hreq : ∀ x ∈ v.up, IsRequest nodeId x.1) (h : v.Owned T v.current) :
    v'.Owned T v.current := by
  cases hstep with
  | began => exact absurd rfl hnew
  | lost hup hdown =>
    refine ⟨h.client, fun x hx => h.down x (hdown.subset hx), h.server, ?_⟩
    obtain ⟨A, B, hAB, hrest⟩ := h.up_append hup none
    exact ⟨A, B, (List.append_nil _).symm.trans hAB, hrest⟩
  | @quit _ _ _ g _ hc hl hg =>
    exact ⟨fun x hx => (by cases hx), h.down, h.server, h.up_append hl (some g)⟩
  | @timedOut _ _ l idx sub r ho hl =>
    refine ⟨h.client, ?_, fun ho => (by cases ho), h.up⟩
    intro x hx hcs hm
    rcases List.mem_append.mp hx with hx | hx
    · exact h.down x (hl.subset hx) hcs hm
    · -- the server aborts the object it was in the middle of
      obtain rfl := List.mem_singleton.mp hx
      have hij := SdoFrame.names_abort (SdoFrame.tsdoId nodeId) idx sub .protocolTimeout
      have hidx := hij.1.symm.trans hm.1
      have hsub := hij.2.symm.trans hm.2
      exact h.server (by rw [ho, hidx, hsub])
  | served hup hs hcfg hf hl =>
    have hr := hreq _ (hup ▸ List.mem_cons_self)
    exact h.served hup hs hf hl (hr.addressed hn hcfg) hr
  | @answered _ _ rest l f i c c' r now hdown hc hf hup =>
    refine ⟨?_, fun x hx => h.down x (hdown ▸ List.mem_cons_of_mem _ hx), h.server,
      h.up_append (hup ▸ List.sublist_append_left _ _) c'.pendingTx⟩
    intro x hx
    have hx : c'.state.object = some x := hx
    -- a client changes the object of its transfer only by ending it
    rcases (SdoClient.handleFrame_eq_ok_iff.mp hf).object with hnone | hsame
    · rw [hnone] at hx
      cases hx
    · exact h.client x (by rw [← hc, ← hsame, hx])

/-- On a clear bus a transfer that is opened owns the object. -/
theorem Owned.opened {l : List (SdoFrame × ℕ)} {t : ℕ} (hT : T.client.object = some (T.idx, T.sub))
    (hclear : v.ClearFor T) (hl : l <+ v.up) (hup : ∀ x ∈ v.up, x.2 < t) (hses : v.session < t) :
    View.Owned T t { v with client := T.client, up := l ++ [(T.init, t)], current := t } where
  client := fun x hx => Option.some.inj (hx.symm.trans hT)
  down := fun x hx hcs hm => absurd ⟨hcs, hm⟩ (hclear.down x hx).2
  server := fun ho => absurd ho hclear.server
  up := ⟨l, [(T.init, t)], rfl,
    fun x hx => ⟨(hup x (hl.subset hx)).ne, hclear.up x (hl.subset hx)⟩,
    fun x hx => by rw [List.mem_singleton.mp hx], fun ht => absurd ht hses.ne⟩

end View

/-! ### Whose answer ends a transfer -/

/-- The result ends the transfer with a value, an acknowledgement, or the server's abort. -/
def EndsTransfer (r : SdoResult (Option SdoOutcome)) : Prop :=
  (∃ outcome, r = .ok (some outcome)) ∨ ∃ code, r = .error (.serverAborted code)

section Ended

variable {tgt : Target} {od : ObjectDictionary σ} {nodeId : UInt8} {c : SdoClient}
  {s : SdoServer N} {dict : σ} {a : BusAction σ} {b b₁ b₂ : Bus N σ}
  {h h₁ h₂ : List (BusAction σ × BusEvent)}

/-- What holds of the bus while a transfer is in flight that was opened on a clear bus. -/
structure Bus.OwnTransfer (P : Protocol N tgt od nodeId) (h : List (BusAction σ × BusEvent))
    (b : Bus N σ) : Prop where
  wf : b.WellFormed nodeId
  tracks : P.Tracks b.current b.view
  owned : b.view.Owned P.toOpening b.current
  ended : ∀ act f i r, (act, .answered f i r) ∈ h → EndsTransfer r →
    i = b.current ∧ ∀ outcome, r = .ok (some outcome) → P.Completed b.current outcome b.view

/-- The frame that ends the transfer is one of its own. -/
theorem Bus.OwnTransfer.ended_now {P : Protocol N tgt od nodeId} {v' : View N} {op : Option Opening}
    (hn : nodeId ≤ 127) (hb : b.OwnTransfer P h) {f : SdoFrame} {i : ℕ}
    {r : SdoResult (Option SdoOutcome)}
    (hstep : BusStep tgt od nodeId op b.view (.answered f i r) v') (hr : EndsTransfer r) :
    i = b.current ∧ ∀ outcome, r = .ok (some outcome) → P.Completed b.current outcome v' := by
  have hnew : BusEvent.answered f i r ≠ .began := nofun
  obtain ⟨-, hdone⟩ := hb.tracks.step hn hstep hnew fun x hx => (hb.wf.up x hx).1
  rcases hr with ⟨outcome, rfl⟩ | ⟨code, rfl⟩
  · have hd := hdone f i outcome rfl
    refine ⟨hd.1, ?_⟩
    intro outcome' he
    cases he
    exact hd.2
  · refine ⟨?_, fun outcome he => (by cases he)⟩
    cases hstep with
    | answered hdown hc hf hup =>
      have hclient := SdoClient.handleFrame_eq_ok_iff.mp hf
      obtain ⟨hcs, idx, sub, ho, hm⟩ := hclient.names_of_serverAborted rfl
      obtain ⟨rfl, rfl⟩ := Prod.mk.inj (hb.owned.client (idx, sub) (hc ▸ ho))
      exact hb.owned.down (f, i) (hdown ▸ List.mem_cons_self) hcs hm

theorem Bus.OwnTransfer.step {P : Protocol N tgt od nodeId} {e : BusEvent} (hn : nodeId ≤ 127)
    (hb : b.OwnTransfer P h) (hs : busStep tgt od nodeId b a = some (e, b₁)) (hnew : e ≠ .began) :
    b₁.OwnTransfer P (h ++ [(a, e)]) := by
  obtain ⟨hstep, hwf⟩ := busStep_of_step hb.wf hs
  have hcur := busStep_current hstep hnew
  have hreq : ∀ x ∈ b.view.up, IsRequest nodeId x.1 := fun x hx => (hb.wf.up x hx).1
  have htracks := (hb.tracks.step hn hstep hnew hreq).1
  have howned : b₁.view.Owned P.toOpening b.current := hb.owned.step hn hstep hnew hreq
  refine ⟨hwf, hcur ▸ htracks, hcur ▸ howned, ?_⟩
  intro act f i r hmem hr
  rw [hcur]
  rcases List.mem_append.mp hmem with hmem | hmem
  · obtain ⟨hi, hdone⟩ := hb.ended act f i r hmem hr
    exact ⟨hi, fun outcome he => (hdone outcome he).step hstep hnew⟩
  · obtain ⟨-, rfl⟩ := Prod.mk.inj (List.mem_singleton.mp hmem)
    exact hb.ended_now hn hstep hr

/-- A transfer opened on a clear bus. -/
theorem Bus.OwnTransfer.opened {P : Protocol N tgt od nodeId} (hb : b.WellFormed nodeId)
    (ha : busStep tgt od nodeId b a = some (.began, b₁)) (hP : a.opening nodeId = some P.toOpening)
    (hclear : b.view.ClearFor P.toOpening) : b₁.OwnTransfer P [] := by
  obtain ⟨hstep, hwf⟩ := busStep_of_step hb ha
  rw [hP] at hstep
  have hup : ∀ x ∈ b.view.up, x.2 < b.view.current + 1 :=
    fun x hx => Nat.lt_succ_of_le (hb.up x hx).2
  have hcur : b₁.current = b₁.view.current := rfl
  generalize hv : b₁.view = v at hstep
  cases hstep with
  | @began _ _ l hc hl =>
    have htracks := Protocol.Tracks.opened (P := P) (l := l) (v := b.view)
      (fun x hx => ⟨(hup x (hl.subset hx)).ne, fun hi => hclear.up x (hl.subset hx) (.inl ⟨?_, hi.2⟩)⟩)
      (fun x hx => (hclear.down x hx).1)
      (fun x hx => (Nat.lt_succ_of_le (hb.calls x hx)).ne)
    · refine ⟨hwf, ?_, ?_, fun act f i r hmem => (by cases hmem)⟩
      · rw [hcur, hv]
        exact htracks
      · rw [hcur, hv]
        exact .opened P.object hclear hl hup (Nat.lt_succ_of_le hb.session)
    · exact P.init_isInit.imp hi.1.trans hi.1.trans

/-- **On a clear bus no answer to an old transfer ends a new one.**  A client and a server
take any steps, with any number of transfers; then, with nothing under way that could be
taken for a part of it, a transfer is opened.  Whatever frame ends it is an answer to one
of its own requests, and if it completes, the dictionary has been called for it. -/
theorem ended_by_own_answer (hs : s.cfg.nodeId = nodeId) (hc : c.state = .idle)
    (htx : c.pendingTx = none)
    (hr₁ : (busMachine tgt od nodeId).Run (Bus.start c s dict) h₁ b) {T : Opening}
    (hT : a.opening nodeId = some T) (hclear : b.view.ClearFor T)
    (ha : (busMachine tgt od nodeId).step b a = some (.began, b₁))
    (hr₂ : (busMachine tgt od nodeId).Run b₁ h₂ b₂) (hnew : ∀ x ∈ h₂, x.2 ≠ .began)
    {act : BusAction σ} {f : SdoFrame} {i : ℕ} {r : SdoResult (Option SdoOutcome)}
    (hmem : (act, .answered f i r) ∈ h₂) (hend : EndsTransfer r) :
    i = b₁.current ∧
      ∀ outcome, r = .ok (some outcome) → Agrees a outcome (callsOf b₁.current b₂.calls) := by
  obtain ⟨hn, -, P, hP, hagrees⟩ := exists_protocol ha
  obtain rfl : P.toOpening = T := Option.some.inj (hP.symm.trans hT)
  have hb : b.WellFormed nodeId := reachable_wellFormed (Bus.wellFormed_start hs hc htx) hr₁
  -- by induction on the second run, from the opening on
  have hlast : b₂.OwnTransfer P h₂ ∧ b₂.current = b₁.current :=
    hr₂.invariant_of (P := fun h b => b.OwnTransfer P h ∧ b.current = b₁.current) hnew
      ⟨.opened hb ha hP hclear, rfl⟩ fun h b a e b' hne hb hs =>
        ⟨hb.1.step hn hs hne, (busStep_current (busStep_of_step hb.1.wf hs).1 hne).trans hb.2⟩
  obtain ⟨hi, hdone⟩ := hlast.1.ended act f i r hmem hend
  rw [hlast.2] at hi hdone
  refine ⟨hi, ?_⟩
  intro outcome he
  obtain ⟨-, -, S, hS, hout, hcalls⟩ := hdone outcome he
  have hcalls : callsOf b₁.current b₂.calls = S.total := hcalls
  rw [hcalls, hout]
  exact hagrees S hS

end Ended

/-! ### Two runs -/

/-- A client and a server of the node `0x10` before their first transfer. -/
def newBus : Bus 16 (List (UInt16 × UInt8 × List UInt8)) :=
  .start (.new .default) (.new (.new 0x10)) counting

/-- A history and where it leads. -/
abbrev Recorded := List (BusAction (List (UInt16 × UInt8 × List UInt8)) × BusEvent)
  × Bus 16 (List (UInt16 × UInt8 × List UInt8))

/-- The acknowledgement of the first download stays under way; the client gives up, sends
its abort, and opens a second download of the same object. -/
def lateAck : Recorded :=
  ((busMachine .bits64 loopOd 0x10).exec newBus
    [.beginDownload 0x2000 0 [1] 0, .clientTransmit, .deliverToServer 0, .serverTransmit,
      .clientTimeout 150000000, .clientTransmit, .beginDownload 0x2000 0 [2] 150000000,
      .clientTransmit, .deliverToClient 150000000]).get rfl

/-- **The acknowledgement of the first download ends the second one**, which is reported
as completed while its request is still on its way to the server. -/
theorem stale_ack_ends_download :
    (busMachine .bits64 loopOd 0x10).Run newBus lateAck.1 lateAck.2 ∧
      lateAck.1.getLast? = some (.deliverToClient 150000000,
        .answered (initAck 0x10 0x2000 0) 1 (.ok (some .downloadCompleted))) ∧
      lateAck.2.current = 2 ∧
      lateAck.2.calls = [(.write 0x2000 0 [1] (.ok ()), 1)] ∧
      (initDownloadRequest 0x10 0x2000 0 [2], 2) ∈ lateAck.2.toServer := by
  refine ⟨Machine.run_exec_get _, rfl, rfl, rfl, ?_⟩
  decide +kernel

/-- Two transfers of other objects are given up.  The answer to the first one is still under
way, and so are its abort and both requests of the second. -/
def lateFrames : Recorded :=
  ((busMachine .bits64 loopOd 0x10).exec newBus
    [.beginDownload 0x2001 0 [1] 0, .clientTransmit, .deliverToServer 0, .serverTransmit,
      .clientTimeout 150000000, .clientTransmit, .beginUpload 0x2002 0 150000000, .clientTransmit,
      .clientTimeout 300000000, .clientTransmit]).get rfl

theorem run_lateFrames :
    (busMachine .bits64 loopOd 0x10).Run newBus lateFrames.1 lateFrames.2 :=
  Machine.run_exec_get _

/-- None of these frames can be taken for a part of a read of the object `0x2000`. -/
theorem clearFor_lateFrames : lateFrames.2.view.ClearFor (.upload 0x10 0x2000 0) := by
  have hdown : lateFrames.2.view.down = [(initAck 0x10 0x2001 0, 1)] := rfl
  have hup : lateFrames.2.view.up =
      [(⟨SdoFrame.rsdoId 0x10, Wire.abort 0x2001 0 .protocolTimeout⟩, 1),
        (initUploadRequest 0x10 0x2002 0, 2),
        (⟨SdoFrame.rsdoId 0x10, Wire.abort 0x2002 0 .protocolTimeout⟩, 2)] := rfl
  refine ⟨?_, ?_, ?_⟩
  · rw [hdown]
    intro x hx
    obtain rfl := List.mem_singleton.mp hx
    constructor
    · rintro ⟨hcs, -⟩
      exact absurd hcs (by decide)
    · rintro ⟨hcs, -⟩
      exact absurd hcs (by decide)
  · rw [hup]
    simp only [List.mem_cons, List.not_mem_nil, or_false]
    rintro x (rfl | rfl | rfl)
    · decide
    · decide
    · decide
  · decide

/-- Then the object `0x2000` is read. -/
def reopened : Bus 16 (List (UInt16 × UInt8 × List UInt8)) :=
  { lateFrames.2 with
    client := lateFrames.2.client.uploadStarted 0x10 0x2000 0 300000000
    current := 3 }

/-- The late frames are received, and those of the read between them. -/
def readAmid : Recorded :=
  ((busMachine .bits64 loopOd 0x10).exec reopened
    ([.deliverToClient 300000000, .clientTransmit, .deliverToServer 300000000,
      .deliverToServer 300000000, .serverTransmit, .deliverToServer 300000000,
      .deliverToServer 300000000, .serverTransmit, .deliverToClient 300000000,
      .deliverToClient 300000000] ++ busRounds 2)).get rfl

theorem run_readAmid : (busMachine .bits64 loopOd 0x10).Run reopened readAmid.1 readAmid.2 :=
  Machine.run_exec_get _

theorem ended_by_own_answer_readAmid :
    readAmid.1.getLast? = some (.deliverToClient 0,
      .answered (uploadSegment 0x10 [1, 2, 3, 4, 5, 6, 7, 8] 1) 3
        (.ok (some (.uploadCompleted [1, 2, 3, 4, 5, 6, 7, 8])))) ∧
    reopened.current = 3 ∧
    Agrees (σ := List (UInt16 × UInt8 × List UInt8)) (.beginUpload 0x2000 0 300000000)
      (.uploadCompleted [1, 2, 3, 4, 5, 6, 7, 8]) (callsOf reopened.current readAmid.2.calls) := by
  have hs : (SdoServer.new (.new 0x10) : SdoServer 16).cfg.nodeId = 0x10 := rfl
  have hopen : (busMachine .bits64 loopOd 0x10).step lateFrames.2 (.beginUpload 0x2000 0 300000000)
      = some (.began, reopened) := rfl
  have hnew : ∀ x ∈ readAmid.1, x.2 ≠ .began := by decide +kernel
  have hlast : readAmid.1.getLast? = some (.deliverToClient 0,
      .answered (uploadSegment 0x10 [1, 2, 3, 4, 5, 6, 7, 8] 1) 3
        (.ok (some (.uploadCompleted [1, 2, 3, 4, 5, 6, 7, 8])))) := rfl
  obtain ⟨hown, hagrees⟩ := ended_by_own_answer hs rfl rfl run_lateFrames rfl clearFor_lateFrames
    hopen run_readAmid hnew (List.mem_of_getLast? hlast) (.inl ⟨_, rfl⟩)
  exact ⟨hlast, hown.symm, hagrees _ rfl⟩

end CanopenSdo
