import CanopenSdo.Bus
import CanopenSdo.Loopback

/-!
# The dictionary calls of a bus

What an application sees of all transfers is the sequence of calls its dictionary
gets.  A transfer sends one frame at most that can make the server call the
dictionary: the init request of an upload, that of an expedited download, or the
final segment of a segmented one.  The channels keep the order of the frames and
duplicate none, so the calls come in the order in which the transfers were begun,
each transfer makes one at most, and no call is made that no transfer has asked for.

Nothing is assumed of the schedule: frames are late or lost, both sides time out,
answers of one transfer end another one.

## Main definitions

* `SdoFrame.Makes`, `SdoFrame.CanCall` — the calls a frame can make.
* `ClientState.Unsent` — the frame that makes the call has not been sent yet.
* `View.callTags` — the transfers of the calls, and of the frames that can make one.
* `begun`, `BusAction.Asks` — the transfers of a run, and the calls they ask for.

## Main results

* `calls_in_order` — **each transfer makes one call at most, in the order of the transfers.**
* `calls_asked_for` — **every call is one its transfer has asked for.**
-/

namespace CanopenSdo

open Wire

variable {N : ℕ} {σ : Type}

/-! ### The calls of a frame -/

/-- `f.Makes c` says that a server may answer the frame `f` with the dictionary call `c`. -/
inductive SdoFrame.Makes (f : SdoFrame) : OdCall → Prop
  | read (hcs : f.cs = ccsInitUpload) (r : Except SdoAbortCode ℕ) (buf : List UInt8) :
      Makes f (.read (indexOf f.data) (subindexOf f.data) r buf)
  | writeInline (hcs : f.cs = ccsInitDownload) (he : f.expedited = true)
      (r : Except SdoAbortCode Unit) :
      Makes f (.write (indexOf f.data) (subindexOf f.data) (inlineOf f.data) r)
  /-- The final segment: the object and the bytes are what the server has collected. -/
  | writeCollected (hcs : f.cs = ccsDownloadSegment) (hc : f.final = true) (idx : UInt16)
      (sub : UInt8) (data : List UInt8) (r : Except SdoAbortCode Unit) :
      Makes f (.write idx sub data r)

/-- The frame can make the server call the dictionary. -/
def SdoFrame.CanCall (f : SdoFrame) : Prop :=
  f.cs = ccsInitUpload ∨ (f.cs = ccsInitDownload ∧ f.expedited = true) ∨
    (f.cs = ccsDownloadSegment ∧ f.final = true)

instance : DecidablePred SdoFrame.CanCall := fun _ => inferInstanceAs (Decidable (_ ∨ _))

theorem SdoFrame.Makes.canCall {f : SdoFrame} {c : OdCall} (h : f.Makes c) : f.CanCall := by
  cases h with
  | read hcs => exact .inl hcs
  | writeInline hcs he => exact .inr (.inl ⟨hcs, he⟩)
  | writeCollected hcs hc => exact .inr (.inr ⟨hcs, hc⟩)

/-- A frame with another command specifier makes no call. -/
theorem SdoFrame.not_canCall_of_cs {f : SdoFrame} {cs : UInt8} (hf : f.cs = cs)
    (hup : cs ≠ ccsInitUpload) (hdown : cs ≠ ccsInitDownload) (hseg : cs ≠ ccsDownloadSegment) :
    ¬ f.CanCall := by
  subst hf
  rintro (h | ⟨h, -⟩ | ⟨h, -⟩)
  · exact hup h
  · exact hdown h
  · exact hseg h

theorem SdoFrame.not_canCall_of_abort {f : SdoFrame} (hf : f.cs = csAbort) : ¬ f.CanCall :=
  not_canCall_of_cs hf (by decide) (by decide) (by decide)

section Server

variable {od : ObjectDictionary σ} {s s' : SdoServer N} {f : SdoFrame} {now : UInt64} {o o' : σ}
  {r : SdoResult Unit} {log : List OdCall}

/-- A frame makes one call at most. -/
theorem ServerStep.calls (h : ServerStep od.recording s f now (o, []) r s' (o', log)) :
    log = [] ∨ ∃ c, log = [c] ∧ f.Makes c := by
  cases h with
  | initUploadRefused _ hcs hr | initUploadTooLarge _ hcs hr | initUploadExpedited _ hcs hr
  | initUploadSegmented _ hcs hr =>
    simp only [ObjectDictionary.recording, List.nil_append, Prod.mk.injEq] at hr
    obtain ⟨-, -, -, rfl⟩ := hr
    exact .inr ⟨_, rfl, .read hcs _ _⟩
  | initDownloadRefused _ hcs he hw | initDownloadExpedited _ hcs he hw =>
    simp only [ObjectDictionary.recording, List.nil_append, Prod.mk.injEq] at hw
    obtain ⟨-, -, rfl⟩ := hw
    exact .inr ⟨_, rfl, .writeInline hcs he _⟩
  | downloadSegmentRefused _ hcs _ _ _ hc _ hw | downloadSegmentLast _ hcs _ _ _ hc _ hw =>
    simp only [ObjectDictionary.recording, List.nil_append, Prod.mk.injEq] at hw
    obtain ⟨-, -, rfl⟩ := hw
    exact .inr ⟨_, rfl, .writeCollected hcs hc _ _ _ _⟩
  | _ => exact .inl rfl

end Server

/-! ### The client -/

/-- The transfer has not sent the frame yet that makes its call. -/
def ClientState.Unsent : ClientState → Prop
  | .downloading d => d.phase = .awaitingInit false ∨ d.phase = .awaitingSegmentAck false
  | _ => False

section Client

variable {tgt : Target} {c c' : SdoClient} {f g : SdoFrame} {now : UInt64}
  {r : SdoResult (Option SdoOutcome)}

/-- A client that sends a segment sends the call with the final one. -/
theorem SdoClient.canCall_sendSegment {d : DownloadCtx}
    (hg : (c.sendSegment d now).pendingTx = some g) (hcall : g.CanCall) :
    ¬ (c.sendSegment d now).state.Unsent := by
  obtain rfl := Option.some.inj hg
  have hcs := cs_downloadSegment (SdoFrame.rsdoId d.nodeId) d.nextToggle d.atLast d
  rcases hcall with h | ⟨h, -⟩ | ⟨-, hc⟩
  · exact absurd (hcs.symm.trans h) (by decide)
  · exact absurd (hcs.symm.trans h) (by decide)
  · have hlast : d.atLast = true := by
      rw [← hc]
      exact (SdoFrame.final_segmentData _ _ _ d.length_segment_le).symm
    simp [sendSegment, queueRequest, ClientState.Unsent, DownloadCtx.next, hlast]

/-- A client that answers a frame goes on with its transfer, and sends the frame that makes
its call once. -/
theorem ClientStep.unsent (h : ClientStep tgt c f now r c') :
    (c'.pendingTx = c.pendingTx ∧ c'.state = c.state) ∨
      ((c'.state.Unsent → c.state.Unsent) ∧
        ∀ g, c'.pendingTx = some g → g.CanCall → c.state.Unsent ∧ ¬ c'.state.Unsent) := by
  have hdone : (c.clearTransfer.state.Unsent → c.state.Unsent) ∧
      ∀ g, c.clearTransfer.pendingTx = some g → g.CanCall →
        c.state.Unsent ∧ ¬ c.clearTransfer.state.Unsent := ⟨False.elim, nofun⟩
  have habort : ∀ node idx sub code,
      ((c.queueAbort node idx sub code).state.Unsent → c.state.Unsent) ∧
        ∀ g, (c.queueAbort node idx sub code).pendingTx = some g → g.CanCall →
          c.state.Unsent ∧ ¬ (c.queueAbort node idx sub code).state.Unsent := by
    intro node idx sub code
    refine ⟨False.elim, ?_⟩
    rintro g hg hcall
    obtain rfl := Option.some.inj hg
    exact absurd hcall (SdoFrame.not_canCall_of_abort (SdoFrame.cs_abort _ idx sub code))
  have hrequest : ∀ u, ((c.requestSegment u now).state.Unsent → c.state.Unsent) ∧
      ∀ g, (c.requestSegment u now).pendingTx = some g → g.CanCall →
        c.state.Unsent ∧ ¬ (c.requestSegment u now).state.Unsent := by
    intro u
    refine ⟨False.elim, ?_⟩
    rintro g hg hcall
    obtain rfl := Option.some.inj hg
    exact absurd hcall (SdoFrame.not_canCall_of_cs (SdoFrame.cs_uploadSegmentRequest _ _)
      (by decide) (by decide) (by decide))
  cases h with
  | ignored => exact .inl ⟨rfl, rfl⟩
  | serverAbort | uploadExpedited | uploadLast | downloadExpedited | downloadLast => exact .inr hdone
  | uploadInit | uploadMore => exact .inr (hrequest _)
  | uploadToggle | uploadMismatch | downloadToggle => exact .inr (habort _ _ _ _)
  | downloadInit hst hn hph | downloadMore hst hn hph =>
    have hun : c.state.Unsent := by simp [hst, ClientState.Unsent, hph]
    exact .inr ⟨fun _ => hun, fun g hg hcall => ⟨hun, SdoClient.canCall_sendSegment hg hcall⟩⟩

end Client

/-! ### The order of the calls -/

/-- The transfers of the calls that were made, and after them those of the frames on their
way that can make one. -/
def View.callTags (v : View N) : List ℕ :=
  v.calls.map Prod.snd ++ (v.up.filter fun x => x.1.CanCall).map Prod.snd

/-- The calls are in the order of the transfers, each transfer has one at most, and one that
has not sent its own frame yet has none. -/
structure View.Ordered (v : View N) : Prop where
  order : v.callTags.Pairwise (· < ·)
  bound : ∀ i ∈ v.callTags, i ≤ v.current
  unsent : v.client.Unsent → ∀ i ∈ v.callTags, i < v.current

section Order

variable {tgt : Target} {od : ObjectDictionary σ} {nodeId : UInt8} {op : Option Opening}
  {v v' : View N} {e : BusEvent}

open scoped List in
/-- What is lost on the way, or makes no call, leaves the rest in order. -/
theorem View.Ordered.mono (h : v.Ordered) (hsub : v'.callTags <+ v.callTags)
    (hcur : v'.current = v.current) (hst : v'.client.Unsent → v.client.Unsent) : v'.Ordered where
  order := h.order.sublist hsub
  bound := fun i hi => hcur ▸ h.bound i (hsub.subset hi)
  unsent := fun hun i hi => hcur ▸ h.unsent (hst hun) i (hsub.subset hi)

open scoped List in
/-- A frame of the current transfer, sent last. -/
theorem View.callTags_append {l : List (SdoFrame × ℕ)} (hl : l <+ v.up) (f : SdoFrame) (t : ℕ) :
    ∃ k, k <+ v.callTags ∧ { v with up := l ++ [(f, t)] : View N }.callTags
      = k ++ if f.CanCall then [t] else [] := by
  refine ⟨v.calls.map Prod.snd ++ (l.filter fun x => x.1.CanCall).map Prod.snd, ?_, ?_⟩
  · exact (List.Sublist.refl _).append ((hl.filter _).map _)
  · unfold callTags
    split <;> next h => simp [List.filter_append, h]

open scoped List in
/-- A transfer that sends a frame which can make its call has not sent one before. -/
theorem View.Ordered.send (h : v.Ordered) {l : List (SdoFrame × ℕ)} (hl : l <+ v.up)
    {f : SdoFrame} {st : ClientState} {t : ℕ} (ht : v.current ≤ t)
    (hnew : f.CanCall → ∀ i ∈ v.callTags, i < t)
    (hst : st.Unsent → ¬ f.CanCall ∧ ∀ i ∈ v.callTags, i < t) :
    View.Ordered { v with client := st, up := l ++ [(f, t)], current := t } := by
  obtain ⟨k, hk, heq⟩ := View.callTags_append hl f t
  have htags : View.callTags { v with client := st, up := l ++ [(f, t)], current := t }
      = k ++ if f.CanCall then [t] else [] := heq
  have hmem : ∀ i ∈ k ++ (if f.CanCall then [t] else []), i ∈ v.callTags ∨ (f.CanCall ∧ i = t) := by
    intro i hi
    rcases List.mem_append.mp hi with hi | hi
    · exact .inl (hk.subset hi)
    · split at hi
      · next hcall => exact .inr ⟨hcall, List.mem_singleton.mp hi⟩
      · cases hi
  constructor
  · rw [htags, List.pairwise_append]
    refine ⟨h.order.sublist hk, ?_, ?_⟩
    · split <;> simp
    · intro i hi j hj
      split at hj
      · next hcall =>
        obtain rfl := List.mem_singleton.mp hj
        exact hnew hcall i (hk.subset hi)
      · cases hj
  · intro i hi
    rw [htags] at hi
    rcases hmem i hi with hi | ⟨-, rfl⟩
    · exact (h.bound i hi).trans ht
    · exact le_rfl
  · intro hun i hi
    rw [htags] at hi
    obtain ⟨hno, hlt⟩ := hst hun
    rcases hmem i hi with hi | ⟨hcall, -⟩
    · exact hlt i hi
    · exact absurd hcall hno

/-- The frame that makes the server call is on its way until the call is made. -/
theorem View.Ordered.served (h : v.Ordered) {rest l : List (SdoFrame × ℕ)} {f : SdoFrame} {i : ℕ}
    {s s' : SdoServer N} {o o' : σ} {r : SdoResult Unit} {log : List OdCall} {now : UInt64}
    {session : ℕ} (hup : v.up = (f, i) :: rest)
    (hf : s.handleFrame f now od.recording (o, []) = .ok ((r, s'), (o', log))) :
    (v.served s' rest l i session log).Ordered := by
  refine h.mono ?_ rfl id
  simp only [View.callTags, View.served, hup, List.map_append, List.filter_cons]
  rcases (handleFrame_eq_ok_iff.mp hf).calls with rfl | ⟨c, rfl, hmakes⟩
  · -- no call: the frame is gone
    split <;> simp
  · simp [hmakes.canCall]

/-- What an opening sends first, and what it does not send before. -/
def Opening.Sound (T : Opening) : Prop := T.client.Unsent → ¬ T.init.CanCall

theorem BusAction.opening_sound (a : BusAction σ) {T : Opening} (hT : a.opening nodeId = some T) :
    T.Sound := by
  cases a with
  | beginUpload idx sub now =>
    obtain rfl := Option.some.inj hT
    exact False.elim
  | beginDownload idx sub d now =>
    obtain rfl := Option.some.inj hT
    intro hun
    -- the payload is too long to be sent inline
    have hlen : ¬ d.length ≤ 4 := by
      simpa [Opening.download, ClientState.Unsent, DownloadCtx.start] using hun
    have hdata : initDownloadData idx sub d
        = announceData ccsInitDownload idx sub (UInt32.ofNat d.length) := if_neg hlen
    rintro (h | ⟨-, h⟩ | ⟨h, -⟩)
    · simp [Opening.download, initDownloadRequest, hdata] at h
      exact absurd h (by decide)
    · simp [Opening.download, initDownloadRequest, hdata] at h
    · simp [Opening.download, initDownloadRequest, hdata] at h
      exact absurd h (by decide)
  | _ => cases hT

/-- **Every step of the bus keeps the calls in order.** -/
theorem View.Ordered.step (hop : ∀ T, op = some T → T.Sound)
    (hstep : BusStep tgt od nodeId op v e v') (h : v.Ordered) : v'.Ordered := by
  cases hstep with
  | began hc hl =>
    have hlt : ∀ i ∈ v.callTags, i < v.current + 1 := fun i hi => Nat.lt_succ_of_le (h.bound i hi)
    exact h.send hl (Nat.le_succ _) (fun _ => hlt) fun hun => ⟨hop _ rfl hun, hlt⟩
  | lost hup hdown =>
    exact h.mono ((List.Sublist.refl _).append ((hup.filter _).map _)) rfl id
  | quit hc hl hg =>
    exact h.send hl le_rfl (fun hcall => absurd hcall (SdoFrame.not_canCall_of_abort hg)) False.elim
  | timedOut ho hl => exact h.mono (List.Sublist.refl _) rfl id
  | served hup hs hn hf hl => exact h.served hup hf
  | @answered _ _ rest l f i c c' r now hdown hc hf hup =>
    rcases (SdoClient.handleFrame_eq_ok_iff.mp hf).unsent with ⟨htx, hst⟩ | ⟨hst, hsends⟩
    · -- the frame was ignored
      refine h.mono ?_ rfl ?_
      · simp [View.callTags, View.answered, htx, ← hup]
      · simp [View.answered, hst, hc]
    · have hl : List.Sublist l v.up := by rw [hup]; exact List.sublist_append_left _ _
      rw [hc] at hst hsends
      cases hg : c'.pendingTx with
      | none =>
        refine h.mono ?_ rfl hst
        simp only [View.callTags, View.answered, hg, pendingFrame_none, List.append_nil]
        exact (List.Sublist.refl _).append ((hl.filter _).map _)
      | some g =>
        simp only [View.answered, hg, pendingFrame_some]
        refine View.Ordered.mono (v := { v with client := c'.state, up := l ++ [(g, v.current)] })
          (h.send hl le_rfl (fun hcall => h.unsent (hsends g hg hcall).1) ?_)
          (List.Sublist.refl _) rfl id
        intro hun
        exact ⟨fun hcall => (hsends g hg hcall).2 hun, h.unsent (hst hun)⟩

end Order

/-! ### The transfers of a run -/

/-- The calls that began the transfers of a run, in order. -/
def begun (h : List (BusAction σ × BusEvent)) : List (BusAction σ) :=
  h.filterMap fun x => if x.2 = .began then some x.1 else none

theorem begun_append_singleton (h : List (BusAction σ × BusEvent)) (a : BusAction σ)
    (e : BusEvent) : begun (h ++ [(a, e)]) = begun h ++ if e = .began then [a] else [] := by
  rw [begun, List.filterMap_append]
  split <;> next he => simp [begun, he]

/-- The transfer that the call has begun asks for this call of the dictionary. -/
def BusAction.Asks : BusAction σ → OdCall → Prop
  | .beginUpload idx sub _, .read idx' sub' _ _ => idx' = idx ∧ sub' = sub
  -- the object and the bytes of a segmented write are those the server has collected
  | .beginDownload idx sub d _, .write idx' sub' d' _ =>
    d.length ≤ 4 → idx' = idx ∧ sub' = sub ∧ d' = d
  | _, _ => False

/-- A client in this state can be in the middle of the transfer that the call has begun. -/
def BusAction.Leads : BusAction σ → ClientState → Prop
  | .beginUpload .., .uploading _ => True
  | .beginDownload _ _ d _, .downloading c => d.length ≤ 4 → c.phase = .awaitingInit true
  | _, _ => False

/-- The `i`-th of the transfers asks for this call. -/
def AskedFor (l : List (BusAction σ)) (i : ℕ) (c : OdCall) : Prop :=
  ∃ k a, i = k + 1 ∧ l[k]? = some a ∧ a.Asks c

theorem AskedFor.append {l : List (BusAction σ)} {i : ℕ} {c : OdCall} (h : AskedFor l i c)
    (l' : List (BusAction σ)) : AskedFor (l ++ l') i c := by
  obtain ⟨k, a, hi, ha, hc⟩ := h
  obtain ⟨hk, -⟩ := List.getElem?_eq_some_iff.mp ha
  exact ⟨k, a, hi, by rw [List.getElem?_append_left hk, ha], hc⟩

/-- The transfer begun last. -/
theorem askedFor_last {l : List (BusAction σ)} {a : BusAction σ} {c : OdCall}
    (ha : l.getLast? = some a) (hc : a.Asks c) : AskedFor l l.length c := by
  have hpos : 0 < l.length := by
    cases l with
    | nil => simp at ha
    | cons x l => simp
  refine ⟨l.length - 1, a, by omega, ?_, hc⟩
  rw [← List.getLast?_eq_getElem?, ha]

section Asked

variable {tgt : Target} {od : ObjectDictionary σ} {nodeId : UInt8} {a : BusAction σ}
  {c c' : SdoClient} {s : SdoServer N} {f : SdoFrame} {now : UInt64} {dict : σ} {b b' : Bus N σ}
  {h : List (BusAction σ × BusEvent)} {e : BusEvent}

/-- A download is begun with a payload. -/
theorem length_pos_of_began {idx : UInt16} {sub : UInt8} {d : List UInt8}
    (hs : busStep tgt od nodeId b (.beginDownload idx sub d now) = some (.began, b')) :
    1 ≤ d.length := by
  obtain ⟨err, he⟩ | ⟨-, -, hd, -⟩ := b.client.beginDownload_cases nodeId idx sub d now
  · simp [busStep, he] at hs
  · exact hd

/-- A call that begins a transfer sends the init request of what it asks for. -/
theorem BusAction.opening_asks (hs : busStep tgt od nodeId b a = some (.began, b')) {T : Opening}
    (hT : a.opening nodeId = some T) :
    a.Leads T.client ∧ ∀ call, T.init.Makes call → a.Asks call := by
  cases a with
  | beginUpload idx sub now =>
    obtain rfl := Option.some.inj hT
    have hcs : (Opening.upload nodeId idx sub).init.cs = ccsInitUpload :=
      SdoFrame.cs_initUpload _ idx sub
    refine ⟨trivial, ?_⟩
    intro call hmakes
    cases hmakes with
    | read => exact SdoFrame.names_initUpload _ idx sub
    | writeInline h => exact absurd (hcs.symm.trans h) (by decide)
    | writeCollected h => exact absurd (hcs.symm.trans h) (by decide)
  | beginDownload idx sub d now =>
    obtain rfl := Option.some.inj hT
    have hd := length_pos_of_began hs
    have hcs : (Opening.download nodeId idx sub d).init.cs = ccsInitDownload :=
      cs_initDownloadData _ idx sub hd
    have hnames : (Opening.download nodeId idx sub d).init.Names idx sub :=
      names_initDownloadData _ idx sub d
    refine ⟨fun h₄ => by simp [DownloadCtx.start, h₄], ?_⟩
    intro call hmakes
    cases hmakes with
    | read h => exact absurd (hcs.symm.trans h) (by decide)
    | writeInline =>
      intro h₄
      have hdata : (Opening.download nodeId idx sub d).init.data
          = expeditedData ccsInitDownload idx sub d := if_pos h₄
      refine ⟨hnames.1, hnames.2, ?_⟩
      rw [hdata]
      exact SdoFrame.inlineOf_expeditedData_download idx sub hd h₄
    | writeCollected h => exact absurd (hcs.symm.trans h) (by decide)
  | _ => cases hT

/-- A client in the middle of a transfer stays in it, and what it sends makes no call but
one the transfer asks for. -/
theorem ClientStep.asks {r : SdoResult (Option SdoOutcome)} (h : ClientStep tgt c f now r c')
    (ha : a.Leads c.state) :
    (c'.state = .idle ∨ a.Leads c'.state) ∧
      (c'.pendingTx = c.pendingTx ∨
        ∀ g, c'.pendingTx = some g → ∀ call, g.Makes call → a.Asks call) := by
  -- the frames that make no call
  have hno : ∀ {g : SdoFrame}, ¬ g.CanCall → ∀ call, g.Makes call → a.Asks call :=
    fun hg call hmakes => absurd hmakes.canCall hg
  have habort : ∀ node idx sub code g, (c.queueAbort node idx sub code).pendingTx = some g →
      ∀ call, g.Makes call → a.Asks call := by
    intro node idx sub code g hg
    obtain rfl := Option.some.inj hg
    exact hno (SdoFrame.not_canCall_of_abort (SdoFrame.cs_abort _ idx sub code))
  have hrequest : ∀ u g, (c.requestSegment u now).pendingTx = some g →
      ∀ call, g.Makes call → a.Asks call := by
    intro u g hg
    obtain rfl := Option.some.inj hg
    exact hno (SdoFrame.not_canCall_of_cs (SdoFrame.cs_uploadSegmentRequest _ _) (by decide)
      (by decide) (by decide))
  -- a segment is sent of a payload that is not inline
  have hsegment : ∀ d, c.state = .downloading d → d.phase ≠ .awaitingInit true →
      a.Leads (c.sendSegment d now).state ∧
        ∀ g, (c.sendSegment d now).pendingTx = some g → ∀ call, g.Makes call → a.Asks call := by
    intro d hst hph
    rw [hst] at ha
    cases a with
    | beginDownload idx sub p now₀ =>
      have hlen : ¬ p.length ≤ 4 := fun h₄ => hph (ha h₄)
      refine ⟨fun h₄ => absurd h₄ hlen, ?_⟩
      intro g hg call hmakes
      obtain rfl := Option.some.inj hg
      have hcs := cs_downloadSegment (SdoFrame.rsdoId d.nodeId) d.nextToggle d.atLast d
      cases hmakes with
      | read h => exact absurd (hcs.symm.trans h) (by decide)
      | writeInline h => exact absurd (hcs.symm.trans h) (by decide)
      | writeCollected => exact fun h₄ => absurd h₄ hlen
    | _ => exact ha.elim
  cases h with
  | ignored => exact ⟨.inr ha, .inl rfl⟩
  | serverAbort | uploadExpedited | uploadLast | downloadExpedited | downloadLast =>
    exact ⟨.inl rfl, .inr nofun⟩
  | uploadToggle | uploadMismatch | downloadToggle => exact ⟨.inl rfl, .inr (habort _ _ _ _)⟩
  | uploadInit hst | uploadMore hst =>
    refine ⟨.inr ?_, .inr (hrequest _)⟩
    rw [hst] at ha
    cases a <;> first | exact trivial | exact ha
  | downloadInit hst hn hph | downloadMore hst hn hph =>
    obtain ⟨hleads, hasks⟩ := hsegment _ hst (by rw [hph]; decide)
    exact ⟨.inr hleads, .inr hasks⟩

/-- The client is in the middle of the transfer begun last, and the frames on their way and
the calls that were made are those the transfers ask for. -/
structure View.Asked (l : List (BusAction σ)) (v : View N) : Prop where
  count : v.current = l.length
  client : v.client ≠ .idle → ∃ a, l.getLast? = some a ∧ a.Leads v.client
  up : ∀ x ∈ v.up, ∀ call, x.1.Makes call → AskedFor l x.2 call
  calls : ∀ x ∈ v.calls, AskedFor l x.2 x.1

/-- What the client sends last is asked for by the transfer it is in the middle of. -/
theorem View.Asked.send {l : List (BusAction σ)} {v : View N} (hv : v.Asked l)
    {k : List (SdoFrame × ℕ)} (hk : ∀ x ∈ k, x ∈ v.up) {tx : Option SdoFrame}
    (htx : ∀ g, tx = some g → ∀ call, g.Makes call → AskedFor l v.current call) :
    ∀ x ∈ k ++ pendingFrame tx v.current, ∀ call, x.1.Makes call → AskedFor l x.2 call := by
  intro x hx
  rcases List.mem_append.mp hx with hx | hx
  · exact hv.up x (hk x hx)
  · cases tx with
    | none => cases hx
    | some g =>
      obtain rfl := List.mem_singleton.mp hx
      exact htx g rfl

/-- **Every step of the bus keeps to what the transfers ask for.** -/
theorem View.Asked.step {l : List (BusAction σ)} {v v' : View N} (hv : v.Asked l)
    (hstep : BusStep tgt od nodeId (a.opening nodeId) v e v')
    (hopen : e = .began → ∀ T, a.opening nodeId = some T →
      a.Leads T.client ∧ ∀ call, T.init.Makes call → a.Asks call) :
    v'.Asked (l ++ if e = .began then [a] else []) := by
  generalize hop : a.opening nodeId = op at hstep
  cases hstep with
  | @began _ T k hc hk =>
    obtain ⟨hleads, hasks⟩ := hopen rfl T hop
    have hlast : (l ++ [a]).getLast? = some a := by simp
    refine ⟨by simp [hv.count], fun _ => ⟨a, hlast, hleads⟩, ?_, fun x hx => (hv.calls x hx).append _⟩
    intro x hx call hmakes
    rcases List.mem_append.mp hx with hx | hx
    · exact (hv.up x (hk.subset hx) call hmakes).append _
    · obtain rfl := List.mem_singleton.mp hx
      have hfor := askedFor_last hlast (hasks call hmakes)
      rwa [List.length_append, ← hv.count] at hfor
  | lost hup hdown =>
    simp only [reduceCtorEq, if_false, List.append_nil]
    exact ⟨hv.count, hv.client, fun x hx => hv.up x (hup.subset hx), hv.calls⟩
  | @quit _ _ k g r hc hk hg =>
    simp only [reduceCtorEq, if_false, List.append_nil]
    refine ⟨hv.count, fun hne => absurd rfl hne, ?_, hv.calls⟩
    have habort : ∀ g', some g = some g' → ∀ call, g'.Makes call → AskedFor l v.current call := by
      rintro _ ⟨⟩ call hmakes
      exact absurd hmakes.canCall (SdoFrame.not_canCall_of_abort hg)
    exact hv.send (fun x hx => hk.subset hx) habort
  | timedOut ho hl =>
    simp only [reduceCtorEq, if_false, List.append_nil]
    exact ⟨hv.count, hv.client, hv.up, hv.calls⟩
  | @served _ _ rest k f i s s' o o' r log now hup hs hn hf hk =>
    simp only [reduceCtorEq, if_false, List.append_nil]
    refine ⟨hv.count, hv.client, fun x hx => hv.up x (hup ▸ List.mem_cons_of_mem _ hx), ?_⟩
    intro x hx
    rcases List.mem_append.mp hx with hx | hx
    · exact hv.calls x hx
    · -- a call that was made now is one the frame can make
      obtain ⟨call, hcall, rfl⟩ := List.mem_map.mp hx
      rcases (handleFrame_eq_ok_iff.mp hf).calls with rfl | ⟨c, rfl, hmakes⟩
      · cases hcall
      · obtain rfl := List.mem_singleton.mp hcall
        exact hv.up (f, i) (hup ▸ List.mem_cons_self) _ hmakes
  | @answered _ _ rest k f i c c' r now hdown hc hf hup =>
    simp only [reduceCtorEq, if_false, List.append_nil]
    have hclient := SdoClient.handleFrame_eq_ok_iff.mp hf
    by_cases hidle : c.state = .idle
    · -- an idle client ignores every frame
      obtain rfl : c' = c := (hclient.unique (.ignored (SdoClient.not_answers_of_idle hidle))).2
      refine ⟨hv.count, fun hne => absurd hidle hne, ?_, hv.calls⟩
      rw [View.answered, ← hup]
      exact hv.up
    · obtain ⟨a', ha', hleads⟩ := hv.client (hc ▸ hidle)
      rw [← hc] at hleads
      obtain ⟨hst, htx⟩ := hclient.asks hleads
      refine ⟨hv.count, fun hne => ⟨a', ha', hst.resolve_left hne⟩, ?_, hv.calls⟩
      rcases htx with htx | htx
      · rw [View.answered, htx, ← hup]
        exact hv.up
      · have hk : ∀ x ∈ k, x ∈ v.up := fun x hx => hup ▸ List.mem_append_left _ hx
        refine hv.send hk fun g hg call hmakes => ?_
        rw [hv.count]
        exact askedFor_last ha' (htx g hg call hmakes)

/-- What holds along every run of the bus. -/
structure Bus.Accounted (nodeId : UInt8) (h : List (BusAction σ × BusEvent)) (b : Bus N σ) :
    Prop where
  wf : b.WellFormed nodeId
  ordered : b.view.Ordered
  asked : b.view.Asked (begun h)

theorem Bus.Accounted.step (hb : b.Accounted nodeId h)
    (hs : busStep tgt od nodeId b a = some (e, b')) : b'.Accounted nodeId (h ++ [(a, e)]) := by
  obtain ⟨hstep, hwf⟩ := busStep_of_step hb.wf hs
  refine ⟨hwf, hb.ordered.step (fun T hT => a.opening_sound hT) hstep, ?_⟩
  rw [begun_append_singleton]
  refine hb.asked.step hstep ?_
  rintro rfl T hT
  exact BusAction.opening_asks hs hT

/-- A bus on which nothing has happened yet. -/
theorem Bus.accounted_start (hs : s.cfg.nodeId = nodeId) (hc : c.state = .idle)
    (htx : c.pendingTx = none) : (Bus.start c s dict).Accounted nodeId [] where
  wf := by
    constructor
    · exact hs
    · simp [Bus.start, SdoClient.transfer_of_idle hc]
    · simp [Bus.view, Bus.start, htx]
    · exact le_rfl
    · simp [Bus.start]
  ordered := by
    constructor
    · simp [View.callTags, Bus.view, Bus.start, htx]
    · simp [View.callTags, Bus.view, Bus.start, htx]
    · simp [View.callTags, Bus.view, Bus.start, htx]
  asked := by
    constructor
    · rfl
    · exact fun hne => absurd hc hne
    · simp [Bus.view, Bus.start, htx]
    · simp [Bus.view, Bus.start]

theorem Bus.accounted_run (hs : s.cfg.nodeId = nodeId) (hc : c.state = .idle)
    (htx : c.pendingTx = none) (hr : (busMachine tgt od nodeId).Run (Bus.start c s dict) h b) :
    b.Accounted nodeId h :=
  hr.invariant (Bus.accounted_start hs hc htx) fun _ _ _ _ _ hb hstep => hb.step hstep

/-- **The dictionary gets one call at most of each transfer, in the order of the
transfers.**  A client and a server take any steps, with any number of transfers. -/
theorem calls_in_order (hs : s.cfg.nodeId = nodeId) (hc : c.state = .idle)
    (htx : c.pendingTx = none) (hr : (busMachine tgt od nodeId).Run (Bus.start c s dict) h b) :
    (b.calls.map Prod.snd).Pairwise (· < ·) := by
  have hordered := (Bus.accounted_run hs hc htx hr).ordered
  exact hordered.order.sublist (List.sublist_append_left _ _)

/-- A write that is given up after it was delivered, and a read after it. -/
def givenUpWrite : List (BusAction (List (UInt16 × UInt8 × List UInt8)) × BusEvent)
    × Bus 16 (List (UInt16 × UInt8 × List UInt8)) :=
  ((busMachine .bits64 loopOd 0x10).exec (.start (.new .default) (.new (.new 0x10)) counting)
    [.beginDownload 0x2000 0 [1] 0, .clientTransmit, .deliverToServer 0, .clientTimeout 150000000,
      .beginUpload 0x2000 0 150000000, .clientTransmit, .deliverToServer 150000000]).get rfl

theorem run_givenUpWrite : (busMachine .bits64 loopOd 0x10).Run
    (.start (.new .default) (.new (.new 0x10)) counting) givenUpWrite.1 givenUpWrite.2 :=
  Machine.run_exec_get _

/-- Both transfers have made their call. -/
theorem calls_in_order_givenUpWrite :
    givenUpWrite.2.calls.map Prod.snd = [1, 2] ∧
      (givenUpWrite.2.calls.map Prod.snd).Pairwise (· < ·) :=
  ⟨rfl, calls_in_order (s := .new (.new 0x10)) rfl rfl rfl run_givenUpWrite⟩

/-- **Every call is one its transfer has asked for**: an upload makes a read of its object,
a download a write, and one that is sent inline a write of its bytes to its object. -/
theorem calls_asked_for (hs : s.cfg.nodeId = nodeId) (hc : c.state = .idle)
    (htx : c.pendingTx = none) (hr : (busMachine tgt od nodeId).Run (Bus.start c s dict) h b) :
    ∀ x ∈ b.calls, AskedFor (begun h) x.2 x.1 :=
  (Bus.accounted_run hs hc htx hr).asked.calls

/-- The write of one byte is the one that was asked for. -/
theorem calls_asked_for_givenUpWrite :
    AskedFor (begun givenUpWrite.1) 1 (.write 0x2000 0 [1] (.ok ())) :=
  have hmem : ((.write 0x2000 0 [1] (.ok ()), 1) : OdCall × ℕ) ∈ givenUpWrite.2.calls := by decide
  calls_asked_for (s := .new (.new 0x10)) rfl rfl rfl run_givenUpWrite _ hmem

end Asked

end CanopenSdo
