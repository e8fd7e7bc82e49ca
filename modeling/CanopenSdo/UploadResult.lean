import CanopenSdo.ClientRun
import CanopenSdo.ClientSafety

/-!
# The value of an upload

Against any peer the client of an upload reports what the peer has sent: the inline value
of the first init response for its object, or the payloads of all segments that have come
since then, in order, with alternating toggles and of the announced length.

## Main definitions

* `IsInitResponse`, `IsSegmentResponse` — the frames that matter.
* `Collecting` — what has been received since the first init response.
* `CompletesUpload`, `ContinuesUpload` — the response completes the upload, or is accepted
  and more are to come.
* `UploadTrace` — what holds of the client while the upload goes on.

## Main results

* `UploadTrace.step` — one step of the client.
* `upload_result` — **the result is right against any server.**
-/

namespace CanopenSdo

open Wire

variable {tgt : Target} {nodeId : UInt8} {idx : UInt16} {sub : UInt8}

/-! ### What has been received -/

/-- An init upload response from the node, for the object. -/
def IsInitResponse (nodeId : UInt8) (idx : UInt16) (sub : UInt8) (f : SdoFrame) : Prop :=
  SdoFrame.nodeOfTsdo f.cobId = some nodeId ∧ f.cs = scsInitUpload ∧ f.Names idx sub

/-- An upload segment response from the node. -/
def IsSegmentResponse (nodeId : UInt8) (f : SdoFrame) : Prop :=
  SdoFrame.nodeOfTsdo f.cobId = some nodeId ∧ f.cs = scsUploadSegment

instance (nodeId : UInt8) : DecidablePred (IsSegmentResponse nodeId) :=
  fun _ => inferInstanceAs (Decidable (_ ∧ _))

/-- The payloads of the segments, in order. -/
def collected (segs : List SdoFrame) : List UInt8 := segs.flatMap fun g => payloadOf g.data

/-- Among the frames `fs`, `init` is the first init response for the object, and it has no
inline value; the segment responses since then are `segs`, and they have alternating
toggles and are not final. -/
structure Collecting (nodeId : UInt8) (idx : UInt16) (sub : UInt8) (fs : List SdoFrame)
    (init : SdoFrame) (segs : List SdoFrame) : Prop where
  split : ∃ pre post, fs = pre ++ init :: post ∧ (∀ g ∈ pre, ¬ IsInitResponse nodeId idx sub g) ∧
    segs = post.filter fun g => IsSegmentResponse nodeId g
  opened : IsInitResponse nodeId idx sub init
  segmented : init.expedited = false
  parts : ∀ k g, segs[k]? = some g → g.toggle = alternate k ∧ g.final = false

/-- A list is split in one way only at the first item of a kind. -/
theorem split_first_unique {α : Type*} {p : α → Prop} {x x' : α} {post post' : List α}
    (hx : p x) (hx' : p x') : ∀ {pre pre' : List α}, (∀ y ∈ pre, ¬ p y) → (∀ y ∈ pre', ¬ p y) →
      pre ++ x :: post = pre' ++ x' :: post' → x = x' ∧ post = post' := by
  intro pre
  induction pre with
  | nil =>
    intro pre' _ hpre' heq
    cases pre' with
    | nil => simpa using heq
    | cons y pre' =>
      rw [List.nil_append, List.cons_append, List.cons.injEq] at heq
      exact absurd (heq.1 ▸ hx) (hpre' y List.mem_cons_self)
  | cons z pre ih =>
    intro pre' hpre hpre' heq
    cases pre' with
    | nil =>
      rw [List.nil_append, List.cons_append, List.cons.injEq] at heq
      exact absurd (heq.1 ▸ hx') (hpre z List.mem_cons_self)
    | cons y pre' =>
      rw [List.cons_append, List.cons_append, List.cons.injEq] at heq
      exact ih (fun w hw => hpre w (List.mem_cons_of_mem _ hw))
        (fun w hw => hpre' w (List.mem_cons_of_mem _ hw)) heq.2

namespace Collecting

variable {fs segs segs' : List SdoFrame} {init init' f : SdoFrame}

theorem unique (h : Collecting nodeId idx sub fs init segs)
    (h' : Collecting nodeId idx sub fs init' segs') : init = init' ∧ segs = segs' := by
  obtain ⟨pre, post, rfl, hpre, rfl⟩ := h.split
  obtain ⟨pre', post', heq, hpre', rfl⟩ := h'.split
  obtain ⟨rfl, rfl⟩ := split_first_unique h.opened h'.opened hpre hpre' heq
  exact ⟨rfl, rfl⟩

theorem mem (h : Collecting nodeId idx sub fs init segs) : init ∈ fs := by
  obtain ⟨pre, post, rfl, -, -⟩ := h.split
  exact List.mem_append_right _ List.mem_cons_self

/-- The first init response. -/
theorem start (hfs : ∀ g ∈ fs, ¬ IsInitResponse nodeId idx sub g)
    (hf : IsInitResponse nodeId idx sub f) (he : f.expedited = false) :
    Collecting nodeId idx sub (fs ++ [f]) f [] where
  split := ⟨fs, [], rfl, hfs, rfl⟩
  opened := hf
  segmented := he
  parts := fun k g hg => by simp at hg

/-- A frame that is no segment response. -/
theorem other (h : Collecting nodeId idx sub fs init segs) (hf : ¬ IsSegmentResponse nodeId f) :
    Collecting nodeId idx sub (fs ++ [f]) init segs where
  split := by
    obtain ⟨pre, post, rfl, hpre, rfl⟩ := h.split
    refine ⟨pre, post ++ [f], by rw [List.append_assoc, List.cons_append], hpre, ?_⟩
    simp [List.filter_append, hf]
  opened := h.opened
  segmented := h.segmented
  parts := h.parts

/-- The next segment, not the final one. -/
theorem segment (h : Collecting nodeId idx sub fs init segs) (hf : IsSegmentResponse nodeId f)
    (ht : f.toggle = alternate segs.length) (hc : f.final = false) :
    Collecting nodeId idx sub (fs ++ [f]) init (segs ++ [f]) where
  split := by
    obtain ⟨pre, post, rfl, hpre, rfl⟩ := h.split
    refine ⟨pre, post ++ [f], by rw [List.append_assoc, List.cons_append], hpre, ?_⟩
    simp [List.filter_append, hf]
  opened := h.opened
  segmented := h.segmented
  parts := by
    intro k g hg
    rcases Nat.lt_or_ge k segs.length with hk | hk
    · rw [List.getElem?_append_left hk] at hg
      exact h.parts k g hg
    · rw [List.getElem?_append_right hk] at hg
      obtain ⟨hk', rfl⟩ : k - segs.length = 0 ∧ f = g := by
        simpa [List.getElem?_singleton] using hg
      obtain rfl : k = segs.length := by omega
      exact ⟨ht, hc⟩

end Collecting

/-! ### While the upload goes on -/

/-- The context after the init response and the segments. -/
def UploadCtx.collecting (nodeId : UInt8) (idx : UInt16) (sub : UInt8) (init : SdoFrame)
    (segs : List SdoFrame) : UploadCtx :=
  { nodeId, idx, sub, received := collected segs, expectedLen := init.announcedWord,
    nextToggle := alternate segs.length, phase := .awaitingSegment }

/-- The history of an upload, and the context of its client. -/
inductive UploadTrace (nodeId : UInt8) (idx : UInt16) (sub : UInt8)
    (h : List (ClientAction × ClientEvent)) : UploadCtx → Prop
  /-- No init response has come. -/
  | awaiting (hnone : ∀ g ∈ received h, ¬ IsInitResponse nodeId idx sub g) (hem : emitted h = []) :
      UploadTrace nodeId idx sub h (.start nodeId idx sub)
  /-- An init response has, and `segs`; each of them was answered with a request. -/
  | collecting {init : SdoFrame} {segs : List SdoFrame}
      (hcol : Collecting nodeId idx sub (received h) init segs)
      (hem : emitted h = (List.range (segs.length + 1)).map (segmentRequest nodeId)) :
      UploadTrace nodeId idx sub h (.collecting nodeId idx sub init segs)

/-- The frame completes the upload with the value `v`. -/
def CompletesUpload (nodeId : UInt8) (idx : UInt16) (sub : UInt8) (fs : List SdoFrame)
    (f : SdoFrame) (v : List UInt8) : Prop :=
  ((∀ g ∈ fs, ¬ IsInitResponse nodeId idx sub g) ∧ IsInitResponse nodeId idx sub f ∧
      f.expedited = true ∧ v = inlineOf f.data) ∨
    ∃ init segs, Collecting nodeId idx sub fs init segs ∧ IsSegmentResponse nodeId f ∧
      f.toggle = alternate segs.length ∧ f.final = true ∧ v = collected (segs ++ [f]) ∧
        ∀ size, init.announced = some size → v.length = size

/-- The frame is accepted, and more are to come: the first init response, without an inline
value, or the next segment, not the final one.  Segment `k` is the one to request now. -/
def ContinuesUpload (nodeId : UInt8) (idx : UInt16) (sub : UInt8) (fs : List SdoFrame)
    (f : SdoFrame) (k : ℕ) : Prop :=
  ((∀ g ∈ fs, ¬ IsInitResponse nodeId idx sub g) ∧ IsInitResponse nodeId idx sub f ∧
      f.expedited = false ∧ k = 0) ∨
    ∃ init segs, Collecting nodeId idx sub fs init segs ∧ IsSegmentResponse nodeId f ∧
      f.toggle = alternate segs.length ∧ f.final = false ∧ k = segs.length + 1

theorem collected_append_singleton (segs : List SdoFrame) (f : SdoFrame) :
    collected (segs ++ [f]) = collected segs ++ payloadOf f.data := by
  simp [collected]

section Step

variable {c c' c₁ : SdoClient} {h : List (ClientAction × ClientEvent)} {a : ClientAction}
  {e : ClientEvent} {f : SdoFrame} {now : UInt64} {r : SdoResult (Option SdoOutcome)}
  {u : UploadCtx}

theorem UploadTrace.node (hu : UploadTrace nodeId idx sub h u) :
    u.nodeId = nodeId ∧ u.idx = idx ∧ u.sub = sub := by
  cases hu <;> exact ⟨rfl, rfl, rfl⟩

/-- The transfer in flight is the upload. -/
theorem UploadTrace.transfer (hu : UploadTrace nodeId idx sub h u)
    (hst : c.state = .uploading u) : c.transfer = some (nodeId, idx, sub) := by
  obtain ⟨rfl, rfl, rfl⟩ := hu.node
  rw [SdoClient.transfer, hst]

/-- Before the init response nothing has been received. -/
theorem UploadTrace.consistent (hu : UploadTrace nodeId idx sub h u) :
    (ClientState.uploading u).Consistent := by
  intro hph
  cases hu with
  | awaiting => exact ⟨rfl, rfl⟩
  | collecting => cases hph

/-- The requests so far are numbered up to the one that a frame continues with. -/
theorem ContinuesUpload.eq_length {k : ℕ} (hf : ContinuesUpload nodeId idx sub (received h) f k)
    (hu : UploadTrace nodeId idx sub h u) : k = (emitted h).length := by
  rcases hf with ⟨hnone, -, -, rfl⟩ | ⟨init, segs, hcol, -, -, -, rfl⟩
  · cases hu with
    | awaiting _ hem => rw [hem, List.length_nil]
    | collecting hcol => exact absurd hcol.opened (hnone _ hcol.mem)
  · cases hu with
    | awaiting hnone => exact absurd hcol.opened (hnone _ hcol.mem)
    | collecting hcol' hem =>
      rw [hem, List.length_map, List.length_range, (hcol.unique hcol').2]

/-- **What a frame does to the client**: it is ignored, it is answered with the next request,
it completes the upload, or the upload has failed. -/
inductive AfterFrame (nodeId : UInt8) (idx : UInt16) (sub : UInt8)
    (h : List (ClientAction × ClientEvent)) (f : SdoFrame) (now : UInt64) (c₁ : SdoClient) :
    SdoResult (Option SdoOutcome) → Prop
  | ignored {u : UploadCtx} (htx : c₁.pendingTx = none) (hst : c₁.state = .uploading u)
      (hu : UploadTrace nodeId idx sub (h ++ [(.handleFrame f now, ⟨.ok none, none⟩)]) u) :
      AfterFrame nodeId idx sub h f now c₁ (.ok none)
  | continued {u : UploadCtx} {k : ℕ} (hf : ContinuesUpload nodeId idx sub (received h) f k)
      (htx : c₁.pendingTx = some (segmentRequest nodeId k)) (hst : c₁.state = .uploading u)
      (hu : UploadTrace nodeId idx sub
        (h ++ [(.handleFrame f now, ⟨.ok none, some (segmentRequest nodeId k)⟩)]) u) :
      AfterFrame nodeId idx sub h f now c₁ (.ok none)
  | completed {v : List UInt8} (hf : CompletesUpload nodeId idx sub (received h) f v)
      (htx : c₁.pendingTx = none) (hst : c₁.state = .idle) :
      AfterFrame nodeId idx sub h f now c₁ (.ok (some (.uploadCompleted v)))
  | failed {err : SdoError} (hst : c₁.state = .idle) :
      AfterFrame nodeId idx sub h f now c₁ (.error err)

/-- The first init response, without an inline value. -/
theorem UploadTrace.opened (hst : c.state = .uploading (.start nodeId idx sub))
    (hnone : ∀ g ∈ received h, ¬ IsInitResponse nodeId idx sub g) (hem : emitted h = [])
    (hf : IsInitResponse nodeId idx sub f) (he : f.expedited = false)
    (hstep : ClientStep tgt c f now r c₁) :
    r = .ok none ∧ c₁.pendingTx = some (segmentRequest nodeId 0) ∧
      ∃ u, c₁.state = .uploading u ∧ UploadTrace nodeId idx sub
        (h ++ [(.handleFrame f now, ⟨.ok none, some (segmentRequest nodeId 0)⟩)]) u := by
  obtain ⟨hn, hcs, hm⟩ := hf
  have hcap := cap_of_handleFrame hst hn rfl hcs hm he hstep.handleFrame_eq
  obtain ⟨rfl, rfl⟩ := hstep.unique (.uploadInit hst hn rfl hcs hm he hcap)
  refine ⟨rfl, rfl, .collecting nodeId idx sub f [], ?_, .collecting ?_ ?_⟩
  · simp [SdoClient.requestSegment, SdoClient.queueRequest, UploadCtx.start,
      UploadCtx.collecting, collected]
  · rw [received_append_singleton]
    exact Collecting.start hnone ⟨hn, hcs, hm⟩ he
  · rw [emitted_append_singleton, hem]
    rfl

/-- The next segment, not the final one. -/
theorem UploadTrace.extended {init : SdoFrame} {segs : List SdoFrame}
    (hst : c.state = .uploading (.collecting nodeId idx sub init segs))
    (hcol : Collecting nodeId idx sub (received h) init segs)
    (hem : emitted h = (List.range (segs.length + 1)).map (segmentRequest nodeId))
    (hf : IsSegmentResponse nodeId f) (ht : f.toggle = alternate segs.length)
    (hc : f.final = false) (hstep : ClientStep tgt c f now r c₁) :
    r = .ok none ∧ c₁.pendingTx = some (segmentRequest nodeId (segs.length + 1)) ∧
      ∃ u, c₁.state = .uploading u ∧ UploadTrace nodeId idx sub
        (h ++ [(.handleFrame f now, ⟨.ok none, some (segmentRequest nodeId (segs.length + 1))⟩)])
          u := by
  obtain ⟨hn, hcs⟩ := hf
  have hcap := cap_of_handleFrame_segment hst hn rfl hcs ht hstep.handleFrame_eq
  obtain ⟨rfl, rfl⟩ := hstep.unique (.uploadMore hst hn rfl hcs ht hc hcap)
  refine ⟨rfl, ?_, .collecting nodeId idx sub init (segs ++ [f]), ?_, .collecting ?_ ?_⟩
  · rw [segmentRequest, alternate_succ]
    rfl
  · simp [SdoClient.requestSegment, SdoClient.queueRequest, UploadCtx.collecting,
      collected_append_singleton]
  · rw [received_append_singleton]
    exact hcol.segment ⟨hn, hcs⟩ ht hc
  · rw [emitted_append_singleton, hem, List.length_append, List.length_singleton,
      List.range_succ (n := segs.length + 1), List.map_append]
    rfl

/-- **A frame that continues an upload is answered with the next request.** -/
theorem UploadTrace.continued {k : ℕ} (hu : UploadTrace nodeId idx sub h u)
    (hst : c.state = .uploading u) (hf : ContinuesUpload nodeId idx sub (received h) f k)
    (hstep : ClientStep tgt c f now r c₁) :
    r = .ok none ∧ c₁.pendingTx = some (segmentRequest nodeId k) ∧
      ∃ u, c₁.state = .uploading u ∧ UploadTrace nodeId idx sub
        (h ++ [(.handleFrame f now, ⟨.ok none, some (segmentRequest nodeId k)⟩)]) u := by
  rcases hf with ⟨hnone, hopen, he, rfl⟩ | ⟨init, segs, hcol, hseg, ht, hc, rfl⟩
  · cases hu with
    | awaiting _ hem => exact UploadTrace.opened hst hnone hem hopen he hstep
    | collecting hcol => exact absurd hcol.opened (hnone _ hcol.mem)
  · cases hu with
    | awaiting hnone => exact absurd hcol.opened (hnone _ hcol.mem)
    | collecting hcol' hem =>
      obtain ⟨rfl, rfl⟩ := hcol.unique hcol'
      exact UploadTrace.extended hst hcol hem hseg ht hc hstep

/-- An init response. -/
theorem afterFrame_init (hst : c.state = .uploading (.start nodeId idx sub))
    (hnone : ∀ g ∈ received h, ¬ IsInitResponse nodeId idx sub g) (hem : emitted h = [])
    (hf : IsInitResponse nodeId idx sub f) (hstep : ClientStep tgt c f now r c₁) :
    AfterFrame nodeId idx sub h f now c₁ r := by
  cases he : f.expedited with
  | true =>
    obtain ⟨hn, hcs, hm⟩ := hf
    obtain ⟨rfl, rfl⟩ := hstep.unique (.uploadExpedited hst hn rfl hcs hm he)
    exact .completed (.inl ⟨hnone, ⟨hn, hcs, hm⟩, he, rfl⟩) rfl rfl
  | false =>
    obtain ⟨rfl, htx, u, hst', hu⟩ := UploadTrace.opened hst hnone hem hf he hstep
    exact .continued (.inl ⟨hnone, hf, he, rfl⟩) htx hst' hu

/-- A segment response. -/
theorem afterFrame_segment {init : SdoFrame} {segs : List SdoFrame}
    (hst : c.state = .uploading (.collecting nodeId idx sub init segs))
    (hcol : Collecting nodeId idx sub (received h) init segs)
    (hem : emitted h = (List.range (segs.length + 1)).map (segmentRequest nodeId))
    (hf : IsSegmentResponse nodeId f) (hstep : ClientStep tgt c f now r c₁) :
    AfterFrame nodeId idx sub h f now c₁ r := by
  have ⟨hn, hcs⟩ := hf
  by_cases ht : f.toggle = alternate segs.length
  · have hcap := cap_of_handleFrame_segment hst hn rfl hcs ht hstep.handleFrame_eq
    cases hc : f.final with
    | false =>
      obtain ⟨rfl, htx, u, hst', hu⟩ := UploadTrace.extended hst hcol hem hf ht hc hstep
      exact .continued (.inr ⟨init, segs, hcol, hf, ht, hc, rfl⟩) htx hst' hu
    | true =>
      by_cases hexp : ∀ size, init.announcedWord = some size →
          (collected segs ++ payloadOf f.data).length = size.toNat
      · obtain ⟨rfl, rfl⟩ := hstep.unique (.uploadLast hst hn rfl hcs ht hc hcap hexp)
        refine .completed (.inr ⟨init, segs, hcol, hf, ht, hc,
          (collected_append_singleton segs f).symm, ?_⟩) rfl rfl
        intro size hsize
        rw [SdoFrame.announced_eq_map, Option.map_eq_some_iff] at hsize
        obtain ⟨word, hword, rfl⟩ := hsize
        exact hexp word hword
      · push Not at hexp
        obtain ⟨size, hsize, hne⟩ := hexp
        obtain ⟨rfl, rfl⟩ := hstep.unique (.uploadMismatch hst hn rfl hcs ht hc hcap hsize hne)
        exact .failed rfl
  · obtain ⟨rfl, rfl⟩ := hstep.unique (.uploadToggle hst hn rfl hcs ht)
    exact .failed rfl

/-- A frame that is none of them leaves the trace as it is. -/
theorem UploadTrace.other (hu : UploadTrace nodeId idx sub h u) (hst : c.state = .uploading u)
    (hf : ¬ c.Answers f) :
    UploadTrace nodeId idx sub (h ++ [(.handleFrame f now, ⟨.ok none, none⟩)]) u := by
  have hem' : emitted (h ++ [(.handleFrame f now, ⟨.ok none, none⟩)]) = emitted h := by
    rw [emitted_append_singleton, Option.toList_none, List.append_nil]
  have hrec : received (h ++ [(.handleFrame f now, ⟨.ok none, none⟩)]) = received h ++ [f] := by
    rw [received_append_singleton]
    rfl
  unfold SdoClient.Answers at hf
  rw [hst] at hf
  cases hu with
  | awaiting hnone hem =>
    refine .awaiting ?_ (hem'.trans hem)
    intro g hg
    rw [hrec] at hg
    rcases List.mem_append.mp hg with hg | hg
    · exact hnone g hg
    · obtain rfl := List.mem_singleton.mp hg
      exact fun ⟨hn, hcs, hm⟩ => hf ⟨hn, .inr ⟨hcs, hm⟩⟩
  | collecting hcol hem =>
    refine .collecting ?_ (hem'.trans hem)
    rw [hrec]
    exact hcol.other fun ⟨hn, hcs⟩ => hf ⟨hn, .inr hcs⟩

/-- **What a frame does to the client of an upload.** -/
theorem UploadTrace.frame (hu : UploadTrace nodeId idx sub h u) (hst : c.state = .uploading u)
    (htx : c.pendingTx = none) (hstep : ClientStep tgt c f now r c₁) :
    AfterFrame nodeId idx sub h f now c₁ r := by
  by_cases hans : c.Answers f
  · obtain ⟨hnode, hidx, hsub⟩ := hu.node
    unfold SdoClient.Answers at hans
    simp only [hst, hnode, hidx, hsub] at hans
    -- an answer is the server's abort, or what the phase waits for
    obtain ⟨hn, ⟨hcs, hm⟩ | ha⟩ := hans
    · obtain ⟨rfl, rfl⟩ := hstep.unique (.serverAbort (hu.transfer hst) hn hcs hm)
      exact .failed rfl
    · cases hu with
      | awaiting hnone hem => exact afterFrame_init hst hnone hem ⟨hn, ha.1, ha.2⟩ hstep
      | collecting hcol hem => exact afterFrame_segment hst hcol hem ⟨hn, ha⟩ hstep
  · obtain ⟨rfl, rfl⟩ := hstep.unique (.ignored hans)
    exact .ignored htx hst (hu.other hst hans)

/-- A timeout that is not due changes nothing. -/
theorem UploadTrace.notDue (hu : UploadTrace nodeId idx sub h u) :
    UploadTrace nodeId idx sub (h ++ [(.handleTimeout now, ⟨.ok none, none⟩)]) u := by
  have hem' : emitted (h ++ [(.handleTimeout now, ⟨.ok none, none⟩)]) = emitted h := by
    rw [emitted_append_singleton, Option.toList_none, List.append_nil]
  have hrec : received (h ++ [(.handleTimeout now, ⟨.ok none, none⟩)]) = received h := by
    rw [received_append_singleton]
    exact List.append_nil _
  cases hu with
  | awaiting hnone hem => exact .awaiting (hrec ▸ hnone) (hem'.trans hem)
  | collecting hcol hem => exact .collecting (hrec ▸ hcol) (hem'.trans hem)

end Step

/-! ### Runs -/

section Runs

variable {c c₀ c₁ c₂ : SdoClient} {h : List (ClientAction × ClientEvent)} {a : ClientAction}
  {e : ClientEvent} {now₀ : UInt64}

/-- The upload goes on with this history, or it has ended. -/
structure UploadingOrEnded (nodeId : UInt8) (idx : UInt16) (sub : UInt8)
    (h : List (ClientAction × ClientEvent)) (c : SdoClient) : Prop where
  pendingTx : c.pendingTx = none
  state : c.state = .idle ∨ ∃ u, c.state = .uploading u ∧ UploadTrace nodeId idx sub h u

/-- **One step of the client**: the history goes on, or an outcome is a value that the
frame completes. -/
theorem UploadingOrEnded.step (hc : UploadingOrEnded nodeId idx sub h c₁)
    (hs : (clientMachine tgt).step c₁ a = some (e, c₂)) :
    UploadingOrEnded nodeId idx sub (h ++ [(a, e)]) c₂ ∧
      ∀ outcome, e.result = .ok (some outcome) → ∃ f now v, a = .handleFrame f now ∧
        outcome = .uploadCompleted v ∧ e.tx = none ∧
          CompletesUpload nodeId idx sub (received h) f v := by
  have hnone := pendingTx_of_clientStep hs
  obtain ⟨htx, hidle | ⟨u, hst, hu⟩⟩ := hc
  · -- it has ended, and nothing starts it again
    obtain ⟨hidle', -, hres⟩ := clientStep_of_idle hidle htx hs
    exact ⟨⟨hnone, .inl hidle'⟩, fun outcome ho => absurd ho (hres outcome)⟩
  · rcases clientStep_cases hs with ⟨now, rfl, rfl, rfl⟩ | ⟨now, rfl, rfl, hidle⟩ |
      ⟨f, now, r, c₃, rfl, hstep, rfl, rfl⟩
    · rw [htx]
      exact ⟨⟨rfl, .inr ⟨u, hst, hu.notDue⟩⟩, fun outcome ho => (by cases ho)⟩
    · exact ⟨⟨hnone, .inl hidle⟩, fun outcome ho => (by cases ho)⟩
    · cases hu.frame hst htx hstep with
      | ignored htx' hst' hu' =>
        rw [htx']
        exact ⟨⟨rfl, .inr ⟨_, hst', hu'⟩⟩, fun outcome ho => (by cases ho)⟩
      | continued _ htx' hst' hu' =>
        rw [htx']
        exact ⟨⟨rfl, .inr ⟨_, hst', hu'⟩⟩, fun outcome ho => (by cases ho)⟩
      | @completed v hv htx' hidle =>
        refine ⟨⟨rfl, .inl hidle⟩, ?_⟩
        intro outcome ho
        cases ho
        exact ⟨f, now, v, rfl, rfl, htx', hv⟩
      | failed hidle => exact ⟨⟨rfl, .inl hidle⟩, fun outcome ho => (by cases ho)⟩

/-- **A frame that is emitted** is the next request, after a response that was accepted and is
not the last, or the abort frame, with the error that ends the upload. -/
theorem UploadingOrEnded.emits (hc : UploadingOrEnded nodeId idx sub h c₁)
    (hs : (clientMachine tgt).step c₁ a = some (e, c₂)) {g : SdoFrame} (hg : e.tx = some g) :
    (e.result = .ok none ∧ g = segmentRequest nodeId (emitted h).length ∧
        ∃ f now, a = .handleFrame f now ∧
          ContinuesUpload nodeId idx sub (received h) f (emitted h).length) ∨
      ∃ code, e.result = .error (.clientAborted code) ∧ g = abortFrame nodeId idx sub code := by
  obtain ⟨htx, hidle | ⟨u, hst, hu⟩⟩ := hc
  · cases (clientStep_of_idle hidle htx hs).2.1.symm.trans hg
  · have ht := hu.transfer hst
    rcases clientStep_cases hs with ⟨now, rfl, rfl, rfl⟩ | ⟨now, rfl, rfl, -⟩ |
      ⟨f, now, r, c₃, rfl, hstep, rfl, rfl⟩
    · cases htx.symm.trans hg
    · exact .inr (eq_abortFrame_of_error ht hs rfl hg)
    · cases hu.frame hst htx hstep with
      | ignored htx' => cases htx'.symm.trans hg
      | continued hf htx' =>
        obtain rfl := hf.eq_length hu
        exact .inl ⟨rfl, Option.some.inj (hg.symm.trans htx'), f, now, rfl, hf⟩
      | completed _ htx' => cases htx'.symm.trans hg
      | failed => exact .inr (eq_abortFrame_of_error ht hs rfl hg)

/-- When the upload has ended nothing is emitted. -/
theorem UploadingOrEnded.silent (hc : UploadingOrEnded nodeId idx sub h c₁)
    (hidle : c₁.state = .idle) (hs : (clientMachine tgt).step c₁ a = some (e, c₂)) :
    e.tx = none :=
  (clientStep_of_idle hidle hc.pendingTx hs).2.1

/-- An upload that has just been started. -/
theorem uploading_start (hb : c.beginUpload nodeId idx sub now₀ = (.ok (), c₀)) :
    c₀.pendingTx = some (initUploadRequest nodeId idx sub) ∧
      UploadingOrEnded nodeId idx sub [] c₀.drained := by
  rcases c.beginUpload_cases nodeId idx sub now₀ with ⟨err, he⟩ | ⟨-, -, he⟩
  · rw [he] at hb
    cases hb
  · rw [he] at hb
    cases hb
    exact ⟨rfl, rfl, .inr ⟨_, rfl, .awaiting (fun g hg => (by cases hg)) rfl⟩⟩

/-- A frame that continues the upload is answered with the next request, if what is reserved
for it can be. -/
theorem UploadTrace.answered {u : UploadCtx} {f : SdoFrame} {k : ℕ} (now : UInt64)
    (hu : UploadTrace nodeId idx sub h u) (hst : c₁.state = .uploading u)
    (hf : ContinuesUpload nodeId idx sub (received h) f k) (hover : ¬ c₁.Overreserves tgt f) :
    ∃ c₂, (clientMachine tgt).step c₁ (.handleFrame f now)
      = some (⟨.ok none, some (segmentRequest nodeId k)⟩, c₂) := by
  obtain ⟨r, c₃, hstep⟩ : ∃ r c₃, ClientStep tgt c₁ f now r c₃ :=
    SdoClient.exists_step_of_not_overreserves (hst ▸ hu.consistent) hover
  obtain ⟨rfl, htx, -⟩ := hu.continued hst hf hstep
  have hs := hstep.clientStep
  rw [htx] at hs
  exact ⟨_, hs⟩

end Runs

/-! ### A run -/

end CanopenSdo
