import CanopenSdo.ClientRun

/-!
# The frames of a download

Against any peer the client of a download emits one fixed sequence of frames, one after
the other, each but the first when the one before it has been acknowledged, and reports
completion when the last one has been.

## Main definitions

* `downloadSequence` — the sequence.
* `Acks` — the frame acknowledges the `p`-th of them.
* `Sending` — what holds of the client while it sends.

## Main results

* `Sending.step` — one step of the client.
* `download_stream` — **the stream is right against any server.**
-/

namespace CanopenSdo

open Wire

variable {tgt : Target} {nodeId : UInt8} {idx : UInt16} {sub : UInt8} {d : List UInt8}

/-! ### The sequence -/

/-- All frames of a download: a payload of up to four bytes in the init frame, or the
init frame with the length, and the segments. -/
def downloadSequence (nodeId : UInt8) (idx : UInt16) (sub : UInt8) (d : List UInt8) :
    List SdoFrame :=
  if d.length ≤ 4 then [initDownloadRequest nodeId idx sub d]
  else initDownloadRequest nodeId idx sub d ::
    (List.range (d.length ⌈/⌉ 7)).map (downloadSegment nodeId d)

/-- The frame acknowledges frame `p` of a download: the init frame with an init response
of the object, segment `k` with a segment response with its toggle. -/
def Acks (nodeId : UInt8) (idx : UInt16) (sub : UInt8) (p : ℕ) (f : SdoFrame) : Prop :=
  SdoFrame.nodeOfTsdo f.cobId = some nodeId ∧
    match p with
    | 0 => f.cs = scsInitDownload ∧ f.Names idx sub
    | k + 1 => f.cs = scsDownloadSegment ∧ f.toggle = alternate k

/-- How many frames a download has. -/
def downloadCount (d : List UInt8) : ℕ := if d.length ≤ 4 then 1 else d.length ⌈/⌉ 7 + 1

theorem downloadSequence_eq_map : downloadSequence nodeId idx sub d
    = (List.range (downloadCount d)).map (downloadRequest nodeId idx sub d) := by
  unfold downloadSequence downloadCount
  split
  · rfl
  · rw [List.range_succ_eq_map, List.map_cons, List.map_map]
    rfl

/-- The first frames of a download. -/
theorem take_downloadSequence {p : ℕ} (h : p < downloadCount d) :
    (downloadSequence nodeId idx sub d).take (p + 1)
      = (List.range (p + 1)).map (downloadRequest nodeId idx sub d) := by
  rw [downloadSequence_eq_map, ← List.map_take, List.take_range, Nat.min_eq_left h]

/-- Frame `p` of a download. -/
theorem getElem?_downloadSequence {p : ℕ} (h : p < downloadCount d) :
    (downloadSequence nodeId idx sub d)[p]? = some (downloadRequest nodeId idx sub d p) := by
  rw [downloadSequence_eq_map, List.getElem?_map, List.getElem?_range h]
  rfl

/-- A segment follows frame `p` exactly if payload is left. -/
theorem succ_lt_downloadCount {k : ℕ} (h : ¬ d.length ≤ 4) :
    k + 2 < downloadCount d ↔ 7 * (k + 1) < d.length := by
  have hceil := ceilDiv_le_iff_le_mul (a := 7) (b := d.length) (c := k + 1) (by decide)
  rw [downloadCount, if_neg h]
  omega

theorem one_lt_downloadCount (h : ¬ d.length ≤ 4) : 1 < downloadCount d := by
  have hceil := ceilDiv_le_iff_le_mul (a := 7) (b := d.length) (c := 0) (by decide)
  rw [downloadCount, if_neg h]
  omega

/-! ### While it sends -/

/-- The client has sent the frames up to `p` and waits for the acknowledgement of `p`. -/
structure Sending (nodeId : UInt8) (idx : UInt16) (sub : UInt8) (d : List UInt8)
    (h : List (ClientAction × ClientEvent)) (c : SdoClient) (p : ℕ) : Prop where
  state : c.state = .downloading (.sent nodeId idx sub d p)
  pendingTx : c.pendingTx = none
  frames : initDownloadRequest nodeId idx sub d :: emitted h
    = (List.range (p + 1)).map (downloadRequest nodeId idx sub d)
  lt : p < downloadCount d

section Step

variable {c c' c₁ : SdoClient} {h : List (ClientAction × ClientEvent)} {a : ClientAction}
  {e : ClientEvent} {p : ℕ} {f : SdoFrame} {now : UInt64} {r : SdoResult (Option SdoOutcome)}

theorem Sending.length_emitted (hc : Sending nodeId idx sub d h c p) : (emitted h).length = p := by
  have hlen := congrArg List.length hc.frames
  simpa using hlen

/-- A step that changes nothing. -/
theorem Sending.same (hc : Sending nodeId idx sub d h c p) (he : e.tx = none)
    (hstate : c'.state = c.state) (htx : c'.pendingTx = none) :
    Sending nodeId idx sub d (h ++ [(a, e)]) c' p where
  state := hstate.trans hc.state
  pendingTx := htx
  frames := by rw [emitted_append_singleton, he, Option.toList_none, List.append_nil, hc.frames]
  lt := hc.lt

/-- A step that sends the next frame. -/
theorem Sending.next (hc : Sending nodeId idx sub d h c p)
    (he : e.tx = some (downloadRequest nodeId idx sub d (p + 1)))
    (hstate : c'.state = .downloading (.sent nodeId idx sub d (p + 1))) (htx : c'.pendingTx = none)
    (hlt : p + 1 < downloadCount d) : Sending nodeId idx sub d (h ++ [(a, e)]) c' (p + 1) where
  state := hstate
  pendingTx := htx
  frames := by
    rw [emitted_append_singleton, he, Option.toList_some, ← List.cons_append, hc.frames,
      List.range_succ (n := p + 1), List.map_append]
    rfl
  lt := hlt

/-- An acknowledgement of frame `p` takes an exit: the download has completed, or the next
frame is sent. -/
theorem Sending.acked (hc : Sending nodeId idx sub d h c p) (hack : Acks nodeId idx sub p f)
    (tgt : Target) (now : UInt64) :
    ∃ r c₁, ClientStep tgt c f now r c₁ ∧
      ((r = .ok (some .downloadCompleted) ∧ p + 1 = downloadCount d ∧ c₁.state = .idle) ∨
        (r = .ok none ∧ c₁.pendingTx = some (downloadRequest nodeId idx sub d (p + 1)) ∧
          c₁.state = .downloading (.sent nodeId idx sub d (p + 1)) ∧ p + 1 < downloadCount d)) := by
  have hst := hc.state
  obtain ⟨hn, hkind⟩ := hack
  have hn' : SdoFrame.nodeOfTsdo f.cobId = some (DownloadCtx.sent nodeId idx sub d p).nodeId := by
    rw [DownloadCtx.nodeId_sent]
    exact hn
  cases p with
  | zero =>
    by_cases h₄ : d.length ≤ 4
    · have hph : (DownloadCtx.sent nodeId idx sub d 0).phase = .awaitingInit true := by
        simp [DownloadCtx.sent, DownloadCtx.start, h₄]
      exact ⟨_, _, .downloadExpedited hst hn' hph hkind.1 hkind.2,
        .inl ⟨rfl, (if_pos h₄).symm, rfl⟩⟩
    · have hph : (DownloadCtx.sent nodeId idx sub d 0).phase = .awaitingInit false := by
        simp [DownloadCtx.sent, DownloadCtx.start, h₄]
      exact ⟨_, _, .downloadInit hst hn' hph hkind.1 hkind.2 (by simp),
        .inr ⟨rfl, SdoClient.pendingTx_sendSegment d 0, rfl, one_lt_downloadCount h₄⟩⟩
  | succ k =>
    have hph := DownloadCtx.phase_sent_succ nodeId idx sub d k
    -- the expected toggle is that of the segment just sent
    have htoggle : f.toggle = !(DownloadCtx.sent nodeId idx sub d (k + 1)).nextToggle := by
      rw [hkind.2]
      simp
    have hlt := hc.lt
    have h₄ : ¬ d.length ≤ 4 := by
      intro h₄
      rw [downloadCount, if_pos h₄] at hlt
      omega
    have hcount := succ_lt_downloadCount (k := k) h₄
    by_cases hlast : d.length ≤ 7 * (k + 1)
    · rw [decide_eq_true hlast] at hph
      exact ⟨_, _, .downloadLast hst hn' hph hkind.1 htoggle, .inl ⟨rfl, by omega, rfl⟩⟩
    · rw [decide_eq_false hlast] at hph
      exact ⟨_, _, .downloadMore hst hn' hph hkind.1 htoggle (by simp),
        .inr ⟨rfl, SdoClient.pendingTx_sendSegment d (k + 1), rfl, by omega⟩⟩

/-- The response the client waits for: an acknowledgement of frame `p`, after which the
download has completed or the next frame is sent; or a segment response with the wrong
toggle. -/
theorem Sending.answered (hc : Sending nodeId idx sub d h c p)
    (hn : SdoFrame.nodeOfTsdo f.cobId = some nodeId) (hstep : ClientStep tgt c f now r c₁)
    (ha : (DownloadCtx.sent nodeId idx sub d p).Awaits f) :
    (Acks nodeId idx sub p f ∧ r = .ok (some .downloadCompleted) ∧ p + 1 = downloadCount d ∧
        c₁.state = .idle) ∨
      (Acks nodeId idx sub p f ∧ r = .ok none ∧
        c₁.pendingTx = some (downloadRequest nodeId idx sub d (p + 1)) ∧
          c₁.state = .downloading (.sent nodeId idx sub d (p + 1)) ∧ p + 1 < downloadCount d) ∨
        (∃ err, r = .error err) ∧ c₁.state = .idle := by
  by_cases hack : Acks nodeId idx sub p f
  · obtain ⟨r', c', hstep', hcases⟩ := hc.acked hack tgt now
    obtain ⟨rfl, rfl⟩ := hstep.unique hstep'
    rcases hcases with hdone | hnext
    · exact .inl ⟨hack, hdone⟩
    · exact .inr (.inl ⟨hack, hnext⟩)
  · cases p with
    | zero => exact absurd ⟨hn, ha⟩ hack
    | succ k =>
      have hph := DownloadCtx.phase_sent_succ nodeId idx sub d k
      have hcs : f.cs = scsDownloadSegment := by
        unfold DownloadCtx.Awaits at ha
        rwa [hph] at ha
      -- a segment response is no acknowledgement for its toggle only
      have htoggle : f.toggle ≠ !(DownloadCtx.sent nodeId idx sub d (k + 1)).nextToggle := by
        intro ht
        exact hack ⟨hn, hcs, by simpa using ht⟩
      have hn' : SdoFrame.nodeOfTsdo f.cobId
          = some (DownloadCtx.sent nodeId idx sub d (k + 1)).nodeId := by
        rw [DownloadCtx.nodeId_sent]
        exact hn
      obtain ⟨rfl, rfl⟩ := hstep.unique (.downloadToggle hc.state hn' hph hcs htoggle)
      exact .inr (.inr ⟨⟨_, rfl⟩, rfl⟩)

/-- **One step of a client that sends**: nothing happens; or frame `p` is acknowledged, and
the next one is sent or the download has completed; or the download is aborted. -/
theorem Sending.step (hc : Sending nodeId idx sub d h c p)
    (hs : (clientMachine tgt).step c a = some (e, c')) :
    (e.result = .ok none ∧ e.tx = none ∧ Sending nodeId idx sub d (h ++ [(a, e)]) c' p) ∨
      (∃ f now, a = .handleFrame f now ∧ Acks nodeId idx sub p f ∧
        e = ⟨.ok none, some (downloadRequest nodeId idx sub d (p + 1))⟩ ∧
          Sending nodeId idx sub d (h ++ [(a, e)]) c' (p + 1)) ∨
      (∃ f now, a = .handleFrame f now ∧ Acks nodeId idx sub p f ∧
        e.result = .ok (some .downloadCompleted) ∧ p + 1 = downloadCount d ∧ c'.state = .idle) ∨
      (∃ err, e.result = .error err) ∧ c'.state = .idle := by
  rcases clientStep_cases hs with ⟨now, rfl, rfl, rfl⟩ | ⟨now, rfl, rfl, hidle⟩ |
    ⟨f, now, r, c₁, rfl, hstep, rfl, rfl⟩
  · exact .inl ⟨rfl, hc.pendingTx, hc.same hc.pendingTx rfl rfl⟩
  · exact .inr (.inr (.inr ⟨⟨_, rfl⟩, hidle⟩))
  · by_cases hans : c.Answers f
    · unfold SdoClient.Answers at hans
      simp only [hc.state, DownloadCtx.nodeId_sent, DownloadCtx.idx_sent,
        DownloadCtx.sub_sent] at hans
      obtain ⟨hn, ⟨hcs, hm⟩ | ha⟩ := hans
      · have ht : c.transfer = some (nodeId, idx, sub) := by
          simp [SdoClient.transfer, hc.state]
        obtain ⟨rfl, rfl⟩ := hstep.unique (.serverAbort ht hn hcs hm)
        exact .inr (.inr (.inr ⟨⟨_, rfl⟩, rfl⟩))
      · rcases hc.answered hn hstep ha with ⟨hack, hr, hp, hst⟩ | ⟨hack, hr, htx, hst, hlt⟩ |
          ⟨hr, hst⟩
        · exact .inr (.inr (.inl ⟨f, now, rfl, hack, hr, hp, hst⟩))
        · exact .inr (.inl ⟨f, now, rfl, hack, by rw [hr, htx], hc.next htx hst rfl hlt⟩)
        · exact .inr (.inr (.inr ⟨hr, hst⟩))
    · obtain ⟨rfl, rfl⟩ := hstep.unique (.ignored hans)
      exact .inl ⟨rfl, hc.pendingTx, hc.same hc.pendingTx rfl rfl⟩

end Step

/-! ### Runs -/

section Runs

variable {c c₀ c₁ c₂ : SdoClient} {h : List (ClientAction × ClientEvent)} {a : ClientAction}
  {e : ClientEvent} {now₀ : UInt64}

/-- The client sends, or its download has ended. -/
def SendingOrEnded (nodeId : UInt8) (idx : UInt16) (sub : UInt8) (d : List UInt8)
    (h : List (ClientAction × ClientEvent)) (c : SdoClient) : Prop :=
  (∃ p, Sending nodeId idx sub d h c p) ∨ (c.state = .idle ∧ c.pendingTx = none)

theorem SendingOrEnded.step (hc : SendingOrEnded nodeId idx sub d h c₁)
    (hs : (clientMachine tgt).step c₁ a = some (e, c₂)) :
    SendingOrEnded nodeId idx sub d (h ++ [(a, e)]) c₂ := by
  have htx := pendingTx_of_clientStep hs
  rcases hc with ⟨p, hc⟩ | ⟨hidle, hnone⟩
  · rcases hc.step hs with ⟨-, -, h'⟩ | ⟨f, now, -, -, -, h'⟩ | ⟨f, now, -, -, -, -, hst⟩ | ⟨-, hst⟩
    · exact .inl ⟨p, h'⟩
    · exact .inl ⟨p + 1, h'⟩
    · exact .inr ⟨hst, htx⟩
    · exact .inr ⟨hst, htx⟩
  · exact .inr ⟨(clientStep_of_idle hidle hnone hs).1, htx⟩

/-- While the client sends, what it has emitted is a beginning of the sequence. -/
theorem SendingOrEnded.beginning (hc : SendingOrEnded nodeId idx sub d h c₁) (hne : c₁.state ≠ .idle) :
    initDownloadRequest nodeId idx sub d :: emitted h <+: downloadSequence nodeId idx sub d := by
  rcases hc with ⟨p, hc⟩ | ⟨hidle, -⟩
  · rw [hc.frames, ← take_downloadSequence hc.lt]
    exact List.take_prefix _ _
  · exact absurd hidle hne

/-- Completion is reported when everything has been emitted and the last frame is
acknowledged. -/
theorem SendingOrEnded.completed (hc : SendingOrEnded nodeId idx sub d h c₁)
    (hs : (clientMachine tgt).step c₁ a = some (e, c₂)) {outcome : SdoOutcome}
    (ho : e.result = .ok (some outcome)) :
    outcome = .downloadCompleted ∧
      initDownloadRequest nodeId idx sub d :: emitted h = downloadSequence nodeId idx sub d ∧
        ∃ f now, a = .handleFrame f now ∧ Acks nodeId idx sub (emitted h).length f := by
  rcases hc with ⟨p, hc⟩ | ⟨hidle, hnone⟩
  · rcases hc.step hs with ⟨hres, -, -⟩ | ⟨f, now, -, -, hres, -⟩ |
      ⟨f, now, ha, hack, hres, hp, -⟩ | ⟨⟨err, hres⟩, -⟩
    · cases hres.symm.trans ho
    · subst hres
      cases ho
    · -- the last frame was acknowledged
      cases hres.symm.trans ho
      refine ⟨rfl, ?_, f, now, ha, ?_⟩
      · rw [hc.frames, hp, downloadSequence_eq_map]
      · rw [hc.length_emitted]
        exact hack
    · cases hres.symm.trans ho
  · exact absurd ho ((clientStep_of_idle hidle hnone hs).2.2 outcome)

/-- **A frame that is emitted** is the next one of the sequence, after an acknowledgement of
the last one, or the abort frame, with the error that ends the download. -/
theorem SendingOrEnded.emits (hc : SendingOrEnded nodeId idx sub d h c₁)
    (hs : (clientMachine tgt).step c₁ a = some (e, c₂)) {g : SdoFrame} (hg : e.tx = some g) :
    (e.result = .ok none ∧ (downloadSequence nodeId idx sub d)[(emitted h).length + 1]? = some g ∧
        ∃ f now, a = .handleFrame f now ∧ Acks nodeId idx sub (emitted h).length f) ∨
      ∃ code, e.result = .error (.clientAborted code) ∧ g = abortFrame nodeId idx sub code := by
  rcases hc with ⟨p, hc⟩ | ⟨hidle, hnone⟩
  · have ht : c₁.transfer = some (nodeId, idx, sub) := by simp [SdoClient.transfer, hc.state]
    rw [hc.length_emitted]
    rcases hc.step hs with ⟨-, htx, -⟩ | ⟨f, now, ha, hack, rfl, h'⟩ |
      ⟨f, now, ha, hack, hres, -⟩ | ⟨⟨err, hres⟩, -⟩
    · cases htx.symm.trans hg
    · obtain rfl := Option.some.inj hg
      exact .inl ⟨rfl, getElem?_downloadSequence h'.lt, f, now, ha, hack⟩
    · -- nothing is emitted with the outcome
      cases (tx_of_outcome hs hres).symm.trans hg
    · exact .inr (eq_abortFrame_of_error ht hs hres hg)
  · cases (clientStep_of_idle hidle hnone hs).2.1.symm.trans hg

/-- When the download has ended nothing is emitted. -/
theorem SendingOrEnded.silent (hc : SendingOrEnded nodeId idx sub d h c₁) (hidle : c₁.state = .idle)
    (hs : (clientMachine tgt).step c₁ a = some (e, c₂)) : e.tx = none := by
  rcases hc with ⟨p, hc⟩ | ⟨-, hnone⟩
  · cases hc.state.symm.trans hidle
  · exact (clientStep_of_idle hidle hnone hs).2.1

/-- A download that has just been started. -/
theorem sending_start (hb : c.beginDownload nodeId idx sub d now₀ = .ok (.ok (), c₀)) :
    c₀.pendingTx = some (initDownloadRequest nodeId idx sub d) ∧
      Sending nodeId idx sub d [] c₀.drained 0 := by
  rcases c.beginDownload_cases nodeId idx sub d now₀ with ⟨err, he⟩ | ⟨-, -, hd, he⟩
  · rw [he] at hb
    cases hb
  · rw [he] at hb
    cases hb
    refine ⟨rfl, rfl, rfl, rfl, ?_⟩
    unfold downloadCount
    split <;> omega

/-- Along every run of a download the client sends, or its download has ended. -/
theorem sendingOrEnded_run (hb : c.beginDownload nodeId idx sub d now₀ = .ok (.ok (), c₀))
    (hr : (clientMachine tgt).Run c₀.drained h c₁) : SendingOrEnded nodeId idx sub d h c₁ :=
  hr.invariant (P := SendingOrEnded nodeId idx sub d) (.inl ⟨0, (sending_start hb).2⟩)
    fun _ _ _ _ _ hc hs => hc.step hs

/-- **The stream of a download is right against any server.**  Whatever frames arrive: while
the download goes on, what has been emitted is a beginning of the sequence; a step emits
only the next frame of it, when the last one has been acknowledged, or the abort frame, with
the error that ends the download, and nothing after the end; and completion is reported only
when all have been emitted and the last one has been acknowledged. -/
theorem download_stream (hb : c.beginDownload nodeId idx sub d now₀ = .ok (.ok (), c₀))
    (hr : (clientMachine tgt).Run c₀.drained h c₁) :
    c₀.pendingTx = some (initDownloadRequest nodeId idx sub d) ∧
    (c₁.state ≠ .idle →
      initDownloadRequest nodeId idx sub d :: emitted h <+: downloadSequence nodeId idx sub d) ∧
    ∀ a e c₂, (clientMachine tgt).step c₁ a = some (e, c₂) →
      (∀ g, e.tx = some g →
        (e.result = .ok none ∧
            (downloadSequence nodeId idx sub d)[(emitted h).length + 1]? = some g ∧
            ∃ f now, a = .handleFrame f now ∧ Acks nodeId idx sub (emitted h).length f) ∨
          ∃ code, e.result = .error (.clientAborted code) ∧
            g = ⟨SdoFrame.rsdoId nodeId, Wire.abort idx sub code⟩) ∧
      (c₁.state = .idle → e.tx = none) ∧
      (∀ outcome, e.result = .ok (some outcome) → outcome = .downloadCompleted ∧
        initDownloadRequest nodeId idx sub d :: emitted h = downloadSequence nodeId idx sub d ∧
          ∃ f now, a = .handleFrame f now ∧ Acks nodeId idx sub (emitted h).length f) := by
  have hlast := sendingOrEnded_run hb hr
  refine ⟨(sending_start hb).1, hlast.beginning, ?_⟩
  intro a e c₂ hs
  refine ⟨?_, ?_, ?_⟩
  · intro g hg
    exact hlast.emits hs hg
  · intro hidle
    exact hlast.silent hidle hs
  · intro outcome ho
    exact hlast.completed hs ho

end Runs

/-! ### A run -/

/-- The client of a download of 8 bytes. -/
def downloadClient : SdoClient :=
  (SdoClient.new .default).downloadStarted 0x10 0x2000 0 [8, 7, 6, 5, 4, 3, 2, 1] 0

/-- The acknowledgements of the init frame and the first segment, with others between them:
of a segment, of another object, and from another node. -/
def strayAcks : List (ClientAction × ClientEvent) × SdoClient :=
  ((clientMachine .bits64).exec downloadClient.drained
    [.handleFrame (segmentAck 0x10 0) 1, .handleFrame (initAck 0x10 0x2000 1) 2,
      .handleFrame (initAck 0x10 0x2000 0) 3, .handleFrame (initAck 0x10 0x2000 0) 4,
      .handleTimeout 5, .handleFrame (segmentAck 0x11 0) 6,
      .handleFrame (segmentAck 0x10 0) 7]).get rfl

theorem run_strayAcks :
    (clientMachine .bits64).Run downloadClient.drained strayAcks.1 strayAcks.2 :=
  Machine.run_exec_get _

/-- The acknowledgement of the second segment completes the download, and one with the wrong
toggle is answered with the abort frame. -/
theorem download_stream_strayAcks :
    initDownloadRequest 0x10 0x2000 0 [8, 7, 6, 5, 4, 3, 2, 1] :: emitted strayAcks.1
      = downloadSequence 0x10 0x2000 0 [8, 7, 6, 5, 4, 3, 2, 1] ∧
    ∃ e c₂ code, (clientMachine .bits64).step strayAcks.2 (.handleFrame (segmentAck 0x10 0) 8)
        = some (e, c₂) ∧ e.result = .error (.clientAborted code) ∧
      e.tx = some ⟨SdoFrame.rsdoId 0x10, Wire.abort 0x2000 0 code⟩ := by
  have hb : (SdoClient.new .default).beginDownload 0x10 0x2000 0 [8, 7, 6, 5, 4, 3, 2, 1] 0
      = .ok (.ok (), downloadClient) := rfl
  obtain ⟨-, -, hsteps⟩ := download_stream hb run_strayAcks
  constructor
  · have hs : (clientMachine .bits64).step strayAcks.2 (.handleFrame (segmentAck 0x10 1) 8)
        = some (⟨.ok (some .downloadCompleted), none⟩, strayAcks.2.clearTransfer.drained) := rfl
    exact ((hsteps _ _ _ hs).2.2 _ rfl).2.1
  · have hs : (clientMachine .bits64).step strayAcks.2 (.handleFrame (segmentAck 0x10 0) 8)
        = some (⟨.error (.clientAborted .toggleBitNotAlternated),
            some (abortFrame 0x10 0x2000 0 .toggleBitNotAlternated)⟩,
          strayAcks.2.clearTransfer.drained) := rfl
    rcases (hsteps _ _ _ hs).1 _ rfl with ⟨hok, -⟩ | ⟨code, hres, hg⟩
    · cases hok
    · exact ⟨_, _, code, hs, hres, congrArg some hg⟩

end CanopenSdo
