import CanopenSdo.Answer
import CanopenSdo.Bus

/-!
# Sessions

A transfer is a stop-and-wait exchange: the client sends request `p` and waits for
answer `p`, which makes it send request `p + 1` or ends the transfer; the server, ready
for request `p`, answers it or aborts.  `Session` is that pattern, with what each side
does to it as laws.  The two kinds of transfer are two sessions, and the proofs about
the bus are about any session.

A download session is known when the transfer is opened.  An upload session is known
when the server has read the value; `Protocol` is an opening with the sessions it can
lead to.

## Main definitions

* `Session`, `Protocol`.
* `uploadSession`, `downloadSession`, `uploadProtocol`, `downloadProtocol`.

## Main results

* `ClientStep.of_not_awaits` — what the client does with a frame it does not wait for.
* `ServerStep.answerTo_of_awaits` — what the server sends it is an answer of that kind.
-/

namespace CanopenSdo

open Wire

variable {N : ℕ} {σ : Type}

/-! ### Frames that are not waited for -/

section NotAwaited

variable {tgt : Target} {c c' : SdoClient} {f g : SdoFrame} {now : UInt64}

/-- An abort is waited for in no state. -/
theorem ClientState.not_awaits_abort {st : ClientState} (hf : f.cs = csAbort) : ¬ st.Awaits f := by
  have hne : csAbort ≠ scsInitUpload ∧ csAbort ≠ scsUploadSegment ∧ csAbort ≠ scsInitDownload ∧
      csAbort ≠ scsDownloadSegment := by decide
  intro ha
  cases st with
  | idle => exact ha
  | uploading u =>
    unfold ClientState.Awaits UploadCtx.Awaits at ha
    rw [hf] at ha
    cases hph : u.phase <;> simp only [hph] at ha
    · exact hne.1 ha.1
    · exact hne.2.1 ha
  | downloading d =>
    unfold ClientState.Awaits DownloadCtx.Awaits at ha
    rw [hf] at ha
    cases hph : d.phase <;> simp only [hph] at ha
    · exact hne.2.2.1 ha.1
    · exact hne.2.2.2 ha

/-- A frame the client does not wait for is ignored, or aborts the transfer. -/
theorem ClientStep.of_not_awaits {r : SdoResult (Option SdoOutcome)}
    (h : ClientStep tgt c f now r c') (hf : ¬ c.state.Awaits f) :
    (r = .ok none ∧ c' = c) ∨
      (c'.state = .idle ∧ f.cs = csAbort ∧ ∃ code, r = .error (.serverAborted code)) := by
  unfold ClientState.Awaits UploadCtx.Awaits DownloadCtx.Awaits at hf
  cases h with
  | ignored => exact .inl ⟨rfl, rfl⟩
  | serverAbort ht hn hcs hm => exact .inr ⟨rfl, hcs, _, rfl⟩
  | uploadExpedited hst hn hph hcs hm => simp [hst, hph, hcs, hm] at hf
  | uploadInit hst hn hph hcs hm => simp [hst, hph, hcs, hm] at hf
  | uploadToggle hst hn hph hcs => simp [hst, hph, hcs] at hf
  | uploadMore hst hn hph hcs => simp [hst, hph, hcs] at hf
  | uploadMismatch hst hn hph hcs => simp [hst, hph, hcs] at hf
  | uploadLast hst hn hph hcs => simp [hst, hph, hcs] at hf
  | downloadExpedited hst hn hph hcs hm => simp [hst, hph, hcs, hm] at hf
  | downloadInit hst hn hph hcs hm => simp [hst, hph, hcs, hm] at hf
  | downloadToggle hst hn hph hcs => simp [hst, hph, hcs] at hf
  | downloadMore hst hn hph hcs => simp [hst, hph, hcs] at hf
  | downloadLast hst hn hph hcs => simp [hst, hph, hcs] at hf

/-- An idle client ignores every frame. -/
theorem ClientStep.of_idle {r : SdoResult (Option SdoOutcome)} (h : ClientStep tgt c f now r c')
    (hst : c.state = .idle) : r = .ok none ∧ c' = c := by
  have hna : ¬ c.Answers f := SdoClient.not_answers_of_idle hst
  have heq := (SdoClient.handleFrame_of_not_answers hna).symm.trans h.handleFrame_eq
  cases heq
  exact ⟨rfl, rfl⟩

end NotAwaited

/-! ### The answers of the server -/

section Answers

variable {od : ObjectDictionary σ} {s s' : SdoServer N} {f g : SdoFrame} {now : UInt64} {o o' : σ}
  {r : SdoResult Unit}

/-- What a client waits for is a response of the kind of the request. -/
theorem ServerStep.answerTo_of_awaits (h : ServerStep od s f now o r s' o') (ha : s.Addressed f)
    (hg : s'.pendingTx = some g) {st : ClientState} (haw : st.Awaits g) : AnswerTo f g := by
  rcases h.answer ha with ⟨-, rfl⟩ | ⟨idx, sub, code, -, rfl⟩ | ⟨-, data, htx, hans⟩
  · cases hg
  · obtain rfl := Option.some.inj hg
    exact absurd haw (ClientState.not_awaits_abort (SdoFrame.cs_abort _ idx sub code))
  · obtain rfl := Option.some.inj (htx.symm.trans hg)
    exact hans

/-- A server that is idle aborts on a segment. -/
theorem ServerStep.of_idle (h : ServerStep od s f now o r s' o') (ha : s.Addressed f)
    (hst : s.state = .idle) (hcs : f.cs = ccsUploadSegment ∨ f.cs = ccsDownloadSegment) :
    s' = s.aborted 0 0 .invalidCommandSpecifier := by
  have hret := h.handleFrame_eq
  rcases hcs with hcs | hcs
  · rw [(ServerStep.uploadSegmentUnexpected ha hcs (by simp [hst])).handleFrame_eq] at hret
    simp only [Except.ok.injEq, Prod.mk.injEq] at hret
    exact hret.1.2.symm
  · rw [(ServerStep.downloadSegmentUnexpected ha hcs (by simp [hst])).handleFrame_eq] at hret
    simp only [Except.ok.injEq, Prod.mk.injEq] at hret
    exact hret.1.2.symm

end Answers

/-! ### The pattern -/

/-- A transfer whose init request the server has accepted, against a server of the node
`nodeId` with the dictionary `od`. -/
structure Session (N : ℕ) (tgt : Target) (od : ObjectDictionary σ) (nodeId : UInt8) where
  /-- The client waits for answer `p`. -/
  ctx : ℕ → ClientState
  req : ℕ → SdoFrame
  resp : ℕ → SdoFrame
  /-- The server waits for request `p`. -/
  ready : ℕ → ServerState N → Prop
  /-- The dictionary calls the first `p` requests make. -/
  calls : ℕ → List OdCall
  /-- What the client reports in the end. -/
  outcome : SdoOutcome
  /-- The dictionary calls the whole transfer makes. -/
  total : List OdCall
  req_segment : ∀ p, 1 ≤ p → (req p).cs = ccsUploadSegment ∨ (req p).cs = ccsDownloadSegment
  /-- Answer `p` ends the transfer, or makes the client send request `p + 1`, or the
  client aborts. -/
  client_step : ∀ {c c' : SdoClient} {p : ℕ} {now : UInt64} {r : SdoResult (Option SdoOutcome)},
    c.state = ctx p → c.handleFrame tgt (resp p) now = .ok (r, c') →
      (r = .ok (some outcome) ∧ c' = c.clearTransfer ∧ calls (p + 1) = total) ∨
        (r = .ok none ∧ c'.state = ctx (p + 1) ∧ c'.pendingTx = some (req (p + 1))) ∨
          (∃ code, r = .error (.clientAborted code)) ∧ c'.state = .idle
  /-- A server that is ready for request `p` aborts, or sends answer `p` and has finished
  or is ready for request `p + 1`. -/
  server_step : ∀ {s s' : SdoServer N} {p : ℕ} {now : UInt64} {o o' : σ} {r : SdoResult Unit}
    {log : List OdCall}, s.cfg.nodeId = nodeId → 1 ≤ p → ready p s.state →
      s.handleFrame (req p) now od.recording (o, []) = .ok ((r, s'), (o', log)) →
        s'.HasAborted ∨
          (s'.pendingTx = some (resp p) ∧ calls (p + 1) = calls p ++ log ∧
            (s'.state = .idle ∨ ready (p + 1) s'.state))

/-- An opening with the sessions it can lead to. -/
structure Protocol (N : ℕ) (tgt : Target) (od : ObjectDictionary σ) (nodeId : UInt8) extends
    Opening where
  session : Session N tgt od nodeId → Prop
  /-- What the client waits for first answers an init request of the same kind and for
  the same object. -/
  awaits : ∀ {f g : SdoFrame}, client.Awaits g → AnswerTo f g →
    f.cs = init.cs ∧ f.Names idx sub
  init_isInit : init.IsInit
  object : client.object = some (idx, sub)
  /-- A server in any state aborts on the init request, or a session begins. -/
  opens : ∀ {s s' : SdoServer N} {now : UInt64} {o o' : σ} {r : SdoResult Unit}
    {log : List OdCall}, s.cfg.nodeId = nodeId →
      s.handleFrame init now od.recording (o, []) = .ok ((r, s'), (o', log)) →
        s'.HasAborted ∨
          ∃ S, session S ∧ S.ctx 0 = client ∧ s'.pendingTx = some (S.resp 0) ∧ S.calls 1 = log ∧
            (s'.state = .idle ∨ S.ready 1 s'.state)

/-! ### Uploads -/

section Upload

variable {tgt : Target} {od : ObjectDictionary σ} {nodeId : UInt8}

/-- The client of an upload after `p` answers. -/
def uploadState (nodeId : UInt8) (idx : UInt16) (sub : UInt8) (v : List UInt8) : ℕ → ClientState
  | 0 => .uploading (.start nodeId idx sub)
  | k + 1 => .uploading (.after nodeId idx sub v k)

/-- An announced length the client accepts without a panic can be reserved. -/
theorem initUploadReply_cap (hn : nodeId ≤ 127) {idx : UInt16} {sub : UInt8} {v : List UInt8}
    {c : SdoClient} {now : UInt64} {x : SdoResult (Option SdoOutcome) × SdoClient}
    (hst : c.state = .uploading (.start nodeId idx sub)) (h : ¬ (1 ≤ v.length ∧ v.length ≤ 4))
    (hf : c.handleFrame tgt (initUploadReply nodeId idx sub v) now = .ok x) :
    (UInt32.ofNat v.length).toNat ≤ tgt.isizeMax := by
  rw [initUploadReply, if_neg h] at hf
  have hcap := cap_of_handleFrame hst (SdoFrame.nodeOfTsdo_tsdoId hn) rfl
    (SdoFrame.cs_announceData_upload _ idx sub _) (SdoFrame.names_announceData _ idx sub _ _)
    (SdoFrame.expedited_announceData_upload _ idx sub _) hf (UInt32.ofNat v.length).toNat
  rw [SdoFrame.announced_eq_map, SdoFrame.announcedWord_announceData_upload] at hcap
  have hle := hcap rfl
  rwa [UploadCtx.start, List.length_nil, Nat.zero_add] at hle

/-- What has arrived with a segment the client accepts without a panic can be reserved. -/
theorem uploadSegment_cap (hn : nodeId ≤ 127) {idx : UInt16} {sub : UInt8} {v : List UInt8}
    {k : ℕ} {c : SdoClient} {now : UInt64} {x : SdoResult (Option SdoOutcome) × SdoClient}
    (hst : c.state = .uploading (.after nodeId idx sub v k))
    (hf : c.handleFrame tgt (uploadSegment nodeId v k) now = .ok x) :
    (v.take (7 * (k + 1))).length ≤ tgt.isizeMax := by
  have hcap := cap_of_handleFrame_segment hst (SdoFrame.nodeOfTsdo_tsdoId hn) rfl
    (SdoClient.cs_uploadSegment k) (SdoClient.toggle_uploadSegment k) hf
  rwa [SdoClient.length_received_add_uploadSegment] at hcap

/-- What the client of an upload does with answer `p`.  A value of 2^32 bytes or more is
announced with a wrong length, and the client aborts at its end. -/
theorem upload_client_step (hn : nodeId ≤ 127) {idx : UInt16} {sub : UInt8} {v : List UInt8}
    {c c' : SdoClient} {p : ℕ} {now : UInt64} {r : SdoResult (Option SdoOutcome)}
    (hst : c.state = uploadState nodeId idx sub v p)
    (hf : c.handleFrame tgt (uploadReply nodeId idx sub v p) now = .ok (r, c')) :
    (r = .ok (some (.uploadCompleted v)) ∧ c' = c.clearTransfer) ∨
      (r = .ok none ∧ c'.state = uploadState nodeId idx sub v (p + 1) ∧
          c'.pendingTx = some (uploadRequest nodeId idx sub (p + 1))) ∨
        (∃ code, r = .error (.clientAborted code)) ∧ c'.state = .idle := by
  cases p with
  | zero =>
    unfold uploadReply at hf
    by_cases h : 1 ≤ v.length ∧ v.length ≤ 4
    · rw [SdoClient.handleFrame_initUploadReply_expedited hn hst h] at hf
      cases hf
      exact .inl ⟨rfl, rfl⟩
    · -- `handle_frame` has returned, so it could reserve what was announced
      have hcap : (UInt32.ofNat v.length).toNat ≤ tgt.isizeMax :=
        initUploadReply_cap hn hst h hf
      rw [SdoClient.handleFrame_initUploadReply hn hst h hcap] at hf
      cases hf
      exact .inr (.inl ⟨rfl, rfl, SdoClient.pendingTx_requestSegment _ _⟩)
  | succ k =>
    unfold uploadReply at hf
    have hcap : (v.take (7 * (k + 1))).length ≤ tgt.isizeMax := uploadSegment_cap hn hst hf
    by_cases hlast : v.length ≤ 7 * (k + 1)
    · -- the announced length is a 32-bit word, and only then the length of the value
      by_cases hv : v.length < 2 ^ 32
      · rw [SdoClient.handleFrame_uploadSegment_last hn hst hlast hv hcap] at hf
        cases hf
        exact .inl ⟨rfl, rfl⟩
      · rw [SdoClient.handleFrame_uploadSegment_mismatch hn hst hlast hv hcap] at hf
        cases hf
        exact .inr (.inr ⟨⟨_, rfl⟩, rfl⟩)
    · rw [SdoClient.handleFrame_uploadSegment_more hn hst (by omega) hcap] at hf
      cases hf
      exact .inr (.inl ⟨rfl, rfl, SdoClient.pendingTx_requestSegment _ _⟩)

/-- The session of an upload of `buf[..len]`. -/
def uploadSession (hn : nodeId ≤ 127) (idx : UInt16) (sub : UInt8) (buf : Bytes N) (len : ℕ)
    (hlen : len ≤ N) : Session N tgt od nodeId where
  ctx := uploadState nodeId idx sub (buf.data.take len)
  req := uploadRequest nodeId idx sub
  resp := uploadReply nodeId idx sub (buf.data.take len)
  ready
    | 0, _ => False
    | k + 1, st => st = .uploading idx sub buf len (7 * k) (alternate k) ∧ 7 * k ≤ len
  calls
    | 0 => []
    | _ + 1 => [.read idx sub (.ok len) buf.data]
  outcome := .uploadCompleted (buf.data.take len)
  total := [.read idx sub (.ok len) buf.data]
  req_segment := by
    rintro (- | k) hp
    · omega
    · exact .inl (SdoFrame.cs_uploadSegmentRequest _ _)
  client_step := by
    intro c c' p now r hst hf
    rcases upload_client_step hn hst hf with ⟨hr, hc⟩ | h
    · exact .inl ⟨hr, hc, rfl⟩
    · exact .inr h
  server_step := by
    rintro s s' (- | k) now o o' r log hs hp hr hf
    · omega
    · obtain ⟨hst, hk⟩ := hr
      by_cases hlast : len ≤ 7 * (k + 1)
      · rw [uploadRequest, SdoServer.handleFrame_segmentRequest_last hn hs hst hlen hk hlast] at hf
        cases hf
        exact .inr ⟨SdoServer.pendingTx_answered_data hs rfl, by simp, .inl rfl⟩
      · rw [uploadRequest,
          SdoServer.handleFrame_segmentRequest_more hn hs hst hlen (by omega)] at hf
        cases hf
        exact .inr ⟨SdoServer.pendingTx_serving_data hs rfl, by simp, .inr ⟨rfl, by omega⟩⟩

/-- The protocol of an upload: the session depends on the value the server reads. -/
def uploadProtocol (hn : nodeId ≤ 127) (idx : UInt16) (sub : UInt8) : Protocol N tgt od nodeId where
  toOpening := .upload nodeId idx sub
  session := fun S => ∃ buf len, ∃ hlen : len ≤ N, S = uploadSession hn idx sub buf len hlen
  awaits := by
    rintro f g ⟨hg, hm⟩ hans
    obtain ⟨hf, hm'⟩ := hans.initUpload_of_cs hg
    exact ⟨hf.trans (SdoFrame.cs_initUpload _ idx sub).symm, hm'.names hm⟩
  init_isInit := .inl (SdoFrame.cs_initUpload _ idx sub)
  object := rfl
  opens := by
    intro s s' now o o' r log hs hf
    rcases hread : od.read o idx sub (Bytes.zero N) with ⟨code | len, buf, o₁⟩
    · have hr := od.read_recording hread []
      rw [Opening.upload, SdoServer.handleFrame_initUploadRequest_refused hn hs hr] at hf
      cases hf
      exact .inl (s.hasAborted_aborted _ _ _)
    · have hr := od.read_recording hread []
      by_cases hlen : len ≤ N
      · rw [Opening.upload, SdoServer.handleFrame_initUploadRequest hn hs hr hlen] at hf
        cases hf
        refine .inr ⟨_, ⟨buf, len, hlen, rfl⟩, rfl, ?_⟩
        split
        · exact ⟨SdoServer.pendingTx_answered_data hs rfl, rfl, .inl rfl⟩
        · exact ⟨SdoServer.pendingTx_serving_data hs rfl, rfl, .inr ⟨rfl, Nat.zero_le _⟩⟩
      · rw [Opening.upload, SdoServer.handleFrame_initUploadRequest_tooLarge hn hs hr
          (Nat.lt_of_not_le hlen)] at hf
        cases hf
        exact .inl (s.hasAborted_aborted _ _ _)

end Upload

/-! ### Downloads -/

section Download

variable {tgt : Target} {od : ObjectDictionary σ} {nodeId : UInt8}

/-- The calls the first `p` requests of a download make: the write, once all of the
payload has arrived. -/
def downloadCalls (idx : UInt16) (sub : UInt8) (d : List UInt8) : ℕ → List OdCall
  | 0 => []
  | k + 1 => if d.length ≤ 4 ∨ d.length ≤ 7 * k then [.write idx sub d (.ok ())] else []

/-- What the client of a download does with answer `p`. -/
theorem download_client_step (hn : nodeId ≤ 127) {idx : UInt16} {sub : UInt8} {d : List UInt8}
    {c c' : SdoClient} {p : ℕ} {now : UInt64} {r : SdoResult (Option SdoOutcome)}
    (hst : c.state = .downloading (.sent nodeId idx sub d p))
    (hf : c.handleFrame tgt (downloadReply nodeId idx sub p) now = .ok (r, c')) :
    (r = .ok (some .downloadCompleted) ∧ c' = c.clearTransfer ∧
        downloadCalls idx sub d (p + 1) = [.write idx sub d (.ok ())]) ∨
      (r = .ok none ∧ c'.state = .downloading (.sent nodeId idx sub d (p + 1)) ∧
        c'.pendingTx = some (downloadRequest nodeId idx sub d (p + 1))) := by
  cases p with
  | zero =>
    unfold downloadReply at hf
    by_cases h₄ : d.length ≤ 4
    · rw [SdoClient.handleFrame_initAck_expedited hn hst h₄] at hf
      cases hf
      exact .inl ⟨rfl, rfl, if_pos (.inl h₄)⟩
    · rw [SdoClient.handleFrame_initAck hn hst h₄] at hf
      cases hf
      exact .inr ⟨rfl, rfl, SdoClient.pendingTx_sendSegment d 0⟩
  | succ k =>
    unfold downloadReply at hf
    by_cases hlast : d.length ≤ 7 * (k + 1)
    · rw [SdoClient.handleFrame_segmentAck_last hn hst hlast] at hf
      cases hf
      exact .inl ⟨rfl, rfl, if_pos (.inr hlast)⟩
    · rw [SdoClient.handleFrame_segmentAck_more hn hst hlast] at hf
      cases hf
      exact .inr ⟨rfl, rfl, SdoClient.pendingTx_sendSegment d (k + 1)⟩

/-- The server is ready for request `p` of a segmented download, and has `d[..7k]`. -/
def downloadReady (idx : UInt16) (sub : UInt8) (d : List UInt8) : ℕ → ServerState N → Prop
  | 0, _ => False
  | k + 1, st => ¬ d.length ≤ 4 ∧ 7 * k < d.length ∧ ∃ buf : Bytes N,
      buf.data.take (7 * k) = d.take (7 * k) ∧
        st = .downloading idx sub buf (7 * k) (some (UInt32.ofNat d.length).toNat) (alternate k)

/-- What a server that is ready for segment `k` does with it. -/
theorem download_server_step (hn : nodeId ≤ 127) {idx : UInt16} {sub : UInt8} {d : List UInt8}
    {s s' : SdoServer N} {k : ℕ} {now : UInt64} {o o' : σ} {r : SdoResult Unit} {log : List OdCall}
    (hs : s.cfg.nodeId = nodeId) (hr : downloadReady idx sub d (k + 1) s.state)
    (hf : s.handleFrame (downloadSegment nodeId d k) now od.recording (o, [])
      = .ok ((r, s'), (o', log))) :
    s'.HasAborted ∨
      (s'.pendingTx = some (segmentAck nodeId k) ∧
        downloadCalls idx sub d (k + 2) = downloadCalls idx sub d (k + 1) ++ log ∧
          (s'.state = .idle ∨ downloadReady idx sub d (k + 2) s'.state)) := by
  obtain ⟨h₄, hk, buf, hbuf, hst⟩ := hr
  have hbefore : downloadCalls idx sub d (k + 1) = [] := if_neg (by omega)
  by_cases hN : N < min (7 * (k + 1)) d.length
  · -- an announced size that was truncated let the payload in
    rw [SdoServer.handleFrame_downloadSegment_overflow hn hs hst hk.le hN] at hf
    cases hf
    exact .inl (s.hasAborted_aborted _ _ _)
  · by_cases hlast : d.length ≤ 7 * (k + 1)
    · -- the final segment: it is written if the total is the size that was announced
      by_cases hsize : (UInt32.ofNat d.length).toNat = d.length
      · rcases hwrite : od.write o idx sub d with ⟨code | u, o₁⟩
        · rw [SdoServer.handleFrame_downloadSegment_last hn hs hst hbuf hk.le hlast (by omega)
            (fun size hs => (Option.some.inj hs).symm.trans hsize)
            (od.write_recording hwrite [])] at hf
          cases hf
          exact .inl (s.hasAborted_aborted _ _ _)
        · rw [SdoServer.handleFrame_downloadSegment_last hn hs hst hbuf hk.le hlast (by omega)
            (fun size hs => (Option.some.inj hs).symm.trans hsize)
            (od.write_recording hwrite [])] at hf
          cases hf
          refine .inr ⟨SdoServer.pendingTx_answered_data hs rfl, ?_, .inl rfl⟩
          rw [hbefore]
          exact if_pos (.inr hlast)
      · rw [SdoServer.handleFrame_downloadSegment_mismatch hn hs hst hk.le hlast (by omega) rfl
          hsize] at hf
        cases hf
        exact .inl (s.hasAborted_aborted _ _ _)
    · obtain ⟨buf', hbuf', hserve⟩ := SdoServer.handleFrame_downloadSegment_more hn hs hst hbuf
        (by omega) (by omega)
      rw [hserve] at hf
      cases hf
      refine .inr ⟨SdoServer.pendingTx_serving_data hs rfl, ?_,
        .inr ⟨h₄, by omega, buf', hbuf', rfl⟩⟩
      rw [hbefore]
      exact if_neg (by omega)

/-- The session of a download of `d`. -/
def downloadSession (hn : nodeId ≤ 127) (idx : UInt16) (sub : UInt8) (d : List UInt8) :
    Session N tgt od nodeId where
  ctx := fun p => .downloading (.sent nodeId idx sub d p)
  req := downloadRequest nodeId idx sub d
  resp := downloadReply nodeId idx sub
  ready := downloadReady idx sub d
  calls := downloadCalls idx sub d
  outcome := .downloadCompleted
  total := [.write idx sub d (.ok ())]
  req_segment := by
    rintro (- | k) hp
    · omega
    · exact .inr (SdoFrame.cs_segmentData _ _ _ (length_piece_le 7 d k))
  client_step := by
    intro c c' p now r hst hf
    rcases download_client_step hn hst hf with h | h
    · exact .inl h
    · exact .inr (.inl h)
  server_step := by
    rintro s s' (- | k) now o o' r log hs hp hr hf
    · omega
    · exact download_server_step hn hs hr hf

/-- The protocol of a download. -/
def downloadProtocol (hn : nodeId ≤ 127) (idx : UInt16) (sub : UInt8) {d : List UInt8}
    (hd : 1 ≤ d.length) : Protocol N tgt od nodeId where
  toOpening := .download nodeId idx sub d
  session := fun S => S = downloadSession hn idx sub d
  awaits := by
    rintro f g ⟨hg, hm⟩ hans
    obtain ⟨hf, hm'⟩ := hans.initDownload_of_cs hg
    exact ⟨hf.trans (cs_initDownloadData _ idx sub hd).symm, hm'.names hm⟩
  init_isInit := .inr (cs_initDownloadData _ idx sub hd)
  object := rfl
  opens := by
    intro s s' now o o' r log hs hf
    by_cases h₄ : d.length ≤ 4
    · rcases hwrite : od.write o idx sub d with ⟨code | u, o₁⟩
      · rw [Opening.download, SdoServer.handleFrame_initDownloadRequest_refused hn hs hd h₄
          (od.write_recording hwrite [])] at hf
        cases hf
        exact .inl (s.hasAborted_aborted _ _ _)
      · rw [Opening.download, SdoServer.handleFrame_initDownloadRequest_expedited hn hs hd h₄
          (od.write_recording hwrite [])] at hf
        cases hf
        exact .inr ⟨_, rfl, rfl, SdoServer.pendingTx_answered_data hs rfl, if_pos (.inl h₄),
          .inl rfl⟩
    · by_cases hN : (UInt32.ofNat d.length).toNat ≤ N
      · rw [Opening.download,
          SdoServer.handleFrame_initDownloadRequest_segmented hn hs h₄ hN] at hf
        cases hf
        have hpos : 7 * 0 < d.length := hd
        have hmore : ¬ (d.length ≤ 4 ∨ d.length ≤ 7 * 0) := by omega
        exact .inr ⟨_, rfl, rfl, SdoServer.pendingTx_serving_data hs rfl, if_neg hmore,
          .inr ⟨h₄, hpos, Bytes.zero N, rfl, rfl⟩⟩
      · rw [Opening.download, SdoServer.handleFrame_initDownloadRequest_tooLarge hn hs h₄
          (Nat.lt_of_not_le hN)] at hf
        cases hf
        exact .inl (s.hasAborted_aborted _ _ _)

end Download

end CanopenSdo
