import CanopenSdo.DownloadStream
import CanopenSdo.Snapshot
import CanopenSdo.UploadResult

/-!
# The announced size and the size sent

A segmented transfer begins with a frame that announces the size of the value, and goes on
with segments that carry it.  Both the client of a download and the server of an upload put
the length into the 32 bits of that frame with a cast, and send all the bytes there are.  So
the two agree exactly if the length is below `2 ^ 32`; from there on the size that is
announced is cut off.

## Main definitions

* `SizeSent` — the init frame announces what the segments carry.
* `Asks` — the frame requests the `k`-th segment.
* `ackCalls`, `segmentCalls` — a peer that acknowledges, or requests, every frame.

## Main results

* `collected_of_completed`, `exec_ackCalls` — what a download sends.
* `exec_segmentCalls` — what an upload sends.
* `announced_is_sent_iff` — **the announced size is the size sent exactly below `2 ^ 32`.**
-/

namespace CanopenSdo

open Wire

/-- The init frame announces as many bytes as the segments carry. -/
def SizeSent (init : SdoFrame) (segs : List SdoFrame) : Prop :=
  init.announced = some (collected segs).length

/-- All pieces of a value, in order, carry it. -/
theorem collected_pieces {g : ℕ → SdoFrame} {v : List UInt8}
    (hg : ∀ k, payloadOf (g k).data = piece 7 v k) :
    collected ((List.range (pieces 7 v.length)).map g) = v := by
  rw [collected, List.flatMap_map]
  simp only [hg]
  exact flatMap_piece (by decide) v

/-- A size announced as a 32-bit word is the length exactly below `2 ^ 32`. -/
theorem sizeSent_iff {init : SdoFrame} {segs : List SdoFrame} {v : List UInt8}
    (hinit : init.announced = some (UInt32.ofNat v.length).toNat) (hsegs : collected segs = v) :
    SizeSent init segs ↔ v.length < 2 ^ 32 := by
  rw [SizeSent, hinit, hsegs, Option.some.injEq, UInt32.toNat_ofNat_eq_iff]

/-! ### Downloads -/

section Download

variable {tgt : Target} {nodeId : UInt8} {idx : UInt16} {sub : UInt8} {d : List UInt8}
  {c c₀ c' : SdoClient} {now₀ : UInt64} {h : List (ClientAction × ClientEvent)} {a : ClientAction}
  {e : ClientEvent} {p m : ℕ} {f : ℕ → SdoFrame} {t : ℕ → UInt64}

theorem payloadOf_downloadSegment (k : ℕ) :
    payloadOf (downloadSegment nodeId d k).data = piece 7 d k :=
  payloadOf_segmentData (length_piece_le 7 d k)

theorem announced_initDownloadRequest (h : 4 < d.length) :
    (initDownloadRequest nodeId idx sub d).announced = some (UInt32.ofNat d.length).toNat := by
  rw [initDownloadRequest, initDownloadData, if_neg (Nat.not_le.mpr h), SdoFrame.announced_eq_map,
    SdoFrame.announcedWord_announceData_download]
  rfl

/-- The segments of a download that has completed carry the whole payload. -/
theorem collected_of_completed (hb : c.beginDownload nodeId idx sub d now₀ = .ok (.ok (), c₀))
    (hd : 4 < d.length) (hr : (clientMachine tgt).Run c₀.drained (h ++ [(a, e)]) c')
    {outcome : SdoOutcome} (ho : e.result = .ok (some outcome)) :
    collected (emitted (h ++ [(a, e)])) = d := by
  obtain ⟨c₁, hr₁, hs⟩ := hr.of_snoc
  have hall := ((sendingOrEnded_run hb hr₁).completed hs ho).2.1
  rw [downloadSequence, if_neg (Nat.not_le.mpr hd), List.cons.injEq] at hall
  rw [emitted_append_singleton, tx_of_outcome hs ho, Option.toList_none, List.append_nil, hall.2,
    ← pieces_of_pos (by decide) (by omega)]
  exact collected_pieces payloadOf_downloadSegment

/-- A peer that acknowledges the frames from `p` on, `m` of them. -/
def ackCalls (f : ℕ → SdoFrame) (t : ℕ → UInt64) (p m : ℕ) : List ClientAction :=
  (List.range' p m).map fun q => .handleFrame (f q) (t q)

/-- A download of which every frame is acknowledged completes with the last one. -/
theorem exec_ackCalls (tgt : Target) (t : ℕ → UInt64)
    (hf : ∀ q, q < downloadCount d → Acks nodeId idx sub q (f q)) (m : ℕ) :
    ∀ {h : List (ClientAction × ClientEvent)} {c : SdoClient} {p : ℕ},
      Sending nodeId idx sub d h c p → p + (m + 1) = downloadCount d →
      ∃ h' a e c', (clientMachine tgt).exec c (ackCalls f t p (m + 1)) = some (h' ++ [(a, e)], c') ∧
        e.result = .ok (some .downloadCompleted) := by
  -- by induction on the acknowledgements to come after this one
  induction m with
  | zero =>
    intro h c p hc hp
    obtain ⟨r, c₁, hstep, ⟨rfl, -, -⟩ | ⟨-, -, -, hlt⟩⟩ :=
      hc.acked (hf p hc.lt) tgt (t p)
    · exact ⟨[], .handleFrame (f p) (t p), ⟨.ok (some .downloadCompleted), c₁.pendingTx⟩,
        c₁.drained, Machine.exec_cons_of_step hstep.clientStep, rfl⟩
    · omega
  | succ m ih =>
    intro h c p hc hp
    obtain ⟨r, c₁, hstep, ⟨-, hlast, -⟩ | ⟨-, htx, hst, hlt⟩⟩ :=
      hc.acked (hf p hc.lt) tgt (t p)
    · omega
    · have hnext : Sending nodeId idx sub d
        (h ++ [(.handleFrame (f p) (t p), ⟨r, c₁.pendingTx⟩)]) c₁.drained (p + 1) :=
        hc.next htx hst rfl hlt
      obtain ⟨h', a, e, c', hexec, hres⟩ := ih hnext (by omega)
      refine ⟨(.handleFrame (f p) (t p), ⟨r, c₁.pendingTx⟩) :: h', a, e, c', ?_, hres⟩
      rw [ackCalls, List.range'_succ, List.map_cons, Machine.exec_cons_of_step hstep.clientStep]
      change ((clientMachine tgt).exec c₁.drained (ackCalls f t (p + 1) (m + 1))).map _ = _
      rw [hexec]
      rfl

end Download

/-! ### Uploads -/

section Upload

variable {N : ℕ} {σ : Type} {od : ObjectDictionary σ} {nodeId : UInt8} {f : ℕ → SdoFrame}
  {t : ℕ → UInt64}

/-- The frame requests the `k`-th segment of an upload from the node. -/
def Asks (nodeId : UInt8) (k : ℕ) (f : SdoFrame) : Prop :=
  SdoFrame.nodeOfRsdo f.cobId = some nodeId ∧ f.cs = ccsUploadSegment ∧ f.toggle = alternate k

/-- A peer that requests the segments from `k` on, `m` of them, and takes each. -/
def segmentCalls (f : ℕ → SdoFrame) (t : ℕ → UInt64) (k m : ℕ) : List (ServerAction σ) :=
  (List.range' k m).flatMap fun j => [.handleFrame (f j) (t j), .pollTransmit]

/-- The frame a poll hands out. -/
def ServerEvent.tx : ServerEvent → Option SdoFrame
  | .transmitted tx => tx
  | _ => none

/-- The frames that were taken in a run. -/
def taken (h : List (ServerAction σ × ServerEvent)) : List SdoFrame := h.filterMap fun x => x.2.tx

/-- A frame is handled, and what is pending after it is taken. -/
theorem exec_handleFrame_poll {s s' s₁ : SdoServer N} {o o' o₁ : σ} {g x : SdoFrame} {now : UInt64}
    {r : SdoResult Unit} {calls : List OdCall} {as : List (ServerAction σ)}
    {h : List (ServerAction σ × ServerEvent)}
    (hstep : ServerStep od.recording s g now (o, []) r s' (o', calls)) (hx : s'.pendingTx = some x)
    (hexec : (serverMachine N od).exec (s'.drained, o') as = some (h, (s₁, o₁))) :
    ∃ h', (serverMachine N od).exec (s, o) (.handleFrame g now :: .pollTransmit :: as)
        = some (h', (s₁, o₁)) ∧ taken h' = x :: taken h := by
  have hpoll : (serverMachine N od).step (s', o') .pollTransmit
      = some (.transmitted (some x), (s'.drained, o')) := by
    rw [← hx]
    rfl
  refine ⟨(.handleFrame g now, .handled r calls) :: (.pollTransmit, .transmitted (some x)) :: h, ?_,
    rfl⟩
  rw [Machine.exec_cons_of_step (serverStep_handleFrame_iff.mpr hstep),
    Machine.exec_cons_of_step hpoll, hexec]
  rfl

/-- A read of which every segment is requested sends all its pieces. -/
theorem exec_segmentCalls (od : ObjectDictionary σ) (o : σ) (t : ℕ → UInt64) {v : List UInt8}
    {g : SdoFrame} (hf : ∀ k, k < pieces 7 v.length → Asks nodeId k (f k)) (m : ℕ) :
    ∀ {s : SdoServer N} {k : ℕ}, s.state.reading = some (.after g v k) → s.state.InRange →
      s.cfg.nodeId = nodeId → k + (m + 1) = pieces 7 v.length →
      ∃ h s', (serverMachine N od).exec (s, o) (segmentCalls f t k (m + 1)) = some (h, (s', o)) ∧
        taken h = (List.range' k (m + 1)).map (uploadSegment nodeId v) ∧ s'.state = .idle := by
  -- by induction on the requests to come after this one
  induction m with
  | zero =>
    intro s k hz hin hid hk
    obtain ⟨ha, hcs, ht⟩ := hf k (by omega)
    rw [← hid] at ha
    have hanswer : ∃ s', ServerStep od.recording s (f k) (t k) (o, []) (.ok ()) s' (o, []) ∧ _ :=
      exists_segmentAnswer hin ha hz hcs ht
    obtain ⟨s', hstep, htx, hlast⟩ := hanswer
    have hidle := hlast (bounds_of_pieces_eq (by decide) hk.symm).2
    have hend : (serverMachine N od).exec (s'.drained, o) [] = some ([], (s'.drained, o)) := rfl
    obtain ⟨h, hexec, htaken⟩ := exec_handleFrame_poll hstep htx hend
    rw [hid] at htaken
    exact ⟨h, s'.drained, hexec, htaken, hidle⟩
  | succ m ih =>
    intro s k hz hin hid hk
    obtain ⟨ha, hcs, ht⟩ := hf k (by omega)
    rw [← hid] at ha
    have hanswer : ∃ s', ServerStep od.recording s (f k) (t k) (o, []) (.ok ()) s' (o, []) ∧ _ :=
      exists_segmentAnswer hin ha hz hcs ht
    obtain ⟨s', hstep, htx, -⟩ := hanswer
    -- a piece is left, so the read goes on
    have hmore : 7 * (k + 1) < v.length := (succ_lt_pieces (by decide)).mp (by omega)
    have hnext : s'.drained.state.reading = some (.after g v (k + 1)) := by
      refine (hstep.reading_iff ha hin).mpr (.inr ⟨_, hz, hcs, ht, hmore, ?_⟩)
      simp [Reading.after, Nat.mul_succ]
    obtain ⟨h, s₁, hexec, htaken, hidle⟩ := ih hnext (hstep.inRange hin)
      ((congrArg ServerConfig.nodeId hstep.cfg).trans hid) (by omega)
    obtain ⟨h', hexec', htaken'⟩ := exec_handleFrame_poll hstep htx hexec
    refine ⟨h', s₁, hexec', ?_, hidle⟩
    rw [htaken', htaken, hid, List.range'_succ (n := m + 1), List.map_cons]

/-- The announcement of an upload. -/
theorem announced_announcement (id idx : UInt16) (sub : UInt8) (len : ℕ) :
    SdoFrame.announced ⟨id, announceData scsInitUpload idx sub (UInt32.ofNat len)⟩
      = some (UInt32.ofNat len).toNat := by
  rw [SdoFrame.announced_eq_map, SdoFrame.announcedWord_announceData_upload]
  rfl

/-- An upload of which every segment is requested: its announcement, and all pieces. -/
theorem exec_upload (now : UInt64) (t : ℕ → UInt64) {s : SdoServer N} {o o' : σ} {g : SdoFrame}
    {len : ℕ} {buf : Bytes N} (ha : s.Addressed g) (hcs : g.cs = ccsInitUpload)
    (hr : od.read o (indexOf g.data) (subindexOf g.data) (Bytes.zero N) = (.ok len, buf, o'))
    (hlen : len ≤ N) (hseg : ¬ (1 ≤ len ∧ len ≤ 4))
    (hf : ∀ k, k < pieces 7 len → Asks s.cfg.nodeId k (f k)) :
    ∃ h s' init, (serverMachine N od).exec (s, o)
        (.handleFrame g now :: .pollTransmit :: segmentCalls f t 0 (pieces 7 len))
          = some (h, (s', o')) ∧
      s'.state = .idle ∧ init.announced = some (UInt32.ofNat len).toNat ∧
      taken h = init :: (List.range (pieces 7 len)).map
        (uploadSegment s.cfg.nodeId (buf.data.take len)) := by
  have hv : (buf.data.take len).length = len := buf.length_take hlen
  have hstep : ServerStep od.recording s g now (o, []) _ _ _ :=
    .initUploadSegmented ha hcs (od.read_recording hr []) hlen hseg
  obtain ⟨m, hm⟩ : ∃ m, pieces 7 len = m + 1 := ⟨pieces 7 len - 1, by
    have := one_le_pieces 7 len
    omega⟩
  -- the server that has announced the value has its first piece to send
  have hz : (s.serving (.uploading (indexOf g.data) (subindexOf g.data) buf len 0 false)
      (announceData scsInitUpload (indexOf g.data) (subindexOf g.data) (UInt32.ofNat len))
      now).drained.state.reading = some (.after g (buf.data.take len) 0) := rfl
  obtain ⟨h, s', hexec, htaken, hidle⟩ := exec_segmentCalls od o' t (by rwa [hv]) m hz
    ⟨Nat.zero_le _, hlen⟩ rfl (by rw [hv, hm, Nat.zero_add])
  obtain ⟨h', hexec', htaken'⟩ := exec_handleFrame_poll hstep rfl hexec
  rw [← hm] at hexec' htaken
  refine ⟨h', s', ⟨SdoFrame.tsdoId s.cfg.nodeId, announceData scsInitUpload (indexOf g.data)
    (subindexOf g.data) (UInt32.ofNat len)⟩, hexec', hidle, announced_announcement _ _ _ _, ?_⟩
  rw [htaken', htaken, List.range_eq_range']
  rfl

end Upload

/-! ### The announced size -/

/-- **The announced size is the size sent exactly below `2 ^ 32`.**

A download of more than four bytes that `begin_download` accepts leaves its init frame pending.
If every frame is acknowledged it completes, and in whichever run it completes, the init frame
has announced what the segments carried exactly if the payload is shorter than `2 ^ 32` bytes.

A value that the dictionary returns and that is not sent inline is announced by the init
response.  If every segment is requested, all pieces of the value are sent, the server is idle
again, and the announcement is what they carried exactly if the value is shorter than `2 ^ 32`
bytes. -/
theorem announced_is_sent_iff (tgt : Target) (N : ℕ) {σ : Type} (od : ObjectDictionary σ) :
    (∀ (c c₀ : SdoClient) (nodeId : UInt8) (idx : UInt16) (sub : UInt8) (d : List UInt8)
        (now₀ : UInt64),
      c.beginDownload nodeId idx sub d now₀ = .ok (.ok (), c₀) → 4 < d.length →
      ∃ init, c₀.pendingTx = some init ∧
        (∀ f t, (∀ q, q < downloadCount d → Acks nodeId idx sub q (f q)) →
          ∃ h a e c', (clientMachine tgt).exec c₀.drained (ackCalls f t 0 (downloadCount d))
            = some (h ++ [(a, e)], c') ∧ e.result = .ok (some .downloadCompleted)) ∧
        ∀ h a e c' outcome, (clientMachine tgt).Run c₀.drained (h ++ [(a, e)]) c' →
          e.result = .ok (some outcome) →
            (SizeSent init (emitted (h ++ [(a, e)])) ↔ d.length < 2 ^ 32)) ∧
    ∀ (s : SdoServer N) (o o' : σ) (g : SdoFrame) (now : UInt64) (len : ℕ) (buf : Bytes N),
      s.Addressed g → g.cs = ccsInitUpload →
      od.read o (indexOf g.data) (subindexOf g.data) (Bytes.zero N) = (.ok len, buf, o') →
      len ≤ N → ¬ (1 ≤ len ∧ len ≤ 4) →
      ∀ f t, (∀ k, k < pieces 7 len → Asks s.cfg.nodeId k (f k)) →
        ∃ h s' init segs,
          (serverMachine N od).exec (s, o)
            (.handleFrame g now :: .pollTransmit :: segmentCalls f t 0 (pieces 7 len))
              = some (h, (s', o')) ∧
          s'.state = .idle ∧ taken h = init :: segs ∧
          segs = (List.range (pieces 7 len)).map (uploadSegment s.cfg.nodeId (buf.data.take len)) ∧
          (SizeSent init segs ↔ len < 2 ^ 32) := by
  constructor
  · intro c c₀ nodeId idx sub d now₀ hb hd
    obtain ⟨hinit, hstart⟩ := sending_start hb
    refine ⟨_, hinit, ?_, ?_⟩
    · intro f t hf
      have hlt := hstart.lt
      have h := exec_ackCalls tgt t hf (downloadCount d - 1) hstart (by omega)
      rwa [Nat.sub_add_cancel hlt] at h
    · intro h a e c' outcome hr ho
      exact sizeSent_iff (announced_initDownloadRequest hd) (collected_of_completed hb hd hr ho)
  · intro s o o' g now len buf ha hcs hr hlen hseg f t hf
    have hv : (buf.data.take len).length = len := buf.length_take hlen
    obtain ⟨h, s', init, hexec, hidle, hinit, htaken⟩ :=
      exec_upload now t ha hcs hr hlen hseg hf
    refine ⟨h, s', init, _, hexec, hidle, htaken, rfl, ?_⟩
    have hsegs : collected ((List.range (pieces 7 (buf.data.take len).length)).map
        (uploadSegment s.cfg.nodeId (buf.data.take len))) = buf.data.take len :=
      collected_pieces SdoClient.payloadOf_uploadSegment
    rw [← hv] at hinit
    have hsent := sizeSent_iff hinit hsegs
    rwa [hv] at hsent

/-! ### Two transfers, and one that is too long -/

/-- The answers of a server acknowledge the frames of a download. -/
theorem acks_downloadReply {nodeId : UInt8} (hn : nodeId ≤ 127) (idx : UInt16) (sub : UInt8) (p : ℕ) :
    Acks nodeId idx sub p (downloadReply nodeId idx sub p) := by
  cases p with
  | zero =>
    exact ⟨SdoFrame.nodeOfTsdo_tsdoId hn, SdoFrame.cs_initDownloadAck _ idx sub,
      SdoFrame.names_initDownloadAck _ idx sub⟩
  | succ k =>
    exact ⟨SdoFrame.nodeOfTsdo_tsdoId hn, SdoFrame.cs_downloadSegmentAck _ _,
      SdoFrame.toggle_downloadSegmentAck _ _⟩

/-- So the requests of a client ask for the segments of an upload. -/
theorem asks_segmentRequest {nodeId : UInt8} (hn : nodeId ≤ 127) (k : ℕ) :
    Asks nodeId k (segmentRequest nodeId k) :=
  ⟨SdoFrame.nodeOfRsdo_rsdoId hn, SdoFrame.cs_uploadSegmentRequest _ _,
    SdoFrame.toggle_uploadSegmentRequest _ _⟩

/-- Eight bytes are written, and eight bytes are read. -/
theorem announced_is_sent_iff_eight :
    (∃ init h a e c', downloadClient.pendingTx = some init ∧
      (clientMachine .bits64).exec downloadClient.drained
        (ackCalls (downloadReply 0x10 0x2000 0) (fun q => q.toUInt64) 0 3)
          = some (h ++ [(a, e)], c') ∧ SizeSent init (emitted (h ++ [(a, e)]))) ∧
    ∃ h s' init segs, (serverMachine 16 loopOd).exec (.new (.new 0x10), counting)
        (.handleFrame (initUploadRequest 0x10 0x2000 0) 0 :: .pollTransmit ::
          segmentCalls (segmentRequest 0x10) (fun k => k.toUInt64) 0 2)
          = some (h, (s', counting)) ∧
      taken h = init :: segs ∧ segs.length = 2 ∧ SizeSent init segs := by
  obtain ⟨hclient, hserver⟩ := announced_is_sent_iff .bits64 16 loopOd
  constructor
  · have hb : (SdoClient.new .default).beginDownload 0x10 0x2000 0 [8, 7, 6, 5, 4, 3, 2, 1] 0
        = .ok (.ok (), downloadClient) := rfl
    obtain ⟨init, htx, hexec, hsent⟩ := hclient _ _ _ _ _ _ _ hb (by decide)
    have hcount : downloadCount [8, 7, 6, 5, 4, 3, 2, 1] = 3 := by decide +kernel
    obtain ⟨h, a, e, c', hexec, hres⟩ := hexec _ (fun q => q.toUInt64)
      fun q _ => acks_downloadReply (by decide) 0x2000 0 q
    rw [hcount] at hexec
    exact ⟨init, h, a, e, c', htx, hexec,
      (hsent h a e c' _ (Machine.run_of_exec hexec) hres).mpr (by decide)⟩
  · have hread : loopOd.read counting 0x2000 0 (Bytes.zero 16)
        = (.ok 8, ⟨[1, 2, 3, 4, 5, 6, 7, 8, 0, 0, 0, 0, 0, 0, 0, 0], rfl⟩, counting) := rfl
    have hcount : pieces 7 8 = 2 := by decide +kernel
    have hasked : (SdoServer.new (.new 0x10) : SdoServer 16).Addressed (initUploadRequest 0x10 0x2000 0)
        ∧ (initUploadRequest 0x10 0x2000 0).cs = ccsInitUpload := by decide +kernel
    obtain ⟨ha, hcs⟩ := hasked
    obtain ⟨h, s', init, segs, hexec, -, htaken, hsegs, hsent⟩ := hserver _ _ _
      (initUploadRequest 0x10 0x2000 0) 0 8 _ ha hcs hread (by decide) (by decide)
      (segmentRequest 0x10) (fun k => k.toUInt64)
      fun k _ => asks_segmentRequest (show (0x10 : UInt8) ≤ 127 by decide) k
    rw [hcount] at hexec hsegs
    refine ⟨h, s', init, segs, hexec, htaken, ?_, hsent.mpr (by decide)⟩
    rw [hsegs, List.length_map, List.length_range]

/-- A payload of `2 ^ 32` bytes is announced as one of none, and sent. -/
theorem announced_zero {d : List UInt8} (hlen : d.length = 2 ^ 32) : ∃ init c₀ h a e c',
    (SdoClient.new .default).beginDownload 0x10 0x2000 0 d 0 = .ok (.ok (), c₀) ∧
    c₀.pendingTx = some init ∧ init.announced = some 0 ∧
    (clientMachine .bits64).exec c₀.drained
      (ackCalls (downloadReply 0x10 0x2000 0) (fun _ => 0) 0 (downloadCount d))
        = some (h ++ [(a, e)], c') ∧
    e.result = .ok (some .downloadCompleted) ∧
    (collected (emitted (h ++ [(a, e)]))).length = 2 ^ 32 := by
  have hd : 4 < d.length := by omega
  have hb : (SdoClient.new .default).beginDownload 0x10 0x2000 0 d 0 = .ok (.ok (), _) :=
    SdoClient.beginDownload_of_idle (by decide) rfl (by omega)
  obtain ⟨hinit, hstart⟩ := sending_start hb
  have hlt := hstart.lt
  obtain ⟨h, a, e, c', hexec, hres⟩ := exec_ackCalls .bits64 (fun _ => 0)
    (fun q _ => acks_downloadReply (by decide) 0x2000 0 q) (downloadCount d - 1) hstart (by omega)
  rw [Nat.sub_add_cancel hlt] at hexec
  have hsent := collected_of_completed hb hd (Machine.run_of_exec hexec) hres
  refine ⟨_, _, h, a, e, c', hb, hinit, ?_, hexec, hres, by rw [hsent, hlen]⟩
  rw [announced_initDownloadRequest hd, hlen]
  rfl

/-- So the download of `2 ^ 32` zeros is accepted and completes, and its size is cut off. -/
theorem announced_size_cut_off : ∃ init c₀ h a e c',
    (SdoClient.new .default).beginDownload 0x10 0x2000 0 (List.replicate (2 ^ 32) 0) 0
      = .ok (.ok (), c₀) ∧
    c₀.pendingTx = some init ∧ init.announced = some 0 ∧
    (clientMachine .bits64).exec c₀.drained (ackCalls (downloadReply 0x10 0x2000 0) (fun _ => 0) 0
      (downloadCount (List.replicate (2 ^ 32) 0))) = some (h ++ [(a, e)], c') ∧
    e.result = .ok (some .downloadCompleted) ∧
    (collected (emitted (h ++ [(a, e)]))).length = 2 ^ 32 :=
  announced_zero List.length_replicate

end CanopenSdo
