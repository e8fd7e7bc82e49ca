import CanopenSdo.Transfer

/-!
# Client and server in a loop

A client and a server are connected back to back: whatever the client has pending
goes to the server, then whatever the server has pending goes to the client, until
the client reports the end of its transfer.  Nothing is lost and no timer runs, but
the clock is arbitrary.

`pump` is that loop, with the number of rounds as its fuel; `Pumps` is the same loop
without fuel, and the proofs about whole transfers are about it.  Every state of the
server is a good start: an init request replaces whatever it was doing.

## Main definitions

* `Loop`, `pump`, `Pumps`, `Loop.EndsWith`.
* `Loop.UploadAt`, `Loop.DownloadAt` — the loop before the `k`-th segment.

## Main results

* `pump_of_pumps` — a derivation of `Pumps` is a run of `pump`, for any fuel that is enough.
* `loopback_upload` — **a loopback upload is exact and terminates.**
* `loopback_download` — **a loopback download is exact and terminates.**
-/

namespace CanopenSdo

open Wire

variable {N : ℕ} {σ : Type}

/-! ### The loop -/

/-- A client and a server, with the dictionary behind the server. -/
structure Loop (N : ℕ) (σ : Type) where
  client : SdoClient
  server : SdoServer N
  dict : σ

/-- How the loop has ended: the client's result, the frames it took, and what is left. -/
structure LoopEnd (N : ℕ) (σ : Type) where
  result : SdoResult SdoOutcome
  frames : ℕ
  loop : Loop N σ

/-- Pump frames until the client reports an end; `none` if the fuel runs out or no
frame is pending.  The frame counter `n` is also what the clock is read at. -/
def pump (tgt : Target) (od : ObjectDictionary σ) (clock : ℕ → UInt64) :
    ℕ → ℕ → Loop N σ → Checked (Option (LoopEnd N σ))
  | 0, _, _ => pure none
  | fuel + 1, n, l =>
    match l.client.pollTransmit with
    | (some f, c) => do
      let ((_, s), o) ← l.server.handleFrame f (clock n) od l.dict
      pump tgt od clock fuel (n + 1) ⟨c, s, o⟩
    | (none, _) =>
      match l.server.pollTransmit with
      | (none, _) => pure none
      | (some f, s) => do
        let (r, c) ← l.client.handleFrame tgt f (clock n)
        match r with
        | .error e => pure (some ⟨.error e, n + 1, ⟨c, s, l.dict⟩⟩)
        | .ok (some out) => pure (some ⟨.ok out, n + 1, ⟨c, s, l.dict⟩⟩)
        | .ok none => pump tgt od clock fuel (n + 1) ⟨c, s, l.dict⟩

/-- The loop, without fuel. -/
inductive Pumps (tgt : Target) (od : ObjectDictionary σ) (clock : ℕ → UInt64) :
    ℕ → Loop N σ → LoopEnd N σ → Prop
  | request {n : ℕ} {l : Loop N σ} {e : LoopEnd N σ} {f : SdoFrame} {r : SdoResult Unit}
      {s : SdoServer N} {o : σ} (hc : l.client.pendingTx = some f)
      (hs : l.server.handleFrame f (clock n) od l.dict = .ok ((r, s), o))
      (h : Pumps tgt od clock (n + 1) ⟨l.client.drained, s, o⟩ e) :
      Pumps tgt od clock n l e
  | response {n : ℕ} {l : Loop N σ} {e : LoopEnd N σ} {f : SdoFrame} {c : SdoClient}
      (hc : l.client.pendingTx = none) (hs : l.server.pendingTx = some f)
      (hf : l.client.handleFrame tgt f (clock n) = .ok (.ok none, c))
      (h : Pumps tgt od clock (n + 1) ⟨c, l.server.drained, l.dict⟩ e) :
      Pumps tgt od clock n l e
  | completed {n : ℕ} {l : Loop N σ} {f : SdoFrame} {out : SdoOutcome} {c : SdoClient}
      (hc : l.client.pendingTx = none) (hs : l.server.pendingTx = some f)
      (hf : l.client.handleFrame tgt f (clock n) = .ok (.ok (some out), c)) :
      Pumps tgt od clock n l ⟨.ok out, n + 1, ⟨c, l.server.drained, l.dict⟩⟩
  | failed {n : ℕ} {l : Loop N σ} {f : SdoFrame} {e : SdoError} {c : SdoClient}
      (hc : l.client.pendingTx = none) (hs : l.server.pendingTx = some f)
      (hf : l.client.handleFrame tgt f (clock n) = .ok (.error e, c)) :
      Pumps tgt od clock n l ⟨.error e, n + 1, ⟨c, l.server.drained, l.dict⟩⟩

variable {tgt : Target} {od : ObjectDictionary σ} {clock : ℕ → UInt64} {n : ℕ} {l : Loop N σ}
  {e : LoopEnd N σ}

/-- The frames of an end are counted from where it was reached. -/
theorem Pumps.lt_frames (h : Pumps tgt od clock n l e) : n < e.frames := by
  induction h with
  | request _ _ _ ih => omega
  | response _ _ _ _ ih => omega
  | completed => exact Nat.lt_succ_self _
  | failed => exact Nat.lt_succ_self _

/-- **The loop runs**: with fuel for all its frames, `pump` reaches the end. -/
theorem pump_of_pumps (h : Pumps tgt od clock n l e) :
    ∀ fuel, e.frames ≤ n + fuel → pump tgt od clock fuel n l = .ok (some e) := by
  induction h with
  | request hc hs h ih =>
    intro fuel hfuel
    have hlt := h.lt_frames
    obtain ⟨fuel, rfl⟩ : ∃ k, fuel = k + 1 := ⟨fuel - 1, by omega⟩
    simp only [pump, SdoClient.pollTransmit, hc, hs, Checked.bind_ok]
    exact ih fuel (by omega)
  | response hc hs hf h ih =>
    intro fuel hfuel
    have hlt := h.lt_frames
    obtain ⟨fuel, rfl⟩ : ∃ k, fuel = k + 1 := ⟨fuel - 1, by omega⟩
    simp only [pump, SdoClient.pollTransmit, SdoServer.pollTransmit, hc, hs, hf, Checked.bind_ok]
    exact ih fuel (by omega)
  | completed hc hs hf | failed hc hs hf =>
    intro fuel hfuel
    obtain ⟨fuel, rfl⟩ : ∃ k, fuel = k + 1 := ⟨fuel - 1, by dsimp only at hfuel; omega⟩
    simp only [pump, SdoClient.pollTransmit, SdoServer.pollTransmit, hc, hs, hf, Checked.bind_ok]
    rfl

/-- The loop ends with this result after this many frames and leaves the dictionary
in this state; both machines are idle, and more fuel changes nothing. -/
def Loop.EndsWith (tgt : Target) (od : ObjectDictionary σ) (clock : ℕ → UInt64) (l : Loop N σ)
    (result : SdoResult SdoOutcome) (frames : ℕ) (dict : σ) : Prop :=
  ∃ c s, c.isIdle = true ∧ s.isIdle = true ∧
    ∀ fuel, frames ≤ fuel →
      pump tgt od clock fuel 0 l = .ok (some ⟨result, frames, ⟨c, s, dict⟩⟩)

theorem Pumps.endsWith {result : SdoResult SdoOutcome} {frames : ℕ} {c : SdoClient}
    {s : SdoServer N} {dict : σ} (h : Pumps tgt od clock 0 l ⟨result, frames, ⟨c, s, dict⟩⟩)
    (hc : c.state = .idle) (hs : s.state = .idle) : l.EndsWith tgt od clock result frames dict :=
  ⟨c, s, by simp [SdoClient.isIdle, hc], by simp [SdoServer.isIdle, hs], fun fuel hfuel =>
    pump_of_pumps h fuel (by simpa using hfuel)⟩

/-! ### A dictionary -/

/-- Replace the entry of an object, or add it. -/
def setEntry (idx : UInt16) (sub : UInt8) (data : List UInt8) :
    List (UInt16 × UInt8 × List UInt8) → List (UInt16 × UInt8 × List UInt8)
  | [] => [(idx, sub, data)]
  | e :: es =>
    if e.1 == idx && e.2.1 == sub then (idx, sub, data) :: es else e :: setEntry idx sub data es

/-- The dictionary of the loopback tests: a list of entries.  A read copies the entry
to the front of the buffer. -/
def loopOd : ObjectDictionary (List (UInt16 × UInt8 × List UInt8)) where
  read := fun {n} entries idx sub buf =>
    match entries.find? fun e => e.1 == idx && e.2.1 == sub with
    | none => (.error .objectDoesNotExist, buf, entries)
    | some e =>
      if h : 0 + e.2.2.length ≤ n then (.ok e.2.2.length, buf.put 0 e.2.2 h, entries)
      else (.error .outOfMemory, buf, entries)
  write := fun entries idx sub data => (.ok (), setEntry idx sub data entries)

/-- Eight bytes under 0x2000/0. -/
def counting : List (UInt16 × UInt8 × List UInt8) := [(0x2000, 0, [1, 2, 3, 4, 5, 6, 7, 8])]

/-! ### Segments of an upload -/

section Upload

variable {nodeId : UInt8} {idx : UInt16} {sub : UInt8} {buf : Bytes N} {len : ℕ}

/-- The client is about to request the `k`-th segment of `buf[..len]`. -/
structure Loop.UploadAt (l : Loop N σ) (nodeId : UInt8) (idx : UInt16) (sub : UInt8) (buf : Bytes N)
    (len k : ℕ) : Prop where
  client : l.client.state = .uploading (.after nodeId idx sub (buf.data.take len) k)
  request : l.client.pendingTx = some (segmentRequest nodeId k)
  node : l.server.cfg.nodeId = nodeId
  server : l.server.state = .uploading idx sub buf len (7 * k) (alternate k)

/-- The rest of an upload, `j` segments after the next one. -/
theorem Loop.UploadAt.pumps (hn : nodeId ≤ 127) (hlen : len ≤ N) (hN : len < 2 ^ 32)
    (hcap : len ≤ tgt.isizeMax) (j : ℕ) :
    ∀ {k n : ℕ} {l : Loop N σ}, l.UploadAt nodeId idx sub buf len k → pieces 7 len = k + 1 + j →
      ∃ c s, c.state = .idle ∧ s.state = .idle ∧ Pumps tgt od clock n l
        ⟨.ok (.uploadCompleted (buf.data.take len)), n + 2 * (j + 1), ⟨c, s, l.dict⟩⟩ := by
  have hv : (buf.data.take len).length = len := by
    rw [List.length_take, buf.size, Nat.min_eq_left hlen]
  have hfits : ∀ k, ((buf.data.take len).take (7 * (k + 1))).length ≤ tgt.isizeMax := by
    intro k
    rw [← hv] at hcap
    exact (List.length_take_le' _ _).trans hcap
  -- `n` counts the frames so far, and each segment takes two of them
  induction j with
  | zero =>
    intro k n l h hk
    obtain ⟨hprev, hlast⟩ : 7 * k ≤ len ∧ len ≤ 7 * (k + 1) := bounds_of_pieces_eq (by decide) hk
    refine ⟨_, _, rfl, rfl, .request h.request
      (SdoServer.handleFrame_segmentRequest_last hn h.node h.server hlen hprev hlast)
      (.completed rfl (SdoServer.pendingTx_answered_data h.node rfl)
        (SdoClient.handleFrame_uploadSegment_last hn h.client (by rwa [hv]) (by rwa [hv])
          (hfits k)))⟩
  | succ j ih =>
    intro k n l h hk
    have hmore : 7 * (k + 1) < len := (succ_lt_pieces (by decide)).mp (by omega)
    obtain ⟨c, s, hc, hs, hp⟩ := ih (k := k + 1) (n := n + 2)
      (l := ⟨l.client.drained.requestSegment
          (.after nodeId idx sub (buf.data.take len) (k + 1)) (clock (n + 1)),
        (l.server.serving (.uploading idx sub buf len (7 * (k + 1)) (alternate (k + 1)))
          (uploadSegment nodeId (buf.data.take len) k).data (clock n)).drained, l.dict⟩)
      ⟨rfl, SdoClient.pendingTx_requestSegment _ _, h.node, rfl⟩ (by omega)
    refine ⟨c, s, hc, hs, .request h.request
      (SdoServer.handleFrame_segmentRequest_more hn h.node h.server hlen hmore)
      (.response rfl (SdoServer.pendingTx_serving_data h.node rfl)
        (SdoClient.handleFrame_uploadSegment_more hn h.client (by rwa [hv]) (hfits k)) ?_)⟩
    rw [show n + 2 * (j + 1 + 1) = n + 2 + 2 * (j + 1) by omega]
    exact hp

/-- What the server aborts is what the client reports. -/
theorem Pumps.refused (hn : nodeId ≤ 127) {c : SdoClient} {s : SdoServer N} {o o' : σ}
    {f : SdoFrame} {code : SdoAbortCode} (hs : s.cfg.nodeId = nodeId)
    (ht : c.transfer = some (nodeId, idx, sub)) (hf : c.pendingTx = some f)
    (hstep : s.handleFrame f (clock n) od o
      = .ok ((.error (.clientAborted code), s.aborted idx sub code), o')) :
    ∃ c' s', c'.state = .idle ∧ s'.state = .idle ∧ Pumps tgt od clock n ⟨c, s, o⟩
      ⟨.error (.serverAborted (.ofRaw code.raw)), n + 2, ⟨c', s', o'⟩⟩ :=
  ⟨_, _, rfl, rfl, .request hf hstep
    (.failed rfl (by rw [SdoServer.pendingTx_aborted, hs])
      (SdoClient.handleFrame_serverAbort hn (c := c.drained) ht code))⟩

/-- An init request that is refused ends the transfer after two frames. -/
theorem Loop.endsWith_refused (hn : nodeId ≤ 127) {c : SdoClient} {s : SdoServer N} {o o' : σ}
    {f : SdoFrame} {code : SdoAbortCode} (hs : s.cfg.nodeId = nodeId)
    (ht : c.transfer = some (nodeId, idx, sub)) (hf : c.pendingTx = some f)
    (hstep : s.handleFrame f (clock 0) od o
      = .ok ((.error (.clientAborted code), s.aborted idx sub code), o')) :
    Loop.EndsWith tgt od clock ⟨c, s, o⟩ (.error (.serverAborted (.ofRaw code.raw))) 2 o' := by
  obtain ⟨c', s', hc', hs', h⟩ := Pumps.refused hn hs ht hf hstep
  exact h.endsWith hc' hs'

/-- The number of frames an upload of `len` bytes takes. -/
def uploadFrames (len : ℕ) : ℕ := if 1 ≤ len ∧ len ≤ 4 then 2 else 2 * (1 + max 1 (len ⌈/⌉ 7))

/-- The loop after `begin_upload`, with a dictionary that yields a value. -/
theorem pumps_upload (hn : nodeId ≤ 127) {c : SdoClient} {s : SdoServer N} {o o' : σ}
    {now : UInt64} (hs : s.cfg.nodeId = nodeId) (hlen : len ≤ N) (hN : N < 2 ^ 32)
    (hcap : N ≤ tgt.isizeMax) (hr : od.read o idx sub (Bytes.zero N) = (.ok len, buf, o')) :
    ∃ c' s', c'.state = .idle ∧ s'.state = .idle ∧
      Pumps tgt od clock 0 ⟨c.uploadStarted nodeId idx sub now, s, o⟩
        ⟨.ok (.uploadCompleted (buf.data.take len)), uploadFrames len, ⟨c', s', o'⟩⟩ := by
  have hv : (buf.data.take len).length = len := by
    rw [List.length_take, buf.size, Nat.min_eq_left hlen]
  have hserve : s.handleFrame (initUploadRequest nodeId idx sub) (clock 0) od o = _ :=
    SdoServer.handleFrame_initUploadRequest hn hs hr hlen
  by_cases h : 1 ≤ len ∧ len ≤ 4
  · rw [if_pos h] at hserve
    rw [uploadFrames, if_pos h]
    exact ⟨_, _, rfl, rfl, .request rfl hserve
      (.completed rfl (SdoServer.pendingTx_answered_data hs rfl)
        (SdoClient.handleFrame_initUploadReply_expedited hn rfl (by rwa [hv])))⟩
  · rw [if_neg h] at hserve
    have hword : (UInt32.ofNat (buf.data.take len).length).toNat ≤ tgt.isizeMax := by
      rw [hv, UInt32.toNat_ofNat', Nat.mod_eq_of_lt (by omega)]
      omega
    have hpos := one_le_pieces 7 len
    -- the loop once the length is announced and the first segment requested
    have hat : Loop.UploadAt
        ⟨(c.uploadStarted nodeId idx sub now).drained.requestSegment
            (.after nodeId idx sub (buf.data.take len) 0) (clock 1),
          (s.serving (.uploading idx sub buf len 0 false)
            (initUploadReply nodeId idx sub (buf.data.take len)).data (clock 0)).drained, o'⟩
        nodeId idx sub buf len 0 := ⟨rfl, SdoClient.pendingTx_requestSegment _ _, hs, rfl⟩
    obtain ⟨c', s', hc', hs', hp⟩ := hat.pumps hn hlen (by omega) (hlen.trans hcap)
      (pieces 7 len - 1) (n := 2) (by omega)
    refine ⟨c', s', hc', hs', .request rfl hserve
      (.response rfl (SdoServer.pendingTx_serving_data hs rfl)
        (SdoClient.handleFrame_initUploadReply hn rfl (by rwa [hv]) hword) ?_)⟩
    have hframes : uploadFrames len = 2 + 2 * (pieces 7 len - 1 + 1) := by
      rw [uploadFrames, if_neg h]
      unfold pieces
      unfold pieces at hpos
      omega
    rw [hframes]
    exact hp

/-- **A loopback upload is exact and terminates.**  The `N` bytes of the server's
buffer are an array of the target, so they are no more than an allocation. -/
theorem loopback_upload (hN : N < 2 ^ 32) (hcap : N ≤ tgt.isizeMax) (o : σ) (now : UInt64)
    (hn : SdoFrame.ValidNode nodeId) {c : SdoClient} (hc : c.state = .idle) {s : SdoServer N}
    (hs : s.cfg.nodeId = nodeId) :
    ∃ c₁, c.beginUpload nodeId idx sub now = (.ok (), c₁) ∧
      match od.read o idx sub (Bytes.zero N) with
      | (.ok len, buf, o') =>
        Loop.EndsWith tgt od.recording clock ⟨c₁, s, (o, [])⟩
          (if len ≤ N then .ok (.uploadCompleted (buf.data.take len))
            else .error (.serverAborted .outOfMemory))
          (if len ≤ N then uploadFrames len else 2) (o', [.read idx sub (.ok len) buf.data])
      | (.error code, buf, o') =>
        ∃ code', code'.raw = code.raw ∧
          Loop.EndsWith tgt od.recording clock ⟨c₁, s, (o, [])⟩ (.error (.serverAborted code')) 2
            (o', [.read idx sub (.error code) buf.data]) := by
  refine ⟨_, SdoClient.beginUpload_of_idle hn hc, ?_⟩
  rcases hread : od.read o idx sub (Bytes.zero N) with ⟨code | len, buf, o'⟩
  · exact ⟨_, SdoAbortCode.raw_ofRaw _, Loop.endsWith_refused hn.2 hs rfl rfl
      (SdoServer.handleFrame_initUploadRequest_refused hn.2 hs (od.read_recording hread []))⟩
  · have hr := od.read_recording hread []
    by_cases hlen : len ≤ N
    · obtain ⟨c', s', hc', hs', h⟩ := pumps_upload hn.2 hs hlen hN hcap hr
      simp only [hlen, if_true]
      exact h.endsWith hc' hs'
    · simp only [hlen, if_false]
      exact Loop.endsWith_refused hn.2 hs rfl rfl
        (SdoServer.handleFrame_initUploadRequest_tooLarge hn.2 hs hr (Nat.lt_of_not_le hlen))

/-- Eight bytes take two segments. -/
theorem loopback_upload_eight :
    ∃ c₁, (SdoClient.new .default).beginUpload 0x10 0x2000 0 0 = (.ok (), c₁) ∧
      Loop.EndsWith .bits64 loopOd.recording UInt64.ofNat
        ⟨c₁, (SdoServer.new (.new 0x10) : SdoServer 16), (counting, [])⟩
        (.ok (.uploadCompleted [1, 2, 3, 4, 5, 6, 7, 8])) 6
        (counting, [.read 0x2000 0 (.ok 8) [1, 2, 3, 4, 5, 6, 7, 8, 0, 0, 0, 0, 0, 0, 0, 0]]) :=
  @loopback_upload 16 _ .bits64 loopOd UInt64.ofNat 0x10 0x2000 0 (by decide) (by decide) counting 0
    (by decide) _ rfl _ rfl

end Upload

/-! ### Segments of a download -/

section Download

variable {nodeId : UInt8} {idx : UInt16} {sub : UInt8} {d : List UInt8}

/-- The client is about to send the `k`-th segment of `d`. -/
structure Loop.DownloadAt (l : Loop N σ) (nodeId : UInt8) (idx : UInt16) (sub : UInt8)
    (d : List UInt8) (k : ℕ) : Prop where
  client : l.client.state = .downloading (.sent nodeId idx sub d (k + 1))
  request : l.client.pendingTx = some (downloadSegment nodeId d k)
  node : l.server.cfg.nodeId = nodeId
  server : ∃ buf : Bytes N, buf.data.take (7 * k) = d.take (7 * k) ∧
    l.server.state = .downloading idx sub buf (7 * k) (some d.length) (alternate k)

/-- What the client reports when the dictionary has answered the write. -/
def reported : Except SdoAbortCode Unit → SdoResult SdoOutcome
  | .ok () => .ok .downloadCompleted
  | .error code => .error (.serverAborted (.ofRaw code.raw))

/-- The rest of a download, `j` segments after the next one. -/
theorem Loop.DownloadAt.pumps (hn : nodeId ≤ 127) (hN : d.length ≤ N) (j : ℕ) :
    ∀ {k n : ℕ} {l : Loop N σ} {r : Except SdoAbortCode Unit} {o' : σ},
      l.DownloadAt nodeId idx sub d k → pieces 7 d.length = k + 1 + j →
        od.write l.dict idx sub d = (r, o') →
          ∃ c s, c.state = .idle ∧ s.state = .idle ∧
            Pumps tgt od clock n l ⟨reported r, n + 2 * (j + 1), ⟨c, s, o'⟩⟩ := by
  induction j with
  | zero =>
    intro k n l r o' h hk hw
    obtain ⟨buf, hbuf, hst⟩ := h.server
    obtain ⟨hprev, hlast⟩ : 7 * k ≤ d.length ∧ d.length ≤ 7 * (k + 1) :=
      bounds_of_pieces_eq (by decide) hk
    have hserve : l.server.handleFrame (downloadSegment nodeId d k) (clock n) od l.dict = _ :=
      SdoServer.handleFrame_downloadSegment_last hn h.node hst hbuf hprev hlast hN
        (fun size hs => (Option.some.inj hs).symm) hw
    -- the dictionary answers the final segment: its abort or the ack ends the loop
    rcases r with code | u
    · have htransfer : l.client.drained.transfer = some (nodeId, idx, sub) := by
        simp [SdoClient.transfer, h.client]
      exact Pumps.refused hn h.node htransfer h.request hserve
    · exact ⟨_, _, rfl, rfl, .request h.request hserve
        (.completed rfl (SdoServer.pendingTx_answered_data h.node rfl)
          (SdoClient.handleFrame_segmentAck_last hn h.client hlast))⟩
  | succ j ih =>
    intro k n l r o' h hk hw
    obtain ⟨buf, hbuf, hst⟩ := h.server
    have hmore : 7 * (k + 1) < d.length := (succ_lt_pieces (by decide)).mp (by omega)
    obtain ⟨buf', hbuf', hserve⟩ := SdoServer.handleFrame_downloadSegment_more hn h.node hst hbuf
      hmore (hmore.le.trans hN)
    have hat : Loop.DownloadAt
        ⟨l.client.drained.sendSegment (.sent nodeId idx sub d (k + 1)) (clock (n + 1)),
          (l.server.serving (.downloading idx sub buf' (7 * (k + 1)) (some d.length)
            (alternate (k + 1))) (segmentAck nodeId k).data (clock n)).drained, l.dict⟩
        nodeId idx sub d (k + 1) :=
      ⟨rfl, SdoClient.pendingTx_sendSegment _ _, h.node, buf', hbuf', rfl⟩
    obtain ⟨c, s, hc, hs, hp⟩ := ih (n := n + 2) hat (by omega) hw
    refine ⟨c, s, hc, hs, .request h.request hserve
      (.response rfl (SdoServer.pendingTx_serving_data h.node rfl)
        (SdoClient.handleFrame_segmentAck_more hn h.client (by omega)) ?_)⟩
    rw [show n + 2 * (j + 1 + 1) = n + 2 + 2 * (j + 1) by omega]
    exact hp

/-- The number of frames a download of `len` bytes takes. -/
def downloadFrames (len : ℕ) : ℕ := if len ≤ 4 then 2 else 2 * (1 + len ⌈/⌉ 7)

/-- The loop after `begin_download`, for a payload that fits into the server's buffer or
is sent inline. -/
theorem pumps_download (hn : nodeId ≤ 127) {c : SdoClient} {s : SdoServer N} {o o' : σ}
    {now : UInt64} {r : Except SdoAbortCode Unit} (hs : s.cfg.nodeId = nodeId)
    (hd₁ : 1 ≤ d.length) (hd : d.length < 2 ^ 32) (hfit : ¬ (4 < d.length ∧ N < d.length))
    (hw : od.write o idx sub d = (r, o')) :
    ∃ c' s', c'.state = .idle ∧ s'.state = .idle ∧
      Pumps tgt od clock 0 ⟨c.downloadStarted nodeId idx sub d now, s, o⟩
        ⟨reported r, downloadFrames d.length, ⟨c', s', o'⟩⟩ := by
  by_cases h₄ : d.length ≤ 4
  · rw [downloadFrames, if_pos h₄]
    rcases r with code | u
    · exact Pumps.refused hn hs rfl rfl
        (SdoServer.handleFrame_initDownloadRequest_refused hn hs hd₁ h₄ hw)
    · exact ⟨_, _, rfl, rfl, .request rfl
        (SdoServer.handleFrame_initDownloadRequest_expedited hn hs hd₁ h₄ hw)
        (.completed rfl (SdoServer.pendingTx_answered_data hs rfl)
          (SdoClient.handleFrame_initAck_expedited hn rfl h₄))⟩
  · have hN : d.length ≤ N := by omega
    have hword : (UInt32.ofNat d.length).toNat = d.length := by
      rw [UInt32.toNat_ofNat', Nat.mod_eq_of_lt hd]
    have hserve : s.handleFrame (initDownloadRequest nodeId idx sub d) (clock 0) od o = _ :=
      SdoServer.handleFrame_initDownloadRequest_segmented hn hs h₄ (hword.trans_le hN)
    rw [hword] at hserve
    have hpos := one_le_pieces 7 d.length
    -- the loop once the init request is acknowledged and the first segment is pending
    have hat : Loop.DownloadAt
        ⟨(c.downloadStarted nodeId idx sub d now).drained.sendSegment (.sent nodeId idx sub d 0)
            (clock 1),
          (s.serving (.downloading idx sub (Bytes.zero N) 0 (some d.length) false)
            (initAck nodeId idx sub).data (clock 0)).drained, o⟩
        nodeId idx sub d 0 := ⟨rfl, SdoClient.pendingTx_sendSegment _ _, hs, _, rfl, rfl⟩
    obtain ⟨c', s', hc', hs', hp⟩ := hat.pumps hn hN (pieces 7 d.length - 1) (n := 2) (by omega) hw
    refine ⟨c', s', hc', hs', .request rfl hserve
      (.response rfl (SdoServer.pendingTx_serving_data hs rfl)
        (SdoClient.handleFrame_initAck hn rfl h₄) ?_)⟩
    have hframes : downloadFrames d.length = 2 + 2 * (pieces 7 d.length - 1 + 1) := by
      rw [downloadFrames, if_neg h₄, ← pieces_of_pos (by decide) (by omega)]
      omega
    rw [hframes]
    exact hp

/-- **A loopback download is exact and terminates.** -/
theorem loopback_download (o : σ) (now : UInt64) (hn : SdoFrame.ValidNode nodeId)
    (hd₁ : 1 ≤ d.length) (hd : d.length < 2 ^ 32) {c : SdoClient} (hc : c.state = .idle)
    {s : SdoServer N} (hs : s.cfg.nodeId = nodeId) :
    ∃ c₁, c.beginDownload nodeId idx sub d now = .ok (.ok (), c₁) ∧
      if 4 < d.length ∧ N < d.length then
        Loop.EndsWith tgt od.recording clock ⟨c₁, s, (o, [])⟩ (.error (.serverAborted .outOfMemory))
          2 (o, [])
      else
        match od.write o idx sub d with
        | (.ok (), o') =>
          Loop.EndsWith tgt od.recording clock ⟨c₁, s, (o, [])⟩ (.ok .downloadCompleted)
            (downloadFrames d.length) (o', [.write idx sub d (.ok ())])
        | (.error code, o') =>
          ∃ code', code'.raw = code.raw ∧
            Loop.EndsWith tgt od.recording clock ⟨c₁, s, (o, [])⟩ (.error (.serverAborted code'))
              (downloadFrames d.length) (o', [.write idx sub d (.error code)]) := by
  refine ⟨_, SdoClient.beginDownload_of_idle hn hc hd₁, ?_⟩
  split
  · next h =>
    have hword : (UInt32.ofNat d.length).toNat = d.length := by
      rw [UInt32.toNat_ofNat', Nat.mod_eq_of_lt hd]
    exact Loop.endsWith_refused hn.2 hs rfl rfl
      (SdoServer.handleFrame_initDownloadRequest_tooLarge hn.2 hs (by omega) (hword.symm ▸ h.2))
  · next h =>
    rcases hwrite : od.write o idx sub d with ⟨code | u, o'⟩
    · obtain ⟨c', s', hc', hs', hp⟩ := pumps_download hn.2 hs hd₁ hd h (od.write_recording hwrite [])
      exact ⟨_, SdoAbortCode.raw_ofRaw _, hp.endsWith hc' hs'⟩
    · obtain ⟨c', s', hc', hs', hp⟩ := pumps_download hn.2 hs hd₁ hd h (od.write_recording hwrite [])
      exact hp.endsWith hc' hs'

/-- A payload of eight bytes takes two segments, and is written. -/
theorem loopback_download_eight :
    ∃ c₁, (SdoClient.new .default).beginDownload 0x10 0x2000 0 [8, 7, 6, 5, 4, 3, 2, 1] 0
        = .ok (.ok (), c₁) ∧
      Loop.EndsWith .bits64 loopOd.recording UInt64.ofNat
        ⟨c₁, (SdoServer.new (.new 0x10) : SdoServer 16), (counting, [])⟩ (.ok .downloadCompleted) 6
        ([(0x2000, 0, [8, 7, 6, 5, 4, 3, 2, 1])],
          [.write 0x2000 0 [8, 7, 6, 5, 4, 3, 2, 1] (.ok ())]) :=
  @loopback_download 16 _ .bits64 loopOd UInt64.ofNat 0x10 0x2000 0 _ counting 0 (by decide) (by decide)
    (by decide) _ rfl _ rfl

end Download

end CanopenSdo
