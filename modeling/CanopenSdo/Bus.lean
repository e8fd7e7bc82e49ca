import CanopenSdo.Lib.Machine
import CanopenSdo.Transfer

/-!
# A client and a server on an unreliable bus

One client and one server of the same node, and the two channels between them.
Every call on either machine is a step, in any order; a frame in a channel is
delivered in order, or lost; frames of other nodes come from anywhere; and the
application changes the dictionary when it likes.

The transfers of the client are numbered.  The number of a frame is that of the
transfer it belongs to: a request carries the current one, an answer that of its
request, and the abort of a server timeout that of the init request which opened
the session.  The numbers are ghosts: no step looks at them.

A proof about the bus looks at `Bus.view`, in which a pending frame is the end of its
channel, and at `BusStep`, which says what the steps do to it.

## Main definitions

* `Bus`, `BusAction`, `BusEvent`, `busMachine`.
* `Bus.WellFormed` — what holds of every reachable bus.
* `View`, `BusStep` — the bus with its pending frames at the end of the channels.

## Main results

* `busStep_of_step` — **every step of the bus is a step of its view.**
* `answered_of_mem` — only the answers bring outcomes.
-/

namespace CanopenSdo

open Wire

variable {N : ℕ} {σ : Type}

/-! ### The bus -/

/-- A client, a server, and the channels between them. -/
structure Bus (N : ℕ) (σ : Type) where
  client : SdoClient
  server : SdoServer N
  dict : σ
  /-- The frames on their way to the server, each with its transfer. -/
  toServer : List (SdoFrame × ℕ)
  /-- The frames on their way to the client, each with its transfer. -/
  toClient : List (SdoFrame × ℕ)
  /-- How many transfers have been started: the number of the current one. -/
  current : ℕ
  /-- The transfer whose init request the server has handled last. -/
  session : ℕ
  /-- The transfer of the server's pending frame. -/
  reply : ℕ
  /-- The dictionary calls so far, each with the transfer whose request made it. -/
  calls : List (OdCall × ℕ)

/-- A client and a server before their first transfer. -/
def Bus.start (c : SdoClient) (s : SdoServer N) (dict : σ) : Bus N σ :=
  { client := c, server := s, dict, toServer := [], toClient := [], current := 0, session := 0,
    reply := 0, calls := [] }

/-- The steps of the bus. -/
inductive BusAction (σ : Type) where
  | beginUpload (idx : UInt16) (sub : UInt8) (now : UInt64)
  | beginDownload (idx : UInt16) (sub : UInt8) (data : List UInt8) (now : UInt64)
  /-- The client's pending frame enters its channel. -/
  | clientTransmit
  | serverTransmit
  /-- The head of a channel is delivered. -/
  | deliverToServer (now : UInt64)
  | deliverToClient (now : UInt64)
  /-- The `i`-th frame of a channel is lost. -/
  | loseToServer (i : ℕ)
  | loseToClient (i : ℕ)
  | clientTimeout (now : UInt64)
  | serverTimeout (now : UInt64)
  /-- The client's user aborts the transfer. -/
  | abort (code : SdoAbortCode)
  /-- A frame that is no request to this node reaches the server. -/
  | foreignToServer (f : SdoFrame) (now : UInt64)
  /-- A frame that is no response of this node reaches the client. -/
  | foreignToClient (f : SdoFrame) (now : UInt64)
  /-- The application changes the dictionary. -/
  | odChange (dict : σ)

/-- What a step lets its surroundings see. -/
inductive BusEvent where
  /-- A transfer was started. -/
  | began
  /-- A frame of the transfer `i` was delivered to the server. -/
  | served (f : SdoFrame) (i : ℕ) (r : SdoResult Unit) (calls : List OdCall)
  /-- A frame of the transfer `i` was delivered to the client. -/
  | answered (f : SdoFrame) (i : ℕ) (r : SdoResult (Option SdoOutcome))
  /-- Any other call, with its result where it has one. -/
  | other (r : SdoResult (Option SdoOutcome))
  deriving DecidableEq

/-- The outcome a step reports, whichever call it is. -/
def BusEvent.outcome : BusEvent → Option SdoOutcome
  | .answered _ _ (.ok outcome) => outcome
  | .other (.ok outcome) => outcome
  | _ => none

/-- The frame opens a transfer. -/
def SdoFrame.IsInit (f : SdoFrame) : Prop := f.cs = ccsInitUpload ∨ f.cs = ccsInitDownload

instance (f : SdoFrame) : Decidable f.IsInit := inferInstanceAs (Decidable (_ ∨ _))

/-- The pending frame of a channel, at its end. -/
def pendingFrame (tx : Option SdoFrame) (i : ℕ) : List (SdoFrame × ℕ) :=
  (tx.map fun f => (f, i)).toList

@[simp] theorem pendingFrame_none (i : ℕ) : pendingFrame none i = [] := rfl

@[simp] theorem pendingFrame_some (f : SdoFrame) (i : ℕ) : pendingFrame (some f) i = [(f, i)] := rfl

/-- One step of the bus; a step in which a machine panics is refused. -/
def busStep (tgt : Target) (od : ObjectDictionary σ) (nodeId : UInt8) (b : Bus N σ) :
    BusAction σ → Option (BusEvent × Bus N σ)
  | .beginUpload idx sub now =>
    match b.client.beginUpload nodeId idx sub now with
    | (.error e, c) => some (.other (.error e), { b with client := c })
    | (.ok (), c) => some (.began, { b with client := c, current := b.current + 1 })
  | .beginDownload idx sub data now =>
    match b.client.beginDownload nodeId idx sub data now with
    | .error _ => none
    | .ok (.error e, c) => some (.other (.error e), { b with client := c })
    | .ok (.ok (), c) => some (.began, { b with client := c, current := b.current + 1 })
  | .clientTransmit =>
    let (tx, c) := b.client.pollTransmit
    some (.other (.ok none),
      { b with client := c, toServer := b.toServer ++ pendingFrame tx b.current })
  | .serverTransmit =>
    let (tx, s) := b.server.pollTransmit
    some (.other (.ok none),
      { b with server := s, toClient := b.toClient ++ pendingFrame tx b.reply })
  | .deliverToServer now =>
    match b.toServer with
    | [] => none
    | (f, i) :: rest =>
      match b.server.handleFrame f now od.recording (b.dict, []) with
      | .error _ => none
      | .ok ((r, s), (dict, calls)) =>
        some (.served f i r calls, { b with
          server := s
          dict := dict
          toServer := rest
          session := if f.IsInit then i else b.session
          reply := i
          calls := b.calls ++ calls.map fun c => (c, i) })
  | .deliverToClient now =>
    match b.toClient with
    | [] => none
    | (f, i) :: rest =>
      match b.client.handleFrame tgt f now with
      | .error _ => none
      | .ok (r, c) => some (.answered f i r, { b with client := c, toClient := rest })
  | .loseToServer i => some (.other (.ok none), { b with toServer := b.toServer.eraseIdx i })
  | .loseToClient i => some (.other (.ok none), { b with toClient := b.toClient.eraseIdx i })
  | .clientTimeout now =>
    let (r, c) := b.client.handleTimeout now
    some (.other r, { b with client := c })
  | .serverTimeout now =>
    match b.server.handleTimeout now with
    | (.ok (), s) => some (.other (.ok none), { b with server := s })
    | (.error e, s) => some (.other (.error e), { b with server := s, reply := b.session })
  | .abort code => some (.other (.ok none), { b with client := b.client.abort code })
  | .foreignToServer f now =>
    if SdoFrame.nodeOfRsdo f.cobId = some nodeId then none
    else
      match b.server.handleFrame f now od.recording (b.dict, []) with
      | .error _ => none
      | .ok ((r, s), (dict, calls)) =>
        some (.other (r.map fun _ => none), { b with
          server := s
          dict := dict
          calls := b.calls ++ calls.map fun c => (c, b.current) })
  | .foreignToClient f now =>
    if SdoFrame.nodeOfTsdo f.cobId = some nodeId then none
    else
      match b.client.handleFrame tgt f now with
      | .error _ => none
      | .ok (r, c) => some (.other r, { b with client := c })
  | .odChange dict => some (.other (.ok none), { b with dict := dict })

/-- The bus as a machine. -/
def busMachine (tgt : Target) (od : ObjectDictionary σ) (nodeId : UInt8) :
    Machine (Bus N σ) (BusAction σ) BusEvent := ⟨busStep tgt od nodeId⟩

/-! ### The view of the bus -/

/-- The object of the client's transfer. -/
def ClientState.object : ClientState → Option (UInt16 × UInt8)
  | .idle => none
  | .uploading u => some (u.idx, u.sub)
  | .downloading d => some (d.idx, d.sub)

/-- The bus, with the pending frames at the end of their channels. -/
@[ext] structure View (N : ℕ) where
  client : ClientState
  server : ServerState N
  /-- All that is on its way to the server, or about to be. -/
  up : List (SdoFrame × ℕ)
  /-- All that is on its way to the client, or about to be. -/
  down : List (SdoFrame × ℕ)
  current : ℕ
  session : ℕ
  calls : List (OdCall × ℕ)

/-- The view of a bus. -/
def Bus.view (b : Bus N σ) : View N where
  client := b.client.state
  server := b.server.state
  up := b.toServer ++ pendingFrame b.client.pendingTx b.current
  down := b.toClient ++ pendingFrame b.server.pendingTx b.reply
  current := b.current
  session := b.session
  calls := b.calls

/-- How a transfer is opened: its object, the client that waits for the first answer,
and the init request. -/
structure Opening where
  idx : UInt16
  sub : UInt8
  client : ClientState
  init : SdoFrame

/-- The opening of an upload. -/
def Opening.upload (nodeId : UInt8) (idx : UInt16) (sub : UInt8) : Opening where
  idx := idx
  sub := sub
  client := .uploading (.start nodeId idx sub)
  init := initUploadRequest nodeId idx sub

/-- The opening of a download. -/
def Opening.download (nodeId : UInt8) (idx : UInt16) (sub : UInt8) (d : List UInt8) : Opening where
  idx := idx
  sub := sub
  client := .downloading (.start nodeId idx sub d)
  init := initDownloadRequest nodeId idx sub d

/-- The transfer a step opens, if it is a call that can. -/
def BusAction.opening (nodeId : UInt8) : BusAction σ → Option Opening
  | .beginUpload idx sub _ => some (.upload nodeId idx sub)
  | .beginDownload idx sub d _ => some (.download nodeId idx sub d)
  | _ => none

/-- The view after the server has handled a frame: what it sent before that is `l`. -/
def View.served (v : View N) (s : SdoServer N) (rest l : List (SdoFrame × ℕ)) (i session : ℕ)
    (log : List OdCall) : View N :=
  { v with
    server := s.state
    up := rest
    down := l ++ pendingFrame s.pendingTx i
    session := session
    calls := v.calls ++ log.map fun c => (c, i) }

/-- The view after the client has handled a frame: what it sent before that is `l`. -/
def View.answered (v : View N) (c : SdoClient) (rest l : List (SdoFrame × ℕ)) : View N :=
  { v with
    client := c.state
    up := l ++ pendingFrame c.pendingTx v.current
    down := rest }

open scoped List in
/-- What a step does to the view, for the transfer it may open. -/
inductive BusStep (tgt : Target) (od : ObjectDictionary σ) (nodeId : UInt8) :
    Option Opening → View N → BusEvent → View N → Prop
  /-- A transfer is opened.  A frame that was still pending is overwritten. -/
  | began {v : View N} {T : Opening} {l : List (SdoFrame × ℕ)} (hc : v.client = .idle)
      (hl : l <+ v.up) :
      BusStep tgt od nodeId (some T) v .began { v with
        client := T.client
        up := l ++ [(T.init, v.current + 1)]
        current := v.current + 1 }
  /-- Nothing happens but that frames are lost. -/
  | lost {op : Option Opening} {v : View N} {up down : List (SdoFrame × ℕ)}
      {r : SdoResult (Option SdoOutcome)} (hup : up <+ v.up) (hdown : down <+ v.down) :
      BusStep tgt od nodeId op v (.other r) { v with up := up, down := down }
  /-- The client aborts its transfer. -/
  | quit {op : Option Opening} {v : View N} {l : List (SdoFrame × ℕ)} {g : SdoFrame}
      {r : SdoResult (Option SdoOutcome)} (hc : v.client ≠ .idle) (hl : l <+ v.up)
      (hg : g.cs = csAbort) :
      BusStep tgt od nodeId op v (.other r) { v with
        client := .idle
        up := l ++ [(g, v.current)] }
  /-- The server's deadline has passed. -/
  | timedOut {op : Option Opening} {v : View N} {l : List (SdoFrame × ℕ)} {idx : UInt16}
      {sub : UInt8} {r : SdoResult (Option SdoOutcome)} (ho : v.server.object = some (idx, sub))
      (hl : l <+ v.down) :
      BusStep tgt od nodeId op v (.other r) { v with
        server := .idle
        down := l ++ [(serverAbort nodeId idx sub .protocolTimeout, v.session)] }
  /-- The server handles a frame. -/
  | served {op : Option Opening} {v : View N} {rest l : List (SdoFrame × ℕ)} {f : SdoFrame} {i : ℕ}
      {s s' : SdoServer N} {o o' : σ} {r : SdoResult Unit} {log : List OdCall} {now : UInt64}
      (hup : v.up = (f, i) :: rest) (hs : s.state = v.server) (hn : s.cfg.nodeId = nodeId)
      (hf : s.handleFrame f now od.recording (o, []) = .ok ((r, s'), (o', log)))
      (hl : l <+ v.down) :
      BusStep tgt od nodeId op v (.served f i r log)
        (v.served s' rest l i (if f.IsInit then i else v.session) log)
  /-- The client handles a frame. -/
  | answered {op : Option Opening} {v : View N} {rest l : List (SdoFrame × ℕ)} {f : SdoFrame}
      {i : ℕ} {c c' : SdoClient} {r : SdoResult (Option SdoOutcome)} {now : UInt64}
      (hdown : v.down = (f, i) :: rest) (hc : c.state = v.client)
      (hf : c.handleFrame tgt f now = .ok (r, c'))
      (hup : v.up = l ++ pendingFrame c.pendingTx v.current) :
      BusStep tgt od nodeId op v (.answered f i r) (v.answered c' rest l)

/-! ### The client and the server of a bus -/

/-- A frame a client of this node sends. -/
def IsRequest (nodeId : UInt8) (f : SdoFrame) : Prop :=
  f.cobId = SdoFrame.rsdoId nodeId ∧
    (f.cs = csAbort ∨ f.IsInit ∨ f.cs = ccsUploadSegment ∨ f.cs = ccsDownloadSegment)

/-- What holds of every reachable bus. -/
structure Bus.WellFormed (nodeId : UInt8) (b : Bus N σ) : Prop where
  server : b.server.cfg.nodeId = nodeId
  client : ∀ x ∈ b.client.transfer, x.1 = nodeId
  up : ∀ x ∈ b.view.up, IsRequest nodeId x.1 ∧ x.2 ≤ b.current
  session : b.session ≤ b.current
  calls : ∀ x ∈ b.calls, x.2 ≤ b.current

section Client

variable {tgt : Target} {c c' : SdoClient} {f : SdoFrame} {now : UInt64} {nodeId : UInt8}

/-- A frame from another node is no answer. -/
theorem SdoClient.not_answers_of_foreign (hc : ∀ x ∈ c.transfer, x.1 = nodeId)
    (hf : SdoFrame.nodeOfTsdo f.cobId ≠ some nodeId) : ¬ c.Answers f := by
  intro ha
  obtain ⟨node, idx, sub, ht, hn, -⟩ := SdoClient.answers_iff.mp ha
  obtain rfl : node = nodeId := hc _ ht
  exact hf hn

/-- The user's abort, and that of a timeout: nothing, or an abort frame for the
transfer in flight. -/
theorem SdoClient.abortWith_cases (hc : ∀ x ∈ c.transfer, x.1 = nodeId) (code : SdoAbortCode) :
    c.abortWith code = c ∨
      (c.state ≠ .idle ∧ (c.abortWith code).state = .idle ∧
        ∃ idx sub, (c.abortWith code).pendingTx
          = some ⟨SdoFrame.rsdoId nodeId, Wire.abort idx sub code⟩) := by
  by_cases hst : c.state = .idle
  · exact .inl (abortWith_of_idle hst code)
  · obtain ⟨node, idx, sub, ht, habort⟩ := exists_transfer hst
    obtain rfl : node = nodeId := hc _ ht
    rw [habort]
    exact .inr ⟨hst, rfl, idx, sub, rfl⟩

/-- A request of a transfer with this node is queued. -/
theorem isRequest_queueRequest {st : ClientState} {data : Bytes 8} {idx : UInt16} {sub : UInt8}
    (ht : { c with state := st }.transfer = some (nodeId, idx, sub))
    (hdata : IsRequest nodeId ⟨SdoFrame.rsdoId nodeId, data⟩) :
    (∀ x ∈ ({ c with state := st }.queueRequest nodeId data now).transfer, x.1 = nodeId) ∧
      ∀ g, ({ c with state := st }.queueRequest nodeId data now).pendingTx = some g →
        IsRequest nodeId g := by
  constructor
  · intro x hx
    obtain rfl := Option.some.inj (ht.symm.trans hx)
    rfl
  · intro g hg
    obtain rfl := Option.some.inj hg
    exact hdata

theorem isRequest_requestSegment {u : UploadCtx} (hu : u.nodeId = nodeId) :
    (∀ x ∈ (c.requestSegment u now).transfer, x.1 = nodeId) ∧
      ∀ g, (c.requestSegment u now).pendingTx = some g → IsRequest nodeId g := by
  subst hu
  exact isRequest_queueRequest rfl ⟨rfl, .inr (.inr (.inl (SdoFrame.cs_uploadSegmentRequest _ _)))⟩

theorem isRequest_sendSegment {d : DownloadCtx} (hd : d.nodeId = nodeId) :
    (∀ x ∈ (c.sendSegment d now).transfer, x.1 = nodeId) ∧
      ∀ g, (c.sendSegment d now).pendingTx = some g → IsRequest nodeId g := by
  subst hd
  exact isRequest_queueRequest rfl ⟨rfl, .inr (.inr (.inr (cs_downloadSegment _ _ _ _)))⟩

/-- The init request of a new upload. -/
theorem isRequest_uploadStarted (idx : UInt16) (sub : UInt8) :
    (∀ x ∈ (c.uploadStarted nodeId idx sub now).transfer, x.1 = nodeId) ∧
      ∀ g, (c.uploadStarted nodeId idx sub now).pendingTx = some g → IsRequest nodeId g :=
  isRequest_queueRequest rfl ⟨rfl, .inr (.inl (.inl (SdoFrame.cs_initUpload _ idx sub)))⟩

/-- The init request of a new download. -/
theorem isRequest_downloadStarted (idx : UInt16) (sub : UInt8) {d : List UInt8}
    (hd : 1 ≤ d.length) :
    (∀ x ∈ (c.downloadStarted nodeId idx sub d now).transfer, x.1 = nodeId) ∧
      ∀ g, (c.downloadStarted nodeId idx sub d now).pendingTx = some g → IsRequest nodeId g :=
  isRequest_queueRequest rfl ⟨rfl, .inr (.inl (.inr (cs_initDownloadData _ idx sub hd)))⟩

theorem isRequest_queueAbort {idx : UInt16} {sub : UInt8} {code : SdoAbortCode} {n : UInt8}
    (hn : n = nodeId) :
    (∀ x ∈ (c.queueAbort n idx sub code).transfer, x.1 = nodeId) ∧
      ∀ g, (c.queueAbort n idx sub code).pendingTx = some g → IsRequest nodeId g := by
  subst hn
  refine ⟨fun x hx => (by cases hx), ?_⟩
  intro g hg
  obtain rfl := Option.some.inj hg
  exact ⟨rfl, .inl (SdoFrame.cs_abort _ idx sub code)⟩

/-- A client that has aborted its transfer sends requests only. -/
theorem isRequest_abortWith (hc : ∀ x ∈ c.transfer, x.1 = nodeId)
    (htx : ∀ g, c.pendingTx = some g → IsRequest nodeId g) (code : SdoAbortCode) :
    (∀ x ∈ (c.abortWith code).transfer, x.1 = nodeId) ∧
      ∀ g, (c.abortWith code).pendingTx = some g → IsRequest nodeId g := by
  rcases c.abortWith_cases hc code with h | ⟨-, hst, idx, sub, habort⟩
  · rw [h]
    exact ⟨hc, htx⟩
  · constructor
    · intro x hx
      rw [SdoClient.transfer_of_idle hst] at hx
      cases hx
    · intro g hg
      obtain rfl := Option.some.inj (habort.symm.trans hg)
      exact ⟨rfl, .inl (SdoFrame.cs_abort _ idx sub code)⟩

/-- What the client sends is a request to the node of its transfer, which stays the
same while it goes on. -/
theorem ClientStep.isRequest {r : SdoResult (Option SdoOutcome)}
    (h : ClientStep tgt c f now r c') (hc : ∀ x ∈ c.transfer, x.1 = nodeId)
    (htx : ∀ g, c.pendingTx = some g → IsRequest nodeId g) :
    (∀ x ∈ c'.transfer, x.1 = nodeId) ∧ ∀ g, c'.pendingTx = some g → IsRequest nodeId g := by
  have hup : ∀ u, c.state = .uploading u → u.nodeId = nodeId := by
    intro u hst
    exact hc (u.nodeId, u.idx, u.sub) (by rw [SdoClient.transfer, hst]; rfl)
  have hdown : ∀ d, c.state = .downloading d → d.nodeId = nodeId := by
    intro d hst
    exact hc (d.nodeId, d.idx, d.sub) (by rw [SdoClient.transfer, hst]; rfl)
  have hidle : ∀ x ∈ c.clearTransfer.transfer, x.1 = nodeId := fun x hx => (by cases hx)
  have hnone : ∀ g, c.clearTransfer.pendingTx = some g → IsRequest nodeId g :=
    fun g hg => (by cases hg)
  cases h with
  | ignored => exact ⟨hc, htx⟩
  -- the exits that end the transfer without a frame
  | serverAbort => exact ⟨hidle, hnone⟩
  | uploadExpedited => exact ⟨hidle, hnone⟩
  | uploadLast => exact ⟨hidle, hnone⟩
  | downloadExpedited => exact ⟨hidle, hnone⟩
  | downloadLast => exact ⟨hidle, hnone⟩
  | uploadInit hst | uploadMore hst =>
    have hu := hup _ hst
    exact isRequest_requestSegment hu
  | uploadToggle hst => exact isRequest_queueAbort (hup _ hst)
  | uploadMismatch hst => exact isRequest_queueAbort (hup _ hst)
  | downloadToggle hst => exact isRequest_queueAbort (hdown _ hst)
  | downloadInit hst => exact isRequest_sendSegment (hdown _ hst)
  | downloadMore hst => exact isRequest_sendSegment (hdown _ hst)

end Client

section Server

/-- A frame a client of this node sends is addressed to the server. -/
theorem IsRequest.addressed {nodeId : UInt8} {f : SdoFrame} (hf : IsRequest nodeId f)
    (hn : nodeId ≤ 127) {s : SdoServer N} (hs : s.cfg.nodeId = nodeId) : s.Addressed f := by
  obtain ⟨id, data⟩ := f
  obtain ⟨hid, -⟩ := hf
  subst hid
  exact SdoServer.addressed_rsdoId hn hs data

end Server

/-! ### Every step of the bus is a step of its view -/

section Step

variable {tgt : Target} {od : ObjectDictionary σ} {nodeId : UInt8} {b b' : Bus N σ}
  {a : BusAction σ} {e : BusEvent}

open scoped List in
theorem toServer_sublist (b : Bus N σ) : b.toServer <+ b.view.up := List.sublist_append_left _ _

open scoped List in
theorem toClient_sublist (b : Bus N σ) : b.toClient <+ b.view.down := List.sublist_append_left _ _

/-- A step that leaves the view as it is. -/
theorem BusStep.same {op : Option Opening} {v v' : View N} {r : SdoResult (Option SdoOutcome)}
    (h : v' = v) : BusStep tgt od nodeId op v (.other r) v' :=
  h ▸ .lost (List.Sublist.refl _) (List.Sublist.refl _)

/-- The client's own abort. -/
theorem busStep_abortWith {op : Option Opening} (hb : b.WellFormed nodeId) (code : SdoAbortCode)
    (r : SdoResult (Option SdoOutcome)) :
    BusStep tgt od nodeId op b.view (.other r)
      { b with client := b.client.abortWith code : Bus N σ }.view := by
  rcases b.client.abortWith_cases hb.client code with h | ⟨hne, hst, idx, sub, htx⟩
  · exact .same (by rw [h])
  · have hview : ({ b with client := b.client.abortWith code : Bus N σ }).view
        = { b.view with
            client := .idle
            up := b.toServer
              ++ [(⟨SdoFrame.rsdoId nodeId, Wire.abort idx sub code⟩, b.view.current)] } := by
      simp only [Bus.view, hst, htx, pendingFrame_some]
    rw [hview]
    exact .quit hne (toServer_sublist b) (SdoFrame.cs_abort _ idx sub code)

/-- A step that starts no transfer and leaves the client's alone, sends nothing to the
server and makes no call keeps a bus well formed. -/
theorem Bus.WellFormed.mono (hb : b.WellFormed nodeId)
    (hcfg : b'.server.cfg.nodeId = b.server.cfg.nodeId)
    (htr : ∀ x ∈ b'.client.transfer, x ∈ b.client.transfer) (hup : ∀ x ∈ b'.view.up, x ∈ b.view.up)
    (hcur : b'.current = b.current) (hses : b'.session = b.session) (hcalls : b'.calls = b.calls) :
    b'.WellFormed nodeId where
  server := hcfg.trans hb.server
  client := fun x hx => hb.client x (htr x hx)
  up := fun x hx => hcur ▸ hb.up x (hup x hx)
  session := by rw [hses, hcur]; exact hb.session
  calls := by rw [hcalls, hcur]; exact hb.calls

/-- A step of the client that sends a request of its current transfer. -/
theorem Bus.WellFormed.request (hb : b.WellFormed nodeId) {c : SdoClient} {l : List (SdoFrame × ℕ)}
    {n : ℕ} (hc : ∀ x ∈ c.transfer, x.1 = nodeId)
    (htx : ∀ g, c.pendingTx = some g → IsRequest nodeId g) (hn : b.current ≤ n) :
    Bus.WellFormed nodeId { b with client := c, current := n, toClient := l } where
  server := hb.server
  client := hc
  up := by
    intro x hx
    rcases List.mem_append.mp hx with hx | hx
    · have hmem := hb.up x (List.mem_append_left _ hx)
      exact ⟨hmem.1, hmem.2.trans hn⟩
    · cases hg : c.pendingTx with
      | none =>
        simp only [hg] at hx
        cases hx
      | some g =>
        simp only [hg, pendingFrame_some, List.mem_singleton] at hx
        subst hx
        exact ⟨htx g hg, le_rfl⟩
  session := hb.session.trans hn
  calls := fun x hx => (hb.calls x hx).trans hn

/-- The pending frame of a well-formed bus is a request. -/
theorem Bus.WellFormed.pendingTx (hb : b.WellFormed nodeId) {g : SdoFrame}
    (hg : b.client.pendingTx = some g) : IsRequest nodeId g :=
  (hb.up (g, b.current) (by simp [Bus.view, hg])).1

/-- A client's own abort keeps a bus well formed. -/
theorem Bus.WellFormed.abortWith (hb : b.WellFormed nodeId) (code : SdoAbortCode) :
    Bus.WellFormed nodeId { b with client := b.client.abortWith code } := by
  obtain ⟨htr, htx⟩ := isRequest_abortWith hb.client (fun _ hg => hb.pendingTx hg) code
  exact hb.request (l := b.toClient) htr htx le_rfl

/-- A request that the server has taken keeps a bus well formed. -/
theorem Bus.WellFormed.served (hb : b.WellFormed nodeId) {s : SdoServer N} {dict : σ}
    {f : SdoFrame} {i : ℕ} {rest : List (SdoFrame × ℕ)} {calls : List OdCall}
    (hup : b.toServer = (f, i) :: rest) (hcfg : s.cfg = b.server.cfg) :
    Bus.WellFormed nodeId
      { b with
        server := s
        dict := dict
        toServer := rest
        session := if f.IsInit then i else b.session
        reply := i
        calls := b.calls ++ calls.map fun c => (c, i) } := by
  have hi : i ≤ b.current := (hb.up (f, i) (by simp [Bus.view, hup])).2
  refine ⟨(congrArg ServerConfig.nodeId hcfg).trans hb.server, hb.client, ?_, ?_, ?_⟩
  · intro x hx
    apply hb.up
    rw [Bus.view, hup]
    exact List.mem_cons_of_mem _ hx
  · -- an init request makes its own transfer the session
    show (if f.IsInit then i else b.session) ≤ b.current
    split
    · exact hi
    · exact hb.session
  · -- the new calls are of the transfer of the request
    intro x hx
    rcases List.mem_append.mp hx with hx | hx
    · exact hb.calls x hx
    · obtain ⟨y, -, rfl⟩ := List.mem_map.mp hx
      exact hi

/-- **Every step of the bus is a step of its view**, and keeps the bus well formed. -/
theorem busStep_of_step (hb : b.WellFormed nodeId) (h : busStep tgt od nodeId b a = some (e, b')) :
    BusStep tgt od nodeId (a.opening nodeId) b.view e b'.view ∧ b'.WellFormed nodeId := by
  cases a with
  | beginUpload idx sub now =>
    obtain ⟨err, he⟩ | ⟨-, hst, he⟩ := b.client.beginUpload_cases nodeId idx sub now
    · simp only [busStep, he, Option.some.injEq, Prod.mk.injEq] at h
      obtain ⟨rfl, rfl⟩ := h
      exact ⟨.same rfl, hb⟩
    · simp only [busStep, he, Option.some.injEq, Prod.mk.injEq] at h
      obtain ⟨rfl, rfl⟩ := h
      obtain ⟨htr, htx⟩ := isRequest_uploadStarted idx sub
      exact ⟨.began hst (toServer_sublist b), hb.request (l := b.toClient) htr htx (Nat.le_succ _)⟩
  | beginDownload idx sub d now =>
    obtain ⟨err, he⟩ | ⟨-, hst, hd, he⟩ := b.client.beginDownload_cases nodeId idx sub d now
    · simp only [busStep, he, Option.some.injEq, Prod.mk.injEq] at h
      obtain ⟨rfl, rfl⟩ := h
      exact ⟨.same rfl, hb⟩
    · simp only [busStep, he, Option.some.injEq, Prod.mk.injEq] at h
      obtain ⟨rfl, rfl⟩ := h
      obtain ⟨htr, htx⟩ := isRequest_downloadStarted idx sub hd
      exact ⟨.began hst (toServer_sublist b), hb.request (l := b.toClient) htr htx (Nat.le_succ _)⟩
  | clientTransmit =>
    simp only [busStep, SdoClient.pollTransmit, Option.some.injEq, Prod.mk.injEq] at h
    obtain ⟨rfl, rfl⟩ := h
    exact ⟨.same (by simp [Bus.view]),
      hb.mono rfl (fun x hx => hx) (fun x hx => by simpa [Bus.view] using hx) rfl rfl rfl⟩
  | serverTransmit =>
    simp only [busStep, SdoServer.pollTransmit, Option.some.injEq, Prod.mk.injEq] at h
    obtain ⟨rfl, rfl⟩ := h
    exact ⟨.same (by simp [Bus.view]),
      hb.mono rfl (fun x hx => hx) (fun x hx => hx) rfl rfl rfl⟩
  | deliverToServer now =>
    cases hup : b.toServer with
    | nil => simp [busStep, hup] at h
    | cons x rest =>
      obtain ⟨f, i⟩ := x
      rcases hf : b.server.handleFrame f now od.recording (b.dict, []) with p | ⟨⟨r, s⟩, dict, calls⟩
      · simp [busStep, hup, hf] at h
      · simp only [busStep, hup, hf, Option.some.injEq, Prod.mk.injEq] at h
        obtain ⟨rfl, rfl⟩ := h
        exact ⟨.served (by simp [Bus.view, hup]) rfl hb.server hf (toClient_sublist b),
          hb.served hup (handleFrame_eq_ok_iff.mp hf).cfg⟩
  | deliverToClient now =>
    cases hdown : b.toClient with
    | nil => simp [busStep, hdown] at h
    | cons x rest =>
      obtain ⟨f, i⟩ := x
      rcases hf : b.client.handleFrame tgt f now with p | ⟨r, c⟩
      · simp [busStep, hdown, hf] at h
      · simp only [busStep, hdown, hf, Option.some.injEq, Prod.mk.injEq] at h
        obtain ⟨rfl, rfl⟩ := h
        have hc := (SdoClient.handleFrame_eq_ok_iff.mp hf).isRequest hb.client fun g hg =>
          hb.pendingTx hg
        exact ⟨.answered (by simp [Bus.view, hdown]) rfl hf rfl,
          hb.request (l := rest) hc.1 hc.2 le_rfl⟩
  | loseToServer i =>
    simp only [busStep, Option.some.injEq, Prod.mk.injEq] at h
    obtain ⟨rfl, rfl⟩ := h
    -- only a frame on its way can be lost, not the pending one
    have hl := (List.eraseIdx_sublist b.toServer i).append_right
      (pendingFrame b.client.pendingTx b.current)
    exact ⟨.lost hl (List.Sublist.refl _), hb.mono rfl (fun x hx => hx) hl.subset rfl rfl rfl⟩
  | loseToClient i =>
    simp only [busStep, Option.some.injEq, Prod.mk.injEq] at h
    obtain ⟨rfl, rfl⟩ := h
    exact ⟨.lost (List.Sublist.refl _) ((List.eraseIdx_sublist _ _).append_right _),
      hb.mono rfl (fun x hx => hx) (fun x hx => hx) rfl rfl rfl⟩
  | clientTimeout now =>
    simp only [busStep, Option.some.injEq, Prod.mk.injEq] at h
    obtain ⟨rfl, rfl⟩ := h
    rcases b.client.handleTimeout_cases now with hc | hc
    · rw [hc]
      exact ⟨.same rfl, hb⟩
    · rw [hc]
      exact ⟨busStep_abortWith hb _ _, hb.abortWith _⟩
  | serverTimeout now =>
    obtain ⟨s, hs, hcfg, hst, htx⟩ | ⟨idx, sub, ho, hs⟩ := b.server.handleTimeout_cases now
    · simp only [busStep, hs, Option.some.injEq, Prod.mk.injEq] at h
      obtain ⟨rfl, rfl⟩ := h
      exact ⟨.same (by simp only [Bus.view, hst, htx]),
        hb.mono (congrArg _ hcfg) (fun x hx => hx) (fun x hx => hx) rfl rfl rfl⟩
    · simp only [busStep, hs, Option.some.injEq, Prod.mk.injEq] at h
      obtain ⟨rfl, rfl⟩ := h
      have hstep : BusStep tgt od nodeId none b.view
          (.other (.error (.clientAborted .protocolTimeout))) _ :=
        .timedOut ho (toClient_sublist b)
      rw [← hb.server] at hstep
      exact ⟨hb.server ▸ hstep, hb.mono rfl (fun x hx => hx) (fun x hx => hx) rfl rfl rfl⟩
  | abort code =>
    simp only [busStep, Option.some.injEq, Prod.mk.injEq] at h
    obtain ⟨rfl, rfl⟩ := h
    exact ⟨busStep_abortWith hb code _, hb.abortWith code⟩
  | foreignToServer f now =>
    by_cases hn : SdoFrame.nodeOfRsdo f.cobId = some nodeId
    · simp [busStep, hn] at h
    · -- the server looks at the node before anything else
      have ha : ¬ b.server.Addressed f := by
        rw [SdoServer.Addressed, hb.server]
        exact hn
      simp only [busStep, if_neg hn, (ServerStep.ignored ha).handleFrame_eq, Option.some.injEq,
        Prod.mk.injEq] at h
      obtain ⟨rfl, rfl⟩ := h
      rw [List.map_nil, List.append_nil]
      exact ⟨.same rfl, hb⟩
  | foreignToClient f now =>
    by_cases hn : SdoFrame.nodeOfTsdo f.cobId = some nodeId
    · simp [busStep, hn] at h
    · -- whatever the client is in the middle of, it is with the node of the bus
      have hx : b.client.handleFrame tgt f now = _ :=
        SdoClient.handleFrame_of_not_answers (SdoClient.not_answers_of_foreign hb.client hn)
      simp only [busStep, if_neg hn, hx, Option.some.injEq, Prod.mk.injEq] at h
      obtain ⟨rfl, rfl⟩ := h
      exact ⟨.same rfl, hb⟩
  | odChange dict =>
    simp only [busStep, Option.some.injEq, Prod.mk.injEq] at h
    obtain ⟨rfl, rfl⟩ := h
    exact ⟨.same rfl, hb.mono rfl (fun x hx => hx) (fun x hx => hx) rfl rfl rfl⟩

/-- **Only an answer brings an outcome**: a timeout aborts or changes nothing, and a frame of
another node is ignored. -/
theorem answered_of_outcome (hb : b.WellFormed nodeId)
    (h : busStep tgt od nodeId b a = some (e, b')) {outcome : SdoOutcome}
    (ho : e.outcome = some outcome) : ∃ f i, e = .answered f i (.ok (some outcome)) := by
  cases a with
  | beginUpload idx sub now | beginDownload idx sub d now =>
    simp only [busStep] at h
    split at h <;> cases h <;> cases ho
  | deliverToServer now =>
    simp only [busStep] at h
    split at h
    · cases h
    · split at h <;> cases h
      cases ho
  | deliverToClient now =>
    simp only [busStep] at h
    split at h
    · cases h
    · next f i rest _ =>
      split at h <;> cases h
      next r c _ =>
      cases r with
      | error => cases ho
      | ok out =>
        obtain rfl : out = some outcome := ho
        exact ⟨f, i, rfl⟩
  | clientTimeout now =>
    simp only [busStep] at h
    rcases b.client.handleTimeout_cases now with hc | hc <;> rw [hc] at h <;> cases h <;> cases ho
  | serverTimeout now =>
    simp only [busStep] at h
    split at h <;> cases h <;> cases ho
  | foreignToServer f now =>
    simp only [busStep] at h
    split at h
    · cases h
    · split at h <;> cases h
      next r s dict calls _ =>
      cases r <;> cases ho
  | foreignToClient f now =>
    by_cases hn : SdoFrame.nodeOfTsdo f.cobId = some nodeId
    · simp [busStep, hn] at h
    · have hx : b.client.handleFrame tgt f now = _ :=
        SdoClient.handleFrame_of_not_answers (SdoClient.not_answers_of_foreign hb.client hn)
      simp only [busStep, if_neg hn, hx, Option.some.injEq, Prod.mk.injEq] at h
      obtain ⟨rfl, -⟩ := h
      cases ho
  | _ =>
    cases h
    cases ho

variable {h : List (BusAction σ × BusEvent)}

/-- **In every run the bus is well formed.** -/
theorem reachable_wellFormed (hb : b.WellFormed nodeId)
    (hr : (busMachine tgt od nodeId).Run b h b') : b'.WellFormed nodeId :=
  hr.invariant (P := fun _ b => b.WellFormed nodeId) hb
    fun _ _ _ _ _ hb hs => (busStep_of_step hb hs).2

/-- **In every run only the answers bring outcomes.** -/
theorem answered_of_mem (hb : b.WellFormed nodeId)
    (hr : (busMachine tgt od nodeId).Run b h b') : ∀ x ∈ h, ∀ outcome,
      x.2.outcome = some outcome → ∃ f i, x.2 = .answered f i (.ok (some outcome)) := by
  induction hr with
  | start =>
    intro x hx
    cases hx
  | snoc hr hs ih =>
    intro x hx outcome ho
    rcases List.mem_append.mp hx with hx | hx
    · exact ih x hx outcome ho
    · obtain rfl := List.mem_singleton.mp hx
      exact answered_of_outcome (reachable_wellFormed hb hr) hs ho

end Step

end CanopenSdo
