import CanopenSdo.Lib.Broadcast
import CanopenSdo.Answer
import CanopenSdo.Bus
import CanopenSdo.Loopback

/-!
# Many nodes on one bus

A client and the server of its node are a party of a broadcast medium: every frame that
one of them sends reaches every client and every server on the bus, its own included.
The identifiers keep the pairs apart: a frame of another node is ignored in every state
of a client and of a server, although a segment does not name its object.

## Main definitions

* `Pair`, `PairAction`, `PairEvent`, `pairParty` — a client, its server and the dictionary.
* `Pair.OfNode` — what holds of a pair in every run.
* `nodesSeparated` — pairs of different nodes do not react to each other.

## Main results

* `transfers_do_not_interact` — **in every run on a shared bus each pair does what it does
  alone.**
-/

namespace CanopenSdo

open Wire

variable {N : ℕ} {σ : Type}

/-! ### A pair -/

/-- A client, the server of the node it talks to, and the server's dictionary. -/
structure Pair (N : ℕ) (σ : Type) where
  client : SdoClient
  server : SdoServer N
  dict : σ

/-- A pair before its first transfer. -/
def Pair.new (config : SdoConfig) (cfg : ServerConfig) (dict : σ) : Pair N σ where
  client := .new config
  server := .new cfg
  dict := dict

/-- A call on the client or the server, the delivery of a frame apart. -/
inductive PairAction where
  | beginUpload (idx : UInt16) (sub : UInt8) (now : UInt64)
  | beginDownload (idx : UInt16) (sub : UInt8) (data : List UInt8) (now : UInt64)
  | clientTransmit
  | serverTransmit
  | clientTimeout (now : UInt64)
  | serverTimeout (now : UInt64)
  | abort (code : SdoAbortCode)
  deriving DecidableEq

/-- Who takes a frame from the bus. -/
inductive Port where
  | client
  | server
  deriving DecidableEq

/-- What a call returns, with the dictionary calls it made. -/
inductive PairEvent where
  | began (r : SdoResult Unit)
  | transmitted (tx : Option SdoFrame)
  | clientResult (r : SdoResult (Option SdoOutcome))
  | serverResult (r : SdoResult Unit) (calls : List OdCall)
  | aborted
  deriving DecidableEq

/-- The frame a call puts on the bus. -/
def PairEvent.sent : PairEvent → Option SdoFrame
  | .transmitted tx => tx
  | _ => none

/-- The dictionary calls of a call. -/
def PairEvent.calls : PairEvent → List OdCall
  | .serverResult _ calls => calls
  | _ => []

/-- A call on a pair; one that panics is refused. -/
def Pair.act (nodeId : UInt8) (p : Pair N σ) : PairAction → Option (PairEvent × Pair N σ)
  | .beginUpload idx sub now =>
    let (r, c) := p.client.beginUpload nodeId idx sub now
    some (.began r, { p with client := c })
  | .beginDownload idx sub data now =>
    match p.client.beginDownload nodeId idx sub data now with
    | .error _ => none
    | .ok (r, c) => some (.began r, { p with client := c })
  | .clientTransmit =>
    let (tx, c) := p.client.pollTransmit
    some (.transmitted tx, { p with client := c })
  | .serverTransmit =>
    let (tx, s) := p.server.pollTransmit
    some (.transmitted tx, { p with server := s })
  | .clientTimeout now =>
    let (r, c) := p.client.handleTimeout now
    some (.clientResult r, { p with client := c })
  | .serverTimeout now =>
    let (r, s) := p.server.handleTimeout now
    some (.serverResult r [], { p with server := s })
  | .abort code => some (.aborted, { p with client := p.client.abort code })

/-- The delivery of a frame; a call that panics is refused. -/
def Pair.hear (tgt : Target) (od : ObjectDictionary σ) (p : Pair N σ) :
    Port → SdoFrame → UInt64 → Option (PairEvent × Pair N σ)
  | .client, f, now =>
    match p.client.handleFrame tgt f now with
    | .error _ => none
    | .ok (r, c) => some (.clientResult r, { p with client := c })
  | .server, f, now =>
    match p.server.handleFrame f now od.recording (p.dict, []) with
    | .error _ => none
    | .ok ((r, s), (dict, calls)) => some (.serverResult r calls, { p with server := s, dict := dict })

/-- The pair of a node as a party of the bus. -/
def pairParty (tgt : Target) (od : ObjectDictionary σ) (nodeId : UInt8) :
    Party (Pair N σ) PairAction Port UInt64 SdoFrame PairEvent where
  act := Pair.act nodeId
  hear := Pair.hear tgt od
  sent := PairEvent.sent

/-! ### The frames of a pair -/

/-- A frame of a node: a request to it, or a response of it. -/
def SdoFrame.OfNode (nodeId : UInt8) (f : SdoFrame) : Prop :=
  f.cobId = rsdoId nodeId ∨ f.cobId = tsdoId nodeId

/-- What holds of a pair in every run: the server has its node id, the client talks to no
other node, and what is pending is a frame of the node. -/
structure Pair.OfNode (nodeId : UInt8) (p : Pair N σ) : Prop where
  server : p.server.cfg.nodeId = nodeId
  serverTx : ∀ g, p.server.pendingTx = some g → g.cobId = SdoFrame.tsdoId nodeId
  client : ∀ x ∈ p.client.transfer, x.1 = nodeId
  clientTx : ∀ g, p.client.pendingTx = some g → IsRequest nodeId g

theorem Pair.ofNode_new (config : SdoConfig) (cfg : ServerConfig) (dict : σ) :
    (Pair.new config cfg dict : Pair N σ).OfNode cfg.nodeId where
  server := rfl
  serverTx := nofun
  client := nofun
  clientTx := nofun

section Frames

variable {nodeId node : UInt8} {f : SdoFrame}

/-- A client takes a frame of another node for no response of its own. -/
theorem SdoFrame.OfNode.nodeOfTsdo_ne (hf : f.OfNode node) (hn : node ≤ 127) (hne : node ≠ nodeId) :
    nodeOfTsdo f.cobId ≠ some nodeId := by
  intro h
  rcases hf with hf | hf
  · rw [hf, nodeOfTsdo_rsdoId] at h
    cases h
  · rw [hf, nodeOfTsdo_tsdoId hn] at h
    exact hne (Option.some.inj h)

/-- A server takes a frame of another node for no request to its own. -/
theorem SdoFrame.OfNode.nodeOfRsdo_ne (hf : f.OfNode node) (hn : node ≤ 127) (hne : node ≠ nodeId) :
    nodeOfRsdo f.cobId ≠ some nodeId := by
  intro h
  rcases hf with hf | hf
  · rw [hf, nodeOfRsdo_rsdoId hn] at h
    exact hne (Option.some.inj h)
  · rw [hf, nodeOfRsdo_tsdoId] at h
    cases h

end Frames

/-! ### The steps of a pair -/

section Steps

variable {tgt : Target} {od : ObjectDictionary σ} {nodeId : UInt8} {p p' : Pair N σ} {e : PairEvent}
  {f : SdoFrame} {now : UInt64}

/-- A new client keeps a pair in its node. -/
theorem Pair.OfNode.setClient (hp : p.OfNode nodeId) {c : SdoClient}
    (hc : ∀ x ∈ c.transfer, x.1 = nodeId) (htx : ∀ g, c.pendingTx = some g → IsRequest nodeId g) :
    { p with client := c : Pair N σ }.OfNode nodeId :=
  ⟨hp.server, hp.serverTx, hc, htx⟩

/-- The client's own abort keeps a pair in its node. -/
theorem Pair.OfNode.abortWith (hp : p.OfNode nodeId) (code : SdoAbortCode) :
    { p with client := p.client.abortWith code : Pair N σ }.OfNode nodeId := by
  obtain ⟨htr, htx⟩ := isRequest_abortWith hp.client hp.clientTx code
  exact hp.setClient htr htx

/-- **A call keeps a pair in its node**, and sends no frame of another one. -/
theorem Pair.OfNode.act {a : PairAction} (hp : p.OfNode nodeId)
    (h : p.act nodeId a = some (e, p')) :
    p'.OfNode nodeId ∧ ∀ g, e.sent = some g → g.OfNode nodeId := by
  cases a with
  | beginUpload idx sub now =>
    obtain ⟨err, he⟩ | ⟨-, -, he⟩ := p.client.beginUpload_cases nodeId idx sub now
    · simp only [Pair.act, he, Option.some.injEq, Prod.mk.injEq] at h
      obtain ⟨rfl, rfl⟩ := h
      exact ⟨hp, nofun⟩
    · simp only [Pair.act, he, Option.some.injEq, Prod.mk.injEq] at h
      obtain ⟨rfl, rfl⟩ := h
      obtain ⟨htr, htx⟩ := isRequest_uploadStarted idx sub
      exact ⟨hp.setClient htr htx, nofun⟩
  | beginDownload idx sub d now =>
    obtain ⟨err, he⟩ | ⟨-, -, hd, he⟩ := p.client.beginDownload_cases nodeId idx sub d now
    · simp only [Pair.act, he, Option.some.injEq, Prod.mk.injEq] at h
      obtain ⟨rfl, rfl⟩ := h
      exact ⟨hp, nofun⟩
    · simp only [Pair.act, he, Option.some.injEq, Prod.mk.injEq] at h
      obtain ⟨rfl, rfl⟩ := h
      obtain ⟨htr, htx⟩ := isRequest_downloadStarted idx sub hd
      exact ⟨hp.setClient htr htx, nofun⟩
  -- the frame that is sent was pending
  | clientTransmit =>
    cases h
    exact ⟨hp.setClient hp.client nofun, fun g hg => .inl (hp.clientTx g hg).1⟩
  | serverTransmit =>
    cases h
    exact ⟨⟨hp.server, nofun, hp.client, hp.clientTx⟩, fun g hg => .inr (hp.serverTx g hg)⟩
  | clientTimeout now =>
    rcases p.client.handleTimeout_cases now with hc | hc
    · simp only [Pair.act, hc, Option.some.injEq, Prod.mk.injEq] at h
      obtain ⟨rfl, rfl⟩ := h
      exact ⟨hp, nofun⟩
    · simp only [Pair.act, hc, Option.some.injEq, Prod.mk.injEq] at h
      obtain ⟨rfl, rfl⟩ := h
      exact ⟨hp.abortWith _, nofun⟩
  | serverTimeout now =>
    obtain ⟨s, hs, hcfg, -, htx⟩ | ⟨idx, sub, -, hs⟩ := p.server.handleTimeout_cases now
    · simp only [Pair.act, hs, Option.some.injEq, Prod.mk.injEq] at h
      obtain ⟨rfl, rfl⟩ := h
      have hserver : s.cfg.nodeId = nodeId := (congrArg _ hcfg).trans hp.server
      exact ⟨⟨hserver, fun g hg => hp.serverTx g (htx ▸ hg), hp.client, hp.clientTx⟩, nofun⟩
    · simp only [Pair.act, hs, Option.some.injEq, Prod.mk.injEq] at h
      obtain ⟨rfl, rfl⟩ := h
      refine ⟨⟨hp.server, ?_, hp.client, hp.clientTx⟩, nofun⟩
      intro g hg
      obtain rfl := Option.some.inj hg
      exact congrArg SdoFrame.tsdoId hp.server
  | abort code =>
    cases h
    exact ⟨hp.abortWith code, nofun⟩

/-- **The delivery of any frame keeps a pair in its node.** -/
theorem Pair.OfNode.hear {k : Port} (hp : p.OfNode nodeId)
    (h : p.hear tgt od k f now = some (e, p')) : p'.OfNode nodeId := by
  cases k with
  | client =>
    rcases hf : p.client.handleFrame tgt f now with x | ⟨r, c⟩
    · simp [Pair.hear, hf] at h
    · simp only [Pair.hear, hf, Option.some.injEq, Prod.mk.injEq] at h
      obtain ⟨-, rfl⟩ := h
      obtain ⟨hc, htx⟩ := (SdoClient.handleFrame_eq_ok_iff.mp hf).isRequest hp.client hp.clientTx
      exact hp.setClient hc htx
  | server =>
    rcases hf : p.server.handleFrame f now od.recording (p.dict, []) with
      x | ⟨⟨r, s⟩, dict, calls⟩
    · simp [Pair.hear, hf] at h
    · simp only [Pair.hear, hf, Option.some.injEq, Prod.mk.injEq] at h
      obtain ⟨-, rfl⟩ := h
      have hstep := handleFrame_eq_ok_iff.mp hf
      have hserver : s.cfg.nodeId = nodeId := (congrArg _ hstep.cfg).trans hp.server
      refine ⟨hserver, ?_, hp.client, hp.clientTx⟩
      intro g hg
      have hs : ∀ g, p.server.pendingTx = some g →
          g.cobId = SdoFrame.tsdoId p.server.cfg.nodeId := by
        rw [hp.server]
        exact hp.serverTx
      exact hp.server ▸ hstep.cobId_pendingTx hs hg

/-- The call has returned nothing: no outcome, no error and no dictionary call. -/
def PairEvent.Silent (e : PairEvent) : Prop :=
  e = .clientResult (.ok none) ∨ e = .serverResult (.ok ()) []

theorem PairEvent.Silent.sent (h : e.Silent) : e.sent = none := by
  rcases h with rfl | rfl <;> rfl

theorem PairEvent.Silent.calls (h : e.Silent) : e.calls = [] := by
  rcases h with rfl | rfl <;> rfl

/-- **A frame of another node changes nothing**, in any state of the client and the server. -/
theorem Pair.OfNode.foreign {node : UInt8} {k : Port} (hp : p.OfNode nodeId) (hf : f.OfNode node)
    (hn : node ≤ 127) (hne : node ≠ nodeId) (h : p.hear tgt od k f now = some (e, p')) :
    p' = p ∧ e.Silent := by
  cases k with
  | client =>
    have hna : ¬ p.client.Answers f :=
      SdoClient.not_answers_of_foreign hp.client (hf.nodeOfTsdo_ne hn hne)
    simp only [Pair.hear, SdoClient.handleFrame_of_not_answers hna, Option.some.injEq,
      Prod.mk.injEq] at h
    obtain ⟨rfl, rfl⟩ := h
    exact ⟨rfl, .inl rfl⟩
  | server =>
    have ha : ¬ p.server.Addressed f := by
      rw [SdoServer.Addressed, hp.server]
      exact hf.nodeOfRsdo_ne hn hne
    simp only [Pair.hear, (ServerStep.ignored ha).handleFrame_eq, Option.some.injEq,
      Prod.mk.injEq] at h
    obtain ⟨rfl, rfl⟩ := h
    exact ⟨rfl, .inr rfl⟩

end Steps

/-! ### Many pairs -/

section Many

variable {ι : Type} [DecidableEq ι] {bufLen : ι → ℕ} {dict : ι → Type} {tgt : Target}
  {od : ∀ i, ObjectDictionary (dict i)} {nodeId : ι → UInt8}

/-- **Pairs of different nodes do not react to each other.** -/
def nodesSeparated (tgt : Target) (od : ∀ i, ObjectDictionary (dict i)) (bufLen : ι → ℕ)
    (hvalid : ∀ i, SdoFrame.ValidNode (nodeId i)) (hinj : Function.Injective nodeId) :
    Party.Separated fun i => pairParty (N := bufLen i) tgt (od i) (nodeId i) where
  Inv := fun i p => p.OfNode (nodeId i)
  Own := fun i f => f.OfNode (nodeId i)
  Ignored := PairEvent.Silent
  act := fun hp h => hp.act h
  hear := fun hp h => hp.hear h
  foreign := by
    intro i j p k f now e p' hp hf hne h
    exact hp.foreign hf (hvalid j).2 (fun heq => hne (hinj heq)) h

/-- **Transfers to different nodes do not interact.**  Take any run of any number of pairs
with different node ids on one bus.  The steps that concern one pair are a run of that pair
alone.  The other frames its client and its server have got returned nothing, so that all it
has sent, and all calls its dictionary has got, belong to that run. -/
theorem transfers_do_not_interact {config : ι → SdoConfig} {cfg : ι → ServerConfig}
    {init : ∀ i, dict i} (hvalid : ∀ i, SdoFrame.ValidNode (cfg i).nodeId)
    (hinj : Function.Injective fun i => (cfg i).nodeId)
    {h : List ((ι × Party.Move PairAction Port UInt64) × (PairEvent × ι))}
    {x : Party.Together ι (fun i => Pair (bufLen i) (dict i)) Port SdoFrame}
    (hr : (Party.together fun i => pairParty tgt (od i) (cfg i).nodeId).Run
      (.start fun i => .new (config i) (cfg i) (init i)) h x) (i : ι) :
    (pairParty tgt (od i) (cfg i).nodeId).alone.Run (.start (.new (config i) (cfg i) (init i)))
        (h.filterMap (Party.ownStep i)) (x.part i) ∧
      (∀ st ∈ h, st.1.1 = i → st.2.2 ≠ i → st.2.1.Silent) ∧
      (Party.eventsOf i h).filterMap PairEvent.sent
        = (h.filterMap (Party.ownStep i)).filterMap (fun st => st.2.sent) ∧
      (Party.eventsOf i h).flatMap PairEvent.calls
        = (h.filterMap (Party.ownStep i)).flatMap fun st => st.2.calls := by
  have hstart : (nodesSeparated tgt od bufLen hvalid hinj).Holds
      (.start fun i => .new (config i) (cfg i) (init i)) :=
    Party.Separated.holds_start fun i => Pair.ofNode_new _ _ _
  have hsilent : ∀ st ∈ h, st.1.1 = i → st.2.2 ≠ i → st.2.1.Silent := by
    intro st hst hi hne
    exact Party.Separated.ignored_of_run _ hstart hr st hst (hi ▸ hne.symm)
  refine ⟨Party.Separated.run_alone _ hstart hr i, hsilent, ?_, ?_⟩
  · rw [List.filterMap_eq_flatMap_toList, List.filterMap_eq_flatMap_toList]
    refine Party.flatMap_eventsOf ?_
    intro st hst hi hne
    rw [(hsilent st hst hi hne).sent]
    rfl
  · refine Party.flatMap_eventsOf ?_
    intro st hst hi hne
    exact (hsilent st hst hi hne).calls

end Many

/-- The pending frames of `l` are put on the bus of two nodes, and every port takes `k`
frames. -/
def exchange (l : List (Bool × PairAction)) (k : ℕ) :
    List (Bool × Party.Move PairAction Port UInt64) :=
  l.map (fun x => (x.1, .act x.2)) ++ (List.replicate k
    [(true, .hear .client 0), (false, .hear .server 0), (false, .hear .client 0),
      (true, .hear .server 0)]).flatten

/-- One node reads eight bytes while the other one writes four. -/
def readAndWrite : List (Bool × Party.Move PairAction Port UInt64) :=
  exchange [(true, .beginUpload 0x2000 0 0), (false, .beginDownload 0x2001 0 [7, 7, 7, 7] 0)] 0
    ++ exchange [(true, .clientTransmit), (false, .clientTransmit)] 2
    ++ exchange [(false, .serverTransmit), (true, .serverTransmit)] 2
    ++ exchange [(true, .clientTransmit)] 1 ++ exchange [(true, .serverTransmit)] 1
    ++ exchange [(true, .clientTransmit)] 1 ++ exchange [(true, .serverTransmit)] 1

/-- The configurations of two nodes. -/
def twoNodes (i : Bool) : ServerConfig := .new (if i then 0x10 else 0x11)

/-- Two nodes on one bus. -/
def twoPairs : Machine
    (Party.Together Bool (fun _ => Pair 16 (List (UInt16 × UInt8 × List UInt8))) Port SdoFrame)
    (Bool × Party.Move PairAction Port UInt64) (PairEvent × Bool) :=
  Party.together fun i => pairParty .bits64 loopOd (twoNodes i).nodeId

/-- The two pairs before their first transfer. -/
def twoStart :
    Party.Together Bool (fun _ => Pair 16 (List (UInt16 × UInt8 × List UInt8))) Port SdoFrame :=
  .start fun i => .new .default (twoNodes i) counting

/-- The run in which one node reads while the other one writes. -/
def readAndWriteRun : List ((Bool × Party.Move PairAction Port UInt64) × (PairEvent × Bool))
    × Party.Together Bool (fun _ => Pair 16 (List (UInt16 × UInt8 × List UInt8))) Port SdoFrame :=
  (twoPairs.exec twoStart readAndWrite).get (by decide +kernel)

theorem run_readAndWriteRun : twoPairs.Run twoStart readAndWriteRun.1 readAndWriteRun.2 :=
  Machine.run_exec_get _

theorem transfers_do_not_interact_readAndWrite :
    (pairParty .bits64 loopOd 0x10).alone.Run (.start (.new .default (twoNodes true) counting))
        (readAndWriteRun.1.filterMap (Party.ownStep true)) (readAndWriteRun.2.part true) ∧
      .clientResult (.ok (some (.uploadCompleted [1, 2, 3, 4, 5, 6, 7, 8])))
        ∈ (readAndWriteRun.1.filterMap (Party.ownStep true)).map Prod.snd ∧
      (Party.eventsOf false readAndWriteRun.1).flatMap PairEvent.calls
        = [.write 0x2001 0 [7, 7, 7, 7] (.ok ())] := by
  have hvalid : ∀ i, SdoFrame.ValidNode (twoNodes i).nodeId := by decide
  have hinj : Function.Injective fun i => (twoNodes i).nodeId := by decide
  have alone := @transfers_do_not_interact Bool _ (fun _ => 16)
    (fun _ => List (UInt16 × UInt8 × List UInt8)) .bits64 (fun _ => loopOd) (fun _ => .default)
    twoNodes (fun _ => counting) hvalid hinj _ _ run_readAndWriteRun true
  exact ⟨alone.1, by decide +kernel, by decide +kernel⟩

end CanopenSdo
