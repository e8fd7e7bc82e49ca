import CanopenSdo.ClientCalls
import CanopenSdo.Stale

/-!
# Requests the server refuses

A client and a server of the same node on an unreliable bus: when the server refuses the
request the client waits for the answer to, does the client hear of it?  An abort ends the
transfer of its object.  The server takes the object from an init request, or from the
transfer a segment belongs to.  For a segment that belongs to none it has no object and
writes 0/0, which the client does not take for its own: `unexpected_segment_unheard` is a
read whose server has given up, and which goes on waiting.

So the refusal ends the transfer exactly if the server still has it, or the request opens
it; `0/0` is an object like any other.

## Main definitions

* `ClientState.Requested` — the request a transfer waits for the answer to.
* `SdoServer.RefusesFor` — the server refuses the request under the client's object.

## Main results

* `Bus.client_run` — the client on a bus is a client in a run.
* `unexpected_segment_unheard` — **a refusal that is not heard.**
* `refusal_ends_transfer` — **the refusals that are.**
-/

namespace CanopenSdo

open Wire

variable {N : ℕ} {σ : Type}

/-! ### The client of a bus -/

section Client

variable {tgt : Target} {od : ObjectDictionary σ} {nodeId : UInt8} {b b' : Bus N σ}
  {a : BusAction σ} {e : BusEvent}

/-- A step of the bus is a call on the client, or leaves it alone. -/
theorem busStep_client (hs : busStep tgt od nodeId b a = some (e, b')) :
    b'.client = b.client ∨
      ∃ a' e', (callMachine tgt).step b.client a' = some (e', b'.client) := by
  cases a with
  -- the calls on the client
  | beginUpload idx sub now =>
    right
    refine ⟨.beginUpload nodeId idx sub now, .began (b.client.beginUpload nodeId idx sub now).1, ?_⟩
    rcases hb : b.client.beginUpload nodeId idx sub now with ⟨_ | ⟨⟩, c⟩
    all_goals
      simp only [busStep, hb, Option.some.injEq, Prod.mk.injEq] at hs
      obtain ⟨-, rfl⟩ := hs
      simp only [callMachine, callStep, hb]
  | beginDownload idx sub data now =>
    right
    rcases hb : b.client.beginDownload nodeId idx sub data now with p | ⟨r, c⟩
    · simp [busStep, hb] at hs
    · refine ⟨.beginDownload nodeId idx sub data now, .began r, ?_⟩
      cases r <;>
      · simp only [busStep, hb, Option.some.injEq, Prod.mk.injEq] at hs
        obtain ⟨-, rfl⟩ := hs
        simp only [callMachine, callStep, hb]
  | clientTransmit =>
    cases hs
    exact .inr ⟨.pollTransmit, _, rfl⟩
  | clientTimeout now =>
    cases hs
    exact .inr ⟨.handleTimeout now, _, rfl⟩
  | abort code =>
    cases hs
    exact .inr ⟨.abort code, _, rfl⟩
  | deliverToClient now =>
    right
    simp only [busStep] at hs
    split at hs
    · cases hs
    · next f i rest hf =>
      rcases hh : b.client.handleFrame tgt f now with p | ⟨r, c⟩
      · simp [hh] at hs
      · simp only [hh, Option.some.injEq, Prod.mk.injEq] at hs
        obtain ⟨-, rfl⟩ := hs
        exact ⟨.handleFrame f now, .returned r, by simp only [callMachine, callStep, hh]⟩
  | foreignToClient f now =>
    right
    simp only [busStep] at hs
    split at hs
    · cases hs
    · rcases hh : b.client.handleFrame tgt f now with p | ⟨r, c⟩
      · simp [hh] at hs
      · simp only [hh, Option.some.injEq, Prod.mk.injEq] at hs
        obtain ⟨-, rfl⟩ := hs
        exact ⟨.handleFrame f now, .returned r, by simp only [callMachine, callStep, hh]⟩
  -- the other steps do not touch the client
  | serverTransmit | loseToServer | loseToClient | odChange =>
    cases hs
    exact .inl rfl
  | serverTimeout now =>
    left
    simp only [busStep] at hs
    split at hs <;> cases hs <;> rfl
  | deliverToServer now | foreignToServer f now =>
    left
    simp only [busStep] at hs
    split at hs
    · cases hs
    · split at hs <;> cases hs
      rfl

/-- **The client on a bus is a client in a run.** -/
theorem Bus.client_run {b₀ : Bus N σ} {h : List (BusAction σ × BusEvent)}
    (hr : (busMachine tgt od nodeId).Run b₀ h b) :
    ∃ h', (callMachine tgt).Run b₀.client h' b.client :=
  hr.exists_image Bus.client fun _ _ _ _ => busStep_client

end Client

/-! ### The request a client waits for the answer to -/

/-- The transfer waits for the answer to the request `f`: queueing it has left the client in
this state. -/
inductive ClientState.Requested : ClientState → SdoFrame → Prop
  | initUpload (nodeId : UInt8) (idx : UInt16) (sub : UInt8) :
      Requested (.uploading (.start nodeId idx sub)) (initUploadRequest nodeId idx sub)
  | initDownload (nodeId : UInt8) (idx : UInt16) (sub : UInt8) {data : List UInt8}
      (hd : 1 ≤ data.length) :
      Requested (.downloading (.start nodeId idx sub data))
        (initDownloadRequest nodeId idx sub data)
  | uploadSegment {u : UploadCtx} (hph : u.phase = .awaitingSegment) :
      Requested (.uploading u)
        ⟨SdoFrame.rsdoId u.nodeId, Enc.uploadSegmentRequest u.nextToggle⟩
  | downloadSegment (d : DownloadCtx) :
      Requested (.downloading d.next)
        ⟨SdoFrame.rsdoId d.nodeId, segmentData ccsDownloadSegment d.nextToggle d.segment d.atLast⟩

section Requested

variable {c : SdoClient} {f : SdoFrame}

/-- The request is one to the node of the transfer, and if it is an init request, it names
its object. -/
theorem ClientState.Requested.spec (h : c.state.Requested f) :
    ∃ node idx sub, c.transfer = some (node, idx, sub) ∧ c.state.object = some (idx, sub) ∧
      f.cobId = SdoFrame.rsdoId node ∧ ((f.IsInit ∧ f.Names idx sub) ∨
        f.cs = ccsUploadSegment ∨ f.cs = ccsDownloadSegment) := by
  unfold SdoClient.transfer
  generalize c.state = st at h
  cases h with
  | initUpload nodeId idx sub =>
    refine ⟨nodeId, idx, sub, rfl, rfl, rfl, .inl ⟨.inl ?_, SdoFrame.names_initUpload _ idx sub⟩⟩
    exact SdoFrame.cs_initUpload _ idx sub
  | initDownload nodeId idx sub hd =>
    refine ⟨nodeId, idx, sub, rfl, rfl, rfl, .inl ⟨.inr ?_, names_initDownloadData _ idx sub _⟩⟩
    exact cs_initDownloadData _ idx sub hd
  | uploadSegment =>
    exact ⟨_, _, _, rfl, rfl, rfl, .inr (.inl (SdoFrame.cs_uploadSegmentRequest _ _))⟩
  | downloadSegment d =>
    exact ⟨_, _, _, rfl, rfl, rfl, .inr (.inr (cs_downloadSegment _ _ _ d))⟩

/-- An abort the client takes for its own names the object of its transfer. -/
theorem SdoClient.Answers.names_of_abort {node : UInt8} {idx : UInt16} {sub : UInt8}
    (ha : c.Answers f) (hcs : f.cs = csAbort) (ht : c.transfer = some (node, idx, sub)) :
    f.Names idx sub := by
  obtain ⟨node', idx', sub', ht', -, ⟨-, hm⟩ | haw⟩ := SdoClient.answers_iff.mp ha
  · cases ht.symm.trans ht'
    exact hm
  · exact absurd haw (ClientState.not_awaits_abort hcs)

end Requested

/-! ### The refusal of a request -/

/-- The server refuses the request under the object of the client's transfer: it is an init
request; or it is a segment of the transfer the server is in the middle of, which is of
this object; or it is one of none, and the object is 0/0. -/
def SdoServer.RefusesFor (s : SdoServer N) (c : SdoClient) (f : SdoFrame) : Prop :=
  f.IsInit ∨ (s.state.Expects f ∧ s.state.object = c.state.object) ∨
    (¬ s.state.Expects f ∧ c.state.object = some (0, 0))

section Refusal

variable {tgt : Target} {od : ObjectDictionary σ} {cfg : SdoConfig} {scfg : ServerConfig}
  {dict : σ} {nodeId : UInt8} {b : Bus N σ} {h : List (BusAction σ × BusEvent)}
  {c : SdoClient} {s s' : SdoServer N} {f g : SdoFrame} {now : UInt64} {o o' : σ}
  {r : SdoResult Unit} {idx i : UInt16} {sub j : UInt8}

/-- The object of the refusal is that of the client exactly in these cases. -/
theorem SdoServer.RefusesUnder.refusesFor_iff (h : s.RefusesUnder f i j)
    (hc : c.state.object = some (idx, sub)) (hf : f.IsInit → f.Names idx sub) :
    s.RefusesFor c f ↔ (i, j) = (idx, sub) := by
  cases h with
  | init hi =>
    -- the init request names the object of its own transfer
    obtain ⟨hidx, hsub⟩ := hf hi
    exact iff_of_true (.inl hi) (by rw [hidx, hsub])
  | segment hexp ho =>
    have hni := hexp.not_isInit
    simp [SdoServer.RefusesFor, hexp, hni, ho, hc]
  | unexpected hcs hexp =>
    have hni : ¬ f.IsInit := by
      rcases hcs with hcs | hcs
      · exact not_isInit_uploadSegment hcs
      · exact not_isInit_downloadSegment hcs
    simp [SdoServer.RefusesFor, hexp, hni, hc, eq_comm]

/-- **The refusals that end the transfer.**  A client and a server of its node take any steps,
and the server refuses the request the client waits for the answer to.  If it refuses it
under the object of the client, its abort ends the transfer, and the code is reported; if
not, the client does not take the abort for its own, and goes on waiting. -/
theorem refusal_ends_transfer (hn : scfg.nodeId = nodeId)
    (hr : (busMachine tgt od nodeId).Run (Bus.start (.new cfg) (.new scfg : SdoServer N) dict) h b)
    (hf : b.client.state.Requested f)
    (hs : b.server.handleFrame f now od o = .ok ((r, s'), o')) (hg : s'.pendingTx = some g)
    (hcs : g.cs = csAbort) (now' : UInt64) :
    (b.server.RefusesFor b.client f → ∃ code c',
      b.client.handleFrame tgt g now' = .ok (.error (.serverAborted code), c') ∧
        code.raw = wordOf g.data ∧ c'.isIdle = true) ∧
    (¬ b.server.RefusesFor b.client f →
      b.client.handleFrame tgt g now' = .ok (.ok none, b.client)) := by
  obtain ⟨node, idx, sub, ht, ho, hid, hkind⟩ := hf.spec
  -- the request is one to the server, from a valid node
  have hwf : b.WellFormed nodeId := reachable_wellFormed (Bus.wellFormed_start hn rfl rfl) hr
  obtain rfl : node = nodeId := hwf.client _ ht
  obtain ⟨h', hrun⟩ := Bus.client_run hr
  have hvalid : SdoFrame.ValidNode node := (client_sound hrun).node _ _ _ ht
  have hreq : IsRequest node f := by
    rcases hkind with ⟨hi, -⟩ | hseg | hseg
    · exact ⟨hid, .inr (.inl hi)⟩
    · exact ⟨hid, .inr (.inr (.inl hseg))⟩
    · exact ⟨hid, .inr (.inr (.inr hseg))⟩
  have hinit : f.IsInit → f.Names idx sub := by
    intro hi
    rcases hkind with ⟨-, hm⟩ | hseg | hseg
    · exact hm
    · exact absurd hi (not_isInit_uploadSegment hseg)
    · exact absurd hi (not_isInit_downloadSegment hseg)
  -- so the pending abort is its refusal
  have hstep : ServerStep od b.server f now o r s' o' := handleFrame_eq_ok_iff.mp hs
  obtain ⟨e, rfl⟩ := hstep.error_of_abort (hreq.addressed hvalid.2 hwf.server) hg hcs
  obtain ⟨i, j, code, rfl, hunder⟩ := hstep.refused hreq
  obtain rfl : serverAbort b.server.cfg.nodeId i j code = g := Option.some.inj hg
  rw [hwf.server, hunder.refusesFor_iff ho hinit]
  constructor
  · rintro ⟨⟩
    refine ⟨_, _, SdoClient.handleFrame_serverAbort hvalid.2 ht code, ?_, rfl⟩
    rw [SdoAbortCode.raw_ofRaw, serverAbort, SdoFrame.wordOf_abort]
  · -- an abort that names another object is no answer
    intro hne
    refine SdoClient.handleFrame_of_not_answers ?_
    intro ha
    have hm := ha.names_of_abort hcs ht
    have hij := SdoFrame.names_abort (SdoFrame.tsdoId b.server.cfg.nodeId) i j code
    exact hne (Prod.ext (hij.1.symm.trans hm.1) (hij.2.symm.trans hm.2))

end Refusal

/-- A read of eight bytes: the server has answered the init request, and has given the
transfer up; its abort is lost. -/
def abandonedRead : Recorded :=
  ((busMachine .bits64 loopOd 0x10).exec newBus
    [.beginUpload 0x2000 0 0, .clientTransmit, .deliverToServer 0, .serverTransmit,
      .deliverToClient 0, .serverTimeout 1000000000, .serverTransmit, .loseToClient 0]).get rfl

theorem run_abandonedRead :
    (busMachine .bits64 loopOd 0x10).Run newBus abandonedRead.1 abandonedRead.2 :=
  Machine.run_exec_get _

/-- **A refusal that is not heard.**  The server refuses the segment request of the read it has
given up under the object 0/0, and the client goes on waiting. -/
theorem unexpected_segment_unheard : ¬ ∀ h b, (busMachine .bits64 loopOd 0x10).Run newBus h b →
    ∀ f now r s' o' g, b.client.state.Requested f →
      b.server.handleFrame f now loopOd b.dict = .ok ((r, s'), o') → s'.pendingTx = some g →
        g.cs = csAbort → ∀ now', ∃ code c',
          b.client.handleFrame .bits64 g now' = .ok (.error (.serverAborted code), c') ∧
            code.raw = wordOf g.data ∧ c'.isIdle = true := by
  intro hall
  have hst : abandonedRead.2.client.state = .uploading ⟨0x10, 0x2000, 0, [], some 8, false,
    .awaitingSegment⟩ := rfl
  have hreq : abandonedRead.2.client.state.Requested
      ⟨SdoFrame.rsdoId 0x10, Enc.uploadSegmentRequest false⟩ := by
    rw [hst]
    exact .uploadSegment rfl
  have hidle : abandonedRead.2.server.state = .idle := rfl
  have hstep : ServerStep loopOd abandonedRead.2.server
      ⟨SdoFrame.rsdoId 0x10, Enc.uploadSegmentRequest false⟩ 0 abandonedRead.2.dict _ _ _ :=
    .uploadSegmentUnexpected (by decide +kernel) (by decide) (by rw [hidle]; nofun)
  obtain ⟨code, c', heq, -⟩ := hall _ _ run_abandonedRead _ 0 _ _ _ _ hreq hstep.handleFrame_eq rfl
    (SdoFrame.cs_abort _ _ _ _) 0
  have hunheard : abandonedRead.2.client.handleFrame .bits64
      (serverAbort 0x10 0 0 .invalidCommandSpecifier) 0 = .ok (.ok none, abandonedRead.2.client) := by
    decide +kernel
  cases hunheard.symm.trans heq

/-- A dictionary that cannot be written to. -/
def frozenOd : ObjectDictionary (List (UInt16 × UInt8 × List UInt8)) :=
  { loopOd with write := fun entries _ _ _ => (.error .writeReadOnly, entries) }

/-- A write of eight bytes to it: the last segment is left to be sent. -/
def frozenWrite : Recorded :=
  ((busMachine .bits64 frozenOd 0x10).exec newBus
    (.beginDownload 0x2000 0 [8, 7, 6, 5, 4, 3, 2, 1] 0 :: busRounds 2)).get rfl

theorem run_frozenWrite :
    (busMachine .bits64 frozenOd 0x10).Run newBus frozenWrite.1 frozenWrite.2 :=
  Machine.run_exec_get _

/-- The refusal of the last segment of the write ends it, and that of the segment of a read
the server has given up is not heard. -/
theorem refusal_ends_transfer_frozenWrite :
    (∃ code c', frozenWrite.2.client.handleFrame .bits64
        (serverAbort 0x10 0x2000 0 .writeReadOnly) 1 = .ok (.error (.serverAborted code), c') ∧
      code.raw = wordOf (serverAbort 0x10 0x2000 0 .writeReadOnly).data ∧ c'.isIdle = true) ∧
    abandonedRead.2.client.handleFrame .bits64 (serverAbort 0x10 0 0 .invalidCommandSpecifier) 1
      = .ok (.ok none, abandonedRead.2.client) := by
  have hn : (ServerConfig.new 0x10).nodeId = 0x10 := rfl
  constructor
  · have hst : frozenWrite.2.client.state = .downloading (DownloadCtx.next ⟨0x10, 0x2000, 0,
        [8, 7, 6, 5, 4, 3, 2, 1], 7, true, .awaitingSegmentAck false⟩) := rfl
    have hreq : frozenWrite.2.client.state.Requested
        (downloadSegment 0x10 [8, 7, 6, 5, 4, 3, 2, 1] 1) := by
      rw [hst]
      exact .downloadSegment _
    have hrefused : frozenWrite.2.server.handleFrame
        (downloadSegment 0x10 [8, 7, 6, 5, 4, 3, 2, 1] 1) 0 frozenOd frozenWrite.2.dict
          = .ok ((.error (.clientAborted .writeReadOnly),
            frozenWrite.2.server.aborted 0x2000 0 .writeReadOnly), frozenWrite.2.dict) := rfl
    have hfor : frozenWrite.2.server.RefusesFor frozenWrite.2.client
        (downloadSegment 0x10 [8, 7, 6, 5, 4, 3, 2, 1] 1) := .inr (.inl ⟨rfl, rfl⟩)
    exact (refusal_ends_transfer hn run_frozenWrite hreq hrefused rfl
      (SdoFrame.cs_abort _ _ _ _) 1).1 hfor
  · have hst : abandonedRead.2.client.state = .uploading ⟨0x10, 0x2000, 0, [], some 8, false,
      .awaitingSegment⟩ := rfl
    have hreq : abandonedRead.2.client.state.Requested (segmentRequest 0x10 0) := by
      rw [hst]
      exact .uploadSegment rfl
    have hrefused : abandonedRead.2.server.handleFrame (segmentRequest 0x10 0) 0 loopOd
        abandonedRead.2.dict = .ok ((.error (.clientAborted .invalidCommandSpecifier),
          abandonedRead.2.server.aborted 0 0 .invalidCommandSpecifier), abandonedRead.2.dict) := rfl
    have hnot : ¬ abandonedRead.2.server.RefusesFor abandonedRead.2.client
        (segmentRequest 0x10 0) := by
      rintro (hi | ⟨hexp, -⟩ | ⟨-, ho⟩)
      · exact absurd hi (by decide)
      · exact hexp
      · cases ho
    exact (refusal_ends_transfer hn run_abandonedRead hreq hrefused rfl
      (SdoFrame.cs_abort _ _ _ _) 1).2 hnot

end CanopenSdo
