import CanopenSdo.StackCalls

/-!
# The stack on a bus that loses nothing

`lossless_transfer` is about a client and a server.  Here are the applications with their
transport: as long as no frame is lost, nothing fails and no deadline passes
(`NetAction.Quiet`), a read or a write with retries is one attempt, ends with the value that
the dictionary has for it, and can always be brought there.  What others do on the bus, and
the order in which the caller and the server run, make no difference.

## Main definitions

* `NetAction.Moves`, `receptions` — the steps that bring the transfer on.
* `readResult`, `writeResult` — what the caller is told.
* `Net.Paced` — how far the stack has got with the transfer.
* `Net.Course` — what is shown of a run.

## Main results

* `Net.Paced.step` — **every quiet step keeps to the loop, or takes it one frame on.**
* `Net.Paced.progress` — **until the caller has returned there is a step that brings it on.**
* `stack_lossless_read`, `stack_lossless_write` — **a read and a write end as the loop does.**
-/

namespace CanopenSdo

open Wire

variable {N : ℕ} {σ φ ε ρ : Type}

/-! ### What the caller is told -/

/-- The caller hands over a frame, or one is received that the other side has sent. -/
def NetAction.Moves : NetAction φ ε → Prop
  | .caller (.subscribed (.ok _) _) | .caller (.drive (.sent (.ok _))) => True
  | .node (.sent (.ok _)) => True
  | .callerReceives _ | .nodeReceives _ => True
  | _ => False

/-- The number of frames that one side has received from the other. -/
def receptions (h : List (NetAction φ ε × NetEvent φ ε)) : ℕ := h.countP fun x => x.1.receives

/-- What `upload_bytes` returns of a transfer that is brought to its end. -/
def readResult (N : ℕ) (od : ObjectDictionary σ) (dict : σ) (idx : UInt16) (sub : UInt8) :
    Except (AsyncSdoError ε) (List UInt8) :=
  match od.read dict idx sub (Bytes.zero N) with
  | (.ok len, buf, _) =>
    if len ≤ N then .ok (buf.data.take len) else .error (.sdo (.serverAborted .outOfMemory))
  | (.error code, _, _) => .error (.sdo (.serverAborted (.ofRaw code.raw)))

/-- What `download_bytes` returns of one. -/
def writeResult (N : ℕ) (od : ObjectDictionary σ) (dict : σ) (idx : UInt16) (sub : UInt8)
    (data : List UInt8) : Except (AsyncSdoError ε) Unit :=
  if 4 < data.length ∧ N < data.length then .error (.sdo (.serverAborted .outOfMemory))
  else
    match (od.write dict idx sub data).1 with
    | .ok () => .ok ()
    | .error code => .error (.sdo (.serverAborted (.ofRaw code.raw)))

/-- Where the transfer ends with the first, the caller returns the second. -/
inductive Tells (finish : SdoOutcome → Checked ρ) :
    SdoResult SdoOutcome → Except (AsyncSdoError ε) ρ → Prop
  | value {out : SdoOutcome} {v : ρ} (h : finish out = .ok v) : Tells finish (.ok out) (.ok v)
  | aborted (code : SdoAbortCode) :
    Tells finish (.error (.serverAborted code)) (.error (.sdo (.serverAborted code)))

section Tells

variable {finish : SdoOutcome → Checked ρ} {r : SdoResult SdoOutcome}
  {v : Except (AsyncSdoError ε) ρ}

theorem receptions_append_singleton (h : List (NetAction φ ε × NetEvent φ ε)) (a : NetAction φ ε)
    (e : NetEvent φ ε) :
    receptions (h ++ [(a, e)]) = receptions h + if a.receives then 1 else 0 := by
  simp [receptions]

theorem Tells.result (h : Tells finish r v) :
    (∃ out, r = .ok out) ∨ ∃ code, r = .error (.serverAborted code) := by
  cases h with
  | value => exact .inl ⟨_, rfl⟩
  | aborted code => exact .inr ⟨code, rfl⟩

theorem tells_readResult (od : ObjectDictionary σ) (dict : σ) (idx : UInt16) (sub : UInt8) :
    Tells finishUpload ((Access.upload idx sub).ends N od dict).result
      (readResult N od dict idx sub : Except (AsyncSdoError ε) (List UInt8)) := by
  rcases h : od.read dict idx sub (Bytes.zero N) with ⟨code | len, buf, dict'⟩
  · simp only [Access.ends, readResult, h]
    exact .aborted _
  · simp only [Access.ends, readResult, h]
    split
    · exact .value rfl
    · exact .aborted _

theorem tells_writeResult (od : ObjectDictionary σ) (dict : σ) (idx : UInt16) (sub : UInt8)
    (data : List UInt8) :
    Tells finishDownload ((Access.download idx sub data).ends N od dict).result
      (writeResult N od dict idx sub data : Except (AsyncSdoError ε) Unit) := by
  by_cases hfit : 4 < data.length ∧ N < data.length
  · simp only [Access.ends, writeResult, if_pos hfit]
    exact .aborted _
  · rcases h : od.write dict idx sub data with ⟨code | u, dict'⟩
    · simp only [Access.ends, writeResult, if_neg hfit, h]
      exact .aborted _
    · simp only [Access.ends, writeResult, if_neg hfit, h]
      exact .value rfl

/-- What the caller does when its client returns what it does after `n` of `F` frames: it waits,
and after the last it returns.  It makes no other attempt. -/
theorem Tells.next (h : Tells finish r v) (retries : UInt8) (c : SdoClient) (n F : ℕ) :
    ∃ x, BytesState.ofDrive finish (.ofClient (if n = F then r.map some else .ok none) c) = some x ∧
      RetryState.next retries 1 x
        = some (if n = F then ⟨1, .returned v, some v⟩ else ⟨1, .driving (.init c), none⟩) := by
  by_cases hn : n = F
  · simp only [if_pos hn]
    cases h with
    | @value out w hw =>
      refine ⟨.returned (.ok w), ?_, rfl⟩
      simp [BytesState.ofDrive, DriveState.ofClient, Except.map, hw]
    | aborted code =>
      refine ⟨.returned (.error (.sdo (.serverAborted code))), rfl, ?_⟩
      simp [RetryState.next, isTransient]
  · simp only [if_neg hn]
    exact ⟨.driving (.init c), rfl, rfl⟩

end Tells

/-! ### How far the stack has got -/

/-- The transport works, and a caller asks on it for the transfer `x`, of which it returns `v`
when it is brought to its end. -/
structure Requests (N : ℕ) (T : CanTransport φ ε) (tgt : Target) (od : ObjectDictionary σ)
    (nodeId : UInt8) (cfg : SdoConfig) (dict : σ)
    (start : UInt64 → Checked (SdoResult Unit × SdoClient)) (finish : SdoOutcome → Checked ρ)
    (x : Access) (v : Except (AsyncSdoError ε) ρ) : Prop where
  lawful : T.Lawful
  total : T.Total
  valid : SdoFrame.ValidNode nodeId
  fits : N < 2 ^ 32
  cap : N ≤ tgt.isizeMax
  sized : x.Sized
  starts : Starts N tgt od nodeId cfg (fun a => ∃ now, a = x.start now) start
  started : ∀ now, ∃ c, start now = .ok (.ok (), c)
  tells : Tells finish (x.ends N od dict).result v

/-- Where the caller is after `n` of the frames of the transfer, which ends with `x`. -/
inductive RetryState.Paces (tgt : Target) (od : ObjectDictionary σ) (cfg : SdoConfig) (dict : σ)
    (x : AccessEnd σ) (v : Except (AsyncSdoError ε) ρ) (b : Bus N σ) : ℕ → RetryState ε ρ → Prop
  /-- It has not begun. -/
  | ready (hcfg : b.client.cfg = cfg) (hrest : b.AtRest) (hdict : b.dict = dict)
      (hcalls : b.calls = []) : Paces tgt od cfg dict x v b 0 .init
  | within {n : ℕ} (hn : n < x.frames)
      (hp : b.Pace tgt od x.result x.frames (x.dict, x.calls) n) :
    Paces tgt od cfg dict x v b n ⟨1, .driving (.init b.client), none⟩
  | done (hrest : b.AtRest) (ho : (b.dict, b.calls.map Prod.fst) = (x.dict, x.calls)) :
    Paces tgt od cfg dict x v b x.frames ⟨1, .returned v, some v⟩

/-- The server works, and what it has pending is a response of its node. -/
structure ServeState.Working (n : ServeState N σ ε) : Prop where
  failed : n.failed = none
  pendingTx : ∀ f, n.server.pendingTx = some f → f.cobId = SdoFrame.tsdoId n.server.cfg.nodeId

/-- How far the stack has got, after the history `h`, with the transfer. -/
structure Net.Paced (T : CanTransport φ ε) (tgt : Target) (od : ObjectDictionary σ)
    (nodeId : UInt8) (cfg : SdoConfig) (dict : σ) (x : AccessEnd σ) (v : Except (AsyncSdoError ε) ρ)
    (h : List (NetAction φ ε × NetEvent φ ε)) (net : Net N σ φ ε ρ) : Prop where
  working : net.node.Working
  bus : ∃ b, net.Shows T nodeId h b ∧ net.caller.Paces tgt od cfg dict x v b (receptions h)

section Step

variable {T : CanTransport φ ε} {tgt : Target} {od : ObjectDictionary σ} {nodeId : UInt8}
  {retries : UInt8} {cfg : SdoConfig} {dict : σ}
  {start : UInt64 → Checked (SdoResult Unit × SdoClient)} {finish : SdoOutcome → Checked ρ}
  {x : Access} {v : Except (AsyncSdoError ε) ρ} {b b' : Bus N σ} {n m : ℕ}
  {s s' : RetryState ε ρ} {net net' : Net N σ φ ε ρ} {h : List (NetAction φ ε × NetEvent φ ε)}
  {act : NetAction φ ε} {ev : NetEvent φ ε}

/-- A calm step leaves a bus at rest. -/
theorem Bus.AtRest.calms (hb : b.AtRest) (hw : b.WellFormed nodeId)
    {r : SdoResult (Option SdoOutcome)} (h : b.Calms tgt od nodeId r m b') :
    m = 0 ∧ b.Alike b' := by
  cases h with
  | refl => exact ⟨rfl, .refl b⟩
  | step hs ha =>
    obtain ⟨rfl, halike⟩ := hb.step hw ha hs
    exact ⟨rfl, halike⟩

theorem Bus.Alike.calls (hb : b.Alike b') : b'.calls = b.calls := congrArg View.calls hb.view

/-- What the server does is no matter to a caller that waits. -/
theorem RetryState.Paces.calms (hq : Requests N T tgt od nodeId cfg dict start finish x v)
    (hs : s.Paces tgt od cfg dict (x.ends N od dict) v b n) (hw : b.WellFormed nodeId)
    (hclient : b'.client = b.client) (hb : b.Calms tgt od nodeId (.ok none) m b') :
    s.Paces tgt od cfg dict (x.ends N od dict) v b' (n + m) := by
  cases hs with
  | ready hcfg hrest hdict hcalls =>
    obtain ⟨rfl, halike⟩ := hrest.calms hw hb
    exact .ready (hclient ▸ hcfg) (hrest.alike halike) (halike.dict.trans hdict)
      (halike.calls.trans hcalls)
  | within hn hp =>
    obtain ⟨-, hp', hr⟩ := hp.calms hq.tells.result hw hn hb
    -- the last frame goes to the caller
    have hne : n + m ≠ (x.ends N od dict).frames := by
      intro heq
      rw [if_pos heq] at hr
      cases hx : (x.ends N od dict).result <;> rw [hx] at hr <;> cases hr
    have hlt := hp'.le.lt_of_ne hne
    rw [← hclient]
    exact .within hlt hp'
  | done hrest ho =>
    obtain ⟨rfl, halike⟩ := hrest.calms hw hb
    refine .done (hrest.alike halike) ?_
    rw [halike.dict, halike.calls, ho]

/-- The caller goes on, or returns, when its client does. -/
theorem RetryState.Paces.keeps (hq : Requests N T tgt od nodeId cfg dict start finish x v)
    (hp : b.Pace tgt od (x.ends N od dict).result (x.ends N od dict).frames
      ((x.ends N od dict).dict, (x.ends N od dict).calls) n) (hw : b.WellFormed nodeId)
    (hn : n < (x.ends N od dict).frames) {d : DriveState ε} {y : BytesState ε ρ}
    (hb : b.Keeps tgt od nodeId m b' d) (hy : BytesState.ofDrive finish d = some y)
    (hs : RetryState.next retries 1 y = some s') :
    s'.Paces tgt od cfg dict (x.ends N od dict) v b' (n + m) := by
  obtain ⟨r, hcalms, rfl⟩ := hb
  obtain ⟨-, hp', rfl⟩ := hp.calms hq.tells.result hw hn hcalms
  obtain ⟨y', hy', hs'⟩ := hq.tells.next retries b'.client (n + m) (x.ends N od dict).frames
  obtain rfl : y' = y := Option.some.inj (hy'.symm.trans hy)
  obtain rfl := Option.some.inj (hs'.symm.trans hs)
  split
  · next heq =>
    rw [heq] at hp' ⊢
    obtain ⟨hrest, -, ho⟩ := hp'.over
    exact .done hrest ho
  · next hne => exact .within (hp'.le.lt_of_ne hne) hp'

/-- The transfer starts when the caller has subscribed. -/
theorem RetryState.Paces.subscribed (hq : Requests N T tgt od nodeId cfg dict start finish x v)
    (hcfg : b.client.cfg = cfg) (hrest : b.AtRest) (hdict : b.dict = dict) (hcalls : b.calls = [])
    (hw : b.WellFormed nodeId) {now : UInt64} {c : SdoClient} (hc : start now = .ok (.ok (), c)) :
    let b' := { b with client := c, current := b.current + 1 }
    b'.WellFormed nodeId ∧ RetryState.Paces tgt od cfg dict (x.ends N od dict) v b' 0
      ⟨1, .driving (.init c), none⟩ := by
  intro b'
  obtain ⟨_, ⟨now', rfl⟩, hact⟩ := hq.starts now c hc
  obtain ⟨b₁, hs, hw', hF, hp⟩ := hrest.start tgt od hw hq.valid hq.fits hq.cap hq.sized now'
  have heq := Option.some.inj ((hact b hrest.client hcfg).symm.trans hs)
  obtain rfl : b' = b₁ := (Prod.mk.inj heq).2
  rw [hcalls, List.map_nil, List.nil_append, hdict] at hp
  rw [hdict] at hF
  exact ⟨hw', .within hF hp⟩

/-- A quiet step of the server is no failure. -/
theorem ServeState.Working.step {n n' : ServeState N σ ε} {a : DriveAction φ ε} {e : ServeEvent φ}
    (hn : n.Working) (hs : (serveMachine T od).step n a = some (e, n'))
    (ha : a.Quiet n.server.Due) : n'.Working := by
  rcases serveMachine_step_cases hs with ⟨out, r, -, rfl, hsend⟩ | ⟨w, -, rfl, hwake⟩
  · rcases r with err | u
    · exact ha.elim
    · unfold serveSend at hsend
      cases hf : sdoToCan T out with
      | error err => simp [hf] at hsend
      | ok frame =>
        simp only [hf, Option.some.injEq, Prod.mk.injEq] at hsend
        obtain ⟨-, rfl⟩ := hsend
        refine ⟨hn.failed, ?_⟩
        intro g hg
        cases hg
  · rcases w with (err | frame) | now
    · exact ha.elim
    · next now =>
      unfold serveWake at hwake
      cases hf : canToSdo T frame with
      | none =>
        simp only [hf, Option.some.injEq, Prod.mk.injEq] at hwake
        exact hwake.2 ▸ hn
      | some f =>
        rcases hx : n.server.handleFrame f now od.recording (n.dict, []) with p | ⟨⟨r, s⟩, o, calls⟩
        · simp [hf, hx] at hwake
        · simp only [hf, hx, Option.some.injEq, Prod.mk.injEq] at hwake
          obtain ⟨-, rfl⟩ := hwake
          have hstep := handleFrame_eq_ok_iff.mp hx
          refine ⟨hn.failed, ?_⟩
          intro g hg
          rw [hstep.cfg]
          exact hstep.cobId_pendingTx hn.pendingTx hg
    · unfold serveWake at hwake
      cases hdl : n.server.pollTimeout with
      | none => simp [hdl] at hwake
      | some dl =>
        simp only [hdl, Option.some.injEq, Prod.mk.injEq] at hwake
        obtain ⟨-, rfl⟩ := hwake
        refine ⟨hn.failed, ?_⟩
        intro g hg
        -- what a timeout queues is an abort of the same node
        obtain ⟨s, hs, hcfg, -, htx⟩ | ⟨idx, sub, -, hs⟩ := n.server.handleTimeout_cases now
        · rw [hs] at hg ⊢
          rw [hcfg]
          exact hn.pendingTx g (htx ▸ hg)
        · rw [hs] at hg ⊢
          obtain rfl := Option.some.inj hg
          rfl

/-- A quiet step of the caller. -/
theorem Net.Paced.caller_step (hq : Requests N T tgt od nodeId cfg dict start finish x v)
    (hp : net.Paced T tgt od nodeId cfg dict (x.ends N od dict) v h) {a : BytesAction φ ε}
    {rest : List φ}
    (hsrc : a.From (foreignToCaller T nodeId) net.down rest (if act.receives then 1 else 0))
    (ha : a.Quiet net.caller.state)
    (hs : ({ net with down := rest } : Net N σ φ ε ρ).callerStep retries
      (bytesMachine T tgt nodeId start finish) a = some (ev, net')) :
    net'.Paced T tgt od nodeId cfg dict (x.ends N od dict) v (h ++ [(act, ev)]) := by
  obtain ⟨⟨e₁, s'⟩, hstep, heq⟩ := Option.map_eq_some_iff.mp hs
  obtain ⟨rfl, rfl⟩ := Prod.mk.inj heq
  obtain ⟨hnone, y, hM, hnext⟩ := retryMachine_step_eq hstep
  obtain ⟨hworking, b, hb, hpaces⟩ := hp
  refine ⟨hworking, ?_⟩
  rw [receptions_append_singleton]
  obtain ⟨caller, node, up, down⟩ := net
  generalize receptions h = n at hpaces
  generalize (if act.receives then 1 else 0) = m at hsrc ⊢
  cases hpaces with
  | ready hcfg hrest hdict hcalls =>
    cases a with
    | drive a => cases hM
    | subscribed r now =>
      obtain ⟨rfl, rfl⟩ := hsrc
      rcases r with err | u
      · exact ha.elim
      · obtain ⟨c, hc⟩ := hq.started now
        simp only [bytesMachine, hc, Option.some.injEq, Prod.mk.injEq] at hM
        obtain ⟨rfl, rfl⟩ := hM
        obtain rfl := Option.some.inj hnext
        obtain ⟨hw', hpaces⟩ := RetryState.Paces.subscribed hq hcfg hrest hdict hcalls hb.wf hc
        refine ⟨_, ⟨hw', hb.server, hb.dict, ?_, hb.down, ?_⟩, hpaces⟩
        · exact (List.append_nil up).symm ▸ hb.up
        · rw [netCalls_append_singleton, ← hb.calls]
          exact (List.append_nil _).symm
  | within hn hpace =>
    cases a with
    | subscribed => cases hM
    | drive a =>
      rcases bytesMachine_step_cases hM with ⟨_, _, hx, -⟩ | ⟨d, d', _, e', hx, hact, rfl, hd, hy⟩
      · cases hx
      · obtain rfl := BytesState.driving.inj hx
        obtain rfl := BytesAction.drive.inj hact
        obtain ⟨k, b₁, down', hm, hdown, -, hkeeps⟩ := hb.drive_step hq.lawful rfl hd hsrc
        have hquiet : a.Quiet b.client.Due := by
          rcases a with (err | u) | (_ | _) | now
          · exact ha.elim
          · exact trivial
          · exact ha.elim
          · exact trivial
          · exact fun hdue => ha ⟨_, rfl, hdue⟩
        exact ⟨b₁, hb.moved hm hdown s' rfl,
          RetryState.Paces.keeps hq hpace hb.wf hn (hkeeps hq.total hquiet) hy hnext⟩
  | done => cases hnone

/-- **Every quiet step keeps to the loop, or takes it one frame on.** -/
theorem Net.Paced.step (hq : Requests N T tgt od nodeId cfg dict start finish x v)
    (hp : net.Paced T tgt od nodeId cfg dict (x.ends N od dict) v h) (ha : act.Quiet net)
    (hs : (netMachine T od nodeId retries (bytesMachine T tgt nodeId start finish)).step net act
      = some (ev, net')) :
    net'.Paced T tgt od nodeId cfg dict (x.ends N od dict) v (h ++ [(act, ev)]) := by
  cases netStep_of_step hs with
  | caller hsrc hquiet hs => exact hp.caller_step hq hsrc (hquiet ha) hs
  | node hsrc hquiet hs =>
    obtain ⟨hworking, b, hb, hpaces⟩ := hp
    obtain ⟨k, b', -, -, hclient, -, hcaller, hb', hcalms⟩ := hb.node_step hq.lawful hs hsrc
    obtain ⟨e, -, hstep, -⟩ := Net.nodeStep_eq hs
    refine ⟨hworking.step hstep (hquiet ha), b', hb', ?_⟩
    rw [receptions_append_singleton, hcaller]
    exact hpaces.calms hq hb.wf hclient (hcalms (hb.server ▸ hquiet ha))
  | loseUp hact | loseDown hact =>
    rw [hact] at ha
    exact ha.elim

end Step

/-! ### The stack comes to the end of the loop -/

/-- The number of frames that the caller has still to hand over before it waits, and one more
for the subscription. -/
def RetryState.pending (s : RetryState ε ρ) : ℕ :=
  match s.state with
  | .subscribing => 2
  | .driving d => d.client.pendingTx.toList.length
  | .returned _ => 0

/-- What is left to do where `j` frames have still to be received. -/
def Net.rank (net : Net N σ φ ε ρ) (j : ℕ) : ℕ :=
  3 * j + net.caller.pending + net.node.server.pendingTx.toList.length

section Progress

variable {T : CanTransport φ ε} {tgt : Target} {od : ObjectDictionary σ} {nodeId : UInt8}
  {retries : UInt8} {cfg : SdoConfig} {dict : σ}
  {start : UInt64 → Checked (SdoResult Unit × SdoClient)} {finish : SdoOutcome → Checked ρ}
  {x : Access} {v : Except (AsyncSdoError ε) ρ} {b : Bus N σ}
  {net : Net N σ φ ε ρ} {h : List (NetAction φ ε × NetEvent φ ε)} {act : NetAction φ ε}

theorem length_toList_le_one {α : Type*} (o : Option α) : o.toList.length ≤ 1 := by
  cases o <;> simp

theorem SdoClient.pollTransmit_of_none {c : SdoClient} (h : c.pendingTx = none) :
    c.pollTransmit = (none, c) :=
  Prod.ext h (SdoClient.drained_of_none h)

theorem SdoServer.pollTransmit_of_none {s : SdoServer N} (h : s.pendingTx = none) :
    s.pollTransmit = (none, s) :=
  Prod.ext h (SdoServer.drained_of_none h)

/-- A step that brings the transfer on is quiet. -/
theorem NetAction.Moves.quiet (ha : act.Moves) (net : Net N σ φ ε ρ) : act.Quiet net := by
  rcases act with a | a | now | now | i | i
  · rcases a with ⟨err | u, now⟩ | ((err | u) | w)
    · exact ha.elim
    · exact trivial
    · exact ha.elim
    · exact trivial
    · exact ha.elim
  · rcases a with (err | u) | w
    · exact ha.elim
    · exact trivial
    · exact ha.elim
  · exact trivial
  · exact trivial
  · exact ha.elim
  · exact ha.elim

variable (nodeId retries start finish) in
/-- A step of `drive` is one of a caller that waits for its client. -/
theorem exists_callerStep {d' : DriveState ε} {a : DriveAction φ ε} {e : DriveEvent φ}
    {c : SdoClient} {y : BytesState ε ρ} {s' : RetryState ε ρ}
    (hcaller : net.caller = ⟨1, .driving (.init c), none⟩)
    (hs : (driveMachine T tgt).step (.init c) a = some (e, d'))
    (hy : BytesState.ofDrive finish d' = some y) (hn : RetryState.next retries 1 y = some s') :
    ∃ ev up, net.callerStep retries (bytesMachine T tgt nodeId start finish) (.drive a)
      = some (ev, { net with caller := s', up := up }) := by
  refine ⟨.caller (.drive a) (.drive e), net.up ++ (BytesEvent.drive e).frame?.toList, ?_⟩
  simp [Net.callerStep, retryMachine, bytesMachine, hcaller, hs, hy, hn]

variable (tgt od nodeId retries start finish) in
/-- The caller hands over its frame. -/
theorem exists_caller_sends (htot : T.Total) (hw : b.WellFormed nodeId)
    (hcaller : net.caller = ⟨1, .driving (.init b.client), none⟩) {f : SdoFrame}
    (hf : b.client.pendingTx = some f) :
    ∃ ev net', (netMachine T od nodeId retries (bytesMachine T tgt nodeId start finish)).step net
      (.caller (.drive (.sent (.ok ())))) = some (ev, net') ∧ ∀ j, net'.rank j < net.rank j := by
  obtain ⟨frame, hframe⟩ := htot f ((hw.pendingTx hf).1 ▸ SdoFrame.rsdoId_lt nodeId)
  have hs : (driveMachine T tgt).step (.init b.client) (.sent (.ok ()))
      = some (.handedOver f frame, .init b.client.drained) := by
    simp [driveMachine, DriveState.init, SdoClient.pollTransmit, hf, driveSend, hframe,
      SdoClient.drained]
  obtain ⟨ev, up, hstep⟩ := exists_callerStep nodeId retries start finish hcaller hs rfl rfl
  refine ⟨ev, _, hstep, ?_⟩
  intro j
  simp only [Net.rank, RetryState.pending, hcaller, DriveState.init, SdoClient.drained, hf]
  simp

variable (od nodeId retries) in
/-- The server hands over its frame. -/
theorem exists_server_sends (M : Machine (BytesState ε ρ) (BytesAction φ ε) (BytesEvent φ))
    (htot : T.Total) (hworking : net.node.Working) {f : SdoFrame}
    (hf : net.node.server.pendingTx = some f) :
    ∃ ev net', (netMachine T od nodeId retries M).step net (.node (.sent (.ok ())))
      = some (ev, net') ∧ ∀ j, net'.rank j < net.rank j := by
  obtain ⟨frame, hframe⟩ := htot f (hworking.pendingTx f hf ▸ SdoFrame.tsdoId_lt _)
  have hs : (serveMachine T od).step net.node (.sent (.ok ()))
      = some (.handedOver f frame, { net.node with server := net.node.server.drained }) := by
    simp [serveMachine, hworking.failed, SdoServer.pollTransmit, hf, serveSend, hframe,
      SdoServer.drained]
  refine ⟨.node (.handedOver f frame), { net with
    node := { net.node with server := net.node.server.drained }, down := net.down ++ [frame] },
    ?_, ?_⟩
  · simp [netMachine, DriveAction.Receives, Net.nodeStep, hs, ServeEvent.frame?]
  · intro j
    simp [Net.rank, hf, SdoServer.drained]

variable (retries) in
/-- The server receives the request. -/
theorem exists_server_receives (M : Machine (BytesState ε ρ) (BytesAction φ ε) (BytesEvent φ))
    (hb : net.Shows T nodeId h b) (hworking : net.node.Working)
    (htx : net.node.server.pendingTx = none) {f : SdoFrame} {i : ℕ} {rest : List (SdoFrame × ℕ)}
    (hup : b.toServer = (f, i) :: rest) {now : UInt64} {r : SdoResult Unit} {s : SdoServer N}
    {o : σ} {calls : List OdCall}
    (hf : b.server.handleFrame f now od.recording (b.dict, []) = .ok ((r, s), (o, calls))) :
    ∃ ev net', (netMachine T od nodeId retries M).step net (.nodeReceives now) = some (ev, net') ∧
      ∀ j, net'.rank j < net.rank (j + 1) := by
  have hcarries := hb.up
  rw [hup] at hcarries
  obtain ⟨frame, frames, hframes, hframe⟩ := hcarries.exists_cons
  rw [hb.server, hb.dict] at hf
  have hs : (serveMachine T od).step net.node (.woken (.recv (.ok frame) now))
      = some (.called calls, { net.node with server := s, dict := o }) := by
    simp [serveMachine, hworking.failed, SdoServer.pollTransmit_of_none htx, serveWake, hframe, hf]
  refine ⟨.node (.called calls), { net with
    node := { net.node with server := s, dict := o }, up := frames }, ?_, ?_⟩
  · simp [netMachine, hframes, Net.nodeStep, hs, ServeEvent.frame?]
  · intro j
    have hle := length_toList_le_one s.pendingTx
    simp only [Net.rank]
    omega

variable (od start) in
/-- The caller receives the answer. -/
theorem exists_caller_receives (hb : net.Shows T nodeId h b)
    (hcaller : net.caller = ⟨1, .driving (.init b.client), none⟩)
    (htx : b.client.pendingTx = none) {f : SdoFrame} {i : ℕ} {rest : List (SdoFrame × ℕ)}
    (hdown : b.toClient = (f, i) :: rest) {now : UInt64} {r : SdoResult (Option SdoOutcome)}
    {c : SdoClient} (hf : b.client.handleFrame tgt f now = .ok (r, c)) {y : BytesState ε ρ}
    {s' : RetryState ε ρ} (hy : BytesState.ofDrive finish (.ofClient r c) = some y)
    (hn : RetryState.next retries 1 y = some s') (hs' : s'.pending ≤ 2) :
    ∃ ev net', (netMachine T od nodeId retries (bytesMachine T tgt nodeId start finish)).step net
      (.callerReceives now) = some (ev, net') ∧ ∀ j, net'.rank j < net.rank (j + 1) := by
  have hcarries := hb.down
  rw [hdown] at hcarries
  obtain ⟨frame, frames, hframes, hframe⟩ := hcarries.exists_cons
  have hs : (driveMachine T tgt).step (.init b.client) (.woken (.recv (.ok frame) now))
      = some (.nothing, .ofClient r c) := by
    simp [driveMachine, DriveState.init, SdoClient.pollTransmit_of_none htx, driveWake, hframe, hf]
  have hcaller' : ({ net with down := frames } : Net N σ φ ε ρ).caller
      = ⟨1, .driving (.init b.client), none⟩ := hcaller
  obtain ⟨ev, up, hstep⟩ := exists_callerStep nodeId retries start finish hcaller' hs hy hn
  refine ⟨ev, { net with caller := s', up := up, down := frames }, ?_, ?_⟩
  · simp only [netMachine, hframes]
    exact hstep
  · intro j
    simp only [Net.rank]
    omega

/-- **Until the caller has returned there is a step that brings it on.** -/
theorem Net.Paced.progress (retries : UInt8)
    (hq : Requests N T tgt od nodeId cfg dict start finish x v)
    (hp : net.Paced T tgt od nodeId cfg dict (x.ends N od dict) v h)
    (hnone : net.caller.result ≠ some v) :
    ∃ act ev net', act.Moves ∧
      (netMachine T od nodeId retries (bytesMachine T tgt nodeId start finish)).step net act
        = some (ev, net') ∧
      net'.rank ((x.ends N od dict).frames - receptions (h ++ [(act, ev)]))
        < net.rank ((x.ends N od dict).frames - receptions h) := by
  obtain ⟨hworking, b, hb, hpaces⟩ := hp
  simp only [receptions_append_singleton]
  generalize hs : net.caller = s, receptions h = n at hpaces
  cases hpaces with
  | ready =>
    -- the caller subscribes
    obtain ⟨c, hc⟩ := hq.started 0
    have hstep : (retryMachine (bytesMachine T tgt nodeId start finish) retries).step net.caller
        (.subscribed (.ok ()) 0)
          = some (.subscribes (subscribeFor nodeId), ⟨1, .driving (.init c), none⟩) := by
      simp [retryMachine, hs, RetryState.init, bytesMachine, hc, RetryState.next]
    refine ⟨.caller (.subscribed (.ok ()) 0), .caller (.subscribed (.ok ()) 0)
      (.subscribes (subscribeFor nodeId)), { net with
        caller := ⟨1, .driving (.init c), none⟩, up := net.up ++ [] }, trivial, ?_, ?_⟩
    · simp [netMachine, BytesAction.Receives, Net.callerStep, hstep, BytesEvent.frame?]
    · have hle := length_toList_le_one c.pendingTx
      simp only [Net.rank, RetryState.pending, hs, RetryState.init, DriveState.init]
      simp
      omega
  | within hn hp =>
    cases hc : b.client.pendingTx with
    | some f =>
      obtain ⟨ev, net', hstep, hrank⟩ :=
        exists_caller_sends tgt od nodeId retries start finish hq.total hb.wf hs hc
      exact ⟨.caller (.drive (.sent (.ok ()))), ev, net', trivial, hstep, hrank _⟩
    | none =>
      cases htx : net.node.server.pendingTx with
      | some f =>
        obtain ⟨ev, net', hstep, hrank⟩ := exists_server_sends od nodeId retries
          (bytesMachine T tgt nodeId start finish) hq.total hworking htx
        exact ⟨.node (.sent (.ok ())), ev, net', trivial, hstep, hrank _⟩
      | none =>
        -- what is sent is received
        have hleft : (x.ends N od dict).frames - n = (x.ends N od dict).frames - (n + 1) + 1 := by
          omega
        rw [← hb.server] at htx
        rcases hp.deliverable hn (by simp [Bus.view, hc]) (by simp [Bus.view, htx]) 0 with
          ⟨f, i, ⟨r, s⟩, ⟨o, calls⟩, hup, hf⟩ | ⟨f, i, c, hdown, hf⟩
        · obtain ⟨ev, net', hstep, hrank⟩ := exists_server_receives retries
            (bytesMachine T tgt nodeId start finish) hb hworking (hb.server ▸ htx) hup hf
          refine ⟨.nodeReceives 0, ev, net', trivial, hstep, ?_⟩
          rw [hleft]
          exact hrank _
        · obtain ⟨y, hy, hnext⟩ := hq.tells.next retries c (n + 1) (x.ends N od dict).frames
          have hpending : RetryState.pending (if n + 1 = (x.ends N od dict).frames then
              ⟨1, .returned v, some v⟩ else ⟨1, .driving (.init c), none⟩) ≤ 2 := by
            have hle := length_toList_le_one c.pendingTx
            split
            · exact Nat.zero_le 2
            · exact hle.trans one_le_two
          obtain ⟨ev, net', hstep, hrank⟩ :=
            exists_caller_receives od start hb hs hc hdown hf hy hnext hpending
          refine ⟨.callerReceives 0, ev, net', trivial, hstep, ?_⟩
          rw [hleft]
          exact hrank _
  | done => exact absurd (congrArg RetryState.result hs) hnone

/-- **The transfer can be brought to its end.** -/
theorem Net.Paced.completes (retries : UInt8)
    (hq : Requests N T tgt od nodeId cfg dict start finish x v)
    (hp : net.Paced T tgt od nodeId cfg dict (x.ends N od dict) v h) :
    ∃ h' net', (netMachine T od nodeId retries (bytesMachine T tgt nodeId start finish)).Run net
      h' net' ∧ (∀ y ∈ h', y.1.Moves) ∧ net'.caller.result = some v := by
  induction hrank : net.rank ((x.ends N od dict).frames - receptions h)
    using Nat.strong_induction_on generalizing net h with
  | _ k ih =>
    by_cases hres : net.caller.result = some v
    · exact ⟨[], net, .start, by simp, hres⟩
    · obtain ⟨act, ev, net₁, hmoves, hs, hlt⟩ := hp.progress retries hq hres
      have hp₁ := hp.step hq (hmoves.quiet net) hs
      obtain ⟨h', net', hr, hm, hres'⟩ := ih _ (hrank ▸ hlt) hp₁ rfl
      refine ⟨(act, ev) :: h', net', hr.cons hs, ?_, hres'⟩
      intro y hy
      rcases List.mem_cons.mp hy with rfl | hy
      · exact hmoves
      · exact hm y hy

end Progress

/-! ### A read and a write -/

/-- A quiet run, from before the first attempt: it goes on as in the loop. -/
structure Net.Course (M : Machine (Net N σ φ ε ρ) (NetAction φ ε) (NetEvent φ ε)) (x : AccessEnd σ)
    (v : Except (AsyncSdoError ε) ρ) (h : List (NetAction φ ε × NetEvent φ ε))
    (net : Net N σ φ ε ρ) : Prop where
  /-- There is one attempt. -/
  once : net.caller.attempt = 1
  /-- It takes no more frames. -/
  bounded : receptions h ≤ x.frames
  /-- The caller returns with the last of them. -/
  result : net.caller.result = if receptions h = x.frames then some v else none
  /-- Then the dictionary, and its calls, are those of the loop. -/
  finished : receptions h = x.frames → net.node.dict = x.dict ∧ netCalls h = x.calls
  /-- It gets there if what is pending is sent and received. -/
  completes : ∃ h' net', M.Run net h' net' ∧ (∀ y ∈ h', y.1.Moves) ∧ net'.caller.result = some v

section Course

variable {T : CanTransport φ ε} {tgt : Target} {od : ObjectDictionary σ} {nodeId : UInt8}
  {idx : UInt16} {sub : UInt8} {data : List UInt8} {timeout : Option ℕ} {retries : UInt8}
  {cfg : SdoConfig} {start : UInt64 → Checked (SdoResult Unit × SdoClient)}
  {finish : SdoOutcome → Checked ρ} {x : Access} {v : Except (AsyncSdoError ε) ρ}
  {s : SdoServer N} {dict : σ} {h : List (NetAction φ ε × NetEvent φ ε)}

/-- A stack that has not begun. -/
theorem paced_init (hs : s.cfg.nodeId = nodeId) (htx : s.pendingTx = none) (x : AccessEnd σ) :
    Net.Paced T tgt od nodeId cfg dict x v [] (.init s dict : Net N σ φ ε ρ) := by
  have hw : (Bus.start (.new cfg) s dict).WellFormed nodeId := Bus.wellFormed_start hs rfl rfl
  have hworking : (⟨s, dict, none⟩ : ServeState N σ ε).Working := by
    refine ⟨rfl, ?_⟩
    intro f hf
    cases htx.symm.trans hf
  refine ⟨hworking, .start (.new cfg) s dict, ⟨hw, rfl, rfl, rfl, rfl, rfl⟩, ?_⟩
  refine .ready rfl ⟨rfl, ?_, ?_⟩ rfl rfl
  · simp [Bus.view, Bus.start, SdoClient.new]
  · simp [Bus.view, Bus.start, htx]

/-- **A quiet run keeps to the loop.** -/
theorem Net.course (hq : Requests N T tgt od nodeId cfg dict start finish x v)
    (hs : s.cfg.nodeId = nodeId) (htx : s.pendingTx = none) {net : Net N σ φ ε ρ}
    (hr : (netMachine T od nodeId retries (bytesMachine T tgt nodeId start finish)).Run
      (.init s dict) h net)
    (hh : ¬ (netMachine T od nodeId retries (bytesMachine T tgt nodeId start finish)).Takes
      (.init s dict) (fun net act => ¬ act.Quiet net) h) :
    net.Course (netMachine T od nodeId retries (bytesMachine T tgt nodeId start finish))
      (x.ends N od dict) v h := by
  have hp : net.Paced T tgt od nodeId cfg dict (x.ends N od dict) v h := by
    refine hr.invariant_avoiding (P := fun h net =>
      net.Paced T tgt od nodeId cfg dict (x.ends N od dict) v h) hh (paced_init hs htx _) ?_
    exact fun h net act ev net' hp ha hs => hp.step hq (not_not.mp ha) hs
  have hcompletes := hp.completes retries hq
  obtain ⟨-, b, hb, hpaces⟩ := hp
  have hdict : net.node.dict = b.dict := hb.dict.symm
  generalize hcaller : net.caller = c, hn : receptions h = n at hpaces
  cases hpaces with
  | ready hcfg hrest hd hcalls =>
    obtain ⟨-, -, -, hF, -⟩ := hrest.start tgt od hb.wf hq.valid hq.fits hq.cap hq.sized 0
    rw [hd] at hF
    refine ⟨by rw [hcaller]; rfl, hn ▸ Nat.zero_le _, ?_, ?_, hcompletes⟩
    · rw [hcaller, hn, if_neg hF.ne]
      rfl
    · exact fun heq => absurd (hn.symm.trans heq) hF.ne
  | within hlt hp =>
    refine ⟨by rw [hcaller], hn ▸ hlt.le, ?_, ?_, hcompletes⟩
    · rw [hcaller, hn, if_neg hlt.ne]
    · exact fun heq => absurd (hn.symm.trans heq) hlt.ne
  | done hrest ho =>
    obtain ⟨ho₁, ho₂⟩ := Prod.mk.inj ho
    refine ⟨by rw [hcaller], hn.le, ?_, ?_, hcompletes⟩
    · rw [hcaller, if_pos hn]
    · exact fun _ => ⟨hdict.trans ho₁, hb.calls.symm.trans ho₂⟩

theorem requests_upload (hT : T.Lawful) (htot : T.Total) (hn : SdoFrame.ValidNode nodeId)
    (hN : N < 2 ^ 32) (hcap : N ≤ tgt.isizeMax) (od : ObjectDictionary σ) (dict : σ) :
    Requests N T tgt od nodeId (configFrom timeout) dict (startUpload nodeId idx sub timeout)
      finishUpload (.upload idx sub) (readResult N od dict idx sub) where
  lawful := hT
  total := htot
  valid := hn
  fits := hN
  cap := hcap
  sized := trivial
  starts := starts_upload
  started := by
    intro now
    have hidle : (SdoClient.new (configFrom timeout)).state = .idle := rfl
    exact ⟨_, congrArg Except.ok (SdoClient.beginUpload_of_idle hn hidle)⟩
  tells := tells_readResult od dict idx sub

theorem requests_download (hT : T.Lawful) (htot : T.Total) (hn : SdoFrame.ValidNode nodeId)
    (hN : N < 2 ^ 32) (hcap : N ≤ tgt.isizeMax) (h₁ : 1 ≤ data.length) (h₂ : data.length < 2 ^ 32)
    (od : ObjectDictionary σ) (dict : σ) :
    Requests N T tgt od nodeId (configFrom timeout) dict
      (startDownload nodeId idx sub data timeout) finishDownload (.download idx sub data)
      (writeResult N od dict idx sub data) where
  lawful := hT
  total := htot
  valid := hn
  fits := hN
  cap := hcap
  sized := ⟨h₁, h₂⟩
  starts := starts_download
  started := by
    intro now
    have hidle : (SdoClient.new (configFrom timeout)).state = .idle := rfl
    exact ⟨_, SdoClient.beginDownload_of_idle hn hidle h₁⟩
  tells := tells_writeResult od dict idx sub data

/-- **A read with retries on a bus that loses nothing** is one attempt: it returns what the
dictionary has for it, with the last frame of the transfer and not before, after the one call;
and it can always be brought there. -/
theorem stack_lossless_read (hT : T.Lawful) (htot : T.Total) (hn : SdoFrame.ValidNode nodeId)
    (hN : N < 2 ^ 32) (hcap : N ≤ tgt.isizeMax) (hs : s.cfg.nodeId = nodeId)
    (htx : s.pendingTx = none) {net : Net N σ φ ε (List UInt8)}
    (hr : (netMachine T od nodeId retries (uploadBytes T tgt nodeId idx sub timeout)).Run
      (.init s dict) h net)
    (hh : ¬ (netMachine T od nodeId retries (uploadBytes T tgt nodeId idx sub timeout)).Takes
      (.init s dict) (fun net act => ¬ act.Quiet net) h) :
    net.Course (netMachine T od nodeId retries (uploadBytes T tgt nodeId idx sub timeout))
      ((Access.upload idx sub).ends N od dict) (readResult N od dict idx sub) h :=
  Net.course (requests_upload hT htot hn hN hcap od dict) hs htx hr hh

/-- **A write with retries on a bus that loses nothing** is one attempt, too. -/
theorem stack_lossless_write (hT : T.Lawful) (htot : T.Total) (hn : SdoFrame.ValidNode nodeId)
    (hN : N < 2 ^ 32) (hcap : N ≤ tgt.isizeMax) (h₁ : 1 ≤ data.length) (h₂ : data.length < 2 ^ 32)
    (hs : s.cfg.nodeId = nodeId) (htx : s.pendingTx = none) {net : Net N σ φ ε Unit}
    (hr : (netMachine T od nodeId retries (downloadBytes T tgt nodeId idx sub data timeout)).Run
      (.init s dict) h net)
    (hh : ¬ (netMachine T od nodeId retries (downloadBytes T tgt nodeId idx sub data timeout)).Takes
      (.init s dict) (fun net act => ¬ act.Quiet net) h) :
    net.Course (netMachine T od nodeId retries (downloadBytes T tgt nodeId idx sub data timeout))
      ((Access.download idx sub data).ends N od dict) (writeResult N od dict idx sub data) h :=
  Net.course (requests_download hT htot hn hN hcap h₁ h₂ od dict) hs htx hr hh

end Course

/-! ### Two runs -/

theorem total_pairTransport : pairTransport.Total := by
  intro f _
  have hlen : f.data.data.length ≤ 8 := f.data.size.le
  exact ⟨(.standard f.cobId, f.data.data), by simp [sdoToCan, pairTransport, hlen]⟩

theorem moves_of_mem_netRounds (now : UInt64) (k : ℕ) : ∀ a ∈ netRounds now k, a.Moves := by
  induction k with
  | zero => simp [netRounds]
  | succ k ih =>
    intro a ha
    rcases List.mem_append.mp ha with ha | ha
    · simp only [List.mem_cons, List.not_mem_nil, or_false] at ha
      rcases ha with rfl | rfl | rfl | rfl <;> exact trivial
    · exact ih a ha

/-- These runs are quiet. -/
theorem quiet_of_mem_netRounds (k : ℕ) {a : NetAction (CanId × List UInt8) Unit}
    (ha : a ∈ callerBegins 0 :: netRounds 0 k) (net : Net N σ (CanId × List UInt8) Unit ρ) :
    a.Quiet net := by
  rcases List.mem_cons.mp ha with rfl | ha
  · exact trivial
  · exact (moves_of_mem_netRounds 0 k a ha).quiet net

/-- Eight bytes are read in six frames. -/
theorem stack_lossless_read_readStack :
    readStack.2.Course (netMachine pairTransport loopOd 0x10 3 (uploadBytes pairTransport .bits64
        0x10 0x2000 0 none)) ((Access.upload 0x2000 0).ends 16 loopOd counting)
      (.ok [1, 2, 3, 4, 5, 6, 7, 8]) readStack.1 := by
  have he : (netMachine pairTransport loopOd 0x10 3 (uploadBytes pairTransport .bits64 0x10
      0x2000 0 none)).exec (.init (.new (.new 0x10)) counting) (callerBegins 0 :: netRounds 0 3)
        = some readStack := (Option.some_get _).symm
  have hs : (SdoServer.new (.new 0x10) : SdoServer 16).cfg.nodeId = 0x10 := rfl
  refine stack_lossless_read lawful_pairTransport total_pairTransport (by decide) (by decide)
    (by decide) hs rfl (Machine.run_of_exec he) (Machine.not_takes_of_exec he ?_)
  intro a ha net hne
  exact hne (quiet_of_mem_netRounds 3 ha net)

/-- Eight bytes are written. -/
theorem stack_lossless_write_writeStack :
    writeStack.2.Course (netMachine pairTransport loopOd 0x10 3 (downloadBytes pairTransport .bits64
        0x10 0x2000 0 [8, 7, 6, 5, 4, 3, 2, 1] none))
      ((Access.download 0x2000 0 [8, 7, 6, 5, 4, 3, 2, 1]).ends 16 loopOd counting) (.ok ())
      writeStack.1 := by
  have he : (netMachine pairTransport loopOd 0x10 3 (downloadBytes pairTransport .bits64 0x10
      0x2000 0 [8, 7, 6, 5, 4, 3, 2, 1] none)).exec (.init (.new (.new 0x10)) counting)
        (callerBegins 0 :: netRounds 0 3) = some writeStack := (Option.some_get _).symm
  have hs : (SdoServer.new (.new 0x10) : SdoServer 16).cfg.nodeId = 0x10 := rfl
  refine stack_lossless_write lawful_pairTransport total_pairTransport (by decide) (by decide)
    (by decide) (by decide) (by decide) hs rfl (Machine.run_of_exec he)
      (Machine.not_takes_of_exec he ?_)
  intro a ha net hne
  exact hne (quiet_of_mem_netRounds 3 ha net)

end CanopenSdo
