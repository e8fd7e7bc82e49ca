import CanopenSdo.ObjectStore
import CanopenSdo.StackCalls

/-!
# Reading and writing with retries

A caller of the whole stack that reads or writes an object, over a bus that may lose any
frame, of a server whose dictionary holds values.  Every dictionary call of a run is an
operation on the store of the values, whatever becomes of its answer.  So what the caller
returns can be compared with what the server has.

## Main definitions

* `callOps` — dictionary calls as operations on a store.

## Main results

* `net_legal` — **the calls of a run are a legal history of the dictionary.**
* `stack_read` — **a value that is returned is that of the object.**
* `stack_write` — **a write that returns `Ok` has set the value, and no other.**
-/

namespace CanopenSdo

variable {N : ℕ} {σ φ ε ρ : Type}

/-! ### Calls as operations -/

/-- What a call that was successful has done to the store. -/
def OdCall.storeOp : OdCall → Option (StoreOp ObjectKey (List UInt8))
  | .read idx sub (.ok len) buf => some (.get (idx, sub) (buf.take len))
  | .write idx sub d (.ok ()) => some (.put (idx, sub) d)
  | _ => none

/-- The operations of some calls. -/
def callOps (calls : List OdCall) : List (StoreOp ObjectKey (List UInt8)) :=
  calls.filterMap OdCall.storeOp

@[simp] theorem callOps_nil : callOps [] = [] := rfl

theorem callOps_append (calls calls' : List OdCall) :
    callOps (calls ++ calls') = callOps calls ++ callOps calls' :=
  List.filterMap_append

theorem mem_callOps {calls : List OdCall} {call : OdCall} {op : StoreOp ObjectKey (List UInt8)}
    (hcall : call ∈ calls) (hop : call.storeOp = some op) : op ∈ callOps calls :=
  List.mem_filterMap.mpr ⟨call, hcall, hop⟩

/-- What every call of the dictionary preserves, the server does. -/
theorem SdoServer.handleFrame_preserves {od : ObjectDictionary σ} {P : σ → Prop}
    (hread : ∀ {n : ℕ} {o o' : σ} {idx : UInt16} {sub : UInt8} {b buf : Bytes n}
      {x : Except SdoAbortCode ℕ}, P o → od.read o idx sub b = (x, buf, o') → P o')
    (hwrite : ∀ {o o' : σ} {idx : UInt16} {sub : UInt8} {d : List UInt8}
      {x : Except SdoAbortCode Unit}, P o → od.write o idx sub d = (x, o') → P o')
    {s s' : SdoServer N} {f : SdoFrame} {now : UInt64} {o o' : σ} {r : SdoResult Unit} (ho : P o)
    (h : s.handleFrame f now od o = .ok ((r, s'), o')) : P o' := by
  have hsim : od.Simulation od fun o q => o = q ∧ P o := by
    constructor
    · rintro n o o' q idx sub b buf x ⟨rfl, ho⟩ h
      exact ⟨o', h, rfl, hread ho h⟩
    · rintro o o' q idx sub d x ⟨rfl, ho⟩ h
      exact ⟨o', h, rfl, hwrite ho h⟩
  obtain ⟨q', -, -, ho'⟩ := SdoServer.handleFrame_simulated hsim ⟨rfl, ho⟩ h
  exact ho'

section Store

variable {od : ObjectDictionary σ} {value : σ → Store ObjectKey (List UInt8)}

/-- **A frame that is handled takes the dictionary through the calls that were made.** -/
theorem ObjectDictionary.Holds.handleFrame (hod : od.Holds value) {s s' : SdoServer N}
    {f : SdoFrame} {now : UInt64} {o o' : σ} {r : SdoResult Unit} {log : List OdCall}
    (h : s.handleFrame f now od.recording (o, []) = .ok ((r, s'), (o', log))) :
    Store.Legal (value o) (callOps log) (value o') := by
  refine SdoServer.handleFrame_preserves
    (P := fun p : σ × List OdCall => Store.Legal (value o) (callOps p.2) (value p.1))
    ?_ ?_ (.nil _) h
  · rintro n ⟨o₁, log₁⟩ ⟨o₂, log₂⟩ idx sub b buf x hlegal hread
    rcases hx : od.read o₁ idx sub b with ⟨x', buf', o₂'⟩
    have hrec := od.read_recording hx log₁
    obtain ⟨rfl, rfl, rfl, rfl⟩ := by simpa [hrec] using hread
    rw [callOps_append]
    refine hlegal.append ?_
    rcases x' with code | len
    · rw [hod.read_error hx]
      exact .nil _
    · obtain ⟨-, hv, heq⟩ := hod.read hx
      rw [heq]
      exact .get hv (.nil _)
  · rintro ⟨o₁, log₁⟩ ⟨o₂, log₂⟩ idx sub d x hlegal hwrite
    rcases hx : od.write o₁ idx sub d with ⟨x', o₂'⟩
    have hrec := od.write_recording hx log₁
    obtain ⟨rfl, rfl, rfl⟩ := by simpa [hrec] using hwrite
    rw [callOps_append]
    refine hlegal.append ?_
    rcases x' with code | u
    · rw [hod.write_error hx]
      exact .nil _
    · rw [hod.write hx]
      exact .put (.nil _)

variable {T : CanTransport φ ε} {tgt : Target} {nodeId : UInt8} {idx : UInt16} {sub : UInt8}
  {data : List UInt8} {timeout : Option ℕ} {retries : UInt8} {s : SdoServer N} {dict : σ}
  {h : List (NetAction φ ε × NetEvent φ ε)} {net net' : Net N σ φ ε ρ} {act : NetAction φ ε}
  {ev : NetEvent φ ε} {M : Machine (BytesState ε ρ) (BytesAction φ ε) (BytesEvent φ)}

theorem serveMachine_legal (hod : od.Holds value) {n n' : ServeState N σ ε} {a : DriveAction φ ε}
    {e : ServeEvent φ} (hs : (serveMachine T od).step n a = some (e, n')) :
    Store.Legal (value n.dict) (callOps e.calls) (value n'.dict) := by
  rcases serveMachine_step_cases hs with ⟨out, r, -, rfl, hsend⟩ | ⟨w, -, rfl, hwake⟩
  · unfold serveSend at hsend
    split at hsend
    · cases hsend
    · split at hsend <;>
      · cases hsend
        exact .nil _
  · unfold serveWake at hwake
    split at hwake
    · cases hwake
      exact .nil _
    · split at hwake
      · cases hwake
        exact .nil _
      · split at hwake
        · cases hwake
        · next hf =>
          cases hwake
          exact hod.handleFrame hf
    · split at hwake
      · cases hwake
      · cases hwake
        exact .nil _

/-- **The calls of a run are a legal history of the dictionary**, whatever the caller is and
whatever becomes of the frames. -/
theorem net_legal (hod : od.Holds value)
    (hr : (netMachine T od nodeId retries M).Run (.init s dict) h net) :
    Store.Legal (value dict) (callOps (netCalls h)) (value net.node.dict) := by
  refine hr.invariant (P := fun h net =>
    Store.Legal (value dict) (callOps (netCalls h)) (value net.node.dict)) (.nil _) ?_
  intro h net act ev net' ih hs
  rw [netCalls_append_singleton, callOps_append]
  refine ih.append ?_
  rcases netMachine_step_cases hs with
    ⟨a, e, rfl, -, hnode⟩ | ⟨a, e, rfl, hstep, -⟩ | ⟨rfl, -, hnode⟩
  · rw [hnode]
    exact .nil _
  · have hcalls : (NetEvent.node e : NetEvent φ ε).calls = e.calls := by cases e <;> rfl
    rw [hcalls]
    exact serveMachine_legal hod hstep
  · rw [hnode]
    exact .nil _

end Store

/-! ### Reads -/

section Read

variable {od : ObjectDictionary σ} {value : σ → Store ObjectKey (List UInt8)}
  {T : CanTransport φ ε} {tgt : Target} {nodeId : UInt8} {idx : UInt16} {sub : UInt8}
  {timeout : Option ℕ} {retries : UInt8} {s : SdoServer N} {dict : σ}
  {h : List (NetAction φ ε × NetEvent φ ε)} {net : Net N σ φ ε (List UInt8)}

/-- Reads change nothing. -/
theorem not_put_of_reads (hcalls : ∀ call ∈ netCalls h, ∃ r buf, call = .read idx sub r buf) :
    ∀ k v, .put k v ∉ callOps (netCalls h) := by
  intro k v hput
  obtain ⟨call, hcall, hop⟩ := List.mem_filterMap.mp hput
  obtain ⟨r, buf, rfl⟩ := hcalls call hcall
  rcases r with code | len <;> simp [OdCall.storeOp] at hop

/-- What a read has delivered is the value of the object. -/
theorem value_of_read {m : Store ObjectKey (List UInt8)} {len : ℕ} {buf : List UInt8}
    (hlegal : Store.Legal (value dict) (callOps (netCalls h)) m)
    (hcalls : ∀ call ∈ netCalls h, ∃ r buf, call = .read idx sub r buf)
    (hread : .read idx sub (.ok len) buf ∈ netCalls h) :
    value dict (idx, sub) = some (buf.take len) := by
  have hget : .get (idx, sub) (buf.take len) ∈ callOps (netCalls h) := mem_callOps hread rfl
  obtain ⟨pre, post, hsplit⟩ := List.append_of_mem hget
  rw [hsplit] at hlegal
  refine hlegal.get_of_not_put fun v hv => ?_
  exact not_put_of_reads hcalls _ v (hsplit ▸ List.mem_append_left _ hv)

/-- **A value that is returned is that of the object**, and reading changes nothing: if the
value has one to four bytes, after however many attempts and whatever was lost; any value, if
the first attempt has returned it. -/
theorem stack_read (hod : od.Holds value) (hT : T.Lawful) (hs : s.cfg.nodeId = nodeId)
    (htx : s.pendingTx = none)
    (hr : (netMachine T od nodeId retries (uploadBytes T tgt nodeId idx sub timeout)).Run
      (.init s dict) h net) :
    value net.node.dict = value dict ∧ ∀ v, net.caller.result = some (.ok v) →
      ((∀ w, value dict (idx, sub) = some w → 1 ≤ w.length ∧ w.length ≤ 4) ∨
        net.caller.attempt = 1) → value dict (idx, sub) = some v := by
  have hlegal := net_legal hod hr
  obtain ⟨-, hcalls⟩ := netCalls_of_read hT hs hr
  refine ⟨hlegal.eq_of_not_put (not_put_of_reads hcalls), ?_⟩
  rintro v hres (hshort | hone)
  · have hinline : ∀ call ∈ netCalls h, call.ReadsInline := by
      intro call hcall
      obtain ⟨r, buf, rfl⟩ := hcalls call hcall
      rcases r with code | len
      · trivial
      · exact hshort _ (value_of_read hlegal hcalls hcall)
    obtain ⟨len, buf, hmem, rfl⟩ := netCalls_of_inline_read hT hs htx hr hinline hres
    exact value_of_read hlegal hcalls hmem
  · obtain ⟨len, buf, -, heq, rfl⟩ := netCalls_of_first_read hT hs htx hr hone hres
    exact value_of_read hlegal hcalls (by simp [heq])

/-- The device type of the demo server is read in two attempts. -/
def readDemo : List (NetAction (CanId × List UInt8) Unit × NetEvent (CanId × List UInt8) Unit) ×
    Net 16 (List Entry) (CanId × List UInt8) Unit (List UInt8) :=
  ((netMachine pairTransport demoOd 0x10 2 (uploadBytes pairTransport .bits64 0x10 0x1000 0
    none)).exec (.init (.new (.new 0x10)) demoEntries) (lostAnswer 1)).get rfl

theorem stack_read_readDemo :
    demoValue demoEntries (0x1000, 0) = some [0x92, 0x01, 0x0F, 0x00] := by
  have hr : (netMachine pairTransport demoOd 0x10 2 (uploadBytes pairTransport .bits64 0x10
      0x1000 0 none)).Run (.init (.new (.new 0x10)) demoEntries) readDemo.1 readDemo.2 :=
    Machine.run_exec_get _
  have hs : (SdoServer.new (.new 0x10) : SdoServer 16).cfg.nodeId = 0x10 := rfl
  refine (stack_read demoOd_holds lawful_pairTransport hs rfl hr).2 _ rfl (.inl ?_)
  intro w hw
  obtain rfl := Option.some.inj hw
  decide

end Read

/-! ### Writes -/

section Write

variable {od : ObjectDictionary σ} {value : σ → Store ObjectKey (List UInt8)}
  {T : CanTransport φ ε} {tgt : Target} {nodeId : UInt8} {idx : UInt16} {sub : UInt8}
  {data : List UInt8} {timeout : Option ℕ} {retries : UInt8} {s : SdoServer N} {dict : σ}
  {h : List (NetAction φ ε × NetEvent φ ε)} {net : Net N σ φ ε Unit}

/-- **A write that returns `Ok` has set the value, and no other**: for data of up to four
bytes after however many attempts and whatever was lost, and in the first attempt for any data.
And where it has not returned `Ok`, short data have been written or nothing has. -/
theorem stack_write (hod : od.Holds value) (hT : T.Lawful) (hs : s.cfg.nodeId = nodeId)
    (htx : s.pendingTx = none)
    (hr : (netMachine T od nodeId retries (downloadBytes T tgt nodeId idx sub data timeout)).Run
      (.init s dict) h net) :
    (data.length ≤ 4 → value net.node.dict = value dict ∨
      value net.node.dict = Function.update (value dict) (idx, sub) (some data)) ∧
    (net.caller.result = some (.ok ()) → data.length ≤ 4 ∨ net.caller.attempt = 1 →
      value net.node.dict = Function.update (value dict) (idx, sub) (some data)) := by
  have hlegal := net_legal hod hr
  obtain ⟨-, hcalls⟩ := netCalls_of_write hT hs hr
  have hshort : data.length ≤ 4 → ∀ op ∈ callOps (netCalls h), op = .put (idx, sub) data := by
    intro h₄ op hop
    obtain ⟨call, hcall, hop⟩ := List.mem_filterMap.mp hop
    obtain ⟨idx', sub', d, r, rfl, heq⟩ := hcalls call hcall
    obtain ⟨rfl, rfl, rfl⟩ := heq h₄
    rcases r with code | u
    · cases hop
    · exact (Option.some.inj hop).symm
  constructor
  · intro h₄
    rw [hlegal.of_puts (hshort h₄)]
    split
    · exact .inl rfl
    · exact .inr rfl
  · rintro hres (h₄ | hone)
    · have hput : .put (idx, sub) data ∈ callOps (netCalls h) :=
        mem_callOps (netCalls_of_inline_write hT hs htx h₄ hr hres) rfl
      rw [hlegal.of_puts (hshort h₄), if_neg (List.ne_nil_of_mem hput)]
    · rw [netCalls_of_first_write hT hs htx hr hone hres] at hlegal
      have hops : callOps [.write idx sub data (.ok ())] = [.put (idx, sub) data] := rfl
      rw [hops] at hlegal
      rw [Store.Legal.of_puts (k := (idx, sub)) (v := data) hlegal (by simp),
        if_neg (List.cons_ne_nil _ _)]

/-- Two bytes of the demo server are written in two attempts. -/
def writeDemo : List (NetAction (CanId × List UInt8) Unit × NetEvent (CanId × List UInt8) Unit) ×
    Net 16 (List Entry) (CanId × List UInt8) Unit Unit :=
  ((netMachine pairTransport demoOd 0x10 2 (downloadBytes pairTransport .bits64 0x10 0x2002 0
    [5, 7] none)).exec (.init (.new (.new 0x10)) demoEntries) (lostAnswer 1)).get rfl

theorem stack_write_writeDemo : demoValue writeDemo.2.node.dict
    = Function.update (demoValue demoEntries) (0x2002, 0) (some [5, 7]) := by
  have hr : (netMachine pairTransport demoOd 0x10 2 (downloadBytes pairTransport .bits64 0x10
      0x2002 0 [5, 7] none)).Run (.init (.new (.new 0x10)) demoEntries) writeDemo.1 writeDemo.2 :=
    Machine.run_exec_get _
  have hs : (SdoServer.new (.new 0x10) : SdoServer 16).cfg.nodeId = 0x10 := rfl
  exact (stack_write demoOd_holds lawful_pairTransport hs rfl hr).2 rfl (.inl (by decide))

end Write

end CanopenSdo
