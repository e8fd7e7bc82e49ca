import CanopenSdo.CallOrder
import CanopenSdo.ClientCalls
import CanopenSdo.Dictionary
import CanopenSdo.ServerRun
import CanopenSdo.Stale

/-!
# A bus that loses nothing

The loop of the loopback tests hands the frames over one by one, the client's first.  On
a bus nobody keeps to that order: either side transmits and is polled when it likes,
timers are asked before they are due, and the frames of other nodes come in between.  As
long as no frame is lost, no deadline passes and nobody aborts (`BusAction.Calm`), none of
this matters.  There is one frame under way at a time, so the frames are delivered in the
order of the loop, and the transfer ends as it does there: with the same result, after the
same number of frames, with the same calls of the dictionary.

Nothing is assumed of what came before: the bus may have carried any transfers, and the
server may be in the middle of one, if only no frame is left of it (`Bus.AtRest`).  So the
transfers of a run are served one after the other, each as if it were alone.

## Main definitions

* `BusAction.Calm`, `deliveries`, `results` — the runs, and what is seen of them.
* `Loop.Ends` — how the loop ends, whatever the times of its frames.
* `Access.ends` — the end that the loop takes a transfer to.
* `Bus.At`, `Bus.Pace` — the bus is where the loop is.
* `Bus.Course` — what is shown of a run with one transfer.
* `BusAction.Orderly`, `Bus.Serving` — runs with any number of them.

## Main results

* `Loop.ends_started` — the loop takes every transfer to its end.
* `Bus.Pace.step` — **every calm step keeps to the loop, or takes it one frame on.**
* `Bus.Pace.completes` — **the transfer can be brought to its end.**
* `lossless_transfer` — **every schedule of a bus that loses nothing takes a transfer to the
  end that the loop takes it to.**
* `Bus.Serving.step`, `lossless_run` — **it serves any number of transfers one after the
  other.**
-/

namespace CanopenSdo

open Wire

variable {N : ℕ} {σ : Type}

/-! ### Calm runs -/

/-- The step loses no frame, aborts no transfer and begins none. -/
def BusAction.Calm (b : Bus N σ) : BusAction σ → Prop
  | .clientTransmit | .serverTransmit | .deliverToServer _ | .deliverToClient _ => True
  | .foreignToServer .. | .foreignToClient .. => True
  -- a timer may be asked before it is due
  | .clientTimeout now => ¬ b.client.Due now
  | .serverTimeout now => ¬ b.server.Due now
  | _ => False

/-- A frame was delivered. -/
def BusEvent.delivers : BusEvent → Bool
  | .served .. | .answered .. => true
  | _ => false

/-- What the client returned for a frame. -/
def BusEvent.result? : BusEvent → Option (SdoResult (Option SdoOutcome))
  | .answered _ _ r => some r
  | _ => none

/-- The number of frames that were delivered. -/
def deliveries (h : List (BusAction σ × BusEvent)) : ℕ := h.countP fun x => x.2.delivers

/-- What the client returned for the frames that were delivered to it. -/
def results (h : List (BusAction σ × BusEvent)) : List (SdoResult (Option SdoOutcome)) :=
  h.filterMap fun x => x.2.result?

theorem deliveries_append_singleton (h : List (BusAction σ × BusEvent)) (a : BusAction σ)
    (e : BusEvent) : deliveries (h ++ [(a, e)]) = deliveries h + if e.delivers then 1 else 0 := by
  simp [deliveries]

theorem results_append_singleton (h : List (BusAction σ × BusEvent)) (a : BusAction σ)
    (e : BusEvent) : results (h ++ [(a, e)]) = results h ++ e.result?.toList := by
  rw [results, List.filterMap_append]
  cases he : e.result? <;> simp [results, he]

/-! ### The loop at any times -/

/-- The loop, after `n` frames, comes to the result `r` and the dictionary `o` after `F`
frames, whatever the times of the frames to come. -/
def Loop.Ends (tgt : Target) (od : ObjectDictionary σ) (n : ℕ) (l : Loop N σ)
    (r : SdoResult SdoOutcome) (F : ℕ) (o : σ) : Prop :=
  ∀ clock : ℕ → UInt64, ∃ c s, c.state = .idle ∧ s.state = .idle ∧
    Pumps tgt od clock n l ⟨r, F, ⟨c, s, o⟩⟩

section Loop

variable {tgt : Target} {od : ObjectDictionary σ} {n F : ℕ} {l : Loop N σ}
  {r : SdoResult SdoOutcome} {o : σ} {f : SdoFrame}

/-- The loop looks at the clock only when it hands over a frame. -/
theorem Pumps.congr {clock clock' : ℕ → UInt64} {e : LoopEnd N σ} (h : Pumps tgt od clock n l e)
    (heq : ∀ m, n ≤ m → clock m = clock' m) : Pumps tgt od clock' n l e := by
  induction h with
  | request hc hs _ ih =>
    rw [heq _ le_rfl] at hs
    exact .request hc hs (ih fun m hm => heq m (by omega))
  | response hc hs hf _ ih =>
    rw [heq _ le_rfl] at hf
    exact .response hc hs hf (ih fun m hm => heq m (by omega))
  | completed hc hs hf =>
    rw [heq _ le_rfl] at hf
    exact .completed hc hs hf
  | failed hc hs hf =>
    rw [heq _ le_rfl] at hf
    exact .failed hc hs hf

theorem Loop.Ends.lt_frames (h : l.Ends tgt od n r F o) : n < F := by
  obtain ⟨c, s, -, -, hp⟩ := h fun _ => 0
  exact hp.lt_frames

/-- A loop that comes to an end has a frame to hand over. -/
theorem Loop.Ends.pending (h : l.Ends tgt od n r F o) :
    (∃ f, l.client.pendingTx = some f) ∨
      (l.client.pendingTx = none ∧ ∃ f, l.server.pendingTx = some f) := by
  obtain ⟨c, s, -, -, hp⟩ := h fun _ => 0
  cases hp with
  | request hc => exact .inl ⟨_, hc⟩
  | response hc hs | completed hc hs | failed hc hs => exact .inr ⟨hc, _, hs⟩

/-- The loop hands the client's request over. -/
theorem Loop.Ends.request (h : l.Ends tgt od n r F o) (hc : l.client.pendingTx = some f)
    (now : UInt64) : ∃ r' s o', l.server.handleFrame f now od l.dict = .ok ((r', s), o') ∧
      n + 1 < F ∧ Loop.Ends tgt od (n + 1) ⟨l.client.drained, s, o'⟩ r F o := by
  -- at every clock that shows `now` for this frame the server takes the same step
  have key : ∀ clock : ℕ → UInt64, clock n = now → ∃ r' s o', l.server.handleFrame f now od l.dict
      = .ok ((r', s), o') ∧ ∃ c₁ s₁, c₁.state = .idle ∧ s₁.state = .idle ∧
        Pumps tgt od clock (n + 1) ⟨l.client.drained, s, o'⟩ ⟨r, F, ⟨c₁, s₁, o⟩⟩ := by
    intro clock hclock
    obtain ⟨c₁, s₁, hc₁, hs₁, hp⟩ := h clock
    cases hp with
    | request hc' hs hp =>
      obtain rfl := Option.some.inj (hc.symm.trans hc')
      rw [hclock] at hs
      exact ⟨_, _, _, hs, c₁, s₁, hc₁, hs₁, hp⟩
    | response hc' | completed hc' | failed hc' =>
      rw [hc] at hc'
      cases hc'
  obtain ⟨r', s, o', hs, c₁, s₁, -, -, hp⟩ := key (fun _ => now) rfl
  refine ⟨r', s, o', hs, hp.lt_frames, ?_⟩
  intro clock
  obtain ⟨r₂, s₂, o₂, hs₂, c₁, s₁, hc₁, hs₁, hp⟩ := key (Function.update clock n now) (by simp)
  obtain ⟨⟨rfl, rfl⟩, rfl⟩ : (r' = r₂ ∧ s = s₂) ∧ o' = o₂ := by
    simpa using Except.ok.inj (hs.symm.trans hs₂)
  refine ⟨c₁, s₁, hc₁, hs₁, hp.congr ?_⟩
  intro m hm
  rw [Function.update_of_ne (by omega)]

/-- The loop hands the server's response over: it goes on, or comes to its end. -/
theorem Loop.Ends.response (h : l.Ends tgt od n r F o) (hc : l.client.pendingTx = none)
    (hs : l.server.pendingTx = some f) (now : UInt64) :
    ∃ r' c, l.client.handleFrame tgt f now = .ok (r', c) ∧
      ((r' = .ok none ∧ n + 1 < F ∧
          Loop.Ends tgt od (n + 1) ⟨c, l.server.drained, l.dict⟩ r F o) ∨
        (r' = r.map some ∧ n + 1 = F ∧ c.state = .idle ∧ l.server.state = .idle ∧ l.dict = o)) := by
  have key : ∀ clock : ℕ → UInt64, clock n = now →
      ∃ r' c, l.client.handleFrame tgt f now = .ok (r', c) ∧
        ((r' = .ok none ∧ ∃ c₁ s₁, c₁.state = .idle ∧ s₁.state = .idle ∧
            Pumps tgt od clock (n + 1) ⟨c, l.server.drained, l.dict⟩ ⟨r, F, ⟨c₁, s₁, o⟩⟩) ∨
          (r' = r.map some ∧ n + 1 = F ∧ c.state = .idle ∧ l.server.state = .idle ∧
            l.dict = o)) := by
    intro clock hclock
    obtain ⟨c₁, s₁, hc₁, hs₁, hp⟩ := h clock
    cases hp with
    | request hc' =>
      rw [hc] at hc'
      cases hc'
    | response hc' hs' hf hp =>
      obtain rfl := Option.some.inj (hs.symm.trans hs')
      rw [hclock] at hf
      exact ⟨_, _, hf, .inl ⟨rfl, c₁, s₁, hc₁, hs₁, hp⟩⟩
    | completed hc' hs' hf =>
      obtain rfl := Option.some.inj (hs.symm.trans hs')
      rw [hclock] at hf
      exact ⟨_, _, hf, .inr ⟨rfl, rfl, hc₁, hs₁, rfl⟩⟩
    | failed hc' hs' hf =>
      obtain rfl := Option.some.inj (hs.symm.trans hs')
      rw [hclock] at hf
      exact ⟨_, _, hf, .inr ⟨rfl, rfl, hc₁, hs₁, rfl⟩⟩
  obtain ⟨r', c, hf, hend⟩ := key (fun _ => now) rfl
  refine ⟨r', c, hf, ?_⟩
  rcases hend with ⟨rfl, c₁, s₁, -, -, hp⟩ | hend
  · refine .inl ⟨rfl, hp.lt_frames, ?_⟩
    intro clock
    obtain ⟨r₂, c₂, hf₂, hend₂⟩ := key (Function.update clock n now) (by simp)
    obtain ⟨rfl, rfl⟩ : .ok none = r₂ ∧ c = c₂ := by
      simpa using Except.ok.inj (hf.symm.trans hf₂)
    rcases hend₂ with ⟨-, c₁, s₁, hc₁, hs₁, hp⟩ | ⟨hr, -⟩
    · refine ⟨c₁, s₁, hc₁, hs₁, hp.congr ?_⟩
      intro m hm
      rw [Function.update_of_ne (by omega)]
    · -- an end is no `none`
      cases r <;> cases hr
  · exact .inr hend

end Loop

/-! ### Accesses -/

/-- What the user of a client asks for. -/
inductive Access where
  | upload (idx : UInt16) (sub : UInt8)
  | download (idx : UInt16) (sub : UInt8) (data : List UInt8)
  deriving DecidableEq

/-- How a transfer ends: the client's result, the frames it takes, the dictionary it leaves
and the calls it makes. -/
structure AccessEnd (σ : Type) where
  result : SdoResult SdoOutcome
  frames : ℕ
  dict : σ
  calls : List OdCall

/-- The end that the loop takes a transfer to. -/
def Access.ends (N : ℕ) (od : ObjectDictionary σ) (o : σ) : Access → AccessEnd σ
  | .upload idx sub =>
    match od.read o idx sub (Bytes.zero N) with
    | (.ok len, buf, o') =>
      { result := if len ≤ N then .ok (.uploadCompleted (buf.data.take len))
          else .error (.serverAborted .outOfMemory)
        frames := if len ≤ N then uploadFrames len else 2
        dict := o'
        calls := [.read idx sub (.ok len) buf.data] }
    | (.error code, buf, o') =>
      { result := .error (.serverAborted (.ofRaw code.raw))
        frames := 2
        dict := o'
        calls := [.read idx sub (.error code) buf.data] }
  | .download idx sub d =>
    if 4 < d.length ∧ N < d.length then
      { result := .error (.serverAborted .outOfMemory), frames := 2, dict := o, calls := [] }
    else
      match od.write o idx sub d with
      | (r, o') =>
        { result := reported r
          frames := downloadFrames d.length
          dict := o'
          calls := [.write idx sub d r] }

/-- The call that starts the transfer. -/
def Access.start (now : UInt64) : Access → BusAction σ
  | .upload idx sub => .beginUpload idx sub now
  | .download idx sub d => .beginDownload idx sub d now

/-- The client once the transfer is under way. -/
def Access.started (nodeId : UInt8) (c : SdoClient) (now : UInt64) : Access → SdoClient
  | .upload idx sub => c.uploadStarted nodeId idx sub now
  | .download idx sub d => c.downloadStarted nodeId idx sub d now

/-- There is something to transfer, and its length fits into the init request. -/
def Access.Sized : Access → Prop
  | .upload .. => True
  | .download _ _ d => 1 ≤ d.length ∧ d.length < 2 ^ 32

section Access

variable {tgt : Target} {od : ObjectDictionary σ} {nodeId : UInt8}

variable (od) in
/-- No transfer ends with an abort of the client. -/
theorem Access.result_ends (x : Access) (o : σ) :
    (∃ out, (x.ends N od o).result = .ok out) ∨
      ∃ code, (x.ends N od o).result = .error (.serverAborted code) := by
  cases x with
  | upload idx sub =>
    rcases h : od.read o idx sub (Bytes.zero N) with ⟨code | len, buf, o'⟩
    · exact .inr ⟨.ofRaw code.raw, by simp only [ends, h]⟩
    · by_cases hlen : len ≤ N
      · exact .inl ⟨_, by simp only [ends, h, if_pos hlen]; rfl⟩
      · exact .inr ⟨_, by simp only [ends, h, if_neg hlen]; rfl⟩
  | download idx sub d =>
    by_cases hfit : 4 < d.length ∧ N < d.length
    · exact .inr ⟨_, by simp only [ends, if_pos hfit]; rfl⟩
    · rcases h : od.write o idx sub d with ⟨code | u, o'⟩
      · exact .inr ⟨.ofRaw code.raw, by simp only [ends, if_neg hfit, h]; rfl⟩
      · exact .inl ⟨.downloadCompleted, by simp only [ends, if_neg hfit, h]; rfl⟩

variable (od) in
/-- **The loop takes every transfer to its end**, with any server of the node. -/
theorem Loop.ends_started (hn : nodeId ≤ 127) (hN : N < 2 ^ 32) (hcap : N ≤ tgt.isizeMax)
    {x : Access} (hx : x.Sized) (c : SdoClient) {s : SdoServer N} (hs : s.cfg.nodeId = nodeId)
    (o : σ) (log : List OdCall) (now : UInt64) :
    Loop.Ends tgt od.recording 0 ⟨x.started nodeId c now, s, (o, log)⟩ (x.ends N od o).result
      (x.ends N od o).frames ((x.ends N od o).dict, log ++ (x.ends N od o).calls) := by
  intro clock
  cases x with
  | upload idx sub =>
    rcases h : od.read o idx sub (Bytes.zero N) with ⟨code | len, buf, o'⟩
    · simp only [Access.ends, h]
      exact Pumps.refused hn hs rfl rfl
        (SdoServer.handleFrame_initUploadRequest_refused hn hs (od.read_recording h log))
    · have hr := od.read_recording h log
      by_cases hlen : len ≤ N
      · simp only [Access.ends, h, if_pos hlen]
        exact pumps_upload hn hs hlen hN hcap hr
      · simp only [Access.ends, h, if_neg hlen]
        exact Pumps.refused hn hs rfl rfl
          (SdoServer.handleFrame_initUploadRequest_tooLarge hn hs hr (Nat.lt_of_not_le hlen))
  | download idx sub d =>
    by_cases hfit : 4 < d.length ∧ N < d.length
    · have hword : (UInt32.ofNat d.length).toNat = d.length := by
        rw [UInt32.toNat_ofNat', Nat.mod_eq_of_lt hx.2]
      simp only [Access.ends, if_pos hfit, List.append_nil]
      exact Pumps.refused hn hs rfl rfl
        (SdoServer.handleFrame_initDownloadRequest_tooLarge hn hs (by omega)
          (hword.symm ▸ hfit.2))
    · rcases h : od.write o idx sub d with ⟨r, o'⟩
      simp only [Access.ends, if_neg hfit, h]
      exact pumps_download hn hs hx.1 hx.2 hfit (od.write_recording h log)

end Access

/-! ### The bus is where the loop is -/

/-- The bus is where the loop is: a frame that is pending there may be in its channel
here. -/
structure Bus.At (b : Bus N σ) (l : Loop N (σ × List OdCall)) : Prop where
  client : b.client.drained = l.client.drained
  server : b.server.drained = l.server.drained
  dict : l.dict = (b.dict, b.calls.map Prod.fst)
  up : b.view.up.map Prod.fst = l.client.pendingTx.toList
  down : b.view.down.map Prod.fst = l.server.pendingTx.toList
  /-- There is one frame under way at a time. -/
  alone : l.client.pendingTx = none ∨ l.server.pendingTx = none

/-- The client is idle and no frame is under way. -/
structure Bus.AtRest (b : Bus N σ) : Prop where
  client : b.client.state = .idle
  up : b.view.up = []
  down : b.view.down = []

/-- The bus after `n` frames of a transfer: where the loop is, or at the end. -/
def Bus.Pace (tgt : Target) (od : ObjectDictionary σ) (r : SdoResult SdoOutcome) (F : ℕ)
    (o : σ × List OdCall) (n : ℕ) (b : Bus N σ) : Prop :=
  (∃ l, b.At l ∧ l.Ends tgt od.recording n r F o) ∨
    (n = F ∧ b.AtRest ∧ b.server.state = .idle ∧ (b.dict, b.calls.map Prod.fst) = o)

/-- Nothing has happened but that pending frames have entered their channels. -/
structure Bus.Alike (b b' : Bus N σ) : Prop where
  client : b'.client.drained = b.client.drained
  server : b'.server.drained = b.server.drained
  dict : b'.dict = b.dict
  view : b'.view = b.view

section Pace

variable {tgt : Target} {od : ObjectDictionary σ} {nodeId : UInt8} {b b' : Bus N σ}
  {l : Loop N (σ × List OdCall)} {a : BusAction σ} {e : BusEvent} {r : SdoResult SdoOutcome}
  {F n : ℕ} {o : σ × List OdCall}

theorem map_fst_pendingFrame (tx : Option SdoFrame) (i : ℕ) :
    (pendingFrame tx i).map Prod.fst = tx.toList := by
  cases tx <;> rfl

theorem Bus.Alike.refl (b : Bus N σ) : b.Alike b := ⟨rfl, rfl, rfl, rfl⟩

theorem Bus.At.alike (h : b.At l) (hb : b.Alike b') : b'.At l where
  client := hb.client.trans h.client
  server := hb.server.trans h.server
  dict := by
    have hcalls : b'.calls = b.calls := congrArg View.calls hb.view
    rw [h.dict, hb.dict, hcalls]
  up := by rw [hb.view, h.up]
  down := by rw [hb.view, h.down]
  alone := h.alone

theorem Bus.Pace.alike (h : b.Pace tgt od r F o n) (hb : b.Alike b') :
    b'.Pace tgt od r F o n := by
  rcases h with ⟨l, hat, hl⟩ | ⟨hn, hrest, hst, ho⟩
  · exact .inl ⟨l, hat.alike hb, hl⟩
  · have hcalls : b'.calls = b.calls := congrArg View.calls hb.view
    have hclient : b'.client.state = b.client.state := congrArg View.client hb.view
    have hserver : b'.server.state = b.server.state := congrArg View.server hb.view
    refine .inr ⟨hn, ⟨hclient.trans hrest.client, ?_, ?_⟩, hserver.trans hst, ?_⟩
    · rw [hb.view, hrest.up]
    · rw [hb.view, hrest.down]
    · rw [hb.dict, hcalls, ho]

/-- The frame that the server takes is the one that the loop hands to it. -/
theorem Bus.At.head_up (h : b.At l) {f : SdoFrame} {i : ℕ} {rest : List (SdoFrame × ℕ)}
    (hup : b.toServer = (f, i) :: rest) :
    l.client.pendingTx = some f ∧ rest = [] ∧ b.client = l.client.drained ∧
      b.server = l.server ∧ l.server.pendingTx = none ∧ b.toClient = [] := by
  have hl := h.up
  rw [Bus.view, hup, List.map_append, map_fst_pendingFrame, List.map_cons] at hl
  obtain ⟨g, hg⟩ : ∃ g, l.client.pendingTx = some g := by
    cases hg : l.client.pendingTx with
    | none => simp [hg] at hl
    | some g => exact ⟨g, rfl⟩
  rw [hg, Option.toList_some, List.cons_append, List.cons.injEq, List.append_eq_nil_iff,
    List.map_eq_nil_iff] at hl
  obtain ⟨rfl, hrest, hnone⟩ := hl
  have hs : l.server.pendingTx = none := h.alone.resolve_left (hg ▸ Option.some_ne_none _)
  have hdown := h.down
  rw [Bus.view, hs, Option.toList_none, List.map_append, map_fst_pendingFrame,
    List.append_eq_nil_iff, List.map_eq_nil_iff] at hdown
  refine ⟨hg, hrest, ?_, ?_, hs, hdown.1⟩
  · rw [← SdoClient.drained_of_none (Option.toList_eq_nil_iff.mp hnone), h.client]
  · rw [← SdoServer.drained_of_none (Option.toList_eq_nil_iff.mp hdown.2), h.server,
      SdoServer.drained_of_none hs]

/-- The frame that the client takes is the one that the loop hands to it. -/
theorem Bus.At.head_down (h : b.At l) {f : SdoFrame} {i : ℕ} {rest : List (SdoFrame × ℕ)}
    (hdown : b.toClient = (f, i) :: rest) :
    l.server.pendingTx = some f ∧ rest = [] ∧ b.server = l.server.drained ∧
      b.client = l.client ∧ l.client.pendingTx = none ∧ b.toServer = [] := by
  have hl := h.down
  rw [Bus.view, hdown, List.map_append, map_fst_pendingFrame, List.map_cons] at hl
  obtain ⟨g, hg⟩ : ∃ g, l.server.pendingTx = some g := by
    cases hg : l.server.pendingTx with
    | none => simp [hg] at hl
    | some g => exact ⟨g, rfl⟩
  rw [hg, Option.toList_some, List.cons_append, List.cons.injEq, List.append_eq_nil_iff,
    List.map_eq_nil_iff] at hl
  obtain ⟨rfl, hrest, hnone⟩ := hl
  have hc : l.client.pendingTx = none := h.alone.resolve_right (hg ▸ Option.some_ne_none _)
  have hup := h.up
  rw [Bus.view, hc, Option.toList_none, List.map_append, map_fst_pendingFrame,
    List.append_eq_nil_iff, List.map_eq_nil_iff] at hup
  refine ⟨hg, hrest, ?_, ?_, hc, hup.1⟩
  · rw [← SdoServer.drained_of_none (Option.toList_eq_nil_iff.mp hnone), h.server]
  · rw [← SdoClient.drained_of_none (Option.toList_eq_nil_iff.mp hup.2), h.client,
      SdoClient.drained_of_none hc]

/-- A calm step that delivers no frame changes nothing that matters. -/
theorem busStep_calm (hb : b.WellFormed nodeId) (ha : a.Calm b)
    (h : busStep tgt od nodeId b a = some (e, b')) :
    (e = .other (.ok none) ∧ b.Alike b') ∨ (∃ now, a = .deliverToServer now) ∨
      ∃ now, a = .deliverToClient now := by
  cases a with
  | clientTransmit =>
    simp only [busStep, SdoClient.pollTransmit, Option.some.injEq, Prod.mk.injEq] at h
    obtain ⟨rfl, rfl⟩ := h
    exact .inl ⟨rfl, rfl, rfl, rfl, by simp [Bus.view]⟩
  | serverTransmit =>
    simp only [busStep, SdoServer.pollTransmit, Option.some.injEq, Prod.mk.injEq] at h
    obtain ⟨rfl, rfl⟩ := h
    exact .inl ⟨rfl, rfl, rfl, rfl, by simp [Bus.view]⟩
  | deliverToServer now => exact .inr (.inl ⟨now, rfl⟩)
  | deliverToClient now => exact .inr (.inr ⟨now, rfl⟩)
  | clientTimeout now =>
    simp only [busStep, SdoClient.handleTimeout_of_not_due ha, Option.some.injEq,
      Prod.mk.injEq] at h
    obtain ⟨rfl, rfl⟩ := h
    exact .inl ⟨rfl, .refl b⟩
  | serverTimeout now =>
    simp only [busStep, SdoServer.handleTimeout_of_not_due ha, Option.some.injEq,
      Prod.mk.injEq] at h
    obtain ⟨rfl, rfl⟩ := h
    exact .inl ⟨rfl, .refl b⟩
  | foreignToServer f now =>
    by_cases hn : SdoFrame.nodeOfRsdo f.cobId = some nodeId
    · simp [busStep, hn] at h
    · have hna : ¬ b.server.Addressed f := by
        rw [SdoServer.Addressed, hb.server]
        exact hn
      simp only [busStep, if_neg hn, (ServerStep.ignored hna).handleFrame_eq, List.map_nil,
        List.append_nil, Option.some.injEq, Prod.mk.injEq] at h
      obtain ⟨rfl, rfl⟩ := h
      exact .inl ⟨rfl, .refl b⟩
  | foreignToClient f now =>
    by_cases hn : SdoFrame.nodeOfTsdo f.cobId = some nodeId
    · simp [busStep, hn] at h
    · have hx : b.client.handleFrame tgt f now = _ :=
        SdoClient.handleFrame_of_not_answers (SdoClient.not_answers_of_foreign hb.client hn)
      simp only [busStep, if_neg hn, hx, Option.some.injEq, Prod.mk.injEq] at h
      obtain ⟨rfl, rfl⟩ := h
      exact .inl ⟨rfl, .refl b⟩
  | _ => exact ha.elim

/-- A client that ends its transfer without an abort of its own has nothing to send. -/
theorem ClientStep.pendingTx_of_ended {c c' : SdoClient} {f : SdoFrame} {now : UInt64}
    (h : ClientStep tgt c f now (r.map some) c')
    (hr : (∃ out, r = .ok out) ∨ ∃ code, r = .error (.serverAborted code)) :
    c'.pendingTx = none := by
  rcases hr with ⟨out, rfl⟩ | ⟨code, rfl⟩
  · cases h <;> rfl
  · cases h
    rfl

end Pace

section Step

variable {tgt : Target} {od : ObjectDictionary σ} {nodeId : UInt8} {b b' : Bus N σ}
  {a : BusAction σ} {e : BusEvent} {r : SdoResult SdoOutcome} {F n : ℕ} {o : σ × List OdCall}

/-- The server is handed the request. -/
theorem Bus.Pace.served (hp : b.Pace tgt od r F o n) {now : UInt64}
    (h : busStep tgt od nodeId b (.deliverToServer now) = some (e, b')) :
    n + 1 < F ∧ b'.Pace tgt od r F o (n + 1) ∧ e.delivers = true ∧ e.result? = none := by
  cases hup : b.toServer with
  | nil => simp [busStep, hup] at h
  | cons x rest =>
    obtain ⟨f, i⟩ := x
    rcases hp with ⟨l, hat, hl⟩ | ⟨-, hrest, -⟩
    · obtain ⟨hf, rfl, hc, hs, hnone, hdown⟩ := hat.head_up hup
      obtain ⟨r₁, s, o₁, hstep, hlt, hends⟩ := hl.request hf now
      rcases hb : b.server.handleFrame f now od.recording (b.dict, []) with p | ⟨⟨r₂, s₂⟩, o₂, calls⟩
      · simp [busStep, hup, hb] at h
      · simp only [busStep, hup, hb, Option.some.injEq, Prod.mk.injEq] at h
        obtain ⟨rfl, rfl⟩ := h
        -- the calls of the step come after those that are on record
        obtain ⟨-, hlog, rfl⟩ := SdoServer.handleFrame_simulated
          (od.recording_shift (b.calls.map Prod.fst)) rfl hb
        rw [hs, List.append_nil, ← hat.dict] at hlog
        obtain ⟨⟨rfl, rfl⟩, rfl⟩ : (r₂ = r₁ ∧ s₂ = s) ∧ (o₂, b.calls.map Prod.fst ++ calls) = o₁ := by
          simpa using Except.ok.inj (hlog.symm.trans hstep)
        refine ⟨hlt, .inl ⟨_, ⟨?_, rfl, ?_, ?_, ?_, .inl rfl⟩, hends⟩, rfl, rfl⟩
        · rw [hc]
        · simp [List.map_append, Function.comp_def]
        · simp [Bus.view, hc]
        · simp [Bus.view, hdown, map_fst_pendingFrame]
    · have hnil := hrest.up
      simp [Bus.view, hup] at hnil

/-- The client is handed the response: it goes on, or comes to the end of the loop. -/
theorem Bus.Pace.answered (hr : (∃ out, r = .ok out) ∨ ∃ code, r = .error (.serverAborted code))
    (hp : b.Pace tgt od r F o n) {now : UInt64}
    (h : busStep tgt od nodeId b (.deliverToClient now) = some (e, b')) :
    n + 1 ≤ F ∧ b'.Pace tgt od r F o (n + 1) ∧ e.delivers = true ∧
      e.result? = some (if n + 1 = F then r.map some else .ok none) := by
  cases hdown : b.toClient with
  | nil => simp [busStep, hdown] at h
  | cons x rest =>
    obtain ⟨f, i⟩ := x
    rcases hp with ⟨l, hat, hl⟩ | ⟨-, hrest, -⟩
    · obtain ⟨hf, rfl, hs, hc, hnone, hup⟩ := hat.head_down hdown
      obtain ⟨r₁, c, hstep, hend⟩ := hl.response hnone hf now
      rw [← hc] at hstep
      simp only [busStep, hdown, hstep, Option.some.injEq, Prod.mk.injEq] at h
      obtain ⟨rfl, rfl⟩ := h
      rcases hend with ⟨rfl, hlt, hends⟩ | ⟨rfl, hn, hidle, hst, hdict⟩
      · refine ⟨hlt.le, .inl ⟨⟨c, l.server.drained, l.dict⟩,
          ⟨rfl, ?_, hat.dict, ?_, ?_, .inr rfl⟩, hends⟩, rfl, ?_⟩
        · rw [hs]
        · simp [Bus.view, hup, map_fst_pendingFrame]
        · simp [Bus.view, hs]
        · rw [if_neg hlt.ne]
          rfl
      · have htx : c.pendingTx = none :=
          (SdoClient.handleFrame_eq_ok_iff.mp hstep).pendingTx_of_ended hr
        refine ⟨hn.le, .inr ⟨hn, ⟨hidle, ?_, ?_⟩, ?_, ?_⟩, rfl, ?_⟩
        · simp [Bus.view, hup, htx]
        · simp [Bus.view, hs]
        · rw [hs]
          exact hst
        · rw [← hat.dict, hdict]
        · rw [if_pos hn]
          rfl
    · have hnil := hrest.down
      simp [Bus.view, hdown] at hnil

/-- **Every calm step keeps to the loop, or takes it one frame on.** -/
theorem Bus.Pace.step (hr : (∃ out, r = .ok out) ∨ ∃ code, r = .error (.serverAborted code))
    (hb : b.WellFormed nodeId) (hp : b.Pace tgt od r F o n) (ha : a.Calm b)
    (h : busStep tgt od nodeId b a = some (e, b')) :
    b'.Pace tgt od r F o (n + if e.delivers then 1 else 0) ∧
      (e.result? = none → e.delivers = true → n + 1 < F) ∧
        ∀ x, e.result? = some x → n < F ∧ x = if n + 1 = F then r.map some else .ok none := by
  rcases busStep_calm hb ha h with ⟨rfl, halike⟩ | ⟨now, rfl⟩ | ⟨now, rfl⟩
  · exact ⟨hp.alike halike, nofun, nofun⟩
  · obtain ⟨hlt, hp', hd, hres⟩ := hp.served h
    rw [hd, hres]
    exact ⟨hp', fun _ _ => hlt, nofun⟩
  · obtain ⟨hle, hp', hd, hres⟩ := hp.answered hr h
    rw [hd, hres]
    exact ⟨hp', nofun, fun x hx => ⟨hle, (Option.some.inj hx).symm⟩⟩

theorem Bus.Pace.le (h : b.Pace tgt od r F o n) : n ≤ F := by
  rcases h with ⟨l, -, hl⟩ | ⟨hn, -⟩
  · exact hl.lt_frames.le
  · exact hn.le

/-- After all its frames a transfer is over. -/
theorem Bus.Pace.over (h : b.Pace tgt od r F o F) :
    b.AtRest ∧ b.server.state = .idle ∧ (b.dict, b.calls.map Prod.fst) = o := by
  rcases h with ⟨l, -, hl⟩ | ⟨-, h⟩
  · exact absurd hl.lt_frames (lt_irrefl _)
  · exact h

/-- One calm step or none, which returns `r` and delivers `m` frames. -/
inductive Bus.Calms (tgt : Target) (od : ObjectDictionary σ) (nodeId : UInt8) (b : Bus N σ) :
    SdoResult (Option SdoOutcome) → ℕ → Bus N σ → Prop
  | refl : Calms tgt od nodeId b (.ok none) 0 b
  | step {a : BusAction σ} {e : BusEvent} {b' : Bus N σ}
      (hs : busStep tgt od nodeId b a = some (e, b')) (ha : a.Calm b) :
      Calms tgt od nodeId b (e.result?.getD (.ok none)) (if e.delivers then 1 else 0) b'

/-- The client has the result with the last frame, and not before. -/
theorem Bus.Pace.calms (hr : (∃ out, r = .ok out) ∨ ∃ code, r = .error (.serverAborted code))
    (hb : b.WellFormed nodeId) (hp : b.Pace tgt od r F o n) (hn : n < F)
    {x : SdoResult (Option SdoOutcome)} {m : ℕ} (h : b.Calms tgt od nodeId x m b') :
    b'.WellFormed nodeId ∧ b'.Pace tgt od r F o (n + m) ∧
      x = if n + m = F then r.map some else .ok none := by
  cases h with
  | refl => exact ⟨hb, hp, (if_neg hn.ne).symm⟩
  | @step a e _ hs ha =>
    obtain ⟨hp', hnone, hsome⟩ := hp.step hr hb ha hs
    refine ⟨(busStep_of_step hb hs).2, hp', ?_⟩
    cases hx : e.result? with
    | none =>
      -- the last frame goes to the client
      have hne : n + (if e.delivers then 1 else 0) ≠ F := by
        split
        · next hd => exact (hnone hx hd).ne
        · exact hn.ne
      rw [if_neg hne]
      rfl
    | some x =>
      have hd : e.delivers = true := by
        cases e with
        | answered => rfl
        | _ => cases hx
      simp only [hd, if_true]
      exact (hsome x hx).2

end Step

/-! ### The bus comes to the end of the loop -/

/-- The step transmits or delivers a frame. -/
def BusAction.Moves : BusAction σ → Prop
  | .clientTransmit | .serverTransmit | .deliverToServer _ | .deliverToClient _ => True
  | _ => False

section Progress

variable {tgt : Target} {od : ObjectDictionary σ} {nodeId : UInt8} {b : Bus N σ}
  {r : SdoResult SdoOutcome} {F n : ℕ} {o : σ × List OdCall}

variable (tgt od nodeId) in
/-- The client and the server have transmitted what they had pending. -/
theorem exists_transmitted (b : Bus N σ) : ∃ h b', (busMachine tgt od nodeId).Run b h b' ∧
    (∀ x ∈ h, x.1.Moves) ∧ deliveries h = 0 ∧ b.Alike b' ∧ b'.toServer = b.view.up ∧
      b'.toClient = b.view.down := by
  let b₁ : Bus N σ := { b with
    client := b.client.drained
    toServer := b.toServer ++ pendingFrame b.client.pendingTx b.current }
  let b₂ : Bus N σ := { b₁ with
    server := b₁.server.drained
    toClient := b₁.toClient ++ pendingFrame b₁.server.pendingTx b₁.reply }
  have h₁ : (busMachine tgt od nodeId).step b .clientTransmit = some (.other (.ok none), b₁) := rfl
  have h₂ : (busMachine tgt od nodeId).step b₁ .serverTransmit = some (.other (.ok none), b₂) := rfl
  refine ⟨_, b₂, .cons h₁ (.single h₂), ?_, rfl, ⟨rfl, rfl, rfl, ?_⟩, rfl, rfl⟩
  · intro x hx
    rcases List.mem_pair.mp hx with rfl | rfl <;> exact trivial
  · simp [b₂, b₁, Bus.view]

/-- Once nothing is pending there is a frame under way, which can be delivered. -/
theorem Bus.Pace.deliverable (hp : b.Pace tgt od r F o n) (hn : n < F)
    (hup : b.toServer = b.view.up) (hdown : b.toClient = b.view.down) (now : UInt64) :
    (∃ f i x y, b.toServer = [(f, i)] ∧
        b.server.handleFrame f now od.recording (b.dict, []) = .ok (x, y)) ∨
      ∃ f i c, b.toClient = [(f, i)] ∧
        b.client.handleFrame tgt f now = .ok (if n + 1 = F then r.map some else .ok none, c) := by
  rcases hp with ⟨l, hat, hl⟩ | ⟨rfl, -⟩
  · rcases hl.pending with ⟨f, hf⟩ | ⟨hnone, f, hf⟩
    · -- the client's request
      have hhead := hat.up
      rw [hf, ← hup, Option.toList_some, List.map_eq_singleton_iff] at hhead
      obtain ⟨⟨f', i⟩, hhead, rfl⟩ := hhead
      obtain ⟨-, -, -, hserver, -⟩ := hat.head_up hhead
      obtain ⟨r₁, s, o₁, hstep, -⟩ := hl.request hf now
      rw [← hserver, hat.dict] at hstep
      obtain ⟨o₂, hstep, -⟩ := SdoServer.handleFrame_simulated
        (od.recording_unshift (b.calls.map Prod.fst)) (q := (b.dict, [])) (by simp) hstep
      exact .inl ⟨f', i, _, o₂, hhead, hstep⟩
    · -- the server's response
      have hhead := hat.down
      rw [hf, ← hdown, Option.toList_some, List.map_eq_singleton_iff] at hhead
      obtain ⟨⟨f', i⟩, hhead, rfl⟩ := hhead
      obtain ⟨-, -, -, hclient, -, -⟩ := hat.head_down hhead
      obtain ⟨r₁, c, hstep, hend⟩ := hl.response hnone hf now
      rw [← hclient] at hstep
      refine .inr ⟨f', i, c, hhead, ?_⟩
      rcases hend with ⟨rfl, hlt, -⟩ | ⟨rfl, hF, -⟩
      · rw [if_neg hlt.ne, hstep]
      · rw [if_pos hF, hstep]
  · exact absurd hn (lt_irrefl _)

variable (nodeId) in
/-- Until the transfer is over there is a frame to deliver. -/
theorem Bus.Pace.progress (hr : (∃ out, r = .ok out) ∨ ∃ code, r = .error (.serverAborted code))
    (hp : b.Pace tgt od r F o n) (hn : n < F) :
    ∃ h b', (busMachine tgt od nodeId).Run b h b' ∧ (∀ x ∈ h, x.1.Moves) ∧ deliveries h = 1 ∧
      b'.Pace tgt od r F o (n + 1) := by
  obtain ⟨h₁, b₁, hr₁, hmoves, hd₁, halike, hup, hdown⟩ := exists_transmitted tgt od nodeId b
  -- the step that delivers the frame comes after those that transmit it
  have key : ∀ a e b₂, BusAction.Moves a → busStep tgt od nodeId b₁ a = some (e, b₂) →
      e.delivers = true → b₂.Pace tgt od r F o (n + 1) →
      ∃ h b', (busMachine tgt od nodeId).Run b h b' ∧ (∀ x ∈ h, x.1.Moves) ∧ deliveries h = 1 ∧
        b'.Pace tgt od r F o (n + 1) := by
    intro a e b₂ ha hs he hp₂
    refine ⟨h₁ ++ [(a, e)], b₂, hr₁.snoc hs, ?_, ?_, hp₂⟩
    · intro x hx
      rcases List.mem_append.mp hx with hx | hx
      · exact hmoves x hx
      · obtain rfl := List.mem_singleton.mp hx
        exact ha
    · rw [deliveries_append_singleton, hd₁, he]
      rfl
  have hp₁ := hp.alike halike
  rw [← halike.view] at hup hdown
  rcases hp₁.deliverable hn hup hdown 0 with
    ⟨f, i, x, ⟨o₂, calls⟩, hhead, hstep⟩ | ⟨f, i, c, hhead, hstep⟩
  · obtain ⟨⟨e, b₂⟩, hb⟩ : ∃ y, busStep tgt od nodeId b₁ (.deliverToServer 0) = some y :=
      ⟨_, by simp only [busStep, hhead, hstep]; rfl⟩
    obtain ⟨-, hp₂, he, -⟩ := hp₁.served hb
    exact key (.deliverToServer 0) e b₂ trivial hb he hp₂
  · obtain ⟨⟨e, b₂⟩, hb⟩ : ∃ y, busStep tgt od nodeId b₁ (.deliverToClient 0) = some y :=
      ⟨_, by simp only [busStep, hhead, hstep]; rfl⟩
    obtain ⟨-, hp₂, he, -⟩ := hp₁.answered hr hb
    exact key (.deliverToClient 0) e b₂ trivial hb he hp₂

variable (nodeId) in
/-- **The transfer can be brought to its end** by transmitting and delivering frames. -/
theorem Bus.Pace.completes (hr : (∃ out, r = .ok out) ∨ ∃ code, r = .error (.serverAborted code))
    (j : ℕ) : ∀ {n : ℕ} {b : Bus N σ}, b.Pace tgt od r F o n → n + j = F →
      ∃ h b', (busMachine tgt od nodeId).Run b h b' ∧ (∀ x ∈ h, x.1.Moves) ∧ deliveries h = j := by
  induction j with
  | zero =>
    intro n b hp hn
    exact ⟨[], b, .start, by simp, rfl⟩
  | succ j ih =>
    intro n b hp hn
    obtain ⟨h₁, b₁, hr₁, hm₁, hd₁, hp₁⟩ := hp.progress nodeId hr (by omega)
    obtain ⟨h₂, b₂, hr₂, hm₂, hd₂⟩ := ih hp₁ (by omega)
    refine ⟨h₁ ++ h₂, b₂, hr₁.trans hr₂, ?_, ?_⟩
    · intro x hx
      rcases List.mem_append.mp hx with hx | hx
      · exact hm₁ x hx
      · exact hm₂ x hx
    · rw [deliveries, List.countP_append]
      change deliveries h₁ + deliveries h₂ = j + 1
      omega

/-- **Along a calm run** the client waits until it has the result. -/
theorem Bus.Pace.run (hr : (∃ out, r = .ok out) ∨ ∃ code, r = .error (.serverAborted code))
    (hF : 0 < F) (hw : b.WellFormed nodeId) (hp : b.Pace tgt od r F o 0)
    {h : List (BusAction σ × BusEvent)} {b' : Bus N σ}
    (hrun : (busMachine tgt od nodeId).Run b h b')
    (hcalm : ¬ (busMachine tgt od nodeId).Takes b (fun s a => ¬ a.Calm s) h) :
    b'.WellFormed nodeId ∧ b'.Pace tgt od r F o (deliveries h) ∧
      ∃ k, results h
        = List.replicate k (.ok none) ++ if deliveries h = F then [r.map some] else [] := by
  refine hrun.invariant_avoiding (P := fun h b' => b'.WellFormed nodeId ∧
    b'.Pace tgt od r F o (deliveries h) ∧ ∃ k, results h
      = List.replicate k (.ok none) ++ if deliveries h = F then [r.map some] else []) hcalm ?_ ?_
  · refine ⟨hw, hp, 0, ?_⟩
    rw [if_neg (show deliveries [] ≠ F from hF.ne)]
    rfl
  · rintro h s a e t ⟨hws, hps, k, hk⟩ ha hs
    obtain ⟨hpt, hserved, hres⟩ := hps.step hr hws (not_not.mp ha) hs
    refine ⟨(busStep_of_step hws hs).2, by rwa [deliveries_append_singleton], ?_⟩
    rw [results_append_singleton, deliveries_append_singleton, hk]
    cases hx : e.result? with
    | none =>
      -- the last frame goes to the client
      have hF' : (deliveries h + if e.delivers = true then 1 else 0) = F ↔ deliveries h = F := by
        have hle := hps.le
        split
        · next hd =>
          have hlt := hserved hx hd
          omega
        · rw [add_zero]
      simp only [hF']
      exact ⟨k, by simp⟩
    | some x =>
      obtain ⟨hlt, rfl⟩ := hres x hx
      have hd : e.delivers = true := by
        cases e with
        | answered => rfl
        | _ => cases hx
      rw [if_neg hlt.ne, hd, if_pos rfl]
      split
      · exact ⟨k, by simp⟩
      · exact ⟨k + 1, by simp [List.replicate_succ']⟩

end Progress

/-! ### One transfer -/

/-- A calm run, from the start of a transfer: it goes on as in the loop. -/
structure Bus.Course (tgt : Target) (od : ObjectDictionary σ) (nodeId : UInt8) (b : Bus N σ)
    (x : AccessEnd σ) (h : List (BusAction σ × BusEvent)) (b' : Bus N σ) : Prop where
  /-- It takes no more frames. -/
  bounded : deliveries h ≤ x.frames
  /-- The client waits until the last of them, and then has the result. -/
  results : ∃ k, results h
    = List.replicate k (.ok none) ++ if deliveries h = x.frames then [x.result.map some] else []
  /-- Then the bus is at rest, with the dictionary and the calls of the loop. -/
  finished : deliveries h = x.frames → b'.AtRest ∧ b'.server.state = .idle ∧ b'.dict = x.dict ∧
    b'.calls.map Prod.fst = b.calls.map Prod.fst ++ x.calls
  /-- It gets there if the frames under way are delivered. -/
  completes : ∃ h' b'', (busMachine tgt od nodeId).Run b' h' b'' ∧ (∀ y ∈ h', y.1.Moves) ∧
    deliveries h + deliveries h' = x.frames

section Transfer

variable {tgt : Target} {od : ObjectDictionary σ} {nodeId : UInt8}

variable (tgt od) in
/-- A transfer starts on a bus at rest. -/
theorem Bus.AtRest.start {b : Bus N σ} (hb : b.AtRest) (hw : b.WellFormed nodeId)
    (hn : SdoFrame.ValidNode nodeId) (hN : N < 2 ^ 32) (hcap : N ≤ tgt.isizeMax) {x : Access}
    (hx : x.Sized) (now : UInt64) :
    ∃ b', busStep tgt od nodeId b (x.start now) = some (.began, b') ∧ b'.WellFormed nodeId ∧
      0 < (x.ends N od b.dict).frames ∧
      b'.Pace tgt od (x.ends N od b.dict).result (x.ends N od b.dict).frames
        ((x.ends N od b.dict).dict, b.calls.map Prod.fst ++ (x.ends N od b.dict).calls) 0 := by
  have hs : busStep tgt od nodeId b (x.start now)
      = some (.began, { b with client := x.started nodeId b.client now, current := b.current + 1 })
      := by
    cases x with
    | upload idx sub =>
      simp only [Access.start, busStep, SdoClient.beginUpload_of_idle hn hb.client]
      rfl
    | download idx sub d =>
      simp only [Access.start, busStep, SdoClient.beginDownload_of_idle hn hb.client hx.1]
      rfl
  have hends := Loop.ends_started od hn.2 hN hcap hx b.client hw.server b.dict
    (b.calls.map Prod.fst) now
  refine ⟨_, hs, (busStep_of_step hw hs).2, hends.lt_frames,
    .inl ⟨_, ⟨rfl, rfl, rfl, ?_, ?_, .inr ?_⟩, hends⟩⟩
  · have hup : b.toServer = [] := (List.append_eq_nil_iff.mp hb.up).1
    simp [Bus.view, hup, map_fst_pendingFrame]
  · have hdown := hb.down
    rw [Bus.view, List.append_eq_nil_iff] at hdown
    simp [Bus.view, hdown.1, map_fst_pendingFrame]
  · have hnone := (List.append_eq_nil_iff.mp hb.down).2
    cases htx : b.server.pendingTx with
    | none => rfl
    | some g => simp [htx] at hnone

/-- A transfer that has been started goes on as in the loop. -/
theorem Bus.Pace.course {b b₁ b' : Bus N σ} {x : AccessEnd σ}
    (hx : (∃ out, x.result = .ok out) ∨ ∃ code, x.result = .error (.serverAborted code))
    (hF : 0 < x.frames) (hw : b₁.WellFormed nodeId)
    (hp : b₁.Pace tgt od x.result x.frames (x.dict, b.calls.map Prod.fst ++ x.calls) 0)
    {h : List (BusAction σ × BusEvent)} (hr : (busMachine tgt od nodeId).Run b₁ h b')
    (hcalm : ¬ (busMachine tgt od nodeId).Takes b₁ (fun s a => ¬ a.Calm s) h) :
    b.Course tgt od nodeId x h b' := by
  obtain ⟨-, hp', hres⟩ := hp.run hx hF hw hr hcalm
  refine ⟨hp'.le, hres, ?_, ?_⟩
  · intro hd
    rw [hd] at hp'
    obtain ⟨hrest, hst, ho⟩ := hp'.over
    obtain ⟨hdict, hcalls⟩ := Prod.mk.inj ho
    exact ⟨hrest, hst, hdict, hcalls⟩
  · obtain ⟨h', b'', hr', hm, hd⟩ := hp'.completes nodeId hx
      (x.frames - deliveries h) (Nat.add_sub_of_le hp'.le)
    exact ⟨h', b'', hr', hm, by rw [hd, Nat.add_sub_of_le hp'.le]⟩

/-- **Every schedule of a bus that loses nothing takes a transfer to the end that the loop
takes it to.** -/
theorem lossless_transfer (hn : SdoFrame.ValidNode nodeId) (hN : N < 2 ^ 32)
    (hcap : N ≤ tgt.isizeMax) {b : Bus N σ} (hb : b.AtRest) (hw : b.WellFormed nodeId) {x : Access}
    (hx : x.Sized) (now : UInt64) :
    ∃ b₁, busStep tgt od nodeId b (x.start now) = some (.began, b₁) ∧
      ∀ h b', (busMachine tgt od nodeId).Run b₁ h b' →
        ¬ (busMachine tgt od nodeId).Takes b₁ (fun s a => ¬ a.Calm s) h →
          b.Course tgt od nodeId (x.ends N od b.dict) h b' := by
  obtain ⟨b₁, hs, hw₁, hF, hp₁⟩ := hb.start tgt od hw hn hN hcap hx now
  refine ⟨b₁, hs, ?_⟩
  intro h b' hr hcalm
  exact hp₁.course (x.result_ends od b.dict) hF hw₁ hr hcalm

/-- Eight bytes are read. -/
theorem lossless_transfer_eight :
    ∃ b₁, busStep .bits64 loopOd 0x10 newBus (.beginUpload 0x2000 0 0) = some (.began, b₁) ∧
      ∀ h b', (busMachine .bits64 loopOd 0x10).Run b₁ h b' →
        ¬ (busMachine .bits64 loopOd 0x10).Takes b₁ (fun s a => ¬ a.Calm s) h →
          newBus.Course .bits64 loopOd 0x10 ((Access.upload 0x2000 0).ends 16 loopOd counting) h b' :=
  @lossless_transfer 16 _ .bits64 loopOd 0x10 (by decide) (by decide) (by decide) newBus
    ⟨rfl, rfl, rfl⟩ (Bus.wellFormed_start rfl rfl rfl) (.upload 0x2000 0) trivial 0

end Transfer

/-! ### Any number of transfers -/

/-- The step is calm, or asks for a transfer. -/
def BusAction.Orderly (b : Bus N σ) : BusAction σ → Prop
  | .beginUpload .. => True
  | .beginDownload _ _ d _ => d.length < 2 ^ 32
  | a => a.Calm b

/-- The transfer that the call asks for. -/
def BusAction.access? : BusAction σ → Option Access
  | .beginUpload idx sub _ => some (.upload idx sub)
  | .beginDownload idx sub d _ => some (.download idx sub d)
  | _ => none

/-- The end of a transfer that the client has returned, if it is one. -/
def SdoResult.end? : SdoResult (Option SdoOutcome) → Option (SdoResult SdoOutcome)
  | .ok none => none
  | .ok (some out) => some (.ok out)
  | .error e => some (.error e)

/-- The transfers that were started. -/
def requested (h : List (BusAction σ × BusEvent)) : List Access :=
  (begun h).filterMap BusAction.access?

/-- The ends of transfers that the client has returned. -/
def ended (h : List (BusAction σ × BusEvent)) : List (SdoResult SdoOutcome) :=
  (results h).filterMap SdoResult.end?

/-- What comes of transfers one after the other. -/
structure Ledger (σ : Type) where
  results : List (SdoResult SdoOutcome)
  dict : σ
  calls : List OdCall

/-- One more transfer, taken to its end at once. -/
def Ledger.serve (N : ℕ) (od : ObjectDictionary σ) (s : Ledger σ) (x : Access) : Ledger σ where
  results := s.results ++ [(x.ends N od s.dict).result]
  dict := (x.ends N od s.dict).dict
  calls := s.calls ++ (x.ends N od s.dict).calls

section Run

variable {tgt : Target} {od : ObjectDictionary σ} {nodeId : UInt8} {b b' : Bus N σ}
  {h : List (BusAction σ × BusEvent)} {a : BusAction σ} {e : BusEvent}

/-- A loop whose client is idle goes on for ever. -/
theorem Pumps.client_ne_idle {clock : ℕ → UInt64} {n : ℕ} {l : Loop N σ} {x : LoopEnd N σ}
    (hp : Pumps tgt od clock n l x) : l.client.state ≠ .idle := by
  have hignored : ∀ {c : SdoClient} {f : SdoFrame} {now : UInt64}, c.state = .idle →
      c.handleFrame tgt f now = .ok (.ok none, c) := fun hc =>
    SdoClient.handleFrame_of_not_answers (SdoClient.not_answers_of_idle hc)
  induction hp with
  | request hc hs _ ih => exact ih
  | response hc hs hf _ ih =>
    intro hidle
    rw [hignored hidle] at hf
    obtain ⟨-, rfl⟩ := Prod.mk.inj (Except.ok.inj hf)
    exact ih hidle
  | completed hc hs hf | failed hc hs hf =>
    intro hidle
    rw [hignored hidle] at hf
    cases hf

/-- A client that is idle has come to the end. -/
theorem Bus.Pace.over_of_idle {r : SdoResult SdoOutcome} {F n : ℕ} {o : σ × List OdCall}
    (hp : b.Pace tgt od r F o n) (hidle : b.client.state = .idle) : n = F := by
  rcases hp with ⟨l, hat, hl⟩ | ⟨hn, -⟩
  · obtain ⟨c, s, -, -, hp⟩ := hl fun _ => 0
    have hstate : b.client.drained.state = l.client.drained.state := by rw [hat.client]
    exact absurd (hstate.symm.trans hidle) hp.client_ne_idle
  · exact hn

/-- An orderly step is calm, or a call that is refused, or starts a transfer. -/
theorem busStep_orderly (hw : b.WellFormed nodeId) (ha : a.Orderly b)
    (h : busStep tgt od nodeId b a = some (e, b')) :
    (a.Calm b ∧ e ≠ .began) ∨ (b' = b ∧ ∃ err, e = .other (.error err)) ∨
      (b.client.state = .idle ∧ e = .began ∧ SdoFrame.ValidNode nodeId ∧
        ∃ (x : Access) (now : UInt64), a = x.start now ∧ x.Sized) := by
  have hcalm : a.Calm b → e ≠ .began := by
    rintro hc rfl
    have hstep := (busStep_of_step hw h).1
    generalize hop : a.opening nodeId = op, b.view = v, b'.view = v' at hstep
    -- only a call that starts a transfer opens one
    cases hstep with
    | began =>
      cases a with
      | beginUpload | beginDownload => exact hc
      | _ => cases hop
  cases a with
  | beginUpload idx sub now =>
    obtain ⟨err, he⟩ | ⟨hn, hst, he⟩ := b.client.beginUpload_cases nodeId idx sub now
    · simp only [busStep, he, Option.some.injEq, Prod.mk.injEq] at h
      obtain ⟨rfl, rfl⟩ := h
      exact .inr (.inl ⟨rfl, err, rfl⟩)
    · simp only [busStep, he, Option.some.injEq, Prod.mk.injEq] at h
      obtain ⟨rfl, rfl⟩ := h
      exact .inr (.inr ⟨hst, rfl, hn, .upload idx sub, now, rfl, trivial⟩)
  | beginDownload idx sub d now =>
    obtain ⟨err, he⟩ | ⟨hn, hst, hd, he⟩ := b.client.beginDownload_cases nodeId idx sub d now
    · simp only [busStep, he, Option.some.injEq, Prod.mk.injEq] at h
      obtain ⟨rfl, rfl⟩ := h
      exact .inr (.inl ⟨rfl, err, rfl⟩)
    · simp only [busStep, he, Option.some.injEq, Prod.mk.injEq] at h
      obtain ⟨rfl, rfl⟩ := h
      exact .inr (.inr ⟨hst, rfl, hn, .download idx sub d, now, rfl, hd, ha⟩)
  | _ => exact .inl ⟨ha, hcalm ha⟩

/-- A calm step leaves a bus at rest. -/
theorem Bus.AtRest.step (hb : b.AtRest) (hw : b.WellFormed nodeId) (ha : a.Calm b)
    (h : busStep tgt od nodeId b a = some (e, b')) : e = .other (.ok none) ∧ b.Alike b' := by
  rcases busStep_calm hw ha h with hsame | ⟨now, rfl⟩ | ⟨now, rfl⟩
  · exact hsame
  · have hup : b.toServer = [] := (List.append_eq_nil_iff.mp hb.up).1
    simp [busStep, hup] at h
  · have hdown : b.toClient = [] := (List.append_eq_nil_iff.mp hb.down).1
    simp [busStep, hdown] at h

theorem Bus.AtRest.alike (hb : b.AtRest) (h : b.Alike b') : b'.AtRest where
  client := (congrArg View.client h.view).trans hb.client
  up := by rw [h.view, hb.up]
  down := by rw [h.view, hb.down]

/-- How far the bus has got with the transfers it was asked for: it is between two of them,
or in the middle of the last. -/
inductive Bus.Serving (tgt : Target) (od : ObjectDictionary σ) (s₀ : Ledger σ) :
    List Access → List (SdoResult SdoOutcome) → Bus N σ → Prop
  | between {xs : List Access} {s : Ledger σ} {b : Bus N σ}
      (hs : xs.foldl (Ledger.serve N od) s₀ = s) (hb : b.AtRest) (hdict : b.dict = s.dict)
      (hcalls : b.calls.map Prod.fst = s.calls) : Serving tgt od s₀ xs s.results b
  | within {xs : List Access} {x : Access} {s : Ledger σ} {b : Bus N σ} {n : ℕ}
      (hs : xs.foldl (Ledger.serve N od) s₀ = s) (hn : n < (x.ends N od s.dict).frames)
      (hp : b.Pace tgt od (x.ends N od s.dict).result (x.ends N od s.dict).frames
        ((x.ends N od s.dict).dict, s.calls ++ (x.ends N od s.dict).calls) n) :
      Serving tgt od s₀ (xs ++ [x]) s.results b

/-- **Every orderly step serves the transfers one after the other.** -/
theorem Bus.Serving.step (hN : N < 2 ^ 32) (hcap : N ≤ tgt.isizeMax) {s₀ : Ledger σ}
    {xs : List Access} {rs : List (SdoResult SdoOutcome)} (hw : b.WellFormed nodeId)
    (hb : b.Serving tgt od s₀ xs rs) (ha : a.Orderly b)
    (h : busStep tgt od nodeId b a = some (e, b')) :
    b'.Serving tgt od s₀ (xs ++ (if e = .began then a.access? else none).toList)
      (rs ++ (e.result?.bind SdoResult.end?).toList) := by
  rcases busStep_orderly hw ha h with ⟨hc, hne⟩ | ⟨rfl, err, rfl⟩ | ⟨hidle, rfl, hn, x, now, rfl, hx⟩
  · rw [if_neg hne, Option.toList_none, List.append_nil]
    cases hb with
    | between hs hb hdict hcalls =>
      obtain ⟨rfl, halike⟩ := hb.step hw hc h
      have hcalls' : b'.calls = b.calls := congrArg View.calls halike.view
      rw [show (BusEvent.other (.ok none)).result? = none from rfl, Option.bind_none,
        Option.toList_none, List.append_nil]
      exact .between hs (hb.alike halike) (halike.dict.trans hdict) (by rw [hcalls', hcalls])
    | @within xs x s _ n hs hn hp =>
      have hends := x.result_ends od (N := N) s.dict
      obtain ⟨hp', hserved, hres⟩ := hp.step hends hw hc h
      cases hr : e.result? with
      | none =>
        -- the last frame goes to the client
        rw [Option.bind_none, Option.toList_none, List.append_nil]
        refine .within hs ?_ hp'
        split
        · next hd => exact hserved hr hd
        · exact hn
      | some r =>
        obtain ⟨-, rfl⟩ := hres r hr
        have hd : e.delivers = true := by
          cases e with
          | answered => rfl
          | _ => cases hr
        rw [hd, if_pos rfl] at hp'
        rw [Option.bind_some]
        split
        · next hF =>
          rw [hF] at hp'
          obtain ⟨hrest, -, ho⟩ := hp'.over
          obtain ⟨hdict, hcalls⟩ := Prod.mk.inj ho
          rw [show SdoResult.end? ((x.ends N od s.dict).result.map some)
              = some (x.ends N od s.dict).result by
            cases (x.ends N od s.dict).result <;> rfl]
          refine .between (s := s.serve N od x) ?_ hrest hdict hcalls
          rw [List.foldl_concat, hs]
        · next hF =>
          have hle := hp'.le
          rw [show SdoResult.end? (.ok none) = none from rfl, Option.toList_none, List.append_nil]
          exact .within hs (by omega) hp'
  · -- the call is refused
    rw [if_neg (by exact nofun), show (BusEvent.other (.error err)).result? = none from rfl,
      Option.bind_none, Option.toList_none, Option.toList_none, List.append_nil, List.append_nil]
    exact hb
  · rw [show (BusEvent.began).result? = none from rfl, Option.bind_none, Option.toList_none,
      List.append_nil, if_pos rfl]
    have hacc : BusAction.access? (x.start now : BusAction σ) = some x := by cases x <;> rfl
    rw [hacc, Option.toList_some]
    cases hb with
    | @between _ s _ hs hb hdict hcalls =>
      obtain ⟨b₁, hs₁, -, hF, hp⟩ := hb.start tgt od hw hn hN hcap hx now
      obtain rfl : b' = b₁ := by simpa [h] using hs₁
      rw [hdict] at hF hp
      rw [hcalls] at hp
      exact .within hs hF hp
    | within hs hn' hp => exact absurd (hp.over_of_idle hidle) hn'.ne

end Run

end CanopenSdo
