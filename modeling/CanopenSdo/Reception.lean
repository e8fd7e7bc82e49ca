import CanopenSdo.Lib.Since
import CanopenSdo.Loopback
import CanopenSdo.ServerRun

/-!
# What the server writes

The server writes the dictionary for an expedited init download, and for the final
segment of a download that has arrived whole: since the frame that opened it, the server
has heard nothing but its segments, with alternating toggles, and they fit.

`WriteSeq` says which writes are due to what has been heard, without a word about the
server's state.  The proof goes through the state: `ServerState.receipt` is what the
server remembers of a download, and each step changes it as one more item changes the
history (`ServerStep.receipt_iff`, `arriving_append_frame`).

## Main definitions

* `Receipt`, `Arriving` — the part of a download that has arrived.
* `Due`, `WriteSeq` — the writes that are due.

## Main results

* `ServerStep.writes` — a frame makes the server write what is due, or nothing.
* `written_exactly` — **in every run the server writes exactly what is due, in order.**
-/

namespace CanopenSdo

open Wire

variable {N : ℕ} {σ : Type}

/-! ### What is due -/

/-- A write of the dictionary. -/
structure Write where
  idx : UInt16
  sub : UInt8
  data : List UInt8
  deriving DecidableEq

/-- The write a dictionary call is, if it is one. -/
def OdCall.write? : OdCall → Option Write
  | .read .. => none
  | .write idx sub data _ => some ⟨idx, sub, data⟩

/-- A download of which all but the rest has arrived. -/
structure Receipt where
  idx : UInt16
  sub : UInt8
  /-- The announced size. -/
  expected : Option ℕ
  bytes : List UInt8
  /-- The toggle of the next segment. -/
  toggle : Bool
  deriving DecidableEq

namespace Heard

/-- A segmented init download that announces no more than `N` bytes. -/
def OpensDownload (N : ℕ) : Heard → Prop
  | .frame f _ => f.cs = ccsInitDownload ∧ f.expedited = false ∧
      ∀ size, f.announced = some size → size ≤ N
  | .timedOut => False

/-- The payload of a segment. -/
def payload : Heard → List UInt8
  | .frame f _ => payloadOf f.data
  | .timedOut => []

/-- The next segment of a download, not the final one: its toggle is that of its
position, and together with the segments before it fits into `N` bytes. -/
def ContinuesDownload (N : ℕ) (_ : Heard) (parts : List Heard) : Heard → Prop
  | .frame f _ => f.cs = ccsDownloadSegment ∧ f.toggle = alternate parts.length ∧
      f.final = false ∧ (parts.flatMap payload ++ payloadOf f.data).length ≤ N
  | .timedOut => False

end Heard

/-- A download is arriving: since the frame that opened it, nothing was heard but its
segments. -/
def Arriving (N : ℕ) (l : List Heard) (y : Receipt) : Prop :=
  ∃ f calls parts,
    Since (Heard.OpensDownload N) (Heard.ContinuesDownload N) l (.frame f calls) parts ∧
      y = ⟨indexOf f.data, subindexOf f.data, f.announced, parts.flatMap Heard.payload,
        alternate parts.length⟩

/-- The frame makes the write `w` due, after downloads `arriving`: it is an expedited init
download, or the final segment that completes one of them. -/
def Due (N : ℕ) (arriving : Receipt → Prop) (f : SdoFrame) (w : Write) : Prop :=
  (f.cs = ccsInitDownload ∧ f.expedited = true ∧
      w = ⟨indexOf f.data, subindexOf f.data, inlineOf f.data⟩) ∨
    ∃ y, arriving y ∧ f.cs = ccsDownloadSegment ∧ f.final = true ∧ f.toggle = y.toggle ∧
      (y.bytes ++ payloadOf f.data).length ≤ N ∧
      (∀ size, y.expected = some size → size = (y.bytes ++ payloadOf f.data).length) ∧
      w = ⟨y.idx, y.sub, y.bytes ++ payloadOf f.data⟩

/-- The writes that are due to what was heard, in order. -/
inductive WriteSeq (N : ℕ) : List Heard → List Write → Prop
  | nil : WriteSeq N [] []
  | due {l : List Heard} {ws : List Write} {f : SdoFrame} {calls : List OdCall} {w : Write}
      (h : WriteSeq N l ws) (hw : Due N (Arriving N l) f w) :
      WriteSeq N (l ++ [.frame f calls]) (ws ++ [w])
  | undue {l : List Heard} {ws : List Write} {f : SdoFrame} {calls : List OdCall}
      (h : WriteSeq N l ws) (hw : ∀ w, ¬ Due N (Arriving N l) f w) :
      WriteSeq N (l ++ [.frame f calls]) ws
  | timedOut {l : List Heard} {ws : List Write} (h : WriteSeq N l ws) :
      WriteSeq N (l ++ [.timedOut]) ws

/-! ### The latest download -/

/-- A frame cannot both open and continue a download. -/
theorem Heard.not_opensDownload (x : Heard) (parts : List Heard) (y : Heard)
    (h : ContinuesDownload N x parts y) : ¬ y.OpensDownload N := by
  cases y with
  | timedOut => exact id
  | frame f calls =>
    intro ho
    have hne : ccsDownloadSegment ≠ ccsInitDownload := by decide
    exact hne (h.1.symm.trans ho.1)

theorem Arriving.unique {l : List Heard} {y z : Receipt} (hy : Arriving N l y)
    (hz : Arriving N l z) : y = z := by
  obtain ⟨f, calls, parts, hf, rfl⟩ := hy
  obtain ⟨g, calls', parts', hg, rfl⟩ := hz
  obtain ⟨heq, rfl⟩ := Since.unique Heard.not_opensDownload hf hg
  cases heq
  rfl

theorem Due.unique {l : List Heard} {f : SdoFrame} {w w' : Write} (h : Due N (Arriving N l) f w)
    (h' : Due N (Arriving N l) f w') : w = w' := by
  have hne : ccsDownloadSegment ≠ ccsInitDownload := by decide
  rcases h with ⟨hcs, -, rfl⟩ | ⟨y, hy, hcs, -, -, -, -, rfl⟩
  · rcases h' with ⟨-, -, rfl⟩ | ⟨z, -, hcs', -⟩
    · rfl
    · exact absurd (hcs'.symm.trans hcs) hne
  · rcases h' with ⟨hcs', -, -⟩ | ⟨z, hz, -, -, -, -, -, rfl⟩
    · exact absurd (hcs.symm.trans hcs') hne
    · rw [hy.unique hz]

theorem eq_nil_of_writeSeq_nil {ws : List Write} (h : WriteSeq N [] ws) : ws = [] := by
  generalize hk : ([] : List Heard) = k at h
  cases h with
  | nil => rfl
  | _ => simp at hk

/-- One more frame: the write it makes due, or none. -/
theorem writeSeq_append_frame {l : List Heard} {f : SdoFrame} {calls : List OdCall}
    {ws : List Write} (h : WriteSeq N (l ++ [.frame f calls]) ws) :
    (∃ ws₀ w, WriteSeq N l ws₀ ∧ Due N (Arriving N l) f w ∧ ws = ws₀ ++ [w]) ∨
      (WriteSeq N l ws ∧ ∀ w, ¬ Due N (Arriving N l) f w) := by
  generalize hk : l ++ [_] = k at h
  cases h with
  | nil => simp at hk
  | due h hw =>
    obtain ⟨rfl, hx⟩ := List.append_inj' hk rfl
    cases hx
    exact .inl ⟨_, _, h, hw, rfl⟩
  | undue h hw =>
    obtain ⟨rfl, hx⟩ := List.append_inj' hk rfl
    cases hx
    exact .inr ⟨h, hw⟩
  | timedOut => simp at hk

theorem writeSeq_append_timedOut {l : List Heard} {ws : List Write}
    (h : WriteSeq N (l ++ [.timedOut]) ws) : WriteSeq N l ws := by
  generalize hk : l ++ [_] = k at h
  cases h with
  | nil => simp at hk
  | due => simp at hk
  | undue => simp at hk
  | timedOut h =>
    obtain ⟨rfl, -⟩ := List.append_inj' hk rfl
    exact h

/-- What was heard says which writes are due. -/
theorem WriteSeq.unique {l : List Heard} {ws ws' : List Write} (h : WriteSeq N l ws)
    (h' : WriteSeq N l ws') : ws = ws' := by
  induction h generalizing ws' with
  | nil => exact (eq_nil_of_writeSeq_nil h').symm
  | due _ hw ih =>
    rcases writeSeq_append_frame h' with ⟨ws₀, w', h₀, hw', rfl⟩ | ⟨-, hnone⟩
    · rw [ih h₀, hw.unique hw']
    · exact absurd hw (hnone _)
  | undue _ hnone ih =>
    rcases writeSeq_append_frame h' with ⟨ws₀, w', -, hw', -⟩ | ⟨h₀, -⟩
    · exact absurd hw' (hnone _)
    · exact ih h₀
  | timedOut _ ih => exact ih (writeSeq_append_timedOut h')

/-! ### One more frame -/

/-- The frame opens the download `y`. -/
def SdoFrame.Opens (N : ℕ) (f : SdoFrame) (y : Receipt) : Prop :=
  (f.cs = ccsInitDownload ∧ f.expedited = false ∧ ∀ size, f.announced = some size → size ≤ N) ∧
    y = ⟨indexOf f.data, subindexOf f.data, f.announced, [], false⟩

/-- The frame takes the download `z` on, to `y`. -/
def SdoFrame.Continues (N : ℕ) (f : SdoFrame) (z y : Receipt) : Prop :=
  f.cs = ccsDownloadSegment ∧ f.toggle = z.toggle ∧ f.final = false ∧
    (z.bytes ++ payloadOf f.data).length ≤ N ∧
      y = { z with bytes := z.bytes ++ payloadOf f.data, toggle := !z.toggle }

theorem arriving_append_frame {l : List Heard} {f : SdoFrame} {calls : List OdCall} {y : Receipt} :
    Arriving N (l ++ [.frame f calls]) y ↔
      f.Opens N y ∨ ∃ z, Arriving N l z ∧ f.Continues N z y := by
  constructor
  · rintro ⟨g, calls', parts, hsince, rfl⟩
    rcases since_append_singleton.mp hsince with ⟨ho, heq, rfl⟩ | ⟨ps, rfl, hs, hcs, ht, hc, hfit⟩
    · cases heq
      exact .inl ⟨ho, rfl⟩
    · refine .inr ⟨_, ⟨g, calls', ps, hs, rfl⟩, hcs, ht, hc, hfit, ?_⟩
      simp [Heard.payload]
  · rintro (⟨ho, rfl⟩ | ⟨z, ⟨g, calls', parts, hs, rfl⟩, hcs, ht, hc, hfit, rfl⟩)
    · exact ⟨f, calls, [], since_opened ho, rfl⟩
    · have hnext : Heard.ContinuesDownload N (.frame g calls') parts (.frame f calls) :=
        ⟨hcs, ht, hc, hfit⟩
      refine ⟨g, calls', parts ++ [.frame f calls], hs.next hnext, ?_⟩
      simp [Heard.payload]

theorem not_arriving_append_timedOut {l : List Heard} {y : Receipt} :
    ¬ Arriving N (l ++ [.timedOut]) y := by
  rintro ⟨g, calls, parts, hsince, -⟩
  rcases since_append_singleton.mp hsince with ⟨ho, -⟩ | ⟨ps, -, -, hc⟩
  · exact ho
  · exact hc

/-! ### The server's side -/

/-- What the server remembers of a download. -/
def ServerState.receipt : ServerState N → Option Receipt
  | .downloading idx sub buf len expected toggle =>
    some ⟨idx, sub, expected, buf.data.take len, toggle⟩
  | _ => none

section Server

variable {od : ObjectDictionary σ} {s s' : SdoServer N} {o o' : σ} {f : SdoFrame} {now : UInt64}
  {r : SdoResult Unit} {calls : List OdCall}

theorem ServerState.receipt_eq_some {st : ServerState N} {z : Receipt} (h : st.receipt = some z)
    (hst : st.InRange) : ∃ buf : Bytes N, st
      = .downloading z.idx z.sub buf z.bytes.length z.expected z.toggle ∧
        buf.data.take z.bytes.length = z.bytes ∧ z.bytes.length ≤ N := by
  cases st with
  | idle => cases h
  | uploading => cases h
  | downloading idx sub buf len expected toggle =>
    obtain rfl := Option.some.inj h
    have hlen : (buf.data.take len).length = len := buf.length_take hst
    exact ⟨buf, by rw [hlen], by rw [hlen], hlen.trans_le hst⟩

/-- **A step changes what the server remembers as the frame changes the history.** -/
theorem ServerStep.receipt_iff (h : ServerStep od s f now o r s' o') (ha : s.Addressed f)
    (hs : s.state.InRange) {y : Receipt} :
    s'.state.receipt = some y ↔
      f.Opens N y ∨ ∃ z, s.state.receipt = some z ∧ f.Continues N z y := by
  constructor
  · intro hy
    cases h with
    | ignored hna => exact absurd ha hna
    | initDownloadSegmented _ hcs he hN =>
      obtain rfl := Option.some.inj hy
      exact .inl ⟨⟨hcs, he, hN⟩, rfl⟩
    | @downloadSegmentMore _ hcs idx sub buf len expected toggle hst ht hfit hc =>
      obtain rfl := Option.some.inj hy
      rw [hst] at hs
      have hlen : (buf.data.take len).length = len := buf.length_take hs
      refine .inr ⟨_, by rw [hst]; rfl, hcs, ht, hc, ?_, ?_⟩
      · rw [List.length_append, hlen]
        exact hfit
      · rw [Bytes.take_put]
    | _ => cases hy
  · rintro (⟨⟨hcs, he, hN⟩, rfl⟩ | ⟨z, hz, hcs, ht, hc, hfit, rfl⟩)
    · obtain ⟨-, rfl, -⟩ := h.unique (.initDownloadSegmented ha hcs he hN)
      rfl
    · obtain ⟨buf, hst, hbuf, -⟩ := ServerState.receipt_eq_some hz hs
      rw [List.length_append] at hfit
      obtain ⟨-, rfl, -⟩ := h.unique (.downloadSegmentMore ha hcs hst ht hfit hc)
      show some _ = some _
      rw [Bytes.take_put, hbuf]

/-- A frame that makes a write due makes the server write it. -/
theorem ServerStep.writes_of_due (h : ServerStep od.recording s f now (o, []) r s' (o', calls))
    (ha : s.Addressed f) (hs : s.state.InRange) {w : Write}
    (hw : Due N (fun y => s.state.receipt = some y) f w) : calls.filterMap OdCall.write? = [w] := by
  rcases hw with ⟨hcs, he, rfl⟩ | ⟨y, hy, hcs, hc, ht, hfit, hsize, rfl⟩
  · rcases hwrite : od.write o (indexOf f.data) (subindexOf f.data) (inlineOf f.data)
      with ⟨code | u, o₁⟩
    · obtain ⟨-, -, hcalls⟩ := h.unique (.initDownloadRefused ha hcs he (od.write_recording hwrite []))
      cases hcalls
      rfl
    · obtain ⟨-, -, hcalls⟩ :=
        h.unique (.initDownloadExpedited ha hcs he (od.write_recording hwrite []))
      cases hcalls
      rfl
  · obtain ⟨buf, hst, hbuf, -⟩ := ServerState.receipt_eq_some hy hs
    rw [List.length_append] at hfit hsize
    rw [← hbuf]
    rcases hwrite : od.write o y.idx y.sub (buf.data.take y.bytes.length ++ payloadOf f.data)
      with ⟨code | u, o₁⟩
    · obtain ⟨-, -, hcalls⟩ := h.unique
        (.downloadSegmentRefused ha hcs hst ht hfit hc hsize (od.write_recording hwrite []))
      cases hcalls
      rfl
    · obtain ⟨-, -, hcalls⟩ := h.unique
        (.downloadSegmentLast ha hcs hst ht hfit hc hsize (od.write_recording hwrite []))
      cases hcalls
      rfl

/-- A read is no write. -/
theorem calls_of_read {idx : UInt16} {sub : UInt8} {b buf : Bytes N} {x : Except SdoAbortCode ℕ}
    (h : od.recording.read (o, []) idx sub b = (x, buf, (o', calls))) :
    calls.filterMap OdCall.write? = [] := by
  simp only [ObjectDictionary.recording, List.nil_append, Prod.mk.injEq] at h
  obtain ⟨-, -, -, rfl⟩ := h
  rfl

/-- **A frame makes the server write what is due, or nothing.** -/
theorem ServerStep.writes (h : ServerStep od.recording s f now (o, []) r s' (o', calls))
    (ha : s.Addressed f) (hs : s.state.InRange) :
    (∃ w, Due N (fun y => s.state.receipt = some y) f w ∧ calls.filterMap OdCall.write? = [w]) ∨
      (∀ w, ¬ Due N (fun y => s.state.receipt = some y) f w) ∧
        calls.filterMap OdCall.write? = [] := by
  by_cases hdue : ∃ w, Due N (fun y => s.state.receipt = some y) f w
  · obtain ⟨w, hw⟩ := hdue
    exact .inl ⟨w, hw, h.writes_of_due ha hs hw⟩
  · push Not at hdue
    refine .inr ⟨hdue, ?_⟩
    -- an exit that writes would have been due
    have hseg : ∀ {idx sub} {buf : Bytes N} {len expected toggle},
        s.state = .downloading idx sub buf len expected toggle → f.cs = ccsDownloadSegment →
        f.toggle = toggle → len + (payloadOf f.data).length ≤ N → f.final = true →
        (∀ size, expected = some size → size = len + (payloadOf f.data).length) → False := by
      intro idx sub buf len expected toggle hst hcs ht hfit hc hsize
      rw [hst] at hs
      have hlen : (buf.data.take len).length = len := buf.length_take hs
      refine hdue _ (.inr ⟨_, by rw [hst]; rfl, hcs, hc, ht, ?_, ?_, rfl⟩)
      · rw [List.length_append, hlen]
        exact hfit
      · rw [List.length_append, hlen]
        exact hsize
    cases h with
    | initUploadRefused _ _ hr => exact calls_of_read hr
    | initUploadTooLarge _ _ hr => exact calls_of_read hr
    | initUploadExpedited _ _ hr => exact calls_of_read hr
    | initUploadSegmented _ _ hr => exact calls_of_read hr
    | initDownloadRefused _ hcs he => exact absurd (.inl ⟨hcs, he, rfl⟩) (hdue _)
    | initDownloadExpedited _ hcs he => exact absurd (.inl ⟨hcs, he, rfl⟩) (hdue _)
    | downloadSegmentRefused _ hcs hst ht hfit hc hsize
    | downloadSegmentLast _ hcs hst ht hfit hc hsize =>
      exact (hseg hst hcs ht hfit hc hsize).elim
    | _ => rfl

end Server

/-! ### Runs -/

section Runs

variable {od : ObjectDictionary σ} {s s' : SdoServer N} {o o' : σ} {cfg : ServerConfig}
  {h : List (ServerAction σ × ServerEvent)}

/-- The writes of a run, in order. -/
def writes (h : List (ServerAction σ × ServerEvent)) : List Write :=
  h.flatMap fun x => x.2.calls.filterMap OdCall.write?

theorem writes_append_singleton (x : ServerAction σ × ServerEvent) :
    writes (h ++ [x]) = writes h ++ x.2.calls.filterMap OdCall.write? := by
  simp [writes]

/-- What holds along every run: the server remembers the download that is arriving, and
has written what was due. -/
structure Received (cfg : ServerConfig) (h : List (ServerAction σ × ServerEvent))
    (s : SdoServer N) : Prop where
  cfg_eq : s.cfg = cfg
  inRange : s.state.InRange
  receipt : ∀ y, s.state.receipt = some y ↔ Arriving N (heard cfg.nodeId h) y
  written : WriteSeq N (heard cfg.nodeId h) (writes h)

/-- The server remembers the download that is arriving. -/
theorem receipt_run (hr : (serverMachine N od).Run (.new cfg, o) h (s, o')) (y : Receipt) :
    s.state.receipt = some y ↔ Arriving N (heard cfg.nodeId h) y := by
  refine server_remembers rfl ?_ ?_ ?_ hr y
  · rintro y ⟨f, calls, parts, hsince, -⟩
    exact not_since_nil hsince
  · intro l y
    exact not_arriving_append_timedOut
  · intro l s s' f now o r o' calls ha hin hstep hl y
    rw [hstep.receipt_iff ha hin, arriving_append_frame]
    simp only [hl]

/-- The server has written what was due. -/
theorem written_run (hr : (serverMachine N od).Run (.new cfg, o) h (s, o')) :
    WriteSeq N (heard cfg.nodeId h) (writes h) := by
  generalize hx : (s, o') = x at hr
  induction hr generalizing s o' with
  | start => exact .nil
  | @snoc h x₁ x a e hr hstep ih =>
    obtain ⟨s₁, o₁⟩ := x₁
    subst hx
    have hwritten := ih rfl
    obtain ⟨rfl, hin⟩ := server_inRange hr
    rw [heard_append_singleton, writes_append_singleton]
    rcases serverStep_cases hstep with ⟨hh, -, -, hcalls⟩ | ⟨hh, -, -, hcalls⟩ |
      ⟨f, now, r, calls, rfl, rfl, ha, hh, -, hframe⟩
    · -- nothing was heard
      rw [hh, hcalls, Option.toList_none, List.append_nil]
      simpa using hwritten
    · -- the deadline has passed
      rw [hh, hcalls, Option.toList_some]
      simpa using hwritten.timedOut
    · -- a frame
      rw [hh, Option.toList_some, ServerEvent.calls]
      -- what is due is read off the history, as the server reads it off its state
      have hmem : (fun y => s₁.state.receipt = some y) = Arriving N (heard s₁.cfg.nodeId h) :=
        funext fun y => propext (receipt_run hr y)
      have hw := hframe.writes ha hin
      rw [hmem] at hw
      rcases hw with ⟨w, hdue, hnow⟩ | ⟨hdue, hnow⟩
      · rw [hnow]
        exact hwritten.due hdue
      · rw [hnow, List.append_nil]
        exact hwritten.undue hdue

theorem received_run (hr : (serverMachine N od).Run (.new cfg, o) h (s, o')) :
    Received cfg h s where
  cfg_eq := (server_inRange hr).1
  inRange := (server_inRange hr).2
  receipt := receipt_run hr
  written := written_run hr

/-- **In every run the server writes exactly what is due, in order.** -/
theorem written_exactly (hr : (serverMachine N od).Run (.new cfg, o) h (s, o')) :
    WriteSeq N (heard cfg.nodeId h) (writes h) ∧
      ∀ ws, WriteSeq N (heard cfg.nodeId h) ws → ws = writes h := by
  have hwritten := (received_run hr).written
  refine ⟨hwritten, ?_⟩
  intro ws hws
  exact hws.unique hwritten

end Runs

/-! ### A run -/

/-- A download of 8 bytes is cut off by a timeout, and another one arrives whole, with a
frame for another node before its last segment. -/
def twoDownloads : List (ServerAction (List (UInt16 × UInt8 × List UInt8)) × ServerEvent)
    × (SdoServer 16 × List (UInt16 × UInt8 × List UInt8)) :=
  ((serverMachine 16 loopOd).exec (.new (.new 0x10), counting)
    [.handleFrame (initDownloadRequest 0x10 0x2000 0 [8, 7, 6, 5, 4, 3, 2, 1]) 0, .pollTransmit,
      .handleFrame (downloadSegment 0x10 [8, 7, 6, 5, 4, 3, 2, 1] 0) 1, .pollTransmit,
      .handleTimeout 1000000001, .pollTransmit,
      .handleFrame (initDownloadRequest 0x10 0x2001 1 [1, 2, 3, 4, 5, 6, 7, 8]) 0, .pollTransmit,
      .handleFrame (downloadSegment 0x10 [1, 2, 3, 4, 5, 6, 7, 8] 0) 1, .pollTransmit,
      .handleFrame (initUploadRequest 0x11 0x2000 0) 2,
      .handleFrame (downloadSegment 0x10 [1, 2, 3, 4, 5, 6, 7, 8] 1) 3, .pollTransmit]).get rfl

theorem run_twoDownloads :
    (serverMachine 16 loopOd).Run (.new (.new 0x10), counting) twoDownloads.1 twoDownloads.2 :=
  Machine.run_exec_get _

theorem written_exactly_twoDownloads :
    WriteSeq 16 (heard 0x10 twoDownloads.1) [⟨0x2001, 1, [1, 2, 3, 4, 5, 6, 7, 8]⟩] :=
  (written_exactly run_twoDownloads).1

end CanopenSdo
