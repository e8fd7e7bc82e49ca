import CanopenSdo.Snapshot

/-!
# The size limit of the server

A server with a buffer of `N` bytes is to serve objects of at most `N` bytes: it writes no
more than that, refuses a larger download as soon as it shows, and sends no upload response
that carries or announces more.

It does so on every path but one.  An expedited init download carries up to four bytes, and
these are written as they come, without a look at `N`.  So the limit holds of a run exactly
if no expedited init download of more than `N` bytes comes, and always if `N` is at least
four.

## Main definitions

* `SdoFrame.UploadWithin` — the frame neither carries nor announces too much.
* `TooLarge` — the frame shows that a download is too large.
* `StepKeepsLimit`, `KeepsLimit` — a step, and a run, keeps to the limit.
* `Oversized` — an expedited init download of more than `N` bytes.

## Main results

* `pendingTx_within` — **no upload response carries or announces too much.**
* `keepsLimit_iff` — **the limit holds exactly in the runs without an oversized frame.**
-/

namespace CanopenSdo

open Wire

variable {N : ℕ} {σ : Type}

/-! ### What the limit asks for -/

/-- The frame is no upload response that carries or announces more than `N` bytes. -/
structure SdoFrame.UploadWithin (N : ℕ) (g : SdoFrame) : Prop where
  /-- An expedited response carries its value. -/
  inline : g.cs = scsInitUpload → g.expedited = true → (inlineOf g.data).length ≤ N
  /-- The response that opens a segmented upload announces a size. -/
  announced : g.cs = scsInitUpload → g.expedited = false → ∀ size, g.announced = some size → size ≤ N
  /-- A segment carries its payload. -/
  payload : g.cs = scsUploadSegment → (payloadOf g.data).length ≤ N

/-- After what was heard, the frame shows that a download of the object is too large. -/
inductive TooLarge (N : ℕ) (l : List Heard) (f : SdoFrame) : UInt16 → UInt8 → Prop
  /-- An expedited download carries more than `N` bytes. -/
  | inline (hcs : f.cs = ccsInitDownload) (he : f.expedited = true)
      (hlen : N < (inlineOf f.data).length) : TooLarge N l f (indexOf f.data) (subindexOf f.data)
  /-- A segmented download announces more than `N` bytes. -/
  | announced (hcs : f.cs = ccsInitDownload) (he : f.expedited = false) {size : ℕ}
      (hsize : f.announced = some size) (hlen : N < size) :
      TooLarge N l f (indexOf f.data) (subindexOf f.data)
  /-- With its next segment, a segmented download carries more than `N` bytes. -/
  | carried (hcs : f.cs = ccsDownloadSegment) {y : Receipt} (hy : Arriving N l y)
      (ht : f.toggle = y.toggle) (hlen : N < (y.bytes ++ payloadOf f.data).length) :
      TooLarge N l f y.idx y.sub

/-- The frame is part of a segmented download that is not complete with it. -/
def SdoFrame.Incomplete (f : SdoFrame) : Prop :=
  (f.cs = ccsInitDownload ∧ f.expedited = false) ∨ (f.cs = ccsDownloadSegment ∧ f.final = false)

/-- After what was heard, the action `a` with the event `e`, which leaves the server `s'`,
keeps to the limit. -/
structure StepKeepsLimit (N : ℕ) (nodeId : UInt8) (l : List Heard) (a : ServerAction σ)
    (e : ServerEvent) (s' : SdoServer N) : Prop where
  /-- At most `N` bytes are written. -/
  write : ∀ w ∈ e.calls.filterMap OdCall.write?, w.data.length ≤ N
  /-- A download is refused when it shows to be too large, and nothing is written. -/
  refused : ∀ f now idx sub, a = .handleFrame f now → SdoFrame.nodeOfRsdo f.cobId = some nodeId →
    TooLarge N l f idx sub →
      e = .handled (.error (.clientAborted .outOfMemory)) [] ∧
        s'.pendingTx = some (serverAbort nodeId idx sub .outOfMemory)
  /-- Nor is anything written before a segmented download is complete. -/
  unwritten : ∀ f now, a = .handleFrame f now → SdoFrame.nodeOfRsdo f.cobId = some nodeId →
    f.Incomplete → e.calls.filterMap OdCall.write? = []
  /-- An upload response is within the limit. -/
  upload : ∀ g, s'.pendingTx = some g → g.UploadWithin N
  /-- All segments of an upload are pieces of one value, which is within the limit. -/
  segments : ∀ f now g, a = .handleFrame f now → SdoFrame.nodeOfRsdo f.cobId = some nodeId →
    s'.pendingTx = some g → g.cs = scsUploadSegment →
      ∃ i v k, Serving N l i v k ∧ v.length ≤ N ∧ g = uploadSegment nodeId v k

/-- Every step of the run with the history `h` keeps to the limit. -/
def KeepsLimit (N : ℕ) (od : ObjectDictionary σ) (cfg : ServerConfig) (o : σ)
    (h : List (ServerAction σ × ServerEvent)) : Prop :=
  ∀ pre a e post s x s' x', h = pre ++ (a, e) :: post →
    (serverMachine N od).Run (.new cfg, o) pre (s, x) →
    (serverMachine N od).step (s, x) a = some (e, (s', x')) →
      StepKeepsLimit N cfg.nodeId (heard cfg.nodeId pre) a e s'

/-- The frame is an expedited init download of more than `N` bytes for the node. -/
def Oversized (N : ℕ) (nodeId : UInt8) (f : SdoFrame) : Prop :=
  SdoFrame.nodeOfRsdo f.cobId = some nodeId ∧ f.cs = ccsInitDownload ∧ f.expedited = true ∧
    N < (inlineOf f.data).length

/-- An expedited frame carries up to four bytes. -/
theorem length_inlineOf_le (data : Bytes 8) : (inlineOf data).length ≤ 4 :=
  (List.length_take_le _ _).trans (inlineLen_le _)

theorem not_oversized_of_four_le (hN : 4 ≤ N) (nodeId : UInt8) (f : SdoFrame) :
    ¬ Oversized N nodeId f := by
  rintro ⟨-, -, -, hlen⟩
  have := length_inlineOf_le f.data
  omega

/-! ### What the server sends -/

section Responses

variable {id : UInt16} {idx : UInt16} {sub : UInt8}

/-- A frame that is no upload response is within every limit. -/
theorem SdoFrame.uploadWithin_of_cs {g : SdoFrame} {k : UInt8} (h : g.cs = k)
    (h₁ : k ≠ scsInitUpload) (h₂ : k ≠ scsUploadSegment) : g.UploadWithin N where
  inline := fun hcs => absurd (h.symm.trans hcs) h₁
  announced := fun hcs => absurd (h.symm.trans hcs) h₁
  payload := fun hcs => absurd (h.symm.trans hcs) h₂

theorem uploadWithin_abort (code : SdoAbortCode) :
    SdoFrame.UploadWithin N ⟨id, Wire.abort idx sub code⟩ :=
  SdoFrame.uploadWithin_of_cs (SdoFrame.cs_abort id idx sub code) (by decide) (by decide)

theorem uploadWithin_initDownloadAck : SdoFrame.UploadWithin N ⟨id, initDownloadAck idx sub⟩ :=
  SdoFrame.uploadWithin_of_cs (SdoFrame.cs_initDownloadAck id idx sub) (by decide) (by decide)

theorem uploadWithin_downloadSegmentAck (t : Bool) :
    SdoFrame.UploadWithin N ⟨id, downloadSegmentAck t⟩ :=
  SdoFrame.uploadWithin_of_cs (SdoFrame.cs_downloadSegmentAck id t) (by decide) (by decide)

/-- An expedited response carries the value. -/
theorem uploadWithin_expeditedData {v : List UInt8} (h₁ : 1 ≤ v.length) (h₄ : v.length ≤ 4)
    (hN : v.length ≤ N) : SdoFrame.UploadWithin N ⟨id, expeditedData scsInitUpload idx sub v⟩ where
  inline := by
    intro _ _
    rw [SdoFrame.inlineOf_expeditedData_upload idx sub h₁ h₄]
    exact hN
  announced := by
    intro _ he
    rw [SdoFrame.expedited_expeditedData_upload id idx sub h₁ h₄] at he
    cases he
  payload := by
    intro hcs
    rw [SdoFrame.cs_expeditedData_upload id idx sub h₁ h₄] at hcs
    exact absurd hcs (by decide)

/-- The announced size is cut off at 32 bits, and so no larger than the length. -/
theorem uploadWithin_announceData {len : ℕ} (hN : len ≤ N) :
    SdoFrame.UploadWithin N ⟨id, announceData scsInitUpload idx sub (UInt32.ofNat len)⟩ where
  inline := by
    intro _ he
    rw [SdoFrame.expedited_announceData_upload] at he
    cases he
  announced := by
    intro _ _ size hsize
    rw [SdoFrame.announced_eq_map, SdoFrame.announcedWord_announceData_upload, Option.map_some] at hsize
    obtain rfl := Option.some.inj hsize
    rw [UInt32.toNat_ofNat']
    exact (Nat.mod_le _ _).trans hN
  payload := by
    intro hcs
    rw [SdoFrame.cs_announceData_upload] at hcs
    exact absurd hcs (by decide)

theorem uploadWithin_segmentData {t last : Bool} {p : List UInt8} (h₇ : p.length ≤ 7)
    (hN : p.length ≤ N) : SdoFrame.UploadWithin N ⟨id, segmentData scsUploadSegment t p last⟩ where
  inline := by
    intro hcs
    rw [show scsUploadSegment = 0 from rfl, SdoFrame.cs_segmentData id t last h₇] at hcs
    exact absurd hcs (by decide)
  announced := by
    intro hcs
    rw [show scsUploadSegment = 0 from rfl, SdoFrame.cs_segmentData id t last h₇] at hcs
    exact absurd hcs (by decide)
  payload := by
    intro _
    change (payloadOf (segmentData 0 t p last)).length ≤ N
    rw [payloadOf_segmentData h₇]
    exact hN

end Responses

section Server

variable {od : ObjectDictionary σ} {s s' : SdoServer N} {o o' : σ} {f : SdoFrame} {now : UInt64}
  {r : SdoResult Unit} {a : ServerAction σ} {e : ServerEvent}

theorem SdoServer.within_aborted (idx : UInt16) (sub : UInt8) (code : SdoAbortCode) :
    ∀ g ∈ (s.aborted idx sub code).pendingTx, g.UploadWithin N := by
  intro g hg
  cases hg
  exact uploadWithin_abort code

/-- A handled frame leaves a response within the limit pending. -/
theorem ServerStep.within (h : ServerStep od s f now o r s' o')
    (hs : ∀ g ∈ s.pendingTx, g.UploadWithin N) : ∀ g ∈ s'.pendingTx, g.UploadWithin N := by
  cases h with
  | ignored => exact hs
  | clientAbort => nofun
  | @initUploadExpedited _ _ len buf _ _ hlen h =>
    have hv : (buf.data.take len).length = len := buf.length_take hlen
    intro g hg
    cases hg
    exact uploadWithin_expeditedData (h.1.trans_eq hv.symm) (hv.trans_le h.2) (hv.trans_le hlen)
  | initUploadSegmented _ _ _ hlen =>
    intro g hg
    cases hg
    exact uploadWithin_announceData hlen
  | @uploadSegmentMore _ _ _ _ buf _ sent _ _ _ _ hN =>
    have hp : ((buf.data.drop sent).take 7).length ≤ 7 := List.length_take_le _ _
    intro g hg
    cases hg
    exact uploadWithin_segmentData hp (hp.trans (by omega))
  | @uploadSegmentLast _ _ _ _ buf len sent _ _ _ _ hle hN =>
    have hp : ((buf.data.drop sent).take (len - sent)).length ≤ len - sent := List.length_take_le _ _
    intro g hg
    cases hg
    exact uploadWithin_segmentData (hp.trans (by omega)) (hp.trans (by omega))
  | initDownloadExpedited | initDownloadSegmented =>
    intro g hg
    cases hg
    exact uploadWithin_initDownloadAck
  | downloadSegmentMore | downloadSegmentLast =>
    intro g hg
    cases hg
    exact uploadWithin_downloadSegmentAck _
  | _ => exact SdoServer.within_aborted _ _ _

/-- So does every other call. -/
theorem ServerCallStep.within (h : ServerCallStep od s o a e s' o')
    (hs : ∀ g ∈ s.pendingTx, g.UploadWithin N) : ∀ g ∈ s'.pendingTx, g.UploadWithin N := by
  cases h with
  | frame hstep => exact hstep.within hs
  | transmitted => nofun
  | expired => exact SdoServer.within_aborted _ _ _
  | _ => exact hs

end Server

/-! ### Runs -/

section Runs

variable {od : ObjectDictionary σ} {s s' : SdoServer N} {o x x' : σ} {cfg : ServerConfig}
  {h : List (ServerAction σ × ServerEvent)} {a : ServerAction σ} {e : ServerEvent}
  {f : SdoFrame} {now : UInt64} {r : SdoResult Unit} {calls : List OdCall}

/-- **No upload response carries or announces too much.** -/
theorem pendingTx_within (hr : (serverMachine N od).Run (.new cfg, o) h (s, x)) :
    ∀ g ∈ s.pendingTx, g.UploadWithin N := by
  refine hr.invariant (P := fun _ y => ∀ g ∈ y.1.pendingTx, g.UploadWithin N) nofun ?_
  rintro h ⟨s, x⟩ a e ⟨s', x'⟩ hs hstep
  exact (serverCallStep_of_step hstep).within hs

/-- What is written is due, and what is due fits unless the frame is oversized. -/
theorem ServerStep.length_write_le (h : ServerStep od.recording s f now (x, []) r s' (x', calls))
    (ha : s.Addressed f) (hs : s.state.InRange) (hf : ¬ Oversized N s.cfg.nodeId f) :
    ∀ w ∈ calls.filterMap OdCall.write?, w.data.length ≤ N := by
  rcases h.writes ha hs with ⟨w, hdue, hw⟩ | ⟨-, hw⟩
  · rw [hw]
    intro w' hmem
    obtain rfl := List.mem_singleton.mp hmem
    rcases hdue with ⟨hcs, he, rfl⟩ | ⟨y, -, -, -, -, hfit, -, rfl⟩
    · exact Nat.le_of_not_lt fun hlen => hf ⟨ha, hcs, he, hlen⟩
    · exact hfit
  · rw [hw]
    nofun

/-- An incomplete download is not written. -/
theorem ServerStep.writes_eq_nil (h : ServerStep od.recording s f now (x, []) r s' (x', calls))
    (ha : s.Addressed f) (hs : s.state.InRange) (hf : f.Incomplete) :
    calls.filterMap OdCall.write? = [] := by
  have hne : ccsDownloadSegment ≠ ccsInitDownload := by decide
  rcases h.writes ha hs with ⟨w, hdue, -⟩ | ⟨-, hw⟩
  · -- what is due is expedited, or final
    rcases hf with ⟨hcs, he⟩ | ⟨hcs, hc⟩ <;>
      rcases hdue with ⟨hcs', he', -⟩ | ⟨y, -, hcs', hc', -⟩
    · rw [he] at he'
      cases he'
    · exact absurd (hcs'.symm.trans hcs) hne
    · exact absurd (hcs.symm.trans hcs') hne
    · rw [hc] at hc'
      cases hc'
  · exact hw

/-- A download that shows to be too large is refused, unless the frame is oversized. -/
theorem ServerStep.refused_of_tooLarge
    (h : ServerStep od.recording s f now (x, []) r s' (x', calls)) (ha : s.Addressed f)
    (hs : s.state.InRange) {l : List Heard} (hl : ∀ y, s.state.receipt = some y ↔ Arriving N l y)
    (hf : ¬ Oversized N s.cfg.nodeId f) {idx : UInt16} {sub : UInt8} (hlarge : TooLarge N l f idx sub) :
    r = .error (.clientAborted .outOfMemory) ∧ s' = s.aborted idx sub .outOfMemory ∧ calls = [] := by
  cases hlarge with
  | inline hcs he hlen => exact absurd ⟨ha, hcs, he, hlen⟩ hf
  | announced hcs he hsize hlen =>
    obtain ⟨rfl, rfl, hcalls⟩ := h.unique (.initDownloadTooLarge ha hcs he hsize hlen)
    exact ⟨rfl, rfl, congrArg Prod.snd hcalls⟩
  | carried hcs hy ht hlen =>
    obtain ⟨buf, hst, -, -⟩ := ServerState.receipt_eq_some ((hl _).mpr hy) hs
    rw [List.length_append] at hlen
    obtain ⟨rfl, rfl, hcalls⟩ := h.unique (.downloadSegmentOverflow ha hcs hst ht hlen)
    exact ⟨rfl, rfl, congrArg Prod.snd hcalls⟩

/-- What is being served fits. -/
theorem Serving.length_le {l : List Heard} {i : SdoFrame} {v : List UInt8} {k : ℕ}
    (h : Serving N l i v k) : v.length ≤ N := by
  obtain ⟨len, buf, parts, -, rfl, -⟩ := h
  exact (List.length_take_le' _ _).trans_eq buf.size

/-- **A step that handles no oversized frame keeps to the limit.** -/
theorem stepKeepsLimit (hr : (serverMachine N od).Run (.new cfg, o) h (s, x))
    (hstep : (serverMachine N od).step (s, x) a = some (e, (s', x')))
    (hf : ∀ f now, a = .handleFrame f now → ¬ Oversized N cfg.nodeId f) :
    StepKeepsLimit N cfg.nodeId (heard cfg.nodeId h) a e s' := by
  obtain ⟨rfl, hin⟩ := server_inRange hr
  have hwithin := (serverCallStep_of_step hstep).within (pendingTx_within hr)
  -- a frame for the node takes an exit of the server
  have hframe : ∀ f now, a = .handleFrame f now → s.Addressed f → ∃ r calls,
      e = .handled r calls ∧ ServerStep od.recording s f now (x, []) r s' (x', calls) := by
    rintro f now rfl -
    cases serverCallStep_of_step hstep with
    | frame h => exact ⟨_, _, rfl, h⟩
  refine ⟨?_, ?_, ?_, hwithin, ?_⟩
  · rcases serverStep_cases hstep with ⟨-, -, -, hcalls⟩ | ⟨-, -, -, hcalls⟩ |
      ⟨f, now, r, calls, ha', rfl, ha, -, -, h⟩
    · rw [hcalls]
      nofun
    · rw [hcalls]
      nofun
    · exact h.length_write_le ha hin (hf f now ha')
  · intro f now idx sub ha' ha hlarge
    obtain ⟨r, calls, rfl, h⟩ := hframe f now ha' ha
    obtain ⟨rfl, rfl, rfl⟩ := h.refused_of_tooLarge ha hin (receipt_run hr) (hf f now ha') hlarge
    exact ⟨rfl, rfl⟩
  · intro f now ha' ha hinc
    obtain ⟨r, calls, rfl, h⟩ := hframe f now ha' ha
    exact h.writes_eq_nil ha hin hinc
  · intro f now g ha' ha hg hcs
    obtain ⟨r, calls, rfl, h⟩ := hframe f now ha' ha
    obtain ⟨i, v, k, hv, rfl⟩ := serving_of_segment hr ha h hg hcs
    exact ⟨i, v, k, hv, hv.length_le, rfl⟩

/-- An oversized frame is written. -/
theorem not_stepKeepsLimit (hr : (serverMachine N od).Run (.new cfg, o) h (s, x))
    (hstep : (serverMachine N od).step (s, x) (.handleFrame f now) = some (e, (s', x')))
    (hf : Oversized N cfg.nodeId f) :
    ¬ StepKeepsLimit N cfg.nodeId (heard cfg.nodeId h) (.handleFrame f now : ServerAction σ) e s' := by
  intro hkeep
  obtain ⟨rfl, hin⟩ := server_inRange hr
  obtain ⟨ha, hcs, he, hlen⟩ := hf
  cases serverCallStep_of_step hstep with
  | @frame _ _ r calls _ _ h =>
    have hw : calls.filterMap OdCall.write? = [_] :=
      h.writes_of_due ha hin (.inl ⟨hcs, he, rfl⟩)
    have hle := hkeep.write _ (hw ▸ List.mem_singleton_self _)
    exact absurd hle (Nat.not_le.mpr hlen)

/-- **The limit holds exactly in the runs without an oversized frame.** -/
theorem keepsLimit_iff (hr : (serverMachine N od).Run (.new cfg, o) h (s, x)) :
    KeepsLimit N od cfg o h ↔
      ∀ f now e, (ServerAction.handleFrame f now, e) ∈ h → ¬ Oversized N cfg.nodeId f := by
  constructor
  · intro hkeep f now e hmem hf
    obtain ⟨pre, post, rfl⟩ := List.append_of_mem hmem
    obtain ⟨⟨s₁, x₁⟩, ⟨s₂, x₂⟩, hpre, hstep⟩ := hr.of_split
    exact not_stepKeepsLimit hpre hstep hf (hkeep _ _ _ _ _ _ _ _ rfl hpre hstep)
  · rintro hno pre a e post s₁ x₁ s₂ x₂ rfl hpre hstep
    refine stepKeepsLimit hpre hstep ?_
    rintro f now rfl
    exact hno f now e (List.mem_append_right _ List.mem_cons_self)

end Runs

/-! ### Two runs -/

/-- Two downloads, one cut off, of a server with a buffer of 16 bytes. -/
theorem keepsLimit_iff_twoDownloads : KeepsLimit 16 loopOd (.new 0x10) counting twoDownloads.1 := by
  refine (keepsLimit_iff run_twoDownloads).mpr ?_
  intro f now e _
  exact not_oversized_of_four_le (by decide) _ _

/-- An expedited write of four bytes to a server with a buffer of two. -/
def oversizedWrite : List (ServerAction (List (UInt16 × UInt8 × List UInt8)) × ServerEvent)
    × (SdoServer 2 × List (UInt16 × UInt8 × List UInt8)) :=
  ((serverMachine 2 loopOd).exec (.new (.new 0x10), counting)
    [.handleFrame (initDownloadRequest 0x10 0x2000 0 [1, 2, 3, 4]) 0]).get rfl

theorem run_oversizedWrite :
    (serverMachine 2 loopOd).Run (.new (.new 0x10), counting) oversizedWrite.1 oversizedWrite.2 :=
  Machine.run_exec_get _

/-- The four bytes are written, and the write is acknowledged. -/
theorem oversizedWrite_written :
    (serverMachine 2 loopOd).Run (.new (.new 0x10), counting) oversizedWrite.1 oversizedWrite.2 ∧
      writes oversizedWrite.1 = [⟨0x2000, 0, [1, 2, 3, 4]⟩] ∧
      oversizedWrite.2.1.pendingTx = some (initAck 0x10 0x2000 0) ∧
      ¬ KeepsLimit 2 loopOd (.new 0x10) counting oversizedWrite.1 := by
  refine ⟨run_oversizedWrite, by decide +kernel, by decide +kernel, ?_⟩
  intro hkeep
  have hover : Oversized 2 0x10 (initDownloadRequest 0x10 0x2000 0 [1, 2, 3, 4]) :=
    ⟨by decide, by decide, by decide, by decide⟩
  have hstep : (serverMachine 2 loopOd).step (.new (.new 0x10), counting)
    (.handleFrame (initDownloadRequest 0x10 0x2000 0 [1, 2, 3, 4]) 0) = some (_, _) := rfl
  exact not_stepKeepsLimit .start hstep hover (hkeep [] _ _ [] _ _ _ _ rfl .start hstep)

end CanopenSdo
