import CanopenSdo.Lib.Insertion
import CanopenSdo.Loopback
import CanopenSdo.ServerSafety

/-!
# A new request

A request that is no segment of a transfer in flight wipes out the past of the server.
Every exit it takes reads the configuration only, and overwrites the transfer, the pending
frame and the deadline.  So two servers of one configuration, whatever they have been
through, are the same from such a frame on.

## Main definitions

* `SdoFrame.NewRequest` — an init request, an abort, or an unknown command.

## Main results

* `handleFrame_of_newRequest` — the handling of a new request is a matter of the
  configuration.
* `exists_serverMachine_exec` — the server takes every call.
* `new_request_forgets` — **a new request wipes out the past of the server.**
-/

namespace CanopenSdo

open Wire

variable {N : ℕ} {σ : Type}

/-- The frame is an init upload, an init download, an abort, or a command there is none of. -/
def SdoFrame.NewRequest (f : SdoFrame) : Prop :=
  f.cs = ccsInitUpload ∨ f.cs = ccsInitDownload ∨ f.cs = csAbort ∨
    (f.cs ≠ csAbort ∧ f.cs ≠ ccsInitUpload ∧ f.cs ≠ ccsUploadSegment ∧ f.cs ≠ ccsInitDownload ∧
      f.cs ≠ ccsDownloadSegment)

/-- A new request is no segment, in either direction. -/
theorem SdoFrame.newRequest_iff {f : SdoFrame} :
    f.NewRequest ↔ f.cs ≠ ccsUploadSegment ∧ f.cs ≠ ccsDownloadSegment := by
  constructor
  · rintro (hcs | hcs | hcs | ⟨-, -, hup, -, hdown⟩)
    · rw [hcs]
      decide
    · rw [hcs]
      decide
    · rw [hcs]
      decide
    · exact ⟨hup, hdown⟩
  · rintro ⟨hup, hdown⟩
    by_cases h₁ : f.cs = ccsInitUpload
    · exact .inl h₁
    by_cases h₂ : f.cs = ccsInitDownload
    · exact .inr (.inl h₂)
    by_cases h₃ : f.cs = csAbort
    · exact .inr (.inr (.inl h₃))
    · exact .inr (.inr (.inr ⟨h₃, h₁, hup, h₂, hdown⟩))

/-! ### The exits overwrite everything -/

section Forget

variable {od : ObjectDictionary σ} {s₁ s₂ s' : SdoServer N} {f : SdoFrame} {now : UInt64}
  {o o' : σ} {r : SdoResult Unit} (hcfg : s₁.cfg = s₂.cfg)

include hcfg

theorem SdoServer.reset_congr : s₁.reset = s₂.reset := by
  rw [reset, reset, hcfg]

theorem SdoServer.answered_congr (out : Bytes 8) : s₁.answered out = s₂.answered out := by
  rw [answered, answered, reset_congr hcfg]

theorem SdoServer.aborted_congr (idx : UInt16) (sub : UInt8) (code : SdoAbortCode) :
    s₁.aborted idx sub code = s₂.aborted idx sub code := answered_congr hcfg _

theorem SdoServer.serving_congr (st : ServerState N) (out : Bytes 8) (now : UInt64) :
    s₁.serving st out now = s₂.serving st out now := by
  simp only [serving, queueWithDeadline, hcfg]

/-- An exit of a new request is an exit of every server of the configuration. -/
theorem ServerStep.of_newRequest (h : ServerStep od s₁ f now o r s' o') (ha₁ : s₁.Addressed f)
    (hf : f.NewRequest) : ServerStep od s₂ f now o r s' o' := by
  obtain ⟨hup, hdown⟩ := SdoFrame.newRequest_iff.mp hf
  have ha₂ : s₂.Addressed f := by
    rw [SdoServer.Addressed, ← hcfg]
    exact ha₁
  cases h with
  | ignored ha => exact absurd ha₁ ha
  | clientAbort _ hcs =>
    rw [SdoServer.reset_congr hcfg]
    exact .clientAbort ha₂ hcs
  | initUploadRefused _ hcs hr =>
    rw [SdoServer.aborted_congr hcfg]
    exact .initUploadRefused ha₂ hcs hr
  | initUploadTooLarge _ hcs hr hlen =>
    rw [SdoServer.aborted_congr hcfg]
    exact .initUploadTooLarge ha₂ hcs hr hlen
  | initUploadExpedited _ hcs hr hlen hle =>
    rw [SdoServer.answered_congr hcfg]
    exact .initUploadExpedited ha₂ hcs hr hlen hle
  | initUploadSegmented _ hcs hr hlen hle =>
    rw [SdoServer.serving_congr hcfg]
    exact .initUploadSegmented ha₂ hcs hr hlen hle
  | initDownloadRefused _ hcs he hw =>
    rw [SdoServer.aborted_congr hcfg]
    exact .initDownloadRefused ha₂ hcs he hw
  | initDownloadExpedited _ hcs he hw =>
    rw [SdoServer.answered_congr hcfg]
    exact .initDownloadExpedited ha₂ hcs he hw
  | initDownloadTooLarge _ hcs he hsize hN =>
    rw [SdoServer.aborted_congr hcfg]
    exact .initDownloadTooLarge ha₂ hcs he hsize hN
  | initDownloadSegmented _ hcs he hN =>
    rw [SdoServer.serving_congr hcfg]
    exact .initDownloadSegmented ha₂ hcs he hN
  | unknownCommand _ hcs =>
    rw [SdoServer.aborted_congr hcfg]
    exact .unknownCommand ha₂ hcs
  -- a segment is no new request
  | uploadSegmentUnexpected _ hcs => exact absurd hcs hup
  | uploadSegmentToggle _ hcs => exact absurd hcs hup
  | uploadSegmentMore _ hcs => exact absurd hcs hup
  | uploadSegmentLast _ hcs => exact absurd hcs hup
  | downloadSegmentUnexpected _ hcs => exact absurd hcs hdown
  | downloadSegmentToggle _ hcs => exact absurd hcs hdown
  | downloadSegmentOverflow _ hcs => exact absurd hcs hdown
  | downloadSegmentMore _ hcs => exact absurd hcs hdown
  | downloadSegmentMismatch _ hcs => exact absurd hcs hdown
  | downloadSegmentRefused _ hcs => exact absurd hcs hdown
  | downloadSegmentLast _ hcs => exact absurd hcs hdown

/-- **The handling of a new request is a matter of the configuration.** -/
theorem handleFrame_of_newRequest (ha : s₁.Addressed f) (hf : f.NewRequest) :
    s₁.handleFrame f now od o = s₂.handleFrame f now od o := by
  have hexit : ∃ r s' o', ServerStep od s₁ f now o r s' o' := by
    refine exists_serverStep_of ?_
    intro _ hcs
    exact absurd hcs (SdoFrame.newRequest_iff.mp hf).1
  obtain ⟨r, s', o', hstep⟩ := hexit
  rw [hstep.handleFrame_eq, (hstep.of_newRequest hcfg ha hf).handleFrame_eq]

theorem serverStep_of_newRequest (ha : s₁.Addressed f) (hf : f.NewRequest) :
    (serverMachine N od).step (s₁, o) (.handleFrame f now)
      = (serverMachine N od).step (s₂, o) (.handleFrame f now) := by
  simp only [serverMachine, serverStep, handleFrame_of_newRequest hcfg ha hf]

end Forget

/-! ### Any further calls -/

section Runs

variable {od : ObjectDictionary σ} {s : SdoServer N} {o : σ}

/-- The server takes every call while its positions are inside the buffer. -/
theorem exists_serverMachine_step (hs : s.state.InRange) (a : ServerAction σ) :
    ∃ e s' o', (serverMachine N od).step (s, o) a = some (e, (s', o')) := by
  cases a with
  | handleFrame f now =>
    have hexit : ∃ r s' x, ServerStep od.recording s f now (o, []) r s' x :=
      exists_serverStep_of_inRange hs
    obtain ⟨r, s', ⟨o', calls⟩, hstep⟩ := hexit
    exact ⟨_, s', o', serverStep_handleFrame_iff.mpr hstep⟩
  | pollTransmit => exact ⟨_, _, _, rfl⟩
  | handleTimeout now => exact ⟨_, _, _, rfl⟩
  | odChange dict => exact ⟨_, _, _, rfl⟩

/-- Any calls are taken, one after the other. -/
theorem exists_serverMachine_exec (od : ObjectDictionary σ) (o : σ) (hs : s.state.InRange)
    (as : List (ServerAction σ)) :
    ∃ hist x, (serverMachine N od).traced.exec (s, o) as = some (hist, x) := by
  refine Machine.exists_exec (I := fun x => x.1.state.InRange) ?_ as hs
  rintro ⟨s, o⟩ a hs
  obtain ⟨e, s', o', hstep⟩ := exists_serverMachine_step hs a
  exact ⟨_, _, Machine.traced_step hstep, inRange_of_serverStep hstep hs⟩

/-- **A new request wipes out the past of the server.**  Two servers of one configuration,
each after any run against any dictionary, get a new request and then any further calls, with
one dictionary.  Both do the same, and so does a fresh server: every call returns the same
result, hands out the same frame, makes the same dictionary calls with the same data, and
leaves the same server behind, deadline included. -/
theorem new_request_forgets {σ₁ σ₂ : Type} {od₁ : ObjectDictionary σ₁} {od₂ : ObjectDictionary σ₂}
    {cfg : ServerConfig} {o₁ x₁ : σ₁} {o₂ x₂ : σ₂} {s₁ s₂ : SdoServer N}
    {h₁ : List (ServerAction σ₁ × ServerEvent)} {h₂ : List (ServerAction σ₂ × ServerEvent)}
    (hr₁ : (serverMachine N od₁).Run (.new cfg, o₁) h₁ (s₁, x₁))
    (hr₂ : (serverMachine N od₂).Run (.new cfg, o₂) h₂ (s₂, x₂)) {f : SdoFrame}
    (ha : SdoFrame.nodeOfRsdo f.cobId = some cfg.nodeId) (hf : f.NewRequest)
    (od : ObjectDictionary σ) (o : σ) (now : UInt64) (as : List (ServerAction σ)) :
    ∃ hist x,
      (serverMachine N od).traced.exec (s₁, o) (.handleFrame f now :: as) = some (hist, x) ∧
      (serverMachine N od).traced.exec (s₂, o) (.handleFrame f now :: as) = some (hist, x) ∧
      (serverMachine N od).traced.exec (.new cfg, o) (.handleFrame f now :: as)
        = some (hist, x) := by
  -- every server of the configuration does what the fresh one does
  have hsame : ∀ s : SdoServer N, s.cfg = cfg →
      (serverMachine N od).traced.exec (s, o) (.handleFrame f now :: as)
        = (serverMachine N od).traced.exec (.new cfg, o) (.handleFrame f now :: as) := by
    intro s hcfg
    apply Machine.exec_congr
    have haddr : s.Addressed f := by
      rw [SdoServer.Addressed, hcfg]
      exact ha
    have hstep : (serverMachine N od).step (s, o) (.handleFrame f now)
        = (serverMachine N od).step (.new cfg, o) (.handleFrame f now) :=
      serverStep_of_newRequest hcfg haddr hf
    rw [Machine.step_traced, Machine.step_traced, hstep]
  have hrange : (SdoServer.new cfg : SdoServer N).state.InRange := trivial
  obtain ⟨hist, x, hexec⟩ := exists_serverMachine_exec od o hrange (.handleFrame f now :: as)
  exact ⟨hist, x, (hsame s₁ (server_inRange hr₁).1).trans hexec,
    (hsame s₂ (server_inRange hr₂).1).trans hexec, hexec⟩

end Runs

/-! ### A run -/

/-- In the middle of a read of eight bytes a write of another object begins. -/
theorem new_request_forgets_lyingRun :
    lyingRun.2.1.state = .uploading 0x2000 0 (Bytes.zero 8) 8 7 true ∧
    ∃ hist x,
      (serverMachine 8 loopOd).traced.exec (lyingRun.2.1, counting)
        [.handleFrame (initDownloadRequest 0x10 0x2001 1 [1, 2, 3, 4, 5]) 2, .pollTransmit,
          .handleFrame (downloadSegment 0x10 [1, 2, 3, 4, 5] 0) 3] = some (hist, x) ∧
      (serverMachine 8 loopOd).traced.exec (.new (.new 0x10), counting)
        [.handleFrame (initDownloadRequest 0x10 0x2001 1 [1, 2, 3, 4, 5]) 2, .pollTransmit,
          .handleFrame (downloadSegment 0x10 [1, 2, 3, 4, 5] 0) 3] = some (hist, x) := by
  have hst : lyingRun.2.1.state = .uploading 0x2000 0 (Bytes.zero 8) 8 7 true := by decide +kernel
  have haddr : SdoFrame.nodeOfRsdo (initDownloadRequest 0x10 0x2001 1 [1, 2, 3, 4, 5]).cobId
      = some (ServerConfig.new 0x10).nodeId := by decide +kernel
  have hnew : (initDownloadRequest 0x10 0x2001 1 [1, 2, 3, 4, 5]).NewRequest :=
    .inr (.inl (by decide +kernel))
  have hfresh : (serverMachine 8 loopOd).Run (.new (.new 0x10), counting) [] _ := .start
  obtain ⟨hist, x, h₁, h₂, -⟩ := new_request_forgets run_lyingRun hfresh haddr hnew loopOd counting 2
    [.pollTransmit, .handleFrame (downloadSegment 0x10 [1, 2, 3, 4, 5] 0) 3]
  exact ⟨hst, hist, x, h₁, h₂⟩

end CanopenSdo
