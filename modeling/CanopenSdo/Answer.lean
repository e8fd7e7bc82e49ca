import CanopenSdo.Codec
import CanopenSdo.ServerStep

/-!
# The answers of the server

A request is answered with an abort, or with the response of its kind.

## Main definitions

* `AnswerTo f g` — the response `g` is of the kind of the request `f`.
* `Finishes f g` — with the response `g` to the request `f` the transfer is over.
* `SdoServer.HasAborted`.

## Main results

* `ServerStep.replied` — what is pending after a call that returns `Ok`.
* `ServerStep.answer` — **what is pending after a request is its answer.**
-/

namespace CanopenSdo

open Wire

variable {N : ℕ} {σ : Type} {od : ObjectDictionary σ} {s s' : SdoServer N} {f g : SdoFrame}
  {now : UInt64} {o o' : σ} {r : SdoResult Unit}

/-- The response `g` is of the kind of the request `f`: for an init request it names the
same object, for a segment it has the same toggle. -/
inductive AnswerTo (f g : SdoFrame) : Prop
  | initUpload (hf : f.cs = ccsInitUpload) (hg : g.cs = scsInitUpload)
      (hm : g.Names (indexOf f.data) (subindexOf f.data))
  | uploadSegment (hf : f.cs = ccsUploadSegment) (hg : g.cs = scsUploadSegment)
      (ht : g.toggle = f.toggle)
  | initDownload (hf : f.cs = ccsInitDownload) (hg : g.cs = scsInitDownload)
      (hm : g.Names (indexOf f.data) (subindexOf f.data))
  | downloadSegment (hf : f.cs = ccsDownloadSegment) (hg : g.cs = scsDownloadSegment)
      (ht : g.toggle = f.toggle)

/-- With the response `g` to the request `f` the transfer is over: an expedited response,
the ack of an expedited download, a final upload segment, or the ack of a final download
segment. -/
def Finishes (f g : SdoFrame) : Prop :=
  (f.cs = ccsInitUpload ∧ g.expedited = true) ∨ (f.cs = ccsUploadSegment ∧ g.final = true) ∨
    (f.cs = ccsInitDownload ∧ f.expedited = true) ∨ (f.cs = ccsDownloadSegment ∧ f.final = true)

section Finishes

variable (g) in
theorem finishes_initUpload (h : f.cs = ccsInitUpload) : Finishes f g ↔ g.expedited = true := by
  simp +decide [Finishes, h]

variable (g) in
theorem finishes_uploadSegment (h : f.cs = ccsUploadSegment) : Finishes f g ↔ g.final = true := by
  simp +decide [Finishes, h]

variable (g) in
theorem finishes_initDownload (h : f.cs = ccsInitDownload) :
    Finishes f g ↔ f.expedited = true := by
  simp +decide [Finishes, h]

variable (g) in
theorem finishes_downloadSegment (h : f.cs = ccsDownloadSegment) :
    Finishes f g ↔ f.final = true := by
  simp +decide [Finishes, h]

end Finishes

/-- A response is no abort. -/
theorem AnswerTo.ne_abort (h : AnswerTo f g) : g.cs ≠ csAbort := by
  cases h with
  | initUpload _ hg => rw [hg]; decide
  | uploadSegment _ hg => rw [hg]; decide
  | initDownload _ hg => rw [hg]; decide
  | downloadSegment _ hg => rw [hg]; decide

/-- A frame that names the object of another one. -/
theorem SdoFrame.Names.names {idx : UInt16} {sub : UInt8}
    (h : g.Names (indexOf f.data) (subindexOf f.data)) (hg : g.Names idx sub) : f.Names idx sub :=
  ⟨h.1.symm.trans hg.1, h.2.symm.trans hg.2⟩

/-- An init upload response answers an init upload of the same object. -/
theorem AnswerTo.initUpload_of_cs (h : AnswerTo f g) (hcs : g.cs = scsInitUpload) :
    f.cs = ccsInitUpload ∧ g.Names (indexOf f.data) (subindexOf f.data) := by
  cases h with
  | initUpload hf _ hm => exact ⟨hf, hm⟩
  | uploadSegment _ hg => exact absurd (hg.symm.trans hcs) (by decide)
  | initDownload _ hg => exact absurd (hg.symm.trans hcs) (by decide)
  | downloadSegment _ hg => exact absurd (hg.symm.trans hcs) (by decide)

/-- An init download response answers an init download of the same object. -/
theorem AnswerTo.initDownload_of_cs (h : AnswerTo f g) (hcs : g.cs = scsInitDownload) :
    f.cs = ccsInitDownload ∧ g.Names (indexOf f.data) (subindexOf f.data) := by
  cases h with
  | initDownload hf _ hm => exact ⟨hf, hm⟩
  | uploadSegment _ hg => exact absurd (hg.symm.trans hcs) (by decide)
  | initUpload _ hg => exact absurd (hg.symm.trans hcs) (by decide)
  | downloadSegment _ hg => exact absurd (hg.symm.trans hcs) (by decide)

/-- A segment of an upload answers a segment request with its toggle. -/
theorem AnswerTo.uploadSegment_of_cs (h : AnswerTo f g) (hcs : g.cs = scsUploadSegment) :
    f.cs = ccsUploadSegment ∧ g.toggle = f.toggle := by
  cases h with
  | uploadSegment hf _ ht => exact ⟨hf, ht⟩
  | initUpload _ hg => exact absurd (hg.symm.trans hcs) (by decide)
  | initDownload _ hg => exact absurd (hg.symm.trans hcs) (by decide)
  | downloadSegment _ hg => exact absurd (hg.symm.trans hcs) (by decide)

/-- The server has aborted: it is idle, and an abort frame is pending. -/
def SdoServer.HasAborted (s : SdoServer N) : Prop :=
  s.state = .idle ∧ ∃ g, s.pendingTx = some g ∧ g.cs = csAbort

theorem SdoServer.hasAborted_aborted (s : SdoServer N) (idx : UInt16) (sub : UInt8)
    (code : SdoAbortCode) : (s.aborted idx sub code).HasAborted :=
  ⟨rfl, _, rfl, SdoFrame.cs_abort _ idx sub code⟩

/-- The server is idle after the response exactly if the transfer is over. -/
def SdoServer.Replied (s : SdoServer N) (f g : SdoFrame) : Prop :=
  s.pendingTx = some g ∧ AnswerTo f g ∧ (s.state = .idle ↔ Finishes f g)

/-- The exits with a response. -/
theorem ServerStep.replied (h : ServerStep od s f now o (.ok ()) s' o') (ha : s.Addressed f)
    (hcs : f.cs ≠ csAbort) :
    ∃ data, s'.Replied f ⟨SdoFrame.tsdoId s.cfg.nodeId, data⟩ := by
  cases h with
  | ignored hna => exact absurd ha hna
  | clientAbort _ habort => exact absurd habort hcs
  | @initUploadExpedited _ hcs len buf _ _ hlen h =>
    -- the command byte counts the bytes the dictionary returned
    have hv : (buf.data.take len).length = len := buf.length_take hlen
    have h₁ := h.1.trans_eq hv.symm
    have h₄ := hv.trans_le h.2
    refine ⟨_, rfl, .initUpload hcs (SdoFrame.cs_expeditedData_upload _ _ _ h₁ h₄)
      (SdoFrame.names_expeditedData _ _ _ _), iff_of_true rfl ?_⟩
    rw [finishes_initUpload _ hcs]
    exact SdoFrame.expedited_expeditedData_upload _ _ _ h₁ h₄
  | initUploadSegmented _ hcs =>
    refine ⟨_, rfl, .initUpload hcs (SdoFrame.cs_announceData_upload _ _ _ _)
      (SdoFrame.names_announceData _ _ _ _ _), iff_of_false nofun ?_⟩
    rw [finishes_initUpload _ hcs, SdoFrame.expedited_announceData_upload]
    exact Bool.false_ne_true
  | @uploadSegmentMore _ hcs _ _ buf _ sent _ _ ht =>
    have hlen : ((buf.data.drop sent).take 7).length ≤ 7 := List.length_take_le _ _
    refine ⟨_, rfl, .uploadSegment hcs (SdoFrame.cs_segmentData _ _ _ hlen)
      ((SdoFrame.toggle_segmentData _ _ _ hlen).trans ht.symm), iff_of_false nofun ?_⟩
    rw [finishes_uploadSegment _ hcs]
    exact Bool.eq_false_iff.mp (SdoFrame.final_segmentData _ _ _ hlen)
  | @uploadSegmentLast _ hcs _ _ buf len sent _ _ ht _ hle =>
    have hlen : ((buf.data.drop sent).take (len - sent)).length ≤ 7 :=
      (List.length_take_le _ _).trans (Nat.sub_le_iff_le_add'.mpr hle)
    refine ⟨_, rfl, .uploadSegment hcs (SdoFrame.cs_segmentData _ _ _ hlen)
      ((SdoFrame.toggle_segmentData _ _ _ hlen).trans ht.symm), iff_of_true rfl ?_⟩
    rw [finishes_uploadSegment _ hcs]
    exact SdoFrame.final_segmentData _ _ _ hlen
  | initDownloadExpedited _ hcs he =>
    exact ⟨_, rfl, .initDownload hcs (SdoFrame.cs_initDownloadAck _ _ _)
      (SdoFrame.names_initDownloadAck _ _ _),
      iff_of_true rfl ((finishes_initDownload _ hcs).mpr he)⟩
  | initDownloadSegmented _ hcs he =>
    refine ⟨_, rfl, .initDownload hcs (SdoFrame.cs_initDownloadAck _ _ _)
      (SdoFrame.names_initDownloadAck _ _ _), iff_of_false nofun ?_⟩
    rw [finishes_initDownload _ hcs, he]
    exact Bool.false_ne_true
  | downloadSegmentMore _ hcs _ ht _ hc =>
    refine ⟨_, rfl, .downloadSegment hcs (SdoFrame.cs_downloadSegmentAck _ _)
      ((SdoFrame.toggle_downloadSegmentAck _ _).trans ht.symm), iff_of_false nofun ?_⟩
    rw [finishes_downloadSegment _ hcs, hc]
    exact Bool.false_ne_true
  | downloadSegmentLast _ hcs _ ht _ hc =>
    exact ⟨_, rfl, .downloadSegment hcs (SdoFrame.cs_downloadSegmentAck _ _)
      ((SdoFrame.toggle_downloadSegmentAck _ _).trans ht.symm),
      iff_of_true rfl ((finishes_downloadSegment _ hcs).mpr hc)⟩

/-- A call that fails has aborted. -/
theorem ServerStep.aborted_of_error {e : SdoError} (h : ServerStep od s f now o (.error e) s' o') :
    ∃ idx sub code, e = .clientAborted code ∧ s' = s.aborted idx sub code := by
  cases h <;> exact ⟨_, _, _, rfl, rfl⟩

/-- **What is pending after a request is its answer**: nothing after an abort, an abort
when the call fails, and otherwise the response. -/
theorem ServerStep.answer (h : ServerStep od s f now o r s' o') (ha : s.Addressed f) :
    (f.cs = csAbort ∧ s' = s.reset) ∨
      (∃ idx sub code, r = .error (.clientAborted code) ∧ s' = s.aborted idx sub code) ∨
        (r = .ok () ∧ ∃ data, s'.pendingTx = some ⟨SdoFrame.tsdoId s.cfg.nodeId, data⟩ ∧
          AnswerTo f ⟨SdoFrame.tsdoId s.cfg.nodeId, data⟩) := by
  by_cases hcs : f.cs = csAbort
  · obtain ⟨-, rfl, -⟩ := h.unique (.clientAbort ha hcs)
    exact .inl ⟨hcs, rfl⟩
  · rcases r with e | ⟨⟩
    · obtain ⟨idx, sub, code, rfl, rfl⟩ := h.aborted_of_error
      exact .inr (.inl ⟨idx, sub, code, rfl, rfl⟩)
    · obtain ⟨data, htx, hans, -⟩ := h.replied ha hcs
      exact .inr (.inr ⟨rfl, data, htx, hans⟩)

/-- What a server sends comes from its node. -/
theorem ServerStep.cobId_pendingTx (h : ServerStep od s f now o r s' o')
    (hs : ∀ g, s.pendingTx = some g → g.cobId = SdoFrame.tsdoId s.cfg.nodeId)
    (hg : s'.pendingTx = some g) : g.cobId = SdoFrame.tsdoId s.cfg.nodeId := by
  by_cases ha : s.Addressed f
  · obtain ⟨-, rfl⟩ | ⟨idx, sub, code, -, rfl⟩ | ⟨-, data, hdata, -⟩ := h.answer ha
    · cases hg
    · obtain rfl := Option.some.inj hg
      rfl
    · rw [hdata] at hg
      obtain rfl := Option.some.inj hg
      rfl
  · obtain ⟨-, rfl, -⟩ := h.unique (.ignored ha)
    exact hs g hg

end CanopenSdo
