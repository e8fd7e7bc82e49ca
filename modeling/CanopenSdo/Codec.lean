import CanopenSdo.Client
import CanopenSdo.Fields
import CanopenSdo.Server

/-!
# Requests and responses read back

What one machine builds, the other reads: the fields of every frame the client
and the server send.  The proofs about both machines use these lemmas instead of
the byte layout, so a change of the layout stops here.

## Main results

* `Enc.initDownloadExpedited_of_le` — the checked encoder builds `expeditedData`.
* one lemma per kind of frame: `cs_...`, `names_...`, `toggle_...`, `payloadOf_...`.
-/

namespace CanopenSdo

open Wire

namespace SdoFrame

section Mux

variable (id : UInt16) (cmd : UInt8) (idx : UInt16) (sub : UInt8)

@[simp] theorem cs_muxFrame : cs ⟨id, muxFrame cmd idx sub⟩ = cmd &&& csMask := rfl

@[simp] theorem names_muxFrame : Names ⟨id, muxFrame cmd idx sub⟩ idx sub :=
  ⟨indexOf_muxFrame cmd idx sub, rfl⟩

variable {src : List UInt8} (h : 4 + src.length ≤ 8)

@[simp] theorem cs_put_muxFrame : cs ⟨id, (muxFrame cmd idx sub).put 4 src h⟩ = cmd &&& csMask := by
  rw [cs, get_put_muxFrame]

@[simp] theorem names_put_muxFrame : Names ⟨id, (muxFrame cmd idx sub).put 4 src h⟩ idx sub :=
  ⟨indexOf_put_muxFrame cmd idx sub h, subindexOf_put_muxFrame cmd idx sub h⟩

end Mux

/-! ### Aborts -/

section Abort

variable (id : UInt16) (idx : UInt16) (sub : UInt8) (code : SdoAbortCode)

@[simp] theorem cs_abort : cs ⟨id, Wire.abort idx sub code⟩ = csAbort := by
  rw [Wire.abort, cs_put_muxFrame]
  decide

@[simp] theorem names_abort : Names ⟨id, Wire.abort idx sub code⟩ idx sub :=
  names_put_muxFrame id csAbort idx sub _

@[simp] theorem wordOf_abort : wordOf (Wire.abort idx sub code) = code.raw :=
  wordOf_put_muxFrame csAbort idx sub code.raw

end Abort

/-! ### Init frames -/

section Init

variable (id : UInt16) (idx : UInt16) (sub : UInt8)

@[simp] theorem cs_initUpload : cs ⟨id, Enc.initUpload idx sub⟩ = ccsInitUpload := by
  rw [Enc.initUpload, cs_muxFrame]
  decide

@[simp] theorem names_initUpload : Names ⟨id, Enc.initUpload idx sub⟩ idx sub :=
  names_muxFrame id ccsInitUpload idx sub

@[simp] theorem cs_initDownloadAck : cs ⟨id, initDownloadAck idx sub⟩ = scsInitDownload := by
  rw [initDownloadAck, cs_muxFrame]
  decide

@[simp] theorem names_initDownloadAck : Names ⟨id, initDownloadAck idx sub⟩ idx sub :=
  names_muxFrame id scsInitDownload idx sub

variable (size : UInt32)

theorem names_announceData (cmd : UInt8) : Names ⟨id, announceData cmd idx sub size⟩ idx sub :=
  names_put_muxFrame id (cmd ||| 0b01) idx sub _

@[simp] theorem cs_announceData_upload :
    cs ⟨id, announceData scsInitUpload idx sub size⟩ = scsInitUpload := by
  rw [announceData, cs_put_muxFrame]
  decide

@[simp] theorem cs_announceData_download :
    cs ⟨id, announceData ccsInitDownload idx sub size⟩ = ccsInitDownload := by
  rw [announceData, cs_put_muxFrame]
  decide

@[simp] theorem expedited_announceData_upload :
    expedited ⟨id, announceData scsInitUpload idx sub size⟩ = false := by
  rw [expedited, announceData, get_put_muxFrame]
  decide

@[simp] theorem expedited_announceData_download :
    expedited ⟨id, announceData ccsInitDownload idx sub size⟩ = false := by
  rw [expedited, announceData, get_put_muxFrame]
  decide

@[simp] theorem announcedWord_announceData_upload :
    announcedWord ⟨id, announceData scsInitUpload idx sub size⟩ = some size := by
  rw [announcedWord, announceData, get_put_muxFrame, wordOf_put_muxFrame]
  exact if_pos (by decide)

@[simp] theorem announcedWord_announceData_download :
    announcedWord ⟨id, announceData ccsInitDownload idx sub size⟩ = some size := by
  rw [announcedWord, announceData, get_put_muxFrame, wordOf_put_muxFrame]
  exact if_pos (by decide)

variable {v : List UInt8} (h₁ : 1 ≤ v.length) (h₄ : v.length ≤ 4)

theorem names_expeditedData (cmd : UInt8) : Names ⟨id, expeditedData cmd idx sub v⟩ idx sub :=
  names_put_muxFrame id (expeditedByte cmd v.length) idx sub _

include h₁ h₄

/-- Everything about the command byte of an expedited response. -/
theorem expeditedByte_upload_spec :
    expeditedByte scsInitUpload v.length &&& csMask = scsInitUpload ∧
      (expeditedByte scsInitUpload v.length &&& 0b10) ≠ 0 ∧
        inlineLen (expeditedByte scsInitUpload v.length) = v.length := by
  have h := expeditedByte_spec true ⟨v.length - 1, by omega⟩
  simpa [Nat.sub_add_cancel h₁] using h

theorem expeditedByte_download_spec :
    expeditedByte ccsInitDownload v.length &&& csMask = ccsInitDownload ∧
      (expeditedByte ccsInitDownload v.length &&& 0b10) ≠ 0 ∧
        inlineLen (expeditedByte ccsInitDownload v.length) = v.length := by
  have h := expeditedByte_spec false ⟨v.length - 1, by omega⟩
  simpa [Nat.sub_add_cancel h₁] using h

theorem cs_expeditedData_upload :
    cs ⟨id, expeditedData scsInitUpload idx sub v⟩ = scsInitUpload := by
  rw [expeditedData, cs_put_muxFrame]
  exact (expeditedByte_upload_spec h₁ h₄).1

theorem cs_expeditedData_download :
    cs ⟨id, expeditedData ccsInitDownload idx sub v⟩ = ccsInitDownload := by
  rw [expeditedData, cs_put_muxFrame]
  exact (expeditedByte_download_spec h₁ h₄).1

theorem expedited_expeditedData_upload :
    expedited ⟨id, expeditedData scsInitUpload idx sub v⟩ = true := by
  rw [expedited, expeditedData, get_put_muxFrame]
  exact bne_iff_ne.mpr (expeditedByte_upload_spec h₁ h₄).2.1

theorem expedited_expeditedData_download :
    expedited ⟨id, expeditedData ccsInitDownload idx sub v⟩ = true := by
  rw [expedited, expeditedData, get_put_muxFrame]
  exact bne_iff_ne.mpr (expeditedByte_download_spec h₁ h₄).2.1

theorem inlineOf_expeditedData_upload : inlineOf (expeditedData scsInitUpload idx sub v) = v :=
  inlineOf_expeditedData (expeditedByte_upload_spec h₁ h₄).2.2 h₄

theorem inlineOf_expeditedData_download : inlineOf (expeditedData ccsInitDownload idx sub v) = v :=
  inlineOf_expeditedData (expeditedByte_download_spec h₁ h₄).2.2 h₄

end Init

/-! ### Segment frames -/

section Segment

variable (id : UInt16) (t last : Bool)

@[simp] theorem cs_uploadSegmentRequest : cs ⟨id, Enc.uploadSegmentRequest t⟩ = ccsUploadSegment := by
  change (Enc.uploadSegmentRequest t).get 0 &&& csMask = ccsUploadSegment
  cases t <;> decide

@[simp] theorem toggle_uploadSegmentRequest : toggle ⟨id, Enc.uploadSegmentRequest t⟩ = t := by
  change toggleOf ((Enc.uploadSegmentRequest t).get 0) = t
  cases t <;> decide

@[simp] theorem cs_downloadSegmentAck : cs ⟨id, downloadSegmentAck t⟩ = scsDownloadSegment := by
  change (downloadSegmentAck t).get 0 &&& csMask = scsDownloadSegment
  cases t <;> decide

@[simp] theorem toggle_downloadSegmentAck : toggle ⟨id, downloadSegmentAck t⟩ = t := by
  change toggleOf ((downloadSegmentAck t).get 0) = t
  cases t <;> decide

variable {p : List UInt8} (h : p.length ≤ 7)

include h

theorem cs_segmentData : cs ⟨id, segmentData 0 t p last⟩ = 0 := cs_segmentByte h

theorem toggle_segmentData : toggle ⟨id, segmentData 0 t p last⟩ = t := toggleOf_segmentByte h

theorem final_segmentData : final ⟨id, segmentData 0 t p last⟩ = last := by
  rw [final, get_segmentData, decodeSegment_segmentByte h]

end Segment

end SdoFrame

/-- The checked encoder of an expedited download builds the frame. -/
theorem Enc.initDownloadExpedited_of_le {idx : UInt16} {sub : UInt8} {v : List UInt8}
    (h₁ : 1 ≤ v.length) (h₄ : v.length ≤ 4) :
    Enc.initDownloadExpedited idx sub v = .ok (expeditedData ccsInitDownload idx sub v) := by
  have hne : v ≠ [] ∧ v.length ≤ 4 := ⟨List.ne_nil_of_length_pos h₁, h₄⟩
  have hfit : 4 + v.length ≤ 8 := by omega
  simp only [Enc.initDownloadExpedited, Checked.guard_of _ hne, Checked.sub_of_le h₄,
    Checked.bind_ok, Bytes.splice_of_le _ hfit]
  rw [put_muxFrame_pad]
  rfl

end CanopenSdo
