import CanopenSdo.Transfer

/-!
# The abort codec

Two tables, one from codes to words and one back, and a frame layout that is written in
one place and read in another.  A code is canonical unless it is an unknown word that
has a name; on the canonical codes the two tables are inverse to each other, and an abort
frame is the same as what is read from it.

## Main definitions

* `SdoAbortCode.Named`, `SdoAbortCode.Canonical`.

## Main results

* `SdoAbortCode.ofRaw_raw` — a canonical code survives writing and reading.
* `abort_decoded` — an abort frame is rebuilt from its parts.
* `abort_codec` — **the abort codec is a bijection on its image.**
-/

namespace CanopenSdo

open Wire

namespace SdoAbortCode

/-- The code has a name. -/
def Named (c : SdoAbortCode) : Prop := ∀ r, c ≠ .unknown r

/-- The code is not an unknown word that has a name. -/
def Canonical (c : SdoAbortCode) : Prop :=
  ∀ r, c = .unknown r → ∀ n : SdoAbortCode, n.Named → n.raw ≠ r

/-- The two tables agree on the names: one case for each. -/
theorem ofRaw_raw_of_named {c : SdoAbortCode} (h : c.Named) : ofRaw c.raw = c := by
  cases c with
  | unknown r => exact absurd rfl (h r)
  | _ => rfl

/-- **A canonical code survives writing and reading.** -/
theorem ofRaw_raw {c : SdoAbortCode} (h : c.Canonical) : ofRaw c.raw = c := by
  cases c with
  | unknown r =>
    -- what `r` is read as has the word `r`, so it has no name
    have hraw : (ofRaw r).raw = r := raw_ofRaw r
    change ofRaw r = .unknown r
    by_cases hn : (ofRaw r).Named
    · exact absurd hraw (h r rfl _ hn)
    · unfold Named at hn
      push Not at hn
      obtain ⟨r', hr'⟩ := hn
      rw [hr'] at hraw
      exact hr'.trans (congrArg unknown hraw)
  | _ => exact ofRaw_raw_of_named (fun r hr => nomatch hr)

/-- What is read from a word is canonical. -/
theorem canonical_ofRaw (w : UInt32) : (ofRaw w).Canonical := by
  intro r hr n hn hraw
  -- the word is `r`, and it is read as the name
  have hw : w = r := by
    rw [← raw_ofRaw w, hr]
    rfl
  rw [hw, ← hraw, ofRaw_raw_of_named hn] at hr
  exact hn _ hr

end SdoAbortCode

/-! ### The frame -/

/-- An abort frame, byte by byte. -/
theorem data_abort (idx : UInt16) (sub : UInt8) (code : SdoAbortCode) :
    (Wire.abort idx sub code).data
      = csAbort :: idx.toUInt8 :: (idx >>> 8).toUInt8 :: sub :: u32ToLe code.raw := rfl

/-- An abort frame is rebuilt from its parts. -/
theorem abort_decoded {data : Bytes 8} (h : data.get 0 = csAbort) :
    Wire.abort (indexOf data) (subindexOf data) (.ofRaw (wordOf data)) = data := by
  obtain ⟨hlow, hhigh⟩ := toUInt8_u16OfLe (data.get 1) (data.get 2)
  ext1
  calc (Wire.abort (indexOf data) (subindexOf data) (.ofRaw (wordOf data))).data
      = csAbort :: (indexOf data).toUInt8 :: (indexOf data >>> 8).toUInt8 :: subindexOf data ::
          u32ToLe (wordOf data) := by rw [data_abort, SdoAbortCode.raw_ofRaw]
    _ = [data.get 0, data.get 1, data.get 2, data.get 3, data.get 4, data.get 5, data.get 6,
          data.get 7] := by
        rw [h, indexOf, hlow, hhigh, wordOf, u32ToLe_u32OfLe, subindexOf]
    _ = data.data := data.data_eq_ofFn.symm

/-- **The abort codec is a bijection on its image.**  Every word survives reading and
writing and is read as a canonical code, every canonical code survives writing and reading, so
no two names share a word.
The parts of an abort frame are read back, and an abort frame is the one built from its
parts. -/
theorem abort_codec :
    (∀ w, (SdoAbortCode.ofRaw w).raw = w ∧ (SdoAbortCode.ofRaw w).Canonical) ∧
    (∀ c : SdoAbortCode, c.Canonical → SdoAbortCode.ofRaw c.raw = c) ∧
    (∀ c c' : SdoAbortCode, c.Named → c'.Named → c.raw = c'.raw → c = c') ∧
    (∀ idx sub (c : SdoAbortCode), c.Canonical →
      indexOf (Wire.abort idx sub c) = idx ∧ subindexOf (Wire.abort idx sub c) = sub ∧
        SdoAbortCode.ofRaw (wordOf (Wire.abort idx sub c)) = c) ∧
    ∀ data : Bytes 8, data.get 0 = 0x80 →
      Wire.abort (indexOf data) (subindexOf data) (.ofRaw (wordOf data)) = data := by
  refine ⟨?_, fun c => SdoAbortCode.ofRaw_raw, ?_, ?_, ?_⟩
  · intro w
    exact ⟨SdoAbortCode.raw_ofRaw w, SdoAbortCode.canonical_ofRaw w⟩
  · intro c c' hc hc' hraw
    rw [← SdoAbortCode.ofRaw_raw_of_named hc, hraw, SdoAbortCode.ofRaw_raw_of_named hc']
  · intro idx sub c hc
    obtain ⟨hidx, hsub⟩ := SdoFrame.names_abort 0 idx sub c
    refine ⟨hidx, hsub, ?_⟩
    rw [SdoFrame.wordOf_abort]
    exact SdoAbortCode.ofRaw_raw hc
  · intro data h
    exact abort_decoded h

end CanopenSdo
