import Mathlib.Data.List.GetD
import CanopenSdo.Lib.Checked

/-!
# Byte arrays of a fixed size

`Bytes n` is an array of `n` bytes; the size is part of the value, so no
operation can change it.  Reading and writing one byte at an index below `n` is
total, slicing is a checked computation, and `put` overwrites a slice whose place
is known beforehand.

The second half is the little-endian codec of 16- and 32-bit words, with the two
round trips.

## Main definitions

* `Bytes n`, `Bytes.zero`, `Bytes.get`, `Bytes.set`, `Bytes.put`.
* `Bytes.slice`, `Bytes.splice` — the checked operations on slices.
* `u16OfLe`, `u32OfLe`, `u32ToLe` — little-endian words.
-/

/-- An array of `n` bytes. -/
@[ext] structure Bytes (n : ℕ) where
  /-- The bytes, in order. -/
  data : List UInt8
  /-- There are `n` of them. -/
  size : data.length = n
  deriving DecidableEq

namespace Bytes

variable {n : ℕ}

/-- The array of zeros. -/
def zero (n : ℕ) : Bytes n := ⟨List.replicate n 0, List.length_replicate⟩

/-- The byte at index `i`. -/
def get (b : Bytes n) (i : Fin n) : UInt8 := b.data.get (i.cast b.size.symm)

/-- `b` with the byte at index `i` replaced. -/
def set (b : Bytes n) (i : Fin n) (v : UInt8) : Bytes n :=
  ⟨b.data.set i v, by rw [List.length_set, b.size]⟩

/-- `b` with the bytes from `lo` on overwritten by `src`, which fits. -/
def put (b : Bytes n) (lo : ℕ) (src : List UInt8) (h : lo + src.length ≤ n) : Bytes n :=
  ⟨b.data.take lo ++ src ++ b.data.drop (lo + src.length), by
    have := b.size
    simp only [List.length_append, List.length_take, List.length_drop]
    omega⟩

/-- The slice `b[lo..hi]`. -/
def slice (b : Bytes n) (lo hi : ℕ) : Checked (List UInt8) := Checked.slice b.data lo hi

/-- `b` with the bytes from `lo` on overwritten by `src`, if it fits. -/
def splice (b : Bytes n) (lo : ℕ) (src : List UInt8) : Checked (Bytes n) :=
  if h : lo + src.length ≤ n then .ok (b.put lo src h) else .error .sliceRange

@[simp] theorem data_zero (n : ℕ) : (zero n).data = List.replicate n 0 := rfl

@[simp] theorem data_put (b : Bytes n) (lo : ℕ) (src : List UInt8) (h : lo + src.length ≤ n) :
    (b.put lo src h).data = b.data.take lo ++ src ++ b.data.drop (lo + src.length) := rfl

theorem slice_of_le (b : Bytes n) {lo k : ℕ} (h : lo + k ≤ n) :
    b.slice lo (lo + k) = .ok ((b.data.drop lo).take k) :=
  Checked.slice_of_le (by rw [b.size]; exact h)

theorem slice_zero_of_le (b : Bytes n) {k : ℕ} (h : k ≤ n) : b.slice 0 k = .ok (b.data.take k) := by
  have hs := b.slice_of_le ((Nat.zero_add k).trans_le h)
  rwa [Nat.zero_add, List.drop_zero] at hs

theorem splice_of_le (b : Bytes n) {lo : ℕ} {src : List UInt8} (h : lo + src.length ≤ n) :
    b.splice lo src = .ok (b.put lo src h) := dif_pos h

theorem length_take (b : Bytes n) {k : ℕ} (h : k ≤ n) : (b.data.take k).length = k := by
  rw [List.length_take, b.size, Nat.min_eq_left h]

/-- What was put into an array is found there. -/
theorem take_drop_put (b : Bytes n) {lo k : ℕ} {src : List UInt8} (h : lo + src.length ≤ n)
    (hk : k ≤ src.length) : ((b.put lo src h).data.drop lo).take k = src.take k := by
  have hlo : (b.data.take lo).length = lo := by
    rw [List.length_take, b.size]
    omega
  rw [data_put, List.append_assoc, List.drop_append_of_le_length hlo.ge,
    List.drop_of_length_le hlo.le, List.nil_append, List.take_append_of_le_length hk]

/-- An array below the end of what was put into it. -/
theorem take_put (b : Bytes n) {lo : ℕ} {src : List UInt8} (h : lo + src.length ≤ n) :
    (b.put lo src h).data.take (lo + src.length) = b.data.take lo ++ src := by
  have hlo : (b.data.take lo).length = lo := by
    rw [List.length_take, b.size]
    omega
  rw [data_put, List.take_append_of_le_length (by rw [List.length_append, hlo]),
    List.take_of_length_le (by rw [List.length_append, hlo])]

/-- An array is the list of its bytes. -/
theorem data_eq_ofFn (b : Bytes n) : b.data = List.ofFn b.get := by
  obtain ⟨data, rfl⟩ := b
  exact (List.ofFn_get data).symm

theorem get_eq_getD (b : Bytes n) (i : Fin n) : b.get i = b.data.getD i 0 := by
  have hi : (i : ℕ) < b.data.length := by rw [b.size]; exact i.isLt
  rw [List.getD_eq_getElem _ _ hi]
  rfl

/-- Putting a slice into an array leaves the bytes below it alone. -/
theorem get_put_of_lt (b : Bytes n) {lo : ℕ} {src : List UInt8} (h : lo + src.length ≤ n)
    {i : Fin n} (hi : (i : ℕ) < lo) : (b.put lo src h).get i = b.get i := by
  have hlen : (i : ℕ) < (b.data.take lo).length := by
    rw [List.length_take, b.size]
    omega
  rw [get_eq_getD, get_eq_getD, data_put, List.append_assoc, List.getD_append _ _ _ _ hlen,
    List.getD_eq_getElem?_getD, List.getD_eq_getElem?_getD, List.getElem?_take_of_lt hi]

/-- The list `v` cut or padded with zeros to `n` bytes. -/
def pad (n : ℕ) (v : List UInt8) : Bytes n :=
  ⟨v.take n ++ List.replicate (n - v.length) 0, by
    simp only [List.length_append, List.length_take, List.length_replicate]
    omega⟩

/-- A padded list starts with the list. -/
theorem take_pad {v : List UInt8} (h : v.length ≤ n) : (pad n v).data.take v.length = v := by
  simp [pad, List.take_of_length_le h]

end Bytes

/-! ### Little-endian words -/

/-- The 16-bit word of two little-endian bytes. -/
def u16OfLe (b₀ b₁ : UInt8) : UInt16 := UInt16.ofNat (b₀.toNat + 256 * b₁.toNat)

/-- The 32-bit word of four little-endian bytes. -/
def u32OfLe (b₀ b₁ b₂ b₃ : UInt8) : UInt32 :=
  UInt32.ofNat (b₀.toNat + 256 * (b₁.toNat + 256 * (b₂.toNat + 256 * b₃.toNat)))

/-- The four little-endian bytes of a 32-bit word. -/
def u32ToLe (w : UInt32) : List UInt8 :=
  [w.toUInt8, (w >>> 8).toUInt8, (w >>> 16).toUInt8, (w >>> 24).toUInt8]

@[simp] theorem length_u32ToLe (w : UInt32) : (u32ToLe w).length = 4 := rfl

/-- A 32-bit word fits behind the first four of eight bytes. -/
theorem fits_u32ToLe (w : UInt32) : 4 + (u32ToLe w).length ≤ 8 := by rw [length_u32ToLe]

/-- Splitting a 16-bit word into its bytes and reassembling them. -/
@[simp] theorem u16OfLe_toUInt8 (w : UInt16) : u16OfLe w.toUInt8 (w >>> 8).toUInt8 = w := by
  apply UInt16.toNat_inj.mp
  have hw := w.toNat_lt
  simp only [u16OfLe, UInt16.toNat_ofNat', UInt16.toNat_toUInt8, UInt16.toNat_shiftRight,
    Nat.shiftRight_eq_div_pow]
  simp only [UInt16.reduceToNat, Nat.reduceMod, Nat.reducePow]
  omega

/-- Splitting a 32-bit word into its bytes and reassembling them. -/
@[simp] theorem u32OfLe_u32ToLe (w : UInt32) :
    u32OfLe w.toUInt8 (w >>> 8).toUInt8 (w >>> 16).toUInt8 (w >>> 24).toUInt8 = w := by
  apply UInt32.toNat_inj.mp
  have hw := w.toNat_lt
  simp only [u32OfLe, UInt32.toNat_ofNat', UInt32.toNat_toUInt8, UInt32.toNat_shiftRight,
    Nat.shiftRight_eq_div_pow]
  simp only [UInt32.reduceToNat, Nat.reduceMod, Nat.reducePow]
  omega

/-- A length survives as a 32-bit word exactly if it is below `2 ^ 32`. -/
theorem UInt32.toNat_ofNat_eq_iff {n : ℕ} : (UInt32.ofNat n).toNat = n ↔ n < 2 ^ 32 := by
  rw [UInt32.toNat_ofNat']
  exact Nat.mod_eq_iff_lt (by decide)

/-- Reassembling two bytes and taking the word apart again. -/
theorem toUInt8_u16OfLe (b₀ b₁ : UInt8) :
    (u16OfLe b₀ b₁).toUInt8 = b₀ ∧ (u16OfLe b₀ b₁ >>> 8).toUInt8 = b₁ := by
  have h₀ := b₀.toNat_lt
  have h₁ := b₁.toNat_lt
  have hword : (u16OfLe b₀ b₁).toNat = b₀.toNat + 256 * b₁.toNat := by
    rw [u16OfLe, UInt16.toNat_ofNat']
    omega
  constructor
  · apply UInt8.toNat_inj.mp
    rw [UInt16.toNat_toUInt8, hword]
    omega
  · apply UInt8.toNat_inj.mp
    rw [UInt16.toNat_toUInt8, UInt16.toNat_shiftRight, hword, Nat.shiftRight_eq_div_pow]
    change _ / 2 ^ 8 % 2 ^ 8 = _
    omega

/-- Reassembling four bytes and taking the word apart again. -/
theorem u32ToLe_u32OfLe (b₀ b₁ b₂ b₃ : UInt8) :
    u32ToLe (u32OfLe b₀ b₁ b₂ b₃) = [b₀, b₁, b₂, b₃] := by
  have h₀ := b₀.toNat_lt
  have h₁ := b₁.toNat_lt
  have h₂ := b₂.toNat_lt
  have h₃ := b₃.toNat_lt
  have hword : (u32OfLe b₀ b₁ b₂ b₃).toNat
      = b₀.toNat + 256 * (b₁.toNat + 256 * (b₂.toNat + 256 * b₃.toNat)) := by
    rw [u32OfLe, UInt32.toNat_ofNat']
    omega
  -- each byte is what a division leaves
  have hbyte : ∀ (k : UInt32) (b : UInt8),
      (u32OfLe b₀ b₁ b₂ b₃).toNat / 2 ^ (k.toNat % 32) % 2 ^ 8 = b.toNat →
        (u32OfLe b₀ b₁ b₂ b₃ >>> k).toUInt8 = b := by
    intro k b hb
    apply UInt8.toNat_inj.mp
    rw [UInt32.toNat_toUInt8, UInt32.toNat_shiftRight, Nat.shiftRight_eq_div_pow, hb]
  have hfirst : (u32OfLe b₀ b₁ b₂ b₃).toUInt8 = b₀ := by
    apply UInt8.toNat_inj.mp
    rw [UInt32.toNat_toUInt8, hword]
    omega
  have hsecond := hbyte 8 b₁ (by rw [hword]; change _ / 2 ^ 8 % _ = _; omega)
  have hthird := hbyte 16 b₂ (by rw [hword]; change _ / 2 ^ 16 % _ = _; omega)
  have hfourth := hbyte 24 b₃ (by rw [hword]; change _ / 2 ^ 24 % _ = _; omega)
  rw [u32ToLe, hfirst, hsecond, hthird, hfourth]

/-! ### Enumerating the bytes -/

/-- What holds of the 256 numbers below 256 holds of every byte. -/
theorem UInt8.forall_of_fin {P : UInt8 → Prop} (h : ∀ i : Fin 256, P (UInt8.ofNat i)) (b : UInt8) :
    P b := by
  have := h ⟨b.toNat, b.toNat_lt⟩
  rwa [UInt8.ofNat_toNat] at this
