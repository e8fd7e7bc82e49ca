import Mathlib.Algebra.Order.Floor.Div
import Mathlib.Tactic

/-!
# Cutting a list into pieces

A value that does not fit into one message is cut into pieces of a fixed width;
the last piece may be shorter, and an empty value is one empty piece.  A sender
numbers its messages with one alternating bit.

## Main definitions

* `piece w l k` — the `k`-th piece of width `w`.
* `pieces w n` — how many pieces `n` items make.
* `alternate k` — the bit of the `k`-th message.

## Main results

* `take_append_piece`, `flatten_map_piece`, `flatMap_piece` — **the pieces in order are the list.**
-/

variable {α : Type*}

/-- The `k`-th piece of width `w`. -/
def piece (w : ℕ) (l : List α) (k : ℕ) : List α := (l.drop (w * k)).take w

/-- How many pieces of width `w` a list of `n` items is sent in. -/
def pieces (w n : ℕ) : ℕ := max 1 (n ⌈/⌉ w)

theorem length_piece (w : ℕ) (l : List α) (k : ℕ) :
    (piece w l k).length = min w (l.length - w * k) := by
  rw [piece, List.length_take, List.length_drop]

theorem length_piece_le (w : ℕ) (l : List α) (k : ℕ) : (piece w l k).length ≤ w := by
  rw [length_piece]
  exact min_le_left _ _

/-- What was sent before the `k`-th piece, and the piece. -/
theorem take_append_piece (w : ℕ) (l : List α) (k : ℕ) :
    l.take (w * k) ++ piece w l k = l.take (w * (k + 1)) := by
  rw [piece, ← List.take_add, Nat.mul_succ]

/-- The first `m` pieces in order. -/
theorem flatten_map_piece (w : ℕ) (l : List α) (m : ℕ) :
    ((List.range m).map (piece w l)).flatten = l.take (w * m) := by
  induction m with
  | zero => simp
  | succ m ih => rw [List.range_succ, List.map_append, List.flatten_append, ih,
      ← take_append_piece]; simp

theorem one_le_pieces (w n : ℕ) : 1 ≤ pieces w n := le_max_left _ _

/-- A list that is not empty is sent in as many pieces as it takes. -/
theorem pieces_of_pos {w : ℕ} (hw : 0 < w) {n : ℕ} (hn : 0 < n) : pieces w n = n ⌈/⌉ w := by
  have h := ceilDiv_le_iff_le_mul (b := n) (c := 0) hw
  unfold pieces
  omega

/-- Another piece follows the `k`-th exactly if items are left after it. -/
theorem succ_lt_pieces {w : ℕ} (hw : 0 < w) {n k : ℕ} : k + 1 < pieces w n ↔ w * (k + 1) < n := by
  have h := ceilDiv_le_iff_le_mul (b := n) (c := k + 1) hw
  unfold pieces
  rw [lt_max_iff]
  omega

/-- The last piece: everything before it is part of the list, and nothing is left after it. -/
theorem bounds_of_pieces_eq {w : ℕ} (hw : 0 < w) {n k : ℕ} (h : pieces w n = k + 1) :
    w * k ≤ n ∧ n ≤ w * (k + 1) := by
  have hlast : ¬ w * (k + 1) < n := by
    rw [← succ_lt_pieces hw, h]
    exact lt_irrefl _
  refine ⟨?_, Nat.le_of_not_lt hlast⟩
  cases k with
  | zero => exact Nat.zero_le _
  | succ k => exact ((succ_lt_pieces hw).mp (by omega)).le

/-- All pieces in order are the list. -/
theorem take_pieces {w : ℕ} (hw : 0 < w) (l : List α) : l.take (w * pieces w l.length) = l := by
  refine List.take_of_length_le ((ceilDiv_le_iff_le_mul hw).mp ?_)
  exact le_max_right _ _

/-- All pieces of a list, one after the other. -/
theorem flatMap_piece {w : ℕ} (hw : 0 < w) (l : List α) :
    (List.range (pieces w l.length)).flatMap (piece w l) = l := by
  rw [List.flatMap_def, flatten_map_piece, take_pieces hw]

/-- The bit of the `k`-th message: the first one is off. -/
def alternate (k : ℕ) : Bool := k % 2 = 1

@[simp] theorem alternate_zero : alternate 0 = false := rfl

@[simp] theorem alternate_succ (k : ℕ) : alternate (k + 1) = !alternate k := by
  rcases Nat.mod_two_eq_zero_or_one k with h | h <;> simp [alternate, Nat.add_mod, h]
