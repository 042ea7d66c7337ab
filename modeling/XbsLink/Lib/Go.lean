import XbsLink.Lib.BigEndian

/-!
# Run-time checks of Go

Go checks every index and slice expression at run time and panics when the
check fails, and an integer division panics on a zero divisor.  Each operation
here returns `none` where the check fails, so a function written with them
states that it never panics by computing `some`.

A slice is checked against its length.  Go checks `s[lo:hi]` against the
capacity, which is never below the length, so a slice taken here is one Go
takes too.  The fixed-width reads of `encoding/binary` index their last byte
before anything else and fail on a short slice the same way.  Division of
signed integers truncates toward zero in both languages.
-/

namespace Go

variable {α : Type}

/-- A string literal of ASCII text, as its bytes. -/
def bytes (s : String) : List UInt8 := s.toList.map Char.toUInt8

/-- `s[i]`. -/
def index? (s : List α) (i : Nat) : Option α := s[i]?

/-- `s[lo:hi]`. -/
def slice? (s : List α) (lo hi : Nat) : Option (List α) :=
  if lo ≤ hi ∧ hi ≤ s.length then some (s.extract lo hi) else none

/-- `binary.BigEndian.Uint16(b)`. -/
def uint16? (b : List UInt8) : Option UInt16 :=
  if 2 ≤ b.length then some (BigEndian.uint16 b) else none

/-- `binary.BigEndian.Uint64(b)`. -/
def uint64? (b : List UInt8) : Option UInt64 :=
  if 8 ≤ b.length then some (BigEndian.uint64 b) else none

/-- `x / y` on `int64`. -/
def div? (x y : Int64) : Option Int64 :=
  if y = 0 then none else some (x / y)

theorem index?_cons_zero (a : α) (rest : List α) : index? (a :: rest) 0 = some a := rfl

theorem slice?_of_le {s : List α} {lo hi : Nat} (ordered : lo ≤ hi) (within : hi ≤ s.length) :
    slice? s lo hi = some (s.extract lo hi) := by
  rw [slice?, if_pos ⟨ordered, within⟩]

/-- A slice to the end: `s[lo:]`. -/
theorem slice?_length {s : List α} {lo : Nat} (within : lo ≤ s.length) :
    slice? s lo s.length = some (s.drop lo) := by
  rw [slice?_of_le within le_rfl, List.extract_eq_take_drop, List.take_of_length_le]
  simp

theorem length_extract_of_le {s : List α} {lo hi : Nat} (within : hi ≤ s.length) :
    (s.extract lo hi).length = hi - lo := by
  rw [List.extract_eq_take_drop, List.length_take, List.length_drop]
  omega

theorem uint16?_of_le {b : List UInt8} (long : 2 ≤ b.length) : uint16? b = some (BigEndian.uint16 b) := by
  rw [uint16?, if_pos long]

theorem uint64?_of_le {b : List UInt8} (long : 8 ≤ b.length) : uint64? b = some (BigEndian.uint64 b) := by
  rw [uint64?, if_pos long]

theorem div?_of_ne {x y : Int64} (nonzero : y ≠ 0) : div? x y = some (x / y) := by
  rw [div?, if_neg nonzero]

end Go
