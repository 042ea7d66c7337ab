import Mathlib.Tactic.Ring

/-!
# Wrapping counters

A counter kept in a `UInt64` and advanced by one wraps to zero after
`2 ^ 64 - 1`.  These facts relate its successor to the successor of its
value as a natural number, on each side of the wrap.

A counter kept in an `Int32` and started at zero is the natural number of
its increments taken modulo `2 ^ 32`: it reads as that number, and compares
as it, while the number stays below `2 ^ 31`, and it is negative from there
on.

An `Int64` sum is the integer sum wrapped into the signed range, so it is the
integer sum while that fits; dividing by a positive `Int64` truncates toward
zero as on the integers.
-/

namespace UInt64

theorem toNat_add_one_of_lt {n : UInt64} (noWrap : n.toNat + 1 < 2 ^ 64) :
    (n + 1).toNat = n.toNat + 1 := by
  rw [UInt64.toNat_add, UInt64.toNat_one]
  omega

theorem add_one_eq_zero_of {n : UInt64} (wraps : n.toNat + 1 = 2 ^ 64) : n + 1 = 0 := by
  apply UInt64.toNat_inj.mp
  rw [UInt64.toNat_add, UInt64.toNat_one, wraps]
  rfl

/-- Below the wrap, the successor is strictly above. -/
theorem lt_add_one_of_lt {n : UInt64} (noWrap : n.toNat + 1 < 2 ^ 64) : n < n + 1 := by
  rw [UInt64.lt_iff_toNat_lt, toNat_add_one_of_lt noWrap]
  omega

/-- Below the wrap, a mark at or below a counter stays at or below its successor. -/
theorem le_add_one_of_le {m n : UInt64} (behind : m ≤ n) (noWrap : n.toNat + 1 < 2 ^ 64) :
    m ≤ n + 1 := by
  rw [UInt64.le_iff_toNat_le] at behind ⊢
  rw [toNat_add_one_of_lt noWrap]
  omega

/-- A mark at or below a counter is below its successor, unless the successor
wraps to zero. -/
theorem add_one_eq_zero_or_lt_of_le {m n : UInt64} (behind : m ≤ n) : n + 1 = 0 ∨ m < n + 1 := by
  by_cases wraps : n.toNat + 1 = 2 ^ 64
  · exact .inl (add_one_eq_zero_of wraps)
  have noWrap : n.toNat + 1 < 2 ^ 64 := by
    have := n.toNat_lt
    omega
  rw [UInt64.le_iff_toNat_le] at behind
  rw [UInt64.lt_iff_toNat_lt, toNat_add_one_of_lt noWrap]
  omega

/-- Advancing by one and then by `count` is advancing by `count + 1`. -/
theorem add_one_add_ofNat (n : UInt64) (count : Nat) :
    n + 1 + ofNat count = n + ofNat (count + 1) := by
  rw [UInt64.add_assoc]
  congr 1
  apply UInt64.toNat_inj.mp
  simp [UInt64.toNat_add, UInt64.toNat_ofNat']
  omega

end UInt64

namespace Int32

/-- Counting one more, before any wrap. -/
theorem ofNat_sub_one_add_one {n : Nat} (positive : 0 < n) : ofNat (n - 1) + 1 = ofNat n := by
  have counted : n - 1 + 1 = n := by omega
  rw [← counted, ofNat_add]
  rfl

/-- Below `2 ^ 31`, counters compare as their counts. -/
theorem ofNat_le_ofNat_iff {m n : Nat} (mSmall : m < 2 ^ 31) (nSmall : n < 2 ^ 31) :
    ofNat m ≤ ofNat n ↔ m ≤ n := by
  rw [le_iff_toInt_le, toInt_ofNat_of_lt mSmall, toInt_ofNat_of_lt nSmall]
  omega

end Int32

namespace Int64

/-- An `int64` sum is the integer sum, wrapped into the signed range. -/
theorem toInt_sum (xs : List Int64) : xs.sum.toInt = ((xs.map toInt).sum).bmod (2 ^ 64) := by
  induction xs with
  | nil => rfl
  | cons x rest ih =>
    rw [List.sum_cons, toInt_add, ih, List.map_cons, List.sum_cons, Int.add_bmod_bmod]

theorem toInt_sum_of_fits {xs : List Int64}
    (fits : (xs.map toInt).sum < 2 ^ 63 ∧ -2 ^ 63 ≤ (xs.map toInt).sum) :
    xs.sum.toInt = (xs.map toInt).sum := by
  rw [toInt_sum]
  apply Int.bmod_eq_of_le <;> omega

theorem toInt_div_of_pos (x : Int64) {y : Int64} (positive : 0 < y.toInt) :
    (x / y).toInt = x.toInt.tdiv y.toInt := by
  have shrinks := Int.natAbs_tdiv_le_natAbs x.toInt y.toInt
  have above := le_toInt x
  have below := toInt_lt x
  -- Only `-2 ^ 63 / -1` leaves the range, and the divisor is positive.
  have noOverflow : x.toInt.tdiv y.toInt < 2 ^ 63 := by
    rcases Int.le_total 0 x.toInt with nonneg | nonpos
    · omega
    · have flipped := Int.tdiv_nonneg (a := -x.toInt) (b := y.toInt) (by omega) (by omega)
      rw [Int.neg_tdiv] at flipped
      omega
  rw [toInt_div]
  apply Int.bmod_eq_of_le <;> omega

theorem ofNat_ne_zero {n : Nat} (positive : 0 < n) (small : n < 2 ^ 63) : ofNat n ≠ 0 := by
  intro zero
  have read := congrArg toInt zero
  rw [toInt_ofNat_of_lt small] at read
  simp at read
  omega

end Int64
