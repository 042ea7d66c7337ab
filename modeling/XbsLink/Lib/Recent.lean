import Mathlib.Data.List.DropRight

/-!
# The most recent items

A buffer that keeps the last `k` items of a stream: each arriving item is
appended, and the oldest is dropped when the buffer then holds more than `k`.
Fed the items of a stream, it holds the last `min n k` of the `n` so far, in
order, which is `List.rtake` (`push_rtake`).
-/

namespace Recent

variable {α : Type*}

/-- Appends `x`, dropping the oldest item when more than `k` would be kept. -/
def push (k : Nat) (buffer : List α) (x : α) : List α :=
  if k < (buffer ++ [x]).length then (buffer ++ [x]).drop 1 else buffer ++ [x]

theorem length_rtake (items : List α) (k : Nat) : (items.rtake k).length = min items.length k := by
  rw [List.rtake, List.length_drop]
  omega

/-- A buffer of at most `k` items keeps at most `k`. -/
theorem length_push_le {k : Nat} {buffer : List α} (short : buffer.length ≤ k) (x : α) :
    (push k buffer x).length ≤ k := by
  unfold push
  split_ifs with full
  · rw [List.length_drop, List.length_append, List.length_singleton]
    omega
  · rw [List.length_append, List.length_singleton] at full ⊢
    omega

/-- One more item moves the window of the last `k` on by one. -/
theorem push_rtake (items : List α) (x : α) (k : Nat) :
    push k (items.rtake k) x = (items ++ [x]).rtake k := by
  have kept := length_rtake items k
  unfold push
  by_cases full : k ≤ items.length
  · rw [if_pos (by simp; omega)]
    unfold List.rtake
    rw [List.drop_append, List.drop_append, List.drop_drop, List.length_drop, List.length_append,
      List.length_singleton]
    congr 2 <;> omega
  · rw [if_neg (by simp; omega)]
    unfold List.rtake
    rw [List.length_append, List.length_singleton, Nat.sub_eq_zero_of_le (by omega),
      Nat.sub_eq_zero_of_le (by omega), List.drop_zero, List.drop_zero]

end Recent
