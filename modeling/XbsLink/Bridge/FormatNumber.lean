import XbsLink.Lib.Decimal
import Mathlib

/-!
# Thousands separators in the statistics line

`printStats` writes the packet counters, which are `uint64` and grow for the
whole session, with `formatNumber`.  It has one branch below 1000, one below
a million, and one for everything else, which writes the millions as they
are.

Removing the commas always gives the number's digits (`filter_formatNumber`).
The digits are grouped by thousands exactly below 10^9
(`formatNumber_grouped_iff`): from there on the millions take four digits or
more, and the first group is too long (`formatNumber_billion`).
-/

namespace XbsLink.Bridge

/-- `formatNumber`, with `fmt`'s `%d` as `Nat.toDigits 10` and `%03d` as
`Decimal.zeroPad 3`. -/
def formatNumber (n : UInt64) : List Char :=
  if n < 1000 then Nat.toDigits 10 n.toNat
  else if n < 1000000 then
    Nat.toDigits 10 (n / 1000).toNat ++ ',' :: Decimal.zeroPad 3 (n % 1000).toNat
  else
    Nat.toDigits 10 (n / 1000000).toNat ++ ',' :: Decimal.zeroPad 3 (n / 1000 % 1000).toNat ++
      ',' :: Decimal.zeroPad 3 (n % 1000).toNat

/-- The three branches, read on the number's value. -/
theorem formatNumber_cases (n : UInt64) :
    (n.toNat < 1000 ∧ formatNumber n = Nat.toDigits 10 n.toNat) ∨
      (1000 ≤ n.toNat ∧ n.toNat < 1000000 ∧
        formatNumber n = Nat.toDigits 10 (n.toNat / 1000) ++ ',' :: Decimal.zeroPad 3 (n.toNat % 1000)) ∨
      (1000000 ≤ n.toNat ∧
        formatNumber n = Nat.toDigits 10 (n.toNat / 1000000) ++
          ',' :: (Decimal.zeroPad 3 (n.toNat / 1000 % 1000) ++ ',' :: Decimal.zeroPad 3 (n.toNat % 1000))) := by
  unfold formatNumber
  by_cases small : n < 1000
  · exact .inl ⟨UInt64.lt_iff_toNat_lt.mp small, by rw [if_pos small]⟩
  · have atLeast : 1000 ≤ n.toNat := by
      rw [UInt64.lt_iff_toNat_lt] at small
      simpa using small
    by_cases middle : n < 1000000
    · refine .inr (.inl ⟨atLeast, UInt64.lt_iff_toNat_lt.mp middle, ?_⟩)
      rw [if_neg small, if_pos middle, UInt64.toNat_div, UInt64.toNat_mod]
      rfl
    · have millions : 1000000 ≤ n.toNat := by
        rw [UInt64.lt_iff_toNat_lt] at middle
        simpa using middle
      refine .inr (.inr ⟨millions, ?_⟩)
      rw [if_neg small, if_neg middle, UInt64.toNat_div, UInt64.toNat_mod, UInt64.toNat_mod,
        UInt64.toNat_div]
      simp

/-- Removing the commas from `formatNumber n` gives the decimal digits of `n`,
whatever its size. -/
theorem filter_formatNumber (n : UInt64) :
    (formatNumber n).filter (· != ',') = Nat.toDigits 10 n.toNat := by
  rcases formatNumber_cases n with ⟨-, written⟩ | ⟨large, -, written⟩ | ⟨millions, written⟩
  · rw [written, Decimal.filter_comma_of_not_mem (Decimal.comma_not_mem_toDigits _)]
  · rw [written, Decimal.filter_comma_append_comma (Decimal.comma_not_mem_toDigits _),
      Decimal.filter_comma_of_not_mem (Decimal.comma_not_mem_zeroPad _ _),
      ← Decimal.toDigits_of_thousand_le large]
  · have thousands : 1000 ≤ n.toNat / 1000 := by omega
    have nested : n.toNat / 1000 / 1000 = n.toNat / 1000000 := by omega
    rw [written, Decimal.filter_comma_append_comma (Decimal.comma_not_mem_toDigits _),
      Decimal.filter_comma_append_comma (Decimal.comma_not_mem_zeroPad _ _),
      Decimal.filter_comma_of_not_mem (Decimal.comma_not_mem_zeroPad _ _),
      Decimal.toDigits_of_thousand_le (by omega : 1000 ≤ n.toNat),
      Decimal.toDigits_of_thousand_le thousands, nested, List.append_assoc]

/-- Below 10^9 the millions have at most three digits, and the number is
grouped by thousands. -/
theorem grouped_formatNumber {n : UInt64} (small : n.toNat < 10 ^ 9) :
    Decimal.ThousandsGrouped n.toNat (formatNumber n) := by
  rcases formatNumber_cases n with ⟨below, written⟩ | ⟨large, below, written⟩ | ⟨millions, written⟩
  · rw [written]
    exact Decimal.grouped_of_lt_thousand below
  · rw [written]
    exact Decimal.grouped_thousand large (Decimal.grouped_of_lt_thousand (by omega))
  · have thousands : 1000 ≤ n.toNat / 1000 := by omega
    have nested : n.toNat / 1000 / 1000 = n.toNat / 1000000 := by omega
    have grouped := Decimal.grouped_thousand (by omega : 1000 ≤ n.toNat)
      (Decimal.grouped_thousand thousands (Decimal.grouped_of_lt_thousand (by omega)))
    rw [nested, List.append_assoc, List.cons_append] at grouped
    rw [written]
    exact grouped

example : formatNumber 12345678 = "12,345,678".toList := by decide

/-- From 10^9 on, what stands before the first comma is the millions, of four
digits or more: too many for a first group. -/
theorem not_grouped_formatNumber {n : UInt64} (large : 10 ^ 9 ≤ n.toNat) :
    ¬Decimal.ThousandsGrouped n.toNat (formatNumber n) := by
  intro grouped
  rcases formatNumber_cases n with ⟨below, -⟩ | ⟨-, below, -⟩ | ⟨-, written⟩
  · omega
  · omega
  · rw [written] at grouped
    have short := Decimal.length_le_three_of_grouped (Decimal.comma_not_mem_toDigits _) grouped
    have few := (Nat.length_toDigits_le_iff (by decide) (by decide)).mp short
    omega

/-- `formatNumber` writes every counter with its digits, and groups them by
thousands exactly below 10^9. -/
theorem formatNumber_grouped_iff (n : UInt64) :
    (formatNumber n).filter (· != ',') = Nat.toDigits 10 n.toNat ∧
      (Decimal.ThousandsGrouped n.toNat (formatNumber n) ↔ n.toNat < 10 ^ 9) := by
  refine ⟨filter_formatNumber n, fun grouped => ?_, grouped_formatNumber⟩
  by_contra large
  exact not_grouped_formatNumber (Nat.le_of_not_lt large) grouped

/-- A billion packets are written "1000,000,000", with four digits before the
first comma. -/
theorem formatNumber_billion :
    formatNumber 1000000000 = "1000,000,000".toList ∧
      ¬Decimal.ThousandsGrouped 1000000000 (formatNumber 1000000000) :=
  ⟨by decide, not_grouped_formatNumber (by decide)⟩

end XbsLink.Bridge
