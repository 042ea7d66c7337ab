import Mathlib.Data.List.Basic

/-!
# Decimal numerals with thousands separators

`fmt`'s `%d` writes a number's decimal digits (`Nat.toDigits 10`), and `%03d`
pads them with zeros on the left to three.  A number of at least 1000 is
written as the digits of its thousands followed by the three padded digits
of its remainder (`toDigits_thousand`, `toDigits_of_thousand_le`).

A string groups a number's digits by thousands when it is the digits split,
from the right, into groups of three with a first group of one to three, and
commas between the groups (`ThousandsGrouped`).  Digits hold no comma, so the
first group of such a string is everything before its first comma
(`length_le_three_of_grouped`).  A number below 1000 is grouped by its digits
(`grouped_of_lt_thousand`), and each further group is its remainder by 1000
(`grouped_thousand`).
-/

namespace Decimal

/-- `%0*d`: the decimal digits of `n`, padded with zeros on the left to
`width`. -/
def zeroPad (width n : Nat) : List Char :=
  List.replicate (width - (Nat.toDigits 10 n).length) '0' ++ Nat.toDigits 10 n

/-- `s` writes the digits of `n` in groups of three from the right, with a
comma between groups: the first group has one to three digits, every later
one three. -/
def ThousandsGrouped (n : Nat) (s : List Char) : Prop :=
  ∃ (first : List Char) (later : List (List Char)),
    s = first ++ (later.map (',' :: ·)).flatten ∧ first ++ later.flatten = Nat.toDigits 10 n ∧
      0 < first.length ∧ first.length ≤ 3 ∧ ∀ group ∈ later, group.length = 3

theorem zeroPad_three {k : Nat} (small : k < 1000) :
    zeroPad 3 k = [Nat.digitChar (k / 100), Nat.digitChar (k / 10 % 10), Nat.digitChar (k % 10)] := by
  unfold zeroPad
  by_cases one : k < 10
  · rw [Nat.toDigits_of_lt_base one]
    have hundreds : k / 100 = 0 := by omega
    have tens : k / 10 % 10 = 0 := by omega
    have units : k % 10 = k := by omega
    rw [hundreds, tens, units]
    rfl
  · by_cases two : k < 100
    · rw [Nat.toDigits_of_base_le (by omega) (by omega), Nat.toDigits_of_lt_base (by omega : k / 10 < 10)]
      have hundreds : k / 100 = 0 := by omega
      have tens : k / 10 % 10 = k / 10 := by omega
      rw [hundreds, tens]
      rfl
    · rw [Nat.toDigits_of_base_le (by omega) (by omega), Nat.toDigits_of_base_le (by omega) (by omega),
        Nat.toDigits_of_lt_base (by omega : k / 10 / 10 < 10)]
      have hundreds : k / 10 / 10 = k / 100 := by omega
      rw [hundreds]
      rfl

/-- A number of at least 1000 is written as its thousands, then its remainder
in three digits. -/
theorem toDigits_thousand {a k : Nat} (positive : 0 < a) (small : k < 1000) :
    Nat.toDigits 10 (1000 * a + k) = Nat.toDigits 10 a ++ zeroPad 3 k := by
  rw [zeroPad_three small]
  have hundreds := Nat.toDigits_append_toDigits (b := 10) (n := a) (d := k / 100)
    (by omega) positive (by omega)
  have tens := Nat.toDigits_append_toDigits (b := 10) (n := 10 * a + k / 100) (d := k / 10 % 10)
    (by omega) (by omega) (by omega)
  have units := Nat.toDigits_append_toDigits (b := 10)
    (n := 10 * (10 * a + k / 100) + k / 10 % 10) (d := k % 10) (by omega) (by omega) (by omega)
  rw [Nat.toDigits_of_lt_base (by omega : k / 100 < 10)] at hundreds
  rw [Nat.toDigits_of_lt_base (by omega : k / 10 % 10 < 10)] at tens
  rw [Nat.toDigits_of_lt_base (by omega : k % 10 < 10)] at units
  have total : 10 * (10 * (10 * a + k / 100) + k / 10 % 10) + k % 10 = 1000 * a + k := by omega
  rw [← total, ← units, ← tens, ← hundreds]
  simp

/-- The same, read from the number: at or above 1000 its digits are those of
its thousands and then the three of its remainder. -/
theorem toDigits_of_thousand_le {n : Nat} (large : 1000 ≤ n) :
    Nat.toDigits 10 n = Nat.toDigits 10 (n / 1000) ++ zeroPad 3 (n % 1000) := by
  have split : 1000 * (n / 1000) + n % 1000 = n := Nat.div_add_mod n 1000
  rw [← toDigits_thousand (by omega) (Nat.mod_lt n (by omega)), split]

theorem length_zeroPad_three {k : Nat} (small : k < 1000) : (zeroPad 3 k).length = 3 := by
  rw [zeroPad_three small]
  rfl

theorem comma_not_mem_toDigits (n : Nat) : ',' ∉ Nat.toDigits 10 n := by
  intro mem
  have digit := Nat.isDigit_of_mem_toDigits (by decide) (by decide) mem
  exact absurd digit (by decide)

theorem comma_not_mem_zeroPad (width n : Nat) : ',' ∉ zeroPad width n := by
  rw [zeroPad, List.mem_append, not_or]
  exact ⟨fun mem => absurd (List.eq_of_mem_replicate mem) (by decide), comma_not_mem_toDigits n⟩

/-- Taking the commas out of a list that has none leaves it as it is. -/
theorem filter_comma_of_not_mem {s : List Char} (plain : ',' ∉ s) : s.filter (· != ',') = s := by
  rw [List.filter_eq_self]
  intro c mem
  have other : c ≠ ',' := fun same => plain (same ▸ mem)
  simpa using other

/-- The commas out of a part without any, a comma, and the rest: the part,
then the rest without commas. -/
theorem filter_comma_append_comma {front : List Char} (plain : ',' ∉ front) (back : List Char) :
    (front ++ ',' :: back).filter (· != ',') = front ++ back.filter (· != ',') := by
  have comma : ¬(',' != ',') = true := by decide
  rw [List.filter_append, List.filter_cons_of_neg (p := (· != ',')) comma,
    filter_comma_of_not_mem plain]

theorem length_toDigits_le_three {m : Nat} (small : m < 1000) : (Nat.toDigits 10 m).length ≤ 3 :=
  (Nat.length_toDigits_le_iff (by decide) (by decide)).mpr small

/-- A number below 1000 is grouped by its digits alone. -/
theorem grouped_of_lt_thousand {m : Nat} (small : m < 1000) :
    ThousandsGrouped m (Nat.toDigits 10 m) :=
  ⟨Nat.toDigits 10 m, [], by simp, by simp, Nat.length_toDigits_pos, length_toDigits_le_three small,
    by simp⟩

/-- The grouping of a number's thousands, with a comma and its remainder in
three digits after it, groups the number. -/
theorem grouped_thousand {n : Nat} {s : List Char} (large : 1000 ≤ n)
    (grouped : ThousandsGrouped (n / 1000) s) :
    ThousandsGrouped n (s ++ ',' :: zeroPad 3 (n % 1000)) := by
  obtain ⟨first, later, written, digits, nonempty, short, threes⟩ := grouped
  refine ⟨first, later ++ [zeroPad 3 (n % 1000)], ?_, ?_, nonempty, short, ?_⟩
  · rw [written, List.map_append, List.flatten_append, List.append_assoc]
    simp
  · rw [List.flatten_append, ← List.append_assoc, digits, toDigits_of_thousand_le large]
    simp
  · intro group mem
    rcases List.mem_append.mp mem with old | new
    · exact threes group old
    · rw [List.mem_singleton.mp new]
      exact length_zeroPad_three (Nat.mod_lt n (by omega))

/-- Two ways of writing a list as a part without `a`, then `a`, have the same
part. -/
theorem eq_of_append_cons_eq {a : Char} :
    ∀ {front front' back back' : List Char}, a ∉ front → a ∉ front' →
      front ++ a :: back = front' ++ a :: back' → front = front'
  | [], [], _, _, _, _, _ => rfl
  | [], b :: _, _, _, _, without', same => by
    cases (List.cons.inj same).1
    exact absurd (List.mem_cons_self ..) without'
  | b :: _, [], _, _, without, _, same => by
    cases (List.cons.inj same).1
    exact absurd (List.mem_cons_self ..) without
  | b :: front, b' :: front', _, _, without, without', same => by
    obtain ⟨rfl, rest⟩ := List.cons.inj same
    rw [eq_of_append_cons_eq (List.not_mem_of_not_mem_cons without)
      (List.not_mem_of_not_mem_cons without') rest]

/-- In a string grouped by thousands, what stands before the first comma is
the first group, of at most three digits. -/
theorem length_le_three_of_grouped {n : Nat} {front back : List Char} (plain : ',' ∉ front)
    (grouped : ThousandsGrouped n (front ++ ',' :: back)) : front.length ≤ 3 := by
  obtain ⟨first, later, written, digits, -, short, -⟩ := grouped
  have firstPlain : ',' ∉ first := fun mem =>
    comma_not_mem_toDigits n (digits ▸ List.mem_append_left _ mem)
  cases later with
  | nil =>
    rw [List.map_nil, List.flatten_nil, List.append_nil] at written
    exact absurd (written ▸ List.mem_append_right front (List.mem_cons_self ..)) firstPlain
  | cons group rest =>
    rw [List.map_cons, List.flatten_cons, List.cons_append] at written
    rw [eq_of_append_cons_eq plain firstPlain written]
    exact short

end Decimal
