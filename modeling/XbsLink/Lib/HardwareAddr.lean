import Mathlib.Data.UInt

/-!
# Hardware addresses in Go's `net`

`net.ParseMAC` reads an IEEE 802 MAC-48, EUI-48, EUI-64 or a 20-octet IP over
InfiniBand link-layer address: 6, 8 or 20 bytes, written as pairs of hex
digits separated by `:` or by `-`, or as groups of four hex digits separated
by `.`.  `HardwareAddr.String` writes the pairs in lower case, separated by
`:`.  A string is its bytes.

The printer writes ASCII, and the parser reads back what it writes, for each
of the three lengths (`parseMAC_hardwareAddrString`); what it accepts is 6, 8 or 20 bytes long
(`length_of_parseMAC`); and a rewriting of separators that keeps the hex digits
and the dots parses to the same bytes (`parseMAC_map`).
-/

namespace Net

/-- `hexDigit[n]`, the lower-case digit of a value below 16. -/
def hexDigit (n : UInt8) : UInt8 := if n < 10 then '0'.toUInt8 + n else 'a'.toUInt8 + (n - 10)

/-- The value of one hex digit, in either case, as `xtoi` reads it. -/
def hexDigitValue (c : UInt8) : Option UInt8 :=
  if '0'.toUInt8 ≤ c ∧ c ≤ '9'.toUInt8 then some (c - '0'.toUInt8)
  else if 'a'.toUInt8 ≤ c ∧ c ≤ 'f'.toUInt8 then some (c - 'a'.toUInt8 + 10)
  else if 'A'.toUInt8 ≤ c ∧ c ≤ 'F'.toUInt8 then some (c - 'A'.toUInt8 + 10)
  else none

/-- The two digits `HardwareAddr.String` writes for a byte. -/
def hexPair (b : UInt8) : List UInt8 := [hexDigit (b >>> 4), hexDigit (b &&& 0xF)]

/-- `HardwareAddr.String`: the bytes' digit pairs, separated by `:`. -/
def hardwareAddrString : List UInt8 → List UInt8
  | [] => []
  | [b] => hexPair b
  | b :: c :: rest => hexPair b ++ ':'.toUInt8 :: hardwareAddrString (c :: rest)

/-- `xtoi2`: the byte of the two hex digits that start `s`, where a third byte,
if there is one, must be `e`. -/
def xtoi2 (s : List UInt8) (e : UInt8) : Option UInt8 :=
  if 2 < s.length ∧ s.getD 2 0 ≠ e then none
  else
    match s with
    | hi :: lo :: _ => do
        let high ← hexDigitValue hi
        let low ← hexDigitValue lo
        pure (high * 16 + low)
    | _ => none

/-- The loop over pairs: `count` bytes, one from each `s[x:]`, `x` going up by 3. -/
def colonGroups (e : UInt8) : Nat → List UInt8 → Option (List UInt8)
  | 0, _ => some []
  | count + 1, s => do
      let b ← xtoi2 s e
      let rest ← colonGroups e count (s.drop 3)
      pure (b :: rest)

/-- The loop over groups of four digits: two bytes from each `s[x:x+2]` and
`s[x+2:]`, `x` going up by 5. -/
def dotGroups (e : UInt8) : Nat → List UInt8 → Option (List UInt8)
  | 0, _ => some []
  | count + 1, s => do
      let high ← xtoi2 (s.take 2) 0
      let low ← xtoi2 (s.drop 2) e
      let rest ← dotGroups e count (s.drop 5)
      pure (high :: low :: rest)

/-- `net.AddrError`. -/
structure AddrError where
  err : String
  addr : List UInt8
  deriving DecidableEq, Repr

/-- `net.ParseMAC`. -/
def parseMAC (s : List UInt8) : Except AddrError (List UInt8) :=
  let failed : Except AddrError (List UInt8) := .error ⟨"invalid MAC address", s⟩
  if s.length < 14 then failed
  else if s.getD 2 0 = ':'.toUInt8 ∨ s.getD 2 0 = '-'.toUInt8 then
    if (s.length + 1) % 3 ≠ 0 then failed
    else
      let n := (s.length + 1) / 3
      if n ≠ 6 ∧ n ≠ 8 ∧ n ≠ 20 then failed
      else
        match colonGroups (s.getD 2 0) n s with
        | some hw => .ok hw
        | none => failed
  else if s.getD 4 0 = '.'.toUInt8 then
    if (s.length + 1) % 5 ≠ 0 then failed
    else
      let n := 2 * (s.length + 1) / 5
      if n ≠ 6 ∧ n ≠ 8 ∧ n ≠ 20 then failed
      else
        match dotGroups (s.getD 4 0) (n / 2) s with
        | some hw => .ok hw
        | none => failed
  else failed

/-! ## Digits -/

theorem toNat_shiftRight_four (b : UInt8) : (b >>> 4).toNat = b.toNat / 16 := by
  simp [UInt8.toNat_shiftRight, Nat.shiftRight_eq_div_pow]

theorem toNat_and_fifteen (b : UInt8) : (b &&& 0xF).toNat = b.toNat % 16 := by
  have low : b.toNat &&& 15 = b.toNat % 16 := Nat.and_two_pow_sub_one_eq_mod b.toNat 4
  simp [UInt8.toNat_and, low]

/-- A byte is its high digit times 16 and its low digit. -/
theorem nibbles (b : UInt8) : (b >>> 4) * 16 + (b &&& 0xF) = b := by
  apply UInt8.toNat_inj.mp
  have bound := b.toNat_lt
  simp only [UInt8.toNat_add, UInt8.toNat_mul, toNat_shiftRight_four, toNat_and_fifteen]
  simp
  omega

theorem hexDigitValue_hexDigit {n : UInt8} (small : n.toNat < 16) :
    hexDigitValue (hexDigit n) = some n := by
  have digits : ∀ k < 16, hexDigitValue (hexDigit (UInt8.ofNat k)) = some (UInt8.ofNat k) := by
    decide
  have read := digits n.toNat small
  rwa [UInt8.ofNat_toNat] at read

/-- A byte's digit pair reads back as the byte, when what follows is nothing or
the separator. -/
theorem xtoi2_hexPair (b : UInt8) {e : UInt8} {rest : List UInt8}
    (ends : rest = [] ∨ rest.head? = some e) : xtoi2 (hexPair b ++ rest) e = some b := by
  have separated : ¬(2 < (hexPair b ++ rest).length ∧ (hexPair b ++ rest).getD 2 0 ≠ e) := by
    rcases ends with rfl | headed
    · simp [hexPair]
    · cases rest with
      | nil => cases headed
      | cons c tail =>
        cases headed
        simp [hexPair]
  have bound := b.toNat_lt
  have high := hexDigitValue_hexDigit (by rw [toNat_shiftRight_four]; omega : (b >>> 4).toNat < 16)
  have low := hexDigitValue_hexDigit (by rw [toNat_and_fifteen]; omega : (b &&& 0xF).toNat < 16)
  unfold xtoi2
  rw [if_neg separated]
  simp only [hexPair, List.cons_append, high, low, Option.pure_def, Option.bind_eq_bind, Option.bind_some]
  rw [nibbles]

/-! ## Reading back what `HardwareAddr.String` writes -/

theorem colonGroups_hardwareAddrString (b : UInt8) (rest : List UInt8) :
    colonGroups ':'.toUInt8 (rest.length + 1) (hardwareAddrString (b :: rest)) = some (b :: rest) := by
  induction rest generalizing b with
  | nil =>
    rw [hardwareAddrString, colonGroups, ← List.append_nil (hexPair b), xtoi2_hexPair b (.inl rfl)]
    rfl
  | cons c rest ih =>
    have dropped : (hexPair b ++ ':'.toUInt8 :: hardwareAddrString (c :: rest)).drop 3 =
        hardwareAddrString (c :: rest) := rfl
    rw [hardwareAddrString, List.length_cons, colonGroups, xtoi2_hexPair b (.inr rfl), dropped, ih]
    rfl

/-- What the printer writes is ASCII. -/
theorem ascii_hardwareAddrString (m : List UInt8) : ∀ c ∈ hardwareAddrString m, c < 128 := by
  have digits : ∀ k < 16, hexDigit (UInt8.ofNat k) < 128 := by decide
  have ascii : ∀ b : UInt8, ∀ c ∈ hexPair b, c < 128 := by
    intro b c mem
    have bound := b.toNat_lt
    simp only [hexPair, List.mem_cons, List.not_mem_nil, or_false] at mem
    rcases mem with rfl | rfl
    · have high := digits (b >>> 4).toNat (by rw [toNat_shiftRight_four]; omega)
      rwa [UInt8.ofNat_toNat] at high
    · have low := digits (b &&& 0xF).toNat (by rw [toNat_and_fifteen]; omega)
      rwa [UInt8.ofNat_toNat] at low
  induction m with
  | nil => simp [hardwareAddrString]
  | cons b rest ih =>
    cases rest with
    | nil => exact ascii b
    | cons c rest =>
      intro d mem
      rw [hardwareAddrString, List.mem_append, List.mem_cons] at mem
      rcases mem with pair | rfl | later
      · exact ascii b d pair
      · decide
      · exact ih d later

theorem length_hardwareAddrString (b : UInt8) (rest : List UInt8) :
    (hardwareAddrString (b :: rest)).length + 1 = 3 * (rest.length + 1) := by
  induction rest generalizing b with
  | nil => rfl
  | cons c rest ih =>
    rw [hardwareAddrString, List.length_append, List.length_cons, ih]
    simp [hexPair]
    omega

/-- The parser reads back each address of 6, 8 or 20 bytes the printer writes. -/
theorem parseMAC_hardwareAddrString {m : List UInt8}
    (sized : m.length = 6 ∨ m.length = 8 ∨ m.length = 20) :
    parseMAC (hardwareAddrString m) = .ok m := by
  obtain ⟨b, c, rest, rfl⟩ : ∃ b c rest, m = b :: c :: rest := by
    match m, sized with
    | b :: c :: rest, _ => exact ⟨b, c, rest, rfl⟩
  have length := length_hardwareAddrString b (c :: rest)
  simp only [List.length_cons] at sized length
  have separator : (hardwareAddrString (b :: c :: rest)).getD 2 0 = ':'.toUInt8 := rfl
  have groups := colonGroups_hardwareAddrString b (c :: rest)
  rw [List.length_cons] at groups
  have count : ((hardwareAddrString (b :: c :: rest)).length + 1) / 3 = rest.length + 2 := by
    omega
  rw [parseMAC, if_neg (by omega), if_pos (.inl separator), if_neg (by omega)]
  dsimp only
  rw [count, if_neg (by omega), separator, groups]

/-! ## What the parser accepts -/

theorem length_of_colonGroups {e : UInt8} {count : Nat} {s hw : List UInt8}
    (read : colonGroups e count s = some hw) : hw.length = count := by
  induction count generalizing s hw with
  | zero =>
    cases read
    rfl
  | succ count ih =>
    simp only [colonGroups, Option.bind_eq_bind, Option.pure_def] at read
    obtain ⟨b, -, later⟩ := Option.bind_eq_some_iff.mp read
    obtain ⟨rest, readRest, filled⟩ := Option.bind_eq_some_iff.mp later
    cases filled
    simp [ih readRest]

theorem length_of_dotGroups {e : UInt8} {count : Nat} {s hw : List UInt8}
    (read : dotGroups e count s = some hw) : hw.length = 2 * count := by
  induction count generalizing s hw with
  | zero =>
    cases read
    rfl
  | succ count ih =>
    simp only [dotGroups, Option.bind_eq_bind, Option.pure_def] at read
    obtain ⟨high, -, later⟩ := Option.bind_eq_some_iff.mp read
    obtain ⟨low, -, later⟩ := Option.bind_eq_some_iff.mp later
    obtain ⟨rest, readRest, filled⟩ := Option.bind_eq_some_iff.mp later
    cases filled
    simp [ih readRest]
    omega

/-- An address the parser accepts is 6, 8 or 20 bytes long. -/
theorem length_of_parseMAC {s hw : List UInt8} (parsed : parseMAC s = .ok hw) :
    hw.length = 6 ∨ hw.length = 8 ∨ hw.length = 20 := by
  unfold parseMAC at parsed
  dsimp only at parsed
  split_ifs at parsed with short colon misaligned wrongCount dot misalignedDot wrongCountDot
  · split at parsed
    · rename_i read
      cases parsed
      rw [length_of_colonGroups read]
      omega
    · cases parsed
  · split at parsed
    · rename_i read
      cases parsed
      rw [length_of_dotGroups read]
      omega
    · cases parsed

/-! ## Rewriting the separators -/

section Rewrite

variable {r : UInt8 → UInt8}

theorem getD_map_of_lt {s : List UInt8} {i : Nat} (within : i < s.length) (d : UInt8) :
    (s.map r).getD i d = r (s.getD i d) := by
  simp [within]

/-- Without a third byte the separator is not looked at. -/
theorem xtoi2_of_length_le {s : List UInt8} (short : s.length ≤ 2) (e e' : UInt8) :
    xtoi2 s e = xtoi2 s e' := by
  unfold xtoi2
  rw [if_neg (by omega), if_neg (by omega)]

/-- A map that keeps the hex digits reads the same byte, against the mapped
separator. -/
theorem xtoi2_map (keepsDigits : ∀ c, (hexDigitValue c).isSome → r c = c) {s : List UInt8}
    {e b : UInt8} (read : xtoi2 s e = some b) : xtoi2 (s.map r) (r e) = some b := by
  unfold xtoi2 at read ⊢
  by_cases mismatched : 2 < s.length ∧ s.getD 2 0 ≠ e
  · rw [if_pos mismatched] at read
    cases read
  · rw [if_neg mismatched] at read
    match s, read, mismatched with
    | hi :: lo :: tail, read, mismatched =>
      simp only [Option.pure_def, Option.bind_eq_bind] at read
      obtain ⟨high, readHigh, later⟩ := Option.bind_eq_some_iff.mp read
      obtain ⟨low, readLow, -⟩ := Option.bind_eq_some_iff.mp later
      have keptHigh := keepsDigits hi (by rw [readHigh]; rfl)
      have keptLow := keepsDigits lo (by rw [readLow]; rfl)
      have separated : ¬(2 < ((hi :: lo :: tail).map r).length ∧
          ((hi :: lo :: tail).map r).getD 2 0 ≠ r e) := by
        rintro ⟨long, differs⟩
        cases tail with
        | nil => simp at long
        | cons third tail =>
          have third_eq : third = e := by
            by_contra other
            exact mismatched ⟨by simp, by simpa using other⟩
          simp [third_eq] at differs
      rw [if_neg separated, List.map_cons, List.map_cons, keptHigh, keptLow]
      exact read

theorem colonGroups_map (keepsDigits : ∀ c, (hexDigitValue c).isSome → r c = c) {e : UInt8}
    {count : Nat} {s hw : List UInt8} (read : colonGroups e count s = some hw) :
    colonGroups (r e) count (s.map r) = some hw := by
  induction count generalizing s hw with
  | zero => exact read
  | succ count ih =>
    simp only [colonGroups, Option.bind_eq_bind, Option.pure_def] at read ⊢
    obtain ⟨b, readB, later⟩ := Option.bind_eq_some_iff.mp read
    obtain ⟨rest, readRest, filled⟩ := Option.bind_eq_some_iff.mp later
    rw [xtoi2_map keepsDigits readB, Option.bind_some, ← List.map_drop, ih readRest,
      Option.bind_some, filled]

theorem dotGroups_map (keepsDigits : ∀ c, (hexDigitValue c).isSome → r c = c) {e : UInt8}
    {count : Nat} {s hw : List UInt8} (read : dotGroups e count s = some hw) :
    dotGroups (r e) count (s.map r) = some hw := by
  induction count generalizing s hw with
  | zero => exact read
  | succ count ih =>
    simp only [dotGroups, Option.bind_eq_bind, Option.pure_def] at read ⊢
    obtain ⟨high, readHigh, later⟩ := Option.bind_eq_some_iff.mp read
    obtain ⟨low, readLow, later⟩ := Option.bind_eq_some_iff.mp later
    obtain ⟨rest, readRest, filled⟩ := Option.bind_eq_some_iff.mp later
    have highMapped : xtoi2 ((s.map r).take 2) 0 = some high := by
      rw [← List.map_take, xtoi2_of_length_le (by simp) 0 (r 0)]
      exact xtoi2_map keepsDigits readHigh
    rw [highMapped, Option.bind_some, ← List.map_drop, xtoi2_map keepsDigits readLow,
      Option.bind_some, ← List.map_drop, ih readRest, Option.bind_some, filled]

/-- In the form with dots, the third byte is a digit. -/
theorem hexDigit_of_dotGroups {e : UInt8} {count : Nat} {s hw : List UInt8}
    (read : dotGroups e (count + 1) s = some hw) : (hexDigitValue (s.getD 2 0)).isSome := by
  simp only [dotGroups, Option.bind_eq_bind, Option.pure_def] at read
  obtain ⟨high, -, later⟩ := Option.bind_eq_some_iff.mp read
  obtain ⟨low, readLow, -⟩ := Option.bind_eq_some_iff.mp later
  unfold xtoi2 at readLow
  split_ifs at readLow
  match s, readLow with
  | _ :: _ :: third :: _ :: _, readLow =>
    simp only [List.drop_succ_cons, List.drop_zero, Option.pure_def, Option.bind_eq_bind] at readLow
    obtain ⟨digit, readDigit, -⟩ := Option.bind_eq_some_iff.mp readLow
    simp [readDigit]

/-- Rewriting separators into separators, and keeping the digits and the dots,
changes nothing the parser reads. -/
theorem parseMAC_map (keepsDigits : ∀ c, (hexDigitValue c).isSome → r c = c)
    (keepsDot : r '.'.toUInt8 = '.'.toUInt8)
    (separators : ∀ c, c = ':'.toUInt8 ∨ c = '-'.toUInt8 → r c = ':'.toUInt8 ∨ r c = '-'.toUInt8)
    {s hw : List UInt8} (parsed : parseMAC s = .ok hw) : parseMAC (s.map r) = .ok hw := by
  unfold parseMAC at parsed ⊢
  dsimp only at parsed ⊢
  rw [List.length_map]
  split_ifs at parsed with short colon misaligned wrongCount dot misalignedDot wrongCountDot
  · split at parsed
    · rename_i read
      cases parsed
      rw [if_neg short, getD_map_of_lt (by omega), if_pos (separators _ colon), if_neg misaligned,
        if_neg wrongCount, colonGroups_map keepsDigits read]
    · cases parsed
  · split at parsed
    · rename_i read
      cases parsed
      have count : 2 * (s.length + 1) / 5 / 2 = 2 * (s.length + 1) / 5 / 2 - 1 + 1 := by omega
      have third := hexDigit_of_dotGroups (count ▸ read)
      rw [if_neg short, getD_map_of_lt (by omega), keepsDigits _ third, if_neg colon,
        getD_map_of_lt (by omega), dot, keepsDot, if_pos rfl, if_neg misalignedDot,
        if_neg wrongCountDot, ← keepsDot, ← dot, dotGroups_map keepsDigits read]
    · cases parsed

end Rewrite

end Net
