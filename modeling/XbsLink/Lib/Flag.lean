import XbsLink.Lib.Go
import Mathlib.Data.List.TakeDrop
import Mathlib.Data.List.TakeWhile

/-!
# Command-line flags: Go's `flag` package

A `FlagSet` holds the flags a program defines, each under a name with a
`Value` whose `Set` reads an argument.  `Parse` reads the arguments one flag
at a time (`parseOne`): a flag is `-name` or `--name`, and takes its value
after an `=` in the same argument or, failing that, from the next argument,
whatever that argument is.  Parsing stops, with the arguments left, at the
first argument that is not a flag and after a `--`; it fails on a malformed
flag, on a name the set does not define (`-h` and `-help` give `ErrHelp`),
on a flag with no value, and on a value its `Set` refuses.

Every flag modelled here takes a value; the boolean flags, which take none,
are left out.  A `FlagSet` defines each name once (`Var` panics on a second
definition), so every flag it defines is the one found under its name
(`lookup_of_mem`).

Arguments that set defined flags one after the other, `--name value` each,
are parsed as the sets applied in order (`parse_render`), whatever the
values are; parsing stops at the first argument that is not a flag and
leaves it and everything after it (`parse_positional`).
-/

namespace GoFlag

variable {σ ε : Type}

/-- A flag of a `FlagSet`: its name, and its value's `Set`, which reads an
argument into the values parsed so far or fails. -/
structure Flag (σ ε : Type) where
  name : List UInt8
  set : List UInt8 → σ → Except ε σ

/-- A `FlagSet`'s `formal` flags, each name defined once. -/
structure FlagSet (σ ε : Type) where
  formal : List (Flag σ ε)
  distinct : (formal.map Flag.name).Nodup

/-- Why `parseOne` fails: the four messages of `failf`, and `ErrHelp`. -/
inductive ParseError (ε : Type)
  | badSyntax (arg : List UInt8)
  | notDefined (name : List UInt8)
  | help
  | needsArgument (name : List UInt8)
  | invalidValue (value name : List UInt8) (err : ε)
  deriving DecidableEq, Repr

/-- The error's text; `%q` is `quote` and `%v` of a `Set` error is `errText`. -/
def ParseError.text (quote : List UInt8 → List UInt8) (errText : ε → List UInt8) :
    ParseError ε → List UInt8
  | .badSyntax arg => Go.bytes "bad flag syntax: " ++ arg
  | .notDefined name => Go.bytes "flag provided but not defined: -" ++ name
  | .help => Go.bytes "flag: help requested"
  | .needsArgument name => Go.bytes "flag needs an argument: -" ++ name
  | .invalidValue value name err =>
    Go.bytes "invalid value " ++ quote value ++ Go.bytes " for flag -" ++ name ++ Go.bytes ": " ++
      errText err

/-- What `parseOne` finds at the head of the arguments. -/
inductive Head
  /-- Not a flag: shorter than two bytes, or not starting with `-`. -/
  | positional
  /-- `--`, the end of the flags. -/
  | terminator
  /-- A name that is empty or starts with `-` or `=`. -/
  | bad
  /-- A flag's name, and the value after its first `=` if it has one. -/
  | named (name : List UInt8) (value : Option (List UInt8))
  deriving DecidableEq, Repr

/-- `parseOne`'s reading of one argument. -/
def head (s : List UInt8) : Head :=
  if s.length < 2 ∨ s.headD 0 ≠ '-'.toUInt8 then .positional
  else
    let numMinuses := if s.getD 1 0 = '-'.toUInt8 then 2 else 1
    if numMinuses = 2 ∧ s.length = 2 then .terminator
    else
      let name := s.drop numMinuses
      if name.length = 0 ∨ name.headD 0 = '-'.toUInt8 ∨ name.headD 0 = '='.toUInt8 then .bad
      else
        -- The search for `=` starts at the second byte.
        match (name.drop 1).span (· != '='.toUInt8) with
        | (_, []) => .named name none
        | (front, _ :: value) => .named (name.take 1 ++ front) (some value)

variable (fs : FlagSet σ ε)

/-- `f.formal[name]`. -/
def FlagSet.lookup (name : List UInt8) : Option (Flag σ ε) :=
  fs.formal.find? fun flag => flag.name == name

/-- `flag.Value.Set(value)`, its error wrapped by `failf`. -/
def setValue (flag : Flag σ ε) (value : List UInt8) (values : σ) : Except (ParseError ε) σ :=
  match flag.set value values with
  | .ok values => .ok values
  | .error err => .error (.invalidValue value flag.name err)

/-- `FlagSet.Parse`: the values after the flags, and the arguments left
(`fs.Args()`). -/
def FlagSet.parse : List (List UInt8) → σ → Except (ParseError ε) (σ × List (List UInt8))
  | [], values => .ok (values, [])
  | s :: rest, values =>
    match head s with
    | .positional => .ok (values, s :: rest)
    | .terminator => .ok (values, rest)
    | .bad => .error (.badSyntax s)
    | .named name value =>
      match fs.lookup name with
      | none =>
        if name = Go.bytes "help" ∨ name = Go.bytes "h" then .error .help
        else .error (.notDefined name)
      | some flag =>
        match value, rest with
        | some value, rest => (setValue flag value values).bind fun values => FlagSet.parse rest values
        | none, value :: rest => (setValue flag value values).bind fun values => FlagSet.parse rest values
        | none, [] => .error (.needsArgument name)

/-! ### Names and lookups -/

/-- A name `--name` reads back: not empty, not starting with `-`, and with no
`=` in it. -/
def FlagName (name : List UInt8) : Prop :=
  name ≠ [] ∧ name.headD 0 ≠ '-'.toUInt8 ∧ '='.toUInt8 ∉ name

instance (name : List UInt8) : Decidable (FlagName name) :=
  inferInstanceAs (Decidable (_ ∧ _ ∧ _))

theorem head_flag {name : List UInt8} (named : FlagName name) :
    head (Go.bytes "--" ++ name) = .named name none := by
  obtain ⟨nonempty, notDash, noEquals⟩ := named
  obtain ⟨c, rest, rfl⟩ := List.exists_cons_of_ne_nil nonempty
  have notEquals : c ≠ '='.toUInt8 := fun equal => noEquals (by simp [equal])
  have kept : ∀ b ∈ rest, (b != '='.toUInt8) = true := fun b mem => by
    have : b ≠ '='.toUInt8 := fun equal => noEquals (List.mem_cons_of_mem c (equal ▸ mem))
    simpa using this
  have taken : rest.takeWhile (· != '='.toUInt8) = rest := List.takeWhile_eq_self_iff.mpr kept
  have dropped : rest.dropWhile (· != '='.toUInt8) = [] := List.dropWhile_eq_nil_iff.mpr kept
  have dashes : Go.bytes "--" ++ c :: rest = '-'.toUInt8 :: '-'.toUInt8 :: c :: rest := rfl
  have first : ¬ (c = '-'.toUInt8 ∨ c = '='.toUInt8) := by
    rintro (dash | equal)
    · exact notDash dash
    · exact notEquals equal
  have long : ¬ rest.length + 1 + 1 + 1 < 2 := by omega
  rw [head, dashes]
  simp [first, taken, dropped, long]

theorem head_of_headD_ne {s : List UInt8} (notDash : s.headD 0 ≠ '-'.toUInt8) : head s = .positional := by
  rw [head, if_pos (.inr notDash)]

theorem lookup_of_mem {flag : Flag σ ε} (defined : flag ∈ fs.formal) : fs.lookup flag.name = some flag := by
  obtain ⟨formal, distinct⟩ := fs
  rw [FlagSet.lookup]
  dsimp only at defined ⊢
  induction formal with
  | nil => cases defined
  | cons first rest ih =>
    rw [List.map_cons, List.nodup_cons] at distinct
    rw [List.find?_cons]
    rcases List.mem_cons.mp defined with rfl | later
    · simp
    have other : first.name ≠ flag.name := fun same =>
      distinct.1 (same ▸ List.mem_map_of_mem later)
    rw [beq_eq_false_iff_ne.mpr other]
    exact ih distinct.2 later

/-! ### Parsing -/

theorem parse_positional {s : List UInt8} (rest : List (List UInt8)) (values : σ)
    (positional : head s = .positional) : fs.parse (s :: rest) values = .ok (values, s :: rest) := by
  rw [FlagSet.parse, positional]

/-- A defined flag and the argument after it. -/
theorem parse_flag {flag : Flag σ ε} (defined : flag ∈ fs.formal) (named : FlagName flag.name)
    (value : List UInt8) (rest : List (List UInt8)) (values : σ) :
    fs.parse ((Go.bytes "--" ++ flag.name) :: value :: rest) values =
      (setValue flag value values).bind fun values => fs.parse rest values := by
  rw [FlagSet.parse, head_flag named]
  simp only [lookup_of_mem fs defined]

/-- The arguments `--name value` for each flag and value in order. -/
def render (assigned : List (Flag σ ε × List UInt8)) : List (List UInt8) :=
  assigned.flatMap fun assignment => [Go.bytes "--" ++ assignment.1.name, assignment.2]

/-- The sets of the flags in order, each on the values the one before left. -/
def setAll : List (Flag σ ε × List UInt8) → σ → Except (ParseError ε) σ
  | [], values => .ok values
  | (flag, value) :: assigned, values =>
    (setValue flag value values).bind fun values => setAll assigned values

/-- Arguments that set flags of a set whose names all read back, then the
rest: the sets in order, then the rest parsed. -/
theorem parse_render (named : ∀ flag ∈ fs.formal, FlagName flag.name)
    (assigned : List (Flag σ ε × List UInt8)) (defined : ∀ assignment ∈ assigned, assignment.1 ∈ fs.formal)
    (rest : List (List UInt8)) (values : σ) :
    fs.parse (render assigned ++ rest) values =
      (setAll assigned values).bind fun values => fs.parse rest values := by
  induction assigned generalizing values with
  | nil => rfl
  | cons assignment assigned ih =>
    obtain ⟨flag, value⟩ := assignment
    have member := defined (flag, value) (List.mem_cons_self ..)
    have later := fun a mem => defined a (List.mem_cons_of_mem (flag, value) mem)
    have unfolded : render ((flag, value) :: assigned) ++ rest =
        (Go.bytes "--" ++ flag.name) :: value :: (render assigned ++ rest) := by
      simp [render]
    rw [unfolded, parse_flag fs member (named flag member) value, setAll]
    cases setValue flag value values with
    | error err => rfl
    | ok values => exact ih later values

end GoFlag
