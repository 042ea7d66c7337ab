import XbsLink.Lib.HardwareAddr

/-!
# The Xbox MAC address across config, capture and the command

The MAC of the last Xbox discovered is kept in the config file as the string
`HardwareAddr.String` writes (`SetXboxMAC`), and read back with
`net.ParseMAC` (`GetXboxMAC`).  An address given on the command line goes
through `capture.ParseMAC`, which also takes `-` as the separator and wants 6
bytes.  `runBridge` takes the flag's address, else the saved one, else
discovers one, and hands it to `capture.New`, which refuses any address that
is not 6 bytes long.

A 6-byte address saved and loaded again is read back as it was, and
`capture.ParseMAC` reads its string back as well; a saved string that
`GetXboxMAC` reads as 6 bytes is one `capture.ParseMAC` reads the same way
(`xboxMAC_paths`).  `GetXboxMAC` also passes on the 8- and 20-byte forms
`net.ParseMAC` accepts, which `capture.ParseMAC` refuses, and `runBridge`
hands such an address to `capture.New`, which refuses it in turn
(`getXboxMAC_eui64`).

A string is its bytes.  `encoding/json` is taken as a pair of functions that
read back every config whose string is ASCII, as the standard library's do,
and a config file as the bytes a path holds.
-/

namespace XbsLink

namespace Capture

/-- The errors of `capture.ParseMAC`, both `ErrInvalidMAC`: wrapping the error
of `net.ParseMAC`, or with the number of bytes when it is not 6. -/
inductive MACError
  | invalidMAC (cause : Net.AddrError)
  | wrongLength (got : Nat)
  deriving DecidableEq, Repr

/-- `capture.ParseMAC`. -/
def parseMAC (s : List UInt8) : Except MACError (List UInt8) := do
  let s := s.map fun c => if c = '-'.toUInt8 then ':'.toUInt8 else c
  let mac ← (Net.parseMAC s).mapError .invalidMAC
  if mac.length ≠ 6 then throw (.wrongLength mac.length)
  pure mac

/-- The errors of `capture.New`. -/
inductive NewError
  | loggerRequired
  | invalidMAC
  /-- `FindInterface`, `NewInactiveHandle`, a setting of the handle,
  `Activate` or `SetBPFFilter` failed. -/
  | openFailed
  deriving DecidableEq, Repr

/-- The checks `capture.New` makes of its config before it opens anything: a
logger, and an Xbox MAC of 6 bytes. -/
def newChecks (hasLogger : Bool) (xboxMAC : List UInt8) : Except NewError Unit :=
  if !hasLogger then .error .loggerRequired
  else if xboxMAC.length ≠ 6 then .error .invalidMAC
  else .ok ()

/-- `capture.New`: its checks, then the pcap handle on the interface, which
`opens` says `FindInterface`, `NewInactiveHandle`, the handle's settings,
`Activate` and the BPF filter for the address manage to open. -/
def new (opens : List UInt8 → Bool) (hasLogger : Bool) (xboxMAC : List UInt8) :
    Except NewError Unit :=
  match newChecks hasLogger xboxMAC with
  | .error e => .error e
  | .ok () => if opens xboxMAC then .ok () else .error .openFailed

theorem new_eq_ok_iff {opens : List UInt8 → Bool} {hasLogger : Bool} {xboxMAC : List UInt8} :
    new opens hasLogger xboxMAC = .ok () ↔
      newChecks hasLogger xboxMAC = .ok () ∧ opens xboxMAC = true := by
  unfold new
  cases newChecks hasLogger xboxMAC with
  | error e => simp
  | ok u => cases opens xboxMAC <;> simp

/-- A 6-byte address passes `capture.New` on an interface whose handle opens. -/
theorem new_of_length {opens : List UInt8 → Bool} {xboxMAC : List UInt8} (six : xboxMAC.length = 6)
    (opened : opens xboxMAC = true) : new opens true xboxMAC = .ok () :=
  new_eq_ok_iff.mpr ⟨by simp [newChecks, six], opened⟩

end Capture

/-- `config.Config`. -/
structure Config where
  lastXboxMAC : List UInt8
  deriving DecidableEq, Repr

namespace Config

/-- `Config.GetXboxMAC`; `none` is a nil address. -/
def getXboxMAC (c : Config) : Option (List UInt8) :=
  if c.lastXboxMAC = [] then none
  else
    match Net.parseMAC c.lastXboxMAC with
    | .ok mac => some mac
    | .error _ => none

/-- `Config.SetXboxMAC`. -/
def setXboxMAC (c : Config) (mac : List UInt8) : Config :=
  { c with lastXboxMAC := Net.hardwareAddrString mac }

/-- `json.MarshalIndent` and `json.Unmarshal` of a `Config`. -/
structure Json where
  marshalIndent : Config → List UInt8
  unmarshal : List UInt8 → Option Config

/-- What the standard library's encoding does: a config whose string is
ASCII, so valid UTF-8, is read back as it was written. -/
def Json.RoundTrips (json : Json) : Prop :=
  ∀ c : Config, (∀ b ∈ c.lastXboxMAC, b < 128) → json.unmarshal (json.marshalIndent c) = some c

/-- The files: the bytes each path holds, `none` where there is no file. -/
abbrev Files := String → Option (List UInt8)

/-- `Config.SaveTo`, where the directory and the file can be written. -/
def saveTo (json : Json) (files : Files) (c : Config) (path : String) : Files :=
  Function.update files path (some (json.marshalIndent c))

/-- The error of `LoadFrom` once the file is read: it does not parse. -/
inductive LoadError
  | parse
  deriving DecidableEq, Repr

/-- `LoadFrom`. -/
def loadFrom (json : Json) (files : Files) (path : String) : Except LoadError Config :=
  match files path with
  | none => .ok { lastXboxMAC := [] }
  | some data =>
    match json.unmarshal data with
    | some c => .ok c
    | none => .error .parse

end Config

/-- `runBridge`'s choice of the Xbox MAC: the `--xbox-mac` flag's, read by
`capture.ParseMAC` (an error exits), else the saved one, else `none`, and
discovery. -/
def selectXboxMAC (xboxMACStr : List UInt8) (cfg : Config) :
    Except Capture.MACError (Option (List UInt8)) :=
  if xboxMACStr ≠ [] then (Capture.parseMAC xboxMACStr).map some
  else .ok cfg.getXboxMAC

/-! ## The paths agree on 6-byte addresses -/

namespace Capture

/-- The separators `capture.ParseMAC` rewrites are the ones `net.ParseMAC`
already takes: what it reads, it reads the same way after the rewrite. -/
theorem net_parseMAC_normalized {s mac : List UInt8} (parsed : Net.parseMAC s = .ok mac) :
    Net.parseMAC (s.map fun c => if c = '-'.toUInt8 then ':'.toUInt8 else c) = .ok mac := by
  have keepsDigits : ∀ c, (Net.hexDigitValue c).isSome →
      (if c = '-'.toUInt8 then ':'.toUInt8 else c) = c := by
    intro c digit
    have notHyphen : c ≠ '-'.toUInt8 := by
      rintro rfl
      exact absurd digit (by decide)
    rw [if_neg notHyphen]
  exact Net.parseMAC_map keepsDigits (by decide) (by rintro c (rfl | rfl) <;> decide) parsed

theorem parseMAC_of_net {s mac : List UInt8} (parsed : Net.parseMAC s = .ok mac)
    (six : mac.length = 6) : parseMAC s = .ok mac := by
  have kept : ¬mac.length ≠ 6 := by
    rw [six]
    exact not_not_intro rfl
  simp only [parseMAC, net_parseMAC_normalized parsed, Except.mapError, bind, Except.bind,
    if_neg kept]
  rfl

end Capture

namespace Config

/-- A config saved and loaded again is the config saved, when its string is
ASCII. -/
theorem loadFrom_saveTo {json : Json} (lawful : json.RoundTrips) (files : Files) {c : Config}
    (ascii : ∀ b ∈ c.lastXboxMAC, b < 128) (path : String) :
    loadFrom json (saveTo json files c path) path = .ok c := by
  rw [loadFrom, saveTo, Function.update_self]
  dsimp only
  rw [lawful c ascii]

/-- What `GetXboxMAC` returns is what `net.ParseMAC` reads. -/
theorem parseMAC_of_getXboxMAC {c : Config} {mac : List UInt8} (got : c.getXboxMAC = some mac) :
    Net.parseMAC c.lastXboxMAC = .ok mac := by
  unfold getXboxMAC at got
  split_ifs at got
  split at got
  · rename_i parsed
    cases got
    exact parsed
  · cases got

theorem getXboxMAC_setXboxMAC (c : Config) {mac : List UInt8} (six : mac.length = 6) :
    (c.setXboxMAC mac).getXboxMAC = some mac := by
  have nonempty : Net.hardwareAddrString mac ≠ [] := by
    intro empty
    have written := Net.parseMAC_hardwareAddrString (m := mac) (.inl six)
    rw [empty] at written
    cases written
  rw [getXboxMAC, setXboxMAC]
  dsimp only
  rw [if_neg nonempty, Net.parseMAC_hardwareAddrString (.inl six)]

end Config

/-- The MAC paths agree on 6-byte addresses: one set, saved and loaded again is
read back, and `capture.ParseMAC` reads its string back; what `GetXboxMAC`
reads from any saved string is 6, 8 or 20 bytes long, and when it is 6,
`capture.ParseMAC` reads the string the same way and `capture.New` accepts the
address.  Underneath, `net.ParseMAC` reads back the string of every address of
a length it takes, and the rewrite of `-` to `:` that `capture.ParseMAC` makes
first changes nothing it reads. -/
theorem xboxMAC_paths (json : Config.Json) (lawful : json.RoundTrips) :
    (∀ (files : Config.Files) (path : String) (c : Config) (mac : List UInt8), mac.length = 6 →
      (Config.loadFrom json (Config.saveTo json files (c.setXboxMAC mac) path) path).map
          Config.getXboxMAC = .ok (some mac) ∧
        Capture.parseMAC (Net.hardwareAddrString mac) = .ok mac) ∧
    (∀ (s mac : List UInt8), ({ lastXboxMAC := s } : Config).getXboxMAC = some mac →
      (mac.length = 6 ∨ mac.length = 8 ∨ mac.length = 20) ∧
        (mac.length = 6 → Capture.parseMAC s = .ok mac ∧ Capture.newChecks true mac = .ok ())) ∧
    (∀ mac : List UInt8, mac.length = 6 ∨ mac.length = 8 ∨ mac.length = 20 →
      Net.parseMAC (Net.hardwareAddrString mac) = .ok mac) ∧
    (∀ (s mac : List UInt8), Net.parseMAC s = .ok mac →
      Net.parseMAC (s.map fun c => if c = '-'.toUInt8 then ':'.toUInt8 else c) = .ok mac) := by
  refine ⟨?_, ?_, fun mac sized => Net.parseMAC_hardwareAddrString sized,
    fun s mac parsed => Capture.net_parseMAC_normalized parsed⟩
  · intro files path c mac six
    have ascii : ∀ b ∈ (c.setXboxMAC mac).lastXboxMAC, b < 128 :=
      Net.ascii_hardwareAddrString mac
    rw [Config.loadFrom_saveTo lawful files ascii path]
    exact ⟨congrArg Except.ok (Config.getXboxMAC_setXboxMAC c six),
      Capture.parseMAC_of_net (Net.parseMAC_hardwareAddrString (.inl six)) six⟩
  · intro s mac got
    have parsed := Config.parseMAC_of_getXboxMAC got
    refine ⟨Net.length_of_parseMAC parsed, fun six => ⟨Capture.parseMAC_of_net parsed six, ?_⟩⟩
    simp [Capture.newChecks, six]

/-- `encoding/json` as the identity on the string: it reads back every config. -/
def plainJson : Config.Json := ⟨Config.lastXboxMAC, fun data => some ⟨data⟩⟩

theorem xboxMAC_paths_plainJson :
    plainJson.RoundTrips ∧
    (∀ (files : Config.Files) (path : String) (c : Config) (mac : List UInt8), mac.length = 6 →
      (Config.loadFrom plainJson (Config.saveTo plainJson files (c.setXboxMAC mac) path) path).map
          Config.getXboxMAC = .ok (some mac) ∧
        Capture.parseMAC (Net.hardwareAddrString mac) = .ok mac) ∧
    (∀ (s mac : List UInt8), ({ lastXboxMAC := s } : Config).getXboxMAC = some mac →
      (mac.length = 6 ∨ mac.length = 8 ∨ mac.length = 20) ∧
        (mac.length = 6 → Capture.parseMAC s = .ok mac ∧ Capture.newChecks true mac = .ok ())) ∧
    (∀ mac : List UInt8, mac.length = 6 ∨ mac.length = 8 ∨ mac.length = 20 →
      Net.parseMAC (Net.hardwareAddrString mac) = .ok mac) ∧
    (∀ (s mac : List UInt8), Net.parseMAC s = .ok mac →
      Net.parseMAC (s.map fun c => if c = '-'.toUInt8 then ':'.toUInt8 else c) = .ok mac) :=
  have lawful : plainJson.RoundTrips := fun _ _ => rfl
  ⟨lawful, xboxMAC_paths plainJson lawful⟩

/-! ## Longer addresses reach `capture.New` -/

/-- An EUI-64 address, as a config file may hold it. -/
def eui64 : List UInt8 := "00:00:5e:00:53:01:02:03".toList.map Char.toUInt8

/-- `GetXboxMAC` reads the EUI-64 string as 8 bytes, which `capture.ParseMAC`
refuses; with no `--xbox-mac`, `runBridge` takes them and `capture.New`
refuses them. -/
theorem getXboxMAC_eui64 :
    ({ lastXboxMAC := eui64 } : Config).getXboxMAC =
        some [0x00, 0x00, 0x5e, 0x00, 0x53, 0x01, 0x02, 0x03] ∧
      Capture.parseMAC eui64 = .error (.wrongLength 8) ∧
      selectXboxMAC [] { lastXboxMAC := eui64 } =
        .ok (some [0x00, 0x00, 0x5e, 0x00, 0x53, 0x01, 0x02, 0x03]) ∧
      Capture.newChecks true [0x00, 0x00, 0x5e, 0x00, 0x53, 0x01, 0x02, 0x03] = .error .invalidMAC := by
  decide

end XbsLink
