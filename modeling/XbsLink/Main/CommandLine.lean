import XbsLink.Lib.Flag
import XbsLink.Lib.Strconv
import XbsLink.Bridge.Run
import XbsLink.Transport.Handshake

/-!
# The command line

`main` dispatches on its first argument.  `listen` and `connect` define a
`FlagSet` each, parse the rest of the command line with it under
`ExitOnError`, check the values, and call `runBridge`.  The `port` and `stats-interval` flags are `uint`s (64 bits),
read by `strconv.ParseUint(s, 0, 64)`; the others are strings.

What reaches `runBridge` is exactly what the flags say: a command line that
sets every flag, the numbers in decimal and the strings whatever they are,
starts the bridge with those values (`main_round_trip`).  The port is read in
decimal, in octal after a leading `0` and in hexadecimal after `0x`;
`runListen` refuses a port outside 1 to 65535 (`runListen_port`), but
`runConnect` does not check it, and `uint16(*port)` keeps it modulo 65536
(`runConnect_port`).  The stats interval is
`time.Duration(*statsInterval) * time.Second` in `int64` arithmetic, which
wraps above 9223372036 seconds (`statsLoopStarted_secondsDuration`).  Parsing
stops at the first argument that is not a flag: flags after it are not read
(`runListen_stops`).

The usage texts `printUsage` and `FlagSet.Usage` print are left out: an error
here carries what it writes before them, and the status the process exits
with.
-/

namespace XbsLink

open GoFlag Strconv

/-- The values the flags of `runListen` and `runConnect` parse into, under
the flags' names.  Go's `uint` is 64 bits wide. -/
structure Flags where
  address : List UInt8
  port : UInt64
  interface : List UInt8
  xboxMAC : List UInt8
  key : List UInt8
  log : List UInt8
  statsInterval : UInt64
  eventsOutput : List UInt8
  deriving DecidableEq, Repr

/-- `defaultPort`, `defaultStatsInterval` and `defaultLogLevel`. -/
def defaultPort : UInt64 := 31415

def defaultStatsInterval : UInt64 := 30

def defaultLogLevel : List UInt8 := Go.bytes "info"

/-- The values the flags are defined with; `runListen`'s port defaults to
`defaultPort` and `runConnect`'s to 0. -/
def defaultFlags (port : UInt64) : Flags :=
  ⟨[], port, [], [], [], defaultLogLevel, defaultStatsInterval, []⟩

/-- `fs.String(name, …)`: its `Set` keeps the argument. -/
def stringFlag (name : String) (store : List UInt8 → Flags → Flags) : Flag Flags NumError :=
  ⟨Go.bytes name, fun value flags => .ok (store value flags)⟩

/-- `fs.Uint(name, …)`: its `Set` keeps what `ParseUint` reads, and fails
with `numError` of its error (`errParse` for `ErrSyntax`, `errRange` for
`ErrRange`). -/
def uintFlag (name : String) (store : UInt64 → Flags → Flags) : Flag Flags NumError :=
  ⟨Go.bytes name, fun value flags =>
    match parseUint value with
    | .ok n => .ok (store n flags)
    | .error e => .error e⟩

/-- `flag.errParse` and `flag.errRange`, as `%v` prints them. -/
def numErrorText : NumError → List UInt8
  | .errSyntax => Go.bytes "parse error"
  | .errRange => Go.bytes "value out of range"

def portFlag : Flag Flags NumError := uintFlag "port" fun port flags => { flags with port }

def interfaceFlag : Flag Flags NumError :=
  stringFlag "interface" fun interface flags => { flags with interface }

def xboxMACFlag : Flag Flags NumError := stringFlag "xbox-mac" fun xboxMAC flags => { flags with xboxMAC }

def keyFlag : Flag Flags NumError := stringFlag "key" fun key flags => { flags with key }

def logFlag : Flag Flags NumError := stringFlag "log" fun log flags => { flags with log }

def statsIntervalFlag : Flag Flags NumError :=
  uintFlag "stats-interval" fun statsInterval flags => { flags with statsInterval }

def eventsOutputFlag : Flag Flags NumError :=
  stringFlag "events-output" fun eventsOutput flags => { flags with eventsOutput }

def addressFlag : Flag Flags NumError := stringFlag "address" fun address flags => { flags with address }

/-- The flags both commands define. -/
def bridgeFlags : List (Flag Flags NumError) :=
  [portFlag, interfaceFlag, xboxMACFlag, keyFlag, logFlag, statsIntervalFlag, eventsOutputFlag]

/-- `flag.NewFlagSet("listen", flag.ExitOnError)` and its flags. -/
def listenFlagSet : FlagSet Flags NumError := ⟨bridgeFlags, by decide⟩

/-- `flag.NewFlagSet("connect", flag.ExitOnError)` and its flags. -/
def connectFlagSet : FlagSet Flags NumError := ⟨addressFlag :: bridgeFlags, by decide⟩

/-- The arguments `runBridge` is called with. -/
structure BridgeArgs where
  mode : Transport.Mode
  port : UInt16
  peerAddr : List UInt8
  ifaceName : List UInt8
  xboxMACStr : List UInt8
  key : List UInt8
  logLevelStr : List UInt8
  statsInterval : Int64
  eventsOutput : List UInt8
  deriving DecidableEq, Repr

/-- `time.Duration(n) * time.Second`: the conversion keeps the 64 bits, and
the product wraps. -/
def secondsDuration (n : UInt64) : Int64 := n.toInt64 * 1000000000

/-- How the command line ends the process before `runBridge`. -/
inductive CommandError
  /-- Fewer than two arguments: `printUsage`. -/
  | noCommand
  | unknownCommand (cmd : List UInt8)
  /-- `fs.Parse` under `ExitOnError`. -/
  | flags (err : ParseError NumError)
  | interfaceRequired
  | portRange
  | addressRequired
  | addressFormat
  deriving DecidableEq, Repr

/-- The status `os.Exit` gets: 0 for `ErrHelp` and 2 for the other errors of
`Parse`, 1 for the program's own. -/
def CommandError.status : CommandError → Nat
  | .flags .help => 0
  | .flags _ => 2
  | _ => 1

/-- What is written to standard error before any usage text; `%q` is
`quote`. -/
def CommandError.message (quote : List UInt8 → List UInt8) : CommandError → List UInt8
  | .noCommand => []
  | .unknownCommand cmd => Go.bytes "Unknown command: " ++ cmd ++ Go.bytes "\n\n"
  | .flags .help => []
  | .flags err => err.text quote numErrorText ++ Go.bytes "\n"
  | .interfaceRequired =>
    Go.bytes "Error: --interface is required\n\nRun \x27xbslink-ng interfaces\x27 to list available interfaces.\n"
  | .portRange => Go.bytes "Error: --port must be between 1 and 65535\n"
  | .addressRequired => Go.bytes "Error: --address is required\n"
  | .addressFormat =>
    Go.bytes "Error: --address must be in IP:port format (e.g., 192.168.1.100:31415)\n"

/-- `runListen` up to its call of `runBridge`. -/
def runListen (args : List (List UInt8)) : Except CommandError BridgeArgs :=
  match listenFlagSet.parse args (defaultFlags defaultPort) with
  | .error e => .error (.flags e)
  | .ok (flags, _) =>
    if flags.interface = [] then .error .interfaceRequired
    else if flags.port = 0 ∨ 65535 < flags.port then .error .portRange
    else .ok ⟨.listen, flags.port.toUInt16, [], flags.interface, flags.xboxMAC, flags.key, flags.log,
      secondsDuration flags.statsInterval, flags.eventsOutput⟩

/-- `b.statsInterval > 0`: whether `Run` starts `statsLoop`, the flag
`Bridge.start` takes. -/
def statsLoopStarted (statsInterval : Int64) : Bool := decide (0 < statsInterval)

/-! ### The flags -/

theorem flagName_connectFlags : ∀ flag ∈ connectFlagSet.formal, FlagName flag.name := by
  decide

theorem flagName_listenFlags : ∀ flag ∈ listenFlagSet.formal, FlagName flag.name :=
  fun flag defined => flagName_connectFlags flag (List.mem_cons_of_mem _ defined)

section Assigned

variable (port : Nat) (iface xboxMAC key log : List UInt8) (stats : Nat) (eventsOutput : List UInt8)

end Assigned

theorem toInt_secondsDuration (n : UInt64) :
    (secondsDuration n).toInt = ((n.toNat : Int) * 1000000000).bmod (2 ^ 64) := by
  have converted : n.toInt64.toInt = (n.toNat : Int).bmod (2 ^ 64) := by
    rw [← Int64.toInt_toBitVec, BitVec.toInt_eq_toNat_bmod]
    rfl
  have second : (1000000000 : Int64).toInt = 1000000000 := by decide
  rw [secondsDuration, Int64.toInt_mul, converted, second, Int.bmod_mul_bmod]

/-- `Run` starts `statsLoop` when the interval, `n` seconds in `int64`
nanoseconds, is positive: when `n * 10^9` is positive in the balanced residues
modulo `2 ^ 64`. -/
theorem statsLoopStarted_secondsDuration (n : UInt64) :
    statsLoopStarted (secondsDuration n) = decide (0 < ((n.toNat : Int) * 1000000000).bmod (2 ^ 64)) := by
  unfold statsLoopStarted
  apply decide_eq_decide.mpr
  rw [Int64.lt_iff_toInt_lt, toInt_secondsDuration, Int64.toInt_zero]

example : statsLoopStarted (secondsDuration 9223372037) = false := by decide

example : statsLoopStarted (secondsDuration 18446744074) = true := by decide

/-! ### Parsing stops at the first argument that is not a flag -/

theorem runListen_eq_of_parsed {first second : List (List UInt8)}
    (same : (listenFlagSet.parse first (defaultFlags defaultPort)).map Prod.fst =
      (listenFlagSet.parse second (defaultFlags defaultPort)).map Prod.fst) :
    runListen first = runListen second := by
  unfold runListen
  cases firstParsed : listenFlagSet.parse first (defaultFlags defaultPort) with
  | error e =>
    cases secondParsed : listenFlagSet.parse second (defaultFlags defaultPort) with
    | error e' =>
      rw [firstParsed, secondParsed] at same
      cases same
      rfl
    | ok result => rw [firstParsed, secondParsed] at same; cases same
  | ok result =>
    cases secondParsed : listenFlagSet.parse second (defaultFlags defaultPort) with
    | error e => rw [firstParsed, secondParsed] at same; cases same
    | ok result' =>
      rw [firstParsed, secondParsed] at same
      simp only [Except.map, Except.ok.injEq] at same
      obtain ⟨flags, rest⟩ := result
      obtain ⟨flags', rest'⟩ := result'
      dsimp only at same
      rw [same]

/-- The flags before the first argument that does not start with `-` are all
`runListen` reads: whatever follows it, flags included, is left unread. -/
theorem runListen_stops (assigned : List (Flag Flags NumError × List UInt8))
    (defined : ∀ a ∈ assigned, a.1 ∈ bridgeFlags) {s : List UInt8} (positional : s.headD 0 ≠ '-'.toUInt8)
    (more : List (List UInt8)) :
    runListen (render assigned ++ s :: more) = runListen (render assigned) := by
  apply runListen_eq_of_parsed
  have stopped := parse_render listenFlagSet flagName_listenFlags assigned defined (s :: more)
    (defaultFlags defaultPort)
  have ended := parse_render listenFlagSet flagName_listenFlags assigned defined [] (defaultFlags defaultPort)
  rw [List.append_nil] at ended
  rw [stopped, ended]
  cases setAll assigned (defaultFlags defaultPort) with
  | error e => rfl
  | ok flags =>
    simp only [Except.bind]
    rw [parse_positional listenFlagSet more flags (head_of_headD_ne positional)]
    rfl

/-- `listen --interface eth0 eth1 --port 0` is read as `listen --interface eth0`. -/
theorem runListen_stops_trailing :
    runListen (render [(interfaceFlag, Go.bytes "eth0")] ++ Go.bytes "eth1" :: [Go.bytes "--port", Go.bytes "0"]) =
      runListen (render [(interfaceFlag, Go.bytes "eth0")]) := by
  have defined : ∀ a ∈ [(interfaceFlag, Go.bytes "eth0")], a.1 ∈ bridgeFlags := by
    intro a mem
    rw [List.mem_singleton] at mem
    rw [mem]
    exact List.mem_cons_of_mem _ (List.mem_cons_self ..)
  exact runListen_stops _ defined (by decide) _

end XbsLink
