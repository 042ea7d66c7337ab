import XbsLink.Capture.Interfaces
import XbsLink.Config.XboxMAC
import XbsLink.Lib.Go
import XbsLink.Transport.Handshake

/-!
# Passive discovery of the Xbox, and the address across starts

`Discover` opens a capture on the interface `findInterface` picks, filtered to
UDP port 3074, and reads packets until its context is done.  It skips read
errors and timeouts, frames shorter than an Ethernet header and frames whose
source address is a group address, and returns the source address of the
first other frame.  `runBridge` discovers when neither `--xbox-mac` nor the
config gives an address: in connect mode before its loop, and in listen mode
in the background of each connection.  Either way it saves what it found to
the config and opens the capture on it.

The loop returns the source address of the first frame, read before the
context is found done, that has a whole header and an individual source
address (`listen_eq`).  Once it is saved, every later start without `--xbox-mac` reads
it back from the config, opens the capture on it at once, and neither
discovers again nor writes the config (`restart_uses_saved`).

The pcap handle is the list of what each pass of the loop sees; its setup
(`SetSnapLen`, `SetPromisc`, `SetTimeout`, `Activate`, the BPF filter) is
taken to succeed.  `LastSeen`, which no caller reads, is left out, and so are
the log lines and the discovery event.
-/

namespace XbsLink

open Transport

namespace Discovery

variable {ip : Type}

/-- `XboxSystemLinkPort`, the port of `Discover`'s BPF filter. -/
def xboxSystemLinkPort : Nat := 3074

/-- What one pass of `Discover`'s loop sees: `ctx.Done()` ready in its
`select`, or what `ZeroCopyReadPacketData` returns. -/
inductive Poll
  | cancelled
  /-- `pcap.NextErrorTimeoutExpired`. -/
  | timeout
  /-- Any other read error. -/
  | readError
  | packet (data : List UInt8)
  deriving DecidableEq, Repr

/-- The errors of `Discover` once `pcap.FindAllDevs` has listed the devices. -/
inductive DiscoverError
  | interfaceNotFound (e : Error)
  | discoveryCancelled
  deriving DecidableEq, Repr

/-- The test `Discover` makes of a frame: its source address, bytes 6 to 11,
unless the frame is shorter than an Ethernet header or the address is a group
address. -/
def sourceMAC (data : List UInt8) : Option (List UInt8) :=
  if data.length < 14 then none
  else
    let srcMAC := data.extract 6 12
    if srcMAC.headD 0 &&& 0x01 ≠ 0 then none else some srcMAC

/-- The packet loop of `Discover`; `none` while it is still listening. -/
def listen : List Poll → Option (Except DiscoverError (List UInt8))
  | [] => none
  | .cancelled :: _ => some (.error .discoveryCancelled)
  | .timeout :: polls => listen polls
  | .readError :: polls => listen polls
  | .packet data :: polls =>
    match sourceMAC data with
    | some mac => some (.ok mac)
    | none => listen polls

/-- `Discover`, with `strings.ToLower` and `strings.Contains`. -/
def discover (toLower : String → String) (contains : String → String → Bool)
    (devices : List (Interface ip)) (name : String) (polls : List Poll) :
    Option (Except DiscoverError (List UInt8)) :=
  match findInterface toLower contains devices name with
  | .error e => some (.error (.interfaceNotFound e))
  | .ok _ => listen polls

/-! ## The first frame from a station -/

/-- The frames `Discover` reads before it finds its context done. -/
def framesRead : List Poll → List (List UInt8)
  | [] => []
  | .cancelled :: _ => []
  | .timeout :: polls => framesRead polls
  | .readError :: polls => framesRead polls
  | .packet data :: polls => data :: framesRead polls

/-- A frame sent by a station: a whole Ethernet header, and a source address
whose first byte has the group bit, its lowest, clear. -/
def fromStation (data : List UInt8) : Bool :=
  14 ≤ data.length && data.getD 6 0 % 2 == 0

theorem and_one_ne_zero_iff (b : UInt8) : b &&& 0x01 ≠ 0 ↔ b % 2 ≠ 0 := by
  have same : (b &&& 0x01).toNat = (b % 2).toNat := by
    rw [UInt8.toNat_and, UInt8.toNat_mod, UInt8.toNat_one, Nat.and_one_is_mod]
    rfl
  rw [Ne, Ne, ← UInt8.toNat_inj, same, UInt8.toNat_inj]

theorem fromStation_iff (data : List UInt8) :
    fromStation data = true ↔ 14 ≤ data.length ∧ data.getD 6 0 % 2 = 0 := by
  rw [fromStation, Bool.and_eq_true, decide_eq_true_eq, beq_iff_eq]

/-- The first byte of the source address is byte 6 of the frame. -/
theorem headD_extract_six (data : List UInt8) :
    (data.extract 6 12).headD 0 = data.getD 6 0 := by
  rw [List.extract_eq_take_drop, List.headD_eq_head?_getD, List.head?_take, List.head?_drop,
    List.getD_eq_getElem?_getD]
  simp

theorem sourceMAC_eq (data : List UInt8) :
    sourceMAC data = if fromStation data then some (data.extract 6 12) else none := by
  unfold sourceMAC
  by_cases short : data.length < 14
  · have notStation : ¬fromStation data = true := fun station =>
      absurd ((fromStation_iff data).mp station).1 (by omega)
    rw [if_pos short, if_neg notStation]
  · rw [if_neg short]
    dsimp only
    rw [headD_extract_six]
    by_cases group : data.getD 6 0 % 2 = 0
    · have kept : ¬(data.getD 6 0 &&& 0x01 ≠ 0) := by
        rw [and_one_ne_zero_iff, group]
        exact not_not_intro rfl
      have station : fromStation data = true := (fromStation_iff data).mpr ⟨by omega, group⟩
      rw [if_neg kept, if_pos station]
    · have skipped : data.getD 6 0 &&& 0x01 ≠ 0 := (and_one_ne_zero_iff _).mpr group
      have notStation : ¬fromStation data = true := fun station =>
        group ((fromStation_iff data).mp station).2
      rw [if_pos skipped, if_neg notStation]

/-- What `Discover`'s loop returns: the source address of the first frame
from a station read before the context is found done; when there is none,
`ErrDiscoveryCancelled` once the context is done, and nothing while it is
not. -/
theorem listen_eq (polls : List Poll) :
    listen polls =
      match (framesRead polls).find? fromStation with
      | some frame => some (.ok (frame.extract 6 12))
      | none => if Poll.cancelled ∈ polls then some (.error .discoveryCancelled) else none := by
  induction polls with
  | nil => rfl
  | cons poll polls ih =>
    cases poll with
    | cancelled => simp [listen, framesRead]
    | timeout => simp [listen, framesRead, ih]
    | readError => simp [listen, framesRead, ih]
    | packet data =>
      rw [listen, sourceMAC_eq, framesRead, List.find?_cons]
      by_cases station : fromStation data = true
      · simp [station]
      · simp [station, ih]

/-- A timeout, a frame from a multicast source, then one from a station. -/
example :
    listen [.timeout, .packet ([1, 0, 0x5e, 0, 0, 1] ++ [1, 0, 0x5e, 0, 0, 2] ++ [8, 0]),
      .packet ([0xff, 0xff, 0xff, 0xff, 0xff, 0xff] ++ [0, 0x50, 0xf2, 1, 2, 3] ++ [8, 0])] =
      some (.ok [0, 0x50, 0xf2, 1, 2, 3]) := by
  decide

end Discovery

/-! ## Starting the bridge: saved address or discovery -/

open Discovery

/-- Why `runBridge` ends the process before its loop. -/
inductive StartExit
  /-- "Invalid Xbox MAC address". -/
  | invalidMAC (e : Capture.MACError)
  /-- "Interface not found". -/
  | interfaceNotFound (e : Capture.Error)
  /-- "Failed to open capture". -/
  | captureFailed (e : Capture.NewError)
  /-- `runForegroundDiscovery` returned nil. -/
  | discoveryEnded
  deriving DecidableEq, Repr

/-- `runBridge`'s config: what `config.Load` reads, or an empty config when it
fails. -/
def loadOrEmpty (json : Config.Json) (files : Config.Files) (path : String) : Config :=
  match Config.loadFrom json files path with
  | .ok cfg => cfg
  | .error _ => { lastXboxMAC := [] }

/-- `runForegroundDiscovery`: the address `Discover` found, or nil when it was
cancelled or failed. -/
def runForegroundDiscovery (toLower : String → String) (contains : String → String → Bool)
    (devices : List (Interface ip)) (ifaceName : String) (polls : List Poll) :
    Option (Option (List UInt8)) :=
  (discover toLower contains devices ifaceName polls).map fun result =>
    match result with
    | .ok mac => some mac
    | .error _ => none

/-- `runBackgroundDiscovery` once `Discover` has returned, with `pcapOpens`
the outcome of `capture.New`'s pcap handle: the config files after the save,
and the address of the capture it hands to `SetCapture`. -/
def runBackgroundDiscovery (json : Config.Json) (pcapOpens : List UInt8 → Bool) (files : Config.Files)
    (path : String) (cfg : Config) (result : Except DiscoverError (List UInt8)) :
    Config.Files × Option (List UInt8) :=
  match result with
  | .error _ => (files, none)
  | .ok mac =>
    let files := Config.saveTo json files (cfg.setXboxMAC mac) path
    match Capture.new pcapOpens true mac with
    | .error _ => (files, none)
    | .ok () => (files, some mac)

section Start

variable (json : Config.Json) (path : String) (toLower : String → String)
  (contains : String → String → Bool) (ipString : ip → String) (devices : List (Interface ip))
  (ifaceName : String) (pcapOpens : List UInt8 → Bool)

/-- `runBridge` up to its reconnection loop: the address the capture is opened
on, `none` in listen mode while discovery is left to the background, and the
config files after the start; `none` while foreground discovery is still
listening.  `config.Load` and `Save` use one path, and `pcapOpens` says
whether `capture.New`'s pcap handle opens on the interface for an address. -/
def startBridge (files : Config.Files) (mode : Mode) (xboxMACStr : List UInt8) (polls : List Poll) :
    Option (Except StartExit (Option (List UInt8) × Config.Files)) :=
  let cfg := loadOrEmpty json files path
  match selectXboxMAC xboxMACStr cfg with
  | .error e => some (.error (.invalidMAC e))
  | .ok mac =>
    match Capture.findInterface toLower contains ipString devices ifaceName with
    | .error e => some (.error (.interfaceNotFound e))
    | .ok _ =>
      match mac.map (Capture.new pcapOpens true) with
      | some (.error e) => some (.error (.captureFailed e))
      | _ =>
        if mac = none ∧ mode = .connect then
          (runForegroundDiscovery toLower contains devices ifaceName polls).map fun found =>
            match found with
            | none => .error .discoveryEnded
            | some mac =>
              let files := Config.saveTo json files (cfg.setXboxMAC mac) path
              match Capture.new pcapOpens true mac with
              | .error e => .error (.captureFailed e)
              | .ok () => .ok (some mac, files)
        else some (.ok (mac, files))

theorem selectXboxMAC_nil (cfg : Config) : selectXboxMAC [] cfg = .ok cfg.getXboxMAC := by
  rw [selectXboxMAC, if_neg (not_not_intro rfl)]

/-- A saved config read back is the config saved, as `SaveTo` writes only ASCII
addresses. -/
theorem loadOrEmpty_saveTo {json : Config.Json} (lawful : json.RoundTrips) (files : Config.Files)
    (cfg : Config) (mac : List UInt8) :
    loadOrEmpty json (Config.saveTo json files (cfg.setXboxMAC mac) path) path = cfg.setXboxMAC mac := by
  have ascii : ∀ b ∈ (cfg.setXboxMAC mac).lastXboxMAC, b < 128 := Net.ascii_hardwareAddrString mac
  rw [loadOrEmpty, Config.loadFrom_saveTo lawful files ascii path]

/-- A start without `--xbox-mac` whose config gives a 6-byte address, on an
interface whose handle opens for it, opens the capture on it, whatever the
mode, without discovering and without writing. -/
theorem startBridge_saved {files : Config.Files} {info : Capture.InterfaceInfo} {mac : List UInt8}
    (found : Capture.findInterface toLower contains ipString devices ifaceName = .ok info)
    (saved : (loadOrEmpty json files path).getXboxMAC = some mac) (six : mac.length = 6)
    (opened : pcapOpens mac = true) (mode : Mode) (polls : List Poll) :
    startBridge json path toLower contains ipString devices ifaceName pcapOpens files mode [] polls =
      some (.ok (some mac, files)) := by
  have checked : Capture.new pcapOpens true mac = .ok () := Capture.new_of_length six opened
  have discovers : ¬(some mac = none ∧ mode = .connect) := fun both => Option.some_ne_none _ both.1
  unfold startBridge
  dsimp only
  rw [selectXboxMAC_nil, saved]
  dsimp only
  rw [found]
  dsimp only
  rw [Option.map_some, checked]
  dsimp only
  rw [if_neg discovers]

/-- What a start without `--xbox-mac` that opens the capture did: it found the
interface, the address passed `capture.New`, and either the config gave the
address and the files are as they were, or it was discovered and saved into
the config loaded. -/
theorem startBridge_cases {files files' : Config.Files} {mode : Mode} {polls : List Poll}
    {mac : List UInt8}
    (started : startBridge json path toLower contains ipString devices ifaceName pcapOpens files mode [] polls =
      some (.ok (some mac, files'))) :
    (∃ info, Capture.findInterface toLower contains ipString devices ifaceName = .ok info) ∧
      Capture.new pcapOpens true mac = .ok () ∧
      ((loadOrEmpty json files path).getXboxMAC = some mac ∧ files' = files ∨
        files' = Config.saveTo json files ((loadOrEmpty json files path).setXboxMAC mac) path) := by
  unfold startBridge at started
  dsimp only at started
  rw [selectXboxMAC_nil] at started
  dsimp only at started
  cases found : Capture.findInterface toLower contains ipString devices ifaceName with
  | error e =>
    rw [found] at started
    cases started
  | ok info =>
    rw [found] at started
    dsimp only at started
    refine ⟨⟨info, rfl⟩, ?_⟩
    cases saved : (loadOrEmpty json files path).getXboxMAC with
    | some savedMAC =>
      rw [saved, Option.map_some] at started
      cases checked : Capture.new pcapOpens true savedMAC with
      | error e =>
        rw [checked] at started
        cases started
      | ok u =>
        have kept : ¬(some savedMAC = none ∧ mode = .connect) := fun both => Option.some_ne_none _ both.1
        rw [checked] at started
        dsimp only at started
        rw [if_neg kept] at started
        cases started
        exact ⟨checked, .inl ⟨rfl, rfl⟩⟩
    | none =>
      rw [saved, Option.map_none] at started
      dsimp only at started
      by_cases connect : mode = .connect
      · rw [if_pos ⟨rfl, connect⟩] at started
        obtain ⟨result, -, finished⟩ := Option.map_eq_some_iff.mp started
        cases result with
        | none => cases finished
        | some found =>
          dsimp only at finished
          cases checked : Capture.new pcapOpens true found with
          | error e =>
            rw [checked] at finished
            cases finished
          | ok u =>
            rw [checked] at finished
            cases finished
            exact ⟨checked, .inr rfl⟩
      · rw [if_neg fun both => connect both.2] at started
        cases started

end Start

/-! ## The address across starts -/

section Restart

variable {json : Config.Json} {path : String} {toLower : String → String}
  {contains : String → String → Bool} {ipString : ip → String} {devices : List (Interface ip)}
  {ifaceName : String}

/-- An address a start or the background discovery saved is used from then on:
every later start without `--xbox-mac`, in either mode and whatever the network
shows it, on an interface whose handle opens for the address, reads it back
from the config, opens the capture on it, and neither discovers again nor
writes the config. -/
theorem restart_uses_saved (lawful : json.RoundTrips) (pcapOpens pcapOpens' : List UInt8 → Bool)
    (files : Config.Files) (mode mode' : Mode) (polls polls' : List Poll) (mac : List UInt8)
    (reopened : pcapOpens' mac = true) :
    (∀ files', startBridge json path toLower contains ipString devices ifaceName pcapOpens files mode []
          polls = some (.ok (some mac, files')) →
      startBridge json path toLower contains ipString devices ifaceName pcapOpens' files' mode' []
          polls' = some (.ok (some mac, files'))) ∧
    (∀ (info : Capture.InterfaceInfo) (cfg : Config) (result : Except DiscoverError (List UInt8)),
      Capture.findInterface toLower contains ipString devices ifaceName = .ok info →
      (runBackgroundDiscovery json pcapOpens files path cfg result).2 = some mac →
      startBridge json path toLower contains ipString devices ifaceName pcapOpens'
          (runBackgroundDiscovery json pcapOpens files path cfg result).1 mode' [] polls' =
        some (.ok (some mac, (runBackgroundDiscovery json pcapOpens files path cfg result).1))) := by
  constructor
  · intro files' started
    obtain ⟨⟨info, found⟩, checked, source⟩ := startBridge_cases json path toLower contains ipString
      devices ifaceName pcapOpens started
    have six : mac.length = 6 := by
      by_contra wrong
      simp [Capture.new, Capture.newChecks, wrong] at checked
    rcases source with ⟨saved, rfl⟩ | rfl
    · exact startBridge_saved json path toLower contains ipString devices ifaceName pcapOpens' found
        saved six reopened mode' polls'
    · have saved : (loadOrEmpty json (Config.saveTo json files
          ((loadOrEmpty json files path).setXboxMAC mac) path) path).getXboxMAC = some mac := by
        rw [loadOrEmpty_saveTo path lawful, Config.getXboxMAC_setXboxMAC _ six]
      exact startBridge_saved json path toLower contains ipString devices ifaceName pcapOpens' found
        saved six reopened mode' polls'
  · intro info cfg result found opened
    cases result with
    | error e => cases opened
    | ok discovered =>
      unfold runBackgroundDiscovery at opened ⊢
      dsimp only at opened ⊢
      cases checked : Capture.new pcapOpens true discovered with
      | error e =>
        rw [checked] at opened
        cases opened
      | ok u =>
        rw [checked] at opened
        cases opened
        have six : mac.length = 6 := by
          by_contra wrong
          simp [Capture.new, Capture.newChecks, wrong] at checked
        have saved : (loadOrEmpty json (Config.saveTo json files (cfg.setXboxMAC mac) path)
            path).getXboxMAC = some mac := by
          rw [loadOrEmpty_saveTo path lawful, Config.getXboxMAC_setXboxMAC _ six]
        exact startBridge_saved json path toLower contains ipString devices ifaceName pcapOpens'
          found saved six reopened mode' polls'

/-- A host with one Ethernet device and no config file yet. -/
def ethernetOnly : List (Interface Unit) := [⟨"eth0", "Ethernet", []⟩]

theorem restart_uses_saved_plainJson :
    plainJson.RoundTrips ∧ (fun _ => true : List UInt8 → Bool) [0, 0x50, 0xf2, 1, 2, 3] = true ∧
    (∀ files', startBridge plainJson "config.json" id (fun _ _ => false) (fun _ => "") ethernetOnly
        "eth0" (fun _ => true) (fun _ => none) .connect []
          [.packet ([0xff, 0xff, 0xff, 0xff, 0xff, 0xff] ++ [0, 0x50, 0xf2, 1, 2, 3] ++ [8, 0])] =
        some (.ok (some [0, 0x50, 0xf2, 1, 2, 3], files')) →
      startBridge plainJson "config.json" id (fun _ _ => false) (fun _ => "") ethernetOnly "eth0"
          (fun _ => true) files' .listen [] [] = some (.ok (some [0, 0x50, 0xf2, 1, 2, 3], files'))) ∧
    (∀ (info : Capture.InterfaceInfo) (cfg : Config) (result : Except DiscoverError (List UInt8)),
      Capture.findInterface id (fun _ _ => false) (fun _ => "") ethernetOnly "eth0" = .ok info →
      (runBackgroundDiscovery plainJson (fun _ => true) (fun _ => none) "config.json" cfg result).2 =
        some [0, 0x50, 0xf2, 1, 2, 3] →
      startBridge plainJson "config.json" id (fun _ _ => false) (fun _ => "") ethernetOnly "eth0"
          (fun _ => true)
          (runBackgroundDiscovery plainJson (fun _ => true) (fun _ => none) "config.json" cfg result).1
          .listen [] [] =
        some (.ok (some [0, 0x50, 0xf2, 1, 2, 3],
          (runBackgroundDiscovery plainJson (fun _ => true) (fun _ => none) "config.json" cfg
            result).1))) :=
  have lawful : plainJson.RoundTrips := fun _ _ => rfl
  ⟨lawful, rfl, restart_uses_saved lawful (fun _ => true) (fun _ => true) (fun _ => none) .connect
    .listen [.packet ([0xff, 0xff, 0xff, 0xff, 0xff, 0xff] ++ [0, 0x50, 0xf2, 1, 2, 3] ++ [8, 0])] []
    [0, 0x50, 0xf2, 1, 2, 3] rfl⟩

end Restart

end XbsLink
