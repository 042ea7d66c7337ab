import XbsLink.Lib.Search

/-!
# Finding the capture interface

The bridge opens its capture on the device `capture.FindInterface` picks,
and discovery sniffs on the one `discovery.findInterface` picks.  Both search
the devices `pcap.FindAllDevs` returns in three passes, each in list order:
for the name given, then for it with case ignored, then for it with case
ignored inside a description.  `FindInterface` searches the `InterfaceInfo`
records `ListInterfaces` packs the devices into, and returns a record;
`findInterface` searches the devices themselves and returns a name.

Both are the same staged search over a device's name and description
(`interfaceStages`), so on every device list and every name they succeed
together and pick the same device (`findInterface_same_device`).

`strings.ToLower`, `strings.Contains` and `net.IP.String` are taken as
functions, whatever they compute: both searches call the same ones.
-/

namespace XbsLink

variable {ip : Type}

/-- `pcap.InterfaceAddress`, its `IP`; a nil `IP` is `none`. -/
structure InterfaceAddress (ip : Type) where
  ip : Option ip
  deriving DecidableEq, Repr

/-- `pcap.Interface`: a device as `pcap.FindAllDevs` lists it. -/
structure Interface (ip : Type) where
  name : String
  description : String
  addresses : List (InterfaceAddress ip)
  deriving DecidableEq, Repr

/-- What the searches test of a device: its name and its description. -/
def Interface.key (dev : Interface ip) : String × String := (dev.name, dev.description)

section Stages

variable (toLower : String → String) (contains : String → String → Bool)

/-- The three passes over a name and a description: the name itself, the name
with case ignored, and the name with case ignored inside the description. -/
def interfaceStages (name : String) : List (String × String → Bool) :=
  [fun key => key.1 == name, fun key => toLower key.1 == toLower name,
    fun key => contains (toLower key.2) (toLower name)]

end Stages

namespace Capture

/-- `capture.InterfaceInfo`. -/
structure InterfaceInfo where
  name : String
  description : String
  addresses : List String
  flags : String
  deriving DecidableEq, Repr

/-- What the search tests of a record: its name and its description. -/
def InterfaceInfo.key (info : InterfaceInfo) : String × String := (info.name, info.description)

/-- The errors of `FindInterface` once `pcap.FindAllDevs` has listed the
devices: `ErrInterfaceNotFound` with the name. -/
inductive Error
  | interfaceNotFound (name : String)
  deriving DecidableEq, Repr

/-- The body of `ListInterfaces`' loop: one device packed into a record;
`ipString` is `net.IP.String`. -/
def interfaceInfo (ipString : ip → String) (dev : Interface ip) : InterfaceInfo :=
  { name := dev.name, description := dev.description,
    addresses := dev.addresses.filterMap fun addr => addr.ip.map ipString,
    flags := ",".intercalate (if dev.addresses.length > 0 then ["UP"] else []) }

/-- `ListInterfaces`, from the devices `pcap.FindAllDevs` returns. -/
def listInterfaces (ipString : ip → String) (devices : List (Interface ip)) : List InterfaceInfo :=
  devices.map (interfaceInfo ipString)

/-- `FindInterface`, with `strings.ToLower`, `strings.Contains` and
`net.IP.String`. -/
def findInterface (toLower : String → String) (contains : String → String → Bool)
    (ipString : ip → String) (devices : List (Interface ip)) (name : String) :
    Except Error InterfaceInfo :=
  let interfaces := listInterfaces ipString devices
  match interfaces.find? fun iface => iface.name == name with
  | some iface => .ok iface
  | none =>
    let nameLower := toLower name
    match interfaces.find? fun iface => toLower iface.name == nameLower with
    | some iface => .ok iface
    | none =>
      match interfaces.find? fun iface => contains (toLower iface.description) nameLower with
      | some iface => .ok iface
      | none => .error (.interfaceNotFound name)

theorem findInterface_toOption (toLower : String → String) (contains : String → String → Bool)
    (ipString : ip → String) (devices : List (Interface ip)) (name : String) :
    (findInterface toLower contains ipString devices name).toOption =
      Search.staged ((interfaceStages toLower contains name).map (· ∘ InterfaceInfo.key))
        (listInterfaces ipString devices) := by
  simp only [findInterface, interfaceStages, List.map_cons, List.map_nil, Search.staged_cons,
    Function.comp_def, InterfaceInfo.key]
  cases exact : (listInterfaces ipString devices).find? fun iface => iface.name == name with
  | some iface => rfl
  | none =>
    cases folded : (listInterfaces ipString devices).find?
        fun iface => toLower iface.name == toLower name with
    | some iface => rfl
    | none =>
      cases described : (listInterfaces ipString devices).find?
          fun iface => contains (toLower iface.description) (toLower name) with
      | some iface => rfl
      | none => rfl

end Capture

namespace Discovery

/-- The errors of `findInterface` once `pcap.FindAllDevs` has listed the
devices: discovery's `ErrInterfaceNotFound` with the name. -/
inductive Error
  | interfaceNotFound (name : String)
  deriving DecidableEq, Repr

/-- `discovery.findInterface`, with `strings.ToLower` and `strings.Contains`. -/
def findInterface (toLower : String → String) (contains : String → String → Bool)
    (devices : List (Interface ip)) (name : String) : Except Error String :=
  let nameLower := toLower name
  match devices.find? fun dev => dev.name == name with
  | some dev => .ok dev.name
  | none =>
    match devices.find? fun dev => toLower dev.name == nameLower with
    | some dev => .ok dev.name
    | none =>
      match devices.find? fun dev => contains (toLower dev.description) nameLower with
      | some dev => .ok dev.name
      | none => .error (.interfaceNotFound name)

theorem findInterface_toOption (toLower : String → String) (contains : String → String → Bool)
    (devices : List (Interface ip)) (name : String) :
    (findInterface toLower contains devices name).toOption =
      (Search.staged ((interfaceStages toLower contains name).map (· ∘ Interface.key)) devices).map
        Interface.name := by
  simp only [findInterface, interfaceStages, List.map_cons, List.map_nil, Search.staged_cons,
    Function.comp_def, Interface.key]
  cases exact : devices.find? fun dev => dev.name == name with
  | some dev => rfl
  | none =>
    cases folded : devices.find? fun dev => toLower dev.name == toLower name with
    | some dev => rfl
    | none =>
      cases described : devices.find? fun dev => contains (toLower dev.description) (toLower name) with
      | some dev => rfl
      | none => rfl

end Discovery

/-- Capture and discovery pick the same device: on every device list and for
every name, `FindInterface` succeeds exactly when `findInterface` does, with
the record of the device whose name `findInterface` returns; and that device is
the first, in list order, of the first pass that finds one. -/
theorem findInterface_same_device (toLower : String → String) (contains : String → String → Bool)
    (ipString : ip → String) (devices : List (Interface ip)) (name : String) :
    (Capture.findInterface toLower contains ipString devices name).toOption.map
          Capture.InterfaceInfo.name =
        (Discovery.findInterface toLower contains devices name).toOption ∧
      (Discovery.findInterface toLower contains devices name).toOption =
        (Search.staged ((interfaceStages toLower contains name).map (· ∘ Interface.key)) devices).map
          Interface.name := by
  refine ⟨?_, Discovery.findInterface_toOption toLower contains devices name⟩
  have stages : ((interfaceStages toLower contains name).map (· ∘ Capture.InterfaceInfo.key)).map
      (· ∘ Capture.interfaceInfo ipString) =
        (interfaceStages toLower contains name).map (· ∘ Interface.key) := by
    rw [List.map_map]
    rfl
  rw [Capture.findInterface_toOption, Capture.listInterfaces, Search.staged_map, stages,
    Discovery.findInterface_toOption, Option.map_map]
  rfl

end XbsLink
