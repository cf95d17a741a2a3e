import InputUdev.FileTree
import InputUdev.Probe

/-!
# Event devices

Probes of the device nodes of a file tree. A node is opened for the probe and leads to an event
device or to something else; a device that is open already is known by its node and is not opened
again.
-/

namespace InputUdev

/-- What an open event device reports. -/
structure EventDevice where
  name : Option String := none
  /-- The physical location. -/
  phys : Option String := none
  id : EventId := {}
  /-- The codes of keys and buttons, if the device has any; so for the axes. -/
  keys : Option (List Nat) := none
  relAxes : Option (List Nat) := none
  absAxes : Option (List Nat) := none
  deriving DecidableEq, Repr

/-- All that a probe asks a device for. A device must have a name, and an empty physical location
is none. -/
def EventDevice.snapshot (d : EventDevice) (devnode : String) : Except ProbeError Snapshot :=
  match d.name with
  | none => .error (.missingName devnode)
  | some name => .ok <|
    .ofCodes name (d.phys.filter (!·.isEmpty)) d.id (d.keys.getD []) (d.relAxes.getD [])
      (d.absAxes.getD [])

/-- The event devices behind the nodes of a file tree, by the components of the nodes. -/
abbrev EventDevices := List String → Option EventDevice

structure EventSource where
  files : FileTree
  devices : EventDevices := fun _ => none
  /-- The open devices by node. -/
  tracked : List (Path.Key × EventDevice) := []

namespace EventSource

variable (s : EventSource)

def isTracked (devnode : String) : Bool := (s.tracked.lookup (Path.key devnode)).isSome

/-- Keeps an open device for later probes of the node, in place of any other. -/
def track (devnode : String) (device : EventDevice) : EventSource :=
  { s with tracked := Association.upsert (Path.key devnode) device s.tracked }

/-- Forgets an open device and hands it back, if there is one for the node. -/
def untrack (devnode : String) : Option EventDevice × EventSource :=
  (s.tracked.lookup (Path.key devnode),
    { s with tracked := s.tracked.filter (·.1 != Path.key devnode) })

/-- Finds the device at a node, which is opened unless it is tracked. -/
def device (devnode : String) : Except IoError EventDevice :=
  match s.tracked.lookup (Path.key devnode) with
  | some device => .ok device
  | none => do
    match s.devices (← s.files.resolve devnode) with
    | some device => .ok device
    | none => .error .notADevice

def capabilities : CapabilitySource := fun devnode => do
  (← (s.device devnode).mapError .unreadable).snapshot devnode

def shown : String := "EvdevSource \x7b tracked: " ++ toString s.tracked.length ++ " \x7d"

end EventSource
end InputUdev
