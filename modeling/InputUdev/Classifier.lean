import InputUdev.DeviceClass
import InputUdev.KernelTree
import InputUdev.Probe
import InputUdev.Rule

/-!
# Classification of devices

A classifier runs the handler that its rule table picks for a device. The handler marks the device
with its class and attaches a synthetic parent, or leaves it as it is. Every operation answers with
the device afterwards, the nodes it probed and the messages it logged.
-/

namespace InputUdev

/-- The property of every classified input device. -/
def inputMarker : String := "ID_INPUT"

/-- Marks the device as an input device of a class. -/
def Device.mark (d : Device) (c : DeviceClass) : Device :=
  (inputMarker :: c.markers).foldl (fun d key => d.insertProperty key "1") d

def Device.markMessage (d : Device) (c : DeviceClass) : Message :=
  .about .debug d.syspath ("input class: " ++ c.name)

/-- A device found at a device node: the node is its path, and its subsystem that of the rule. -/
def Device.ofNode (rules : RuleTable) (path : String) (action : Action) : Device :=
  { bare path action with devnode := some path, subsystem := rules.subsystemFor path }

/-- What an operation on a device leads to. -/
structure Progress where
  device : Device
  /-- The class that was applied, if any. -/
  verdict : Option DeviceClass := none
  /-- The device nodes probed, in order. -/
  probes : List String := []
  messages : List Message := []

structure Classifier where
  rules : RuleTable
  capabilities : CapabilitySource
  tree : KernelTree
  /-- The system name of the parents of event devices without a physical location. -/
  virtualSysname : String := "uinput"

namespace Classifier

/-- Attaches the parent that the kernel's tree names, if it does, and tells whether it did. -/
def synthesizeParent (tree : KernelTree) (d : Device) : Bool × Progress :=
  match tree.parentInfo d.sysname with
  | .error cause => (false, { device := d, messages := cause.messages d.sysname })
  | .ok info => (true, { device := d.attachParent info, messages := [info.message d.syspath] })

/-- A device of known class whose parent comes from the kernel's tree. -/
def legacy (tree : KernelTree) (c : DeviceClass) (d : Device) : Progress :=
  let (attached, p) := synthesizeParent tree (d.mark c)
  { p with
    verdict := some c
    messages := d.markMessage c :: p.messages ++
      if attached then [] else [.about .debug d.syspath "no parent from kernel tree"] }

/-- A device of known class and identity, which is its own parent's name. -/
def fixed (c : DeviceClass) (name : String) (id : ProductId) (d : Device) : Progress :=
  let info : ParentInfo := { sysname := d.sysname, name, product := some id.render }
  { device := (d.mark c).attachParent info
    verdict := some c
    messages := [d.markMessage c, info.message d.syspath] }

/-- The parent of a probed event device: at its physical location if it reports one. -/
def eventParent (virtualSysname : String) (s : Snapshot) : ParentInfo where
  sysname := (s.phys.filter (!·.isEmpty)).getD virtualSysname
  name := stripName s.name
  product := some s.id.productId.render

/-- A device whose class and parent come from a probe of its node. Without a node, a successful
probe or a recognised class it stays as it is. -/
def event (k : Classifier) (d : Device) : Progress :=
  match d.devnode with
  | none => { device := d }
  | some node =>
    match k.capabilities node with
    | .error e =>
      { device := d
        probes := [node]
        messages := [.about .error node ("could not query evdev: " ++ e.message)] }
    | .ok s =>
      let c := s.deviceClass
      if c.isNone then
        { device := d
          probes := [node]
          messages := [.about .debug node "no input capabilities, skipping"] }
      else
        let info := eventParent k.virtualSysname s
        { device := (d.mark c).attachParent info
          verdict := some c
          probes := [node]
          messages := [d.markMessage c, info.message d.syspath] }

def handle (k : Classifier) : Handler → Device → Progress
  | .evdev => k.event
  | .keyboard => legacy k.tree .keyboard
  | .mouse => legacy k.tree .mouse
  | .joystick => legacy k.tree .joystick
  | .touchpad => legacy k.tree .touchpad
  | .touchscreen => legacy k.tree .touchscreen
  | .kbdmux => fixed .keyboard "System keyboard multiplexor" ⟨Bus.virtual, 1, 1, 0⟩
  | .sysmouse => fixed .mouse "System mouse" ⟨Bus.virtual, 2, 1, 0⟩

/-- Runs the handler that the rules pick for the device. -/
def dispatch (k : Classifier) (d : Device) : Progress :=
  match k.rules.handlerFor d.syspath with
  | none => { device := d, messages := k.rules.lookupMessages d.syspath }
  | some h =>
    let p := k.handle h d
    { p with messages := .about .trace d.syspath ("handler " ++ h.name) :: p.messages }

/-- Makes the device of a node and classifies it. -/
def deviceFor (k : Classifier) (path : String) (action : Action) : Progress :=
  let p := k.dispatch (.ofNode k.rules path action)
  { p with messages := k.rules.lookupMessages path ++ p.messages }

end Classifier
end InputUdev
