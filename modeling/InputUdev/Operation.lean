import InputUdev.Classifier

/-!
# Operations on a device in hand

The steps by which a device record is made, filled and classified, and runs of them.
-/

namespace InputUdev

inductive Operation where
  /-- A bare device in place of the one in hand. -/
  | bare (path : String) (action : Action)
  /-- The device of a node in place of the one in hand. -/
  | ofNode (path : String) (action : Action)
  | insertProperty (key value : String)
  | insertSysattr (key value : String)
  | mark (c : DeviceClass)
  /-- Attaches a parent without a word. -/
  | setParent (info : ParentInfo)
  | attachParent (info : ParentInfo)
  /-- Attaches the parent that the kernel's tree names. -/
  | synthesizeParent
  /-- A bare device whose parent is the one in hand. -/
  | adopt (path : String) (action : Action)
  /-- The classified device of a node in place of the one in hand. -/
  | deviceFor (path : String) (action : Action)
  | dispatch
  deriving DecidableEq, Repr

namespace Classifier

/-- What an operation makes of the device in hand. -/
def step (k : Classifier) (d : Device) : Operation → Progress
  | .bare path action => { device := .bare path action }
  | .ofNode path action =>
    { device := .ofNode k.rules path action, messages := k.rules.lookupMessages path }
  | .insertProperty key value => { device := d.insertProperty key value }
  | .insertSysattr key value => { device := d.insertSysattr key value }
  | .mark c => { device := d.mark c, messages := [d.markMessage c] }
  | .setParent info => { device := d.setParent info.device }
  | .attachParent info => { device := d.attachParent info, messages := [info.message d.syspath] }
  | .synthesizeParent => (synthesizeParent k.tree d).2
  | .adopt path action => { device := (Device.bare path action).setParent d }
  | .deviceFor path action => k.deviceFor path action
  | .dispatch => k.dispatch d

/-- The device with which every run begins. -/
def blank : Device := .bare "" .none

/-- The device in hand after a run of operations. -/
def run (k : Classifier) (ops : List Operation) : Device :=
  ops.foldl (fun d op => (k.step d op).device) blank

/-- The nodes probed by a run of operations from a device, in order. -/
def probesOf (k : Classifier) : Device → List Operation → List String
  | _, [] => []
  | d, op :: ops => (k.step d op).probes ++ k.probesOf (k.step d op).device ops

end Classifier
end InputUdev
