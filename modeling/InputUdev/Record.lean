import InputUdev.Entries
import InputUdev.Path

/-!
# Device records

A record is one level of a device; a device is a record with the line of its ancestors, parent
first. `Device.same` compares devices without regard to the order of properties and attributes.
-/

namespace InputUdev

/-- What a record was made for. -/
inductive Action where
  | none
  | add
  | remove
  deriving DecidableEq, Repr

def Action.name : Action → String
  | none => "none"
  | add => "add"
  | remove => "remove"

structure Record where
  syspath : String
  /-- A record is named by the last component of its path. -/
  sysname : String := Path.sysname syspath
  devnode : Option String := none
  subsystem : String := ""
  action : Action := .none
  properties : Entries := .empty
  sysattrs : Entries := .empty
  deriving DecidableEq

namespace Record

def property? (r : Record) (key : String) : Option String := r.properties.get? key

def sysattr? (r : Record) (key : String) : Option String := r.sysattrs.get? key

def insertProperty (r : Record) (key value : String) : Record :=
  { r with properties := r.properties.insert key value }

def insertSysattr (r : Record) (key value : String) : Record :=
  { r with sysattrs := r.sysattrs.insert key value }

def same (r r' : Record) : Bool :=
  r.syspath == r'.syspath && r.sysname == r'.sysname && r.devnode == r'.devnode &&
    r.subsystem == r'.subsystem && r.action == r'.action && r.properties.same r'.properties &&
    r.sysattrs.same r'.sysattrs

end Record

structure Device extends Record where
  /-- The parent, its parent, and so on. -/
  ancestors : List Record := []
  deriving DecidableEq

namespace Device

/-- A device with no subsystem, no device node and no parent. -/
def bare (syspath : String) (action : Action) : Device := { syspath, action }

def parent? (d : Device) : Option Device :=
  match d.ancestors with
  | [] => none
  | r :: rs => some { r with ancestors := rs }

/-- Attaches a parent, with its own ancestors, in place of any other. -/
def setParent (d parent : Device) : Device :=
  { d with ancestors := parent.toRecord :: parent.ancestors }

def insertProperty (d : Device) (key value : String) : Device :=
  { d with toRecord := d.toRecord.insertProperty key value }

def insertSysattr (d : Device) (key value : String) : Device :=
  { d with toRecord := d.toRecord.insertSysattr key value }

/-- The record of the device and those of its ancestors. -/
def lineage (d : Device) : List Record := d.toRecord :: d.ancestors

/-- Whether two devices agree level by level. -/
def same (d d' : Device) : Bool :=
  d.lineage.length == d'.lineage.length && (d.lineage.zip d'.lineage).all fun (r, r') => r.same r'

@[simp] theorem parent?_setParent (d p : Device) : (d.setParent p).parent? = some p := rfl

end Device
end InputUdev
