import InputUdev.CInteger
import InputUdev.EventCode
import InputUdev.Parent
import InputUdev.Pnp
import InputUdev.ProductId
import InputUdev.Text.Ends

/-!
# The kernel's device tree

Legacy devices have no event node to probe: their name and identity come from the attributes that
the kernel keeps by driver and unit number.
-/

namespace InputUdev

inductive TreeAttribute where
  | description
  | pnpInfo
  | parent
  deriving DecidableEq, Repr

namespace TreeAttribute

/-- Every attribute, in the order of declaration. -/
def all : List TreeAttribute := [description, pnpInfo, parent]

def name : TreeAttribute → String
  | description => "%desc"
  | pnpInfo => "%pnpinfo"
  | parent => "%parent"

def ofName? (s : String) : Option TreeAttribute := all.find? (·.name == s)

end TreeAttribute

/-- The attributes of devices by driver and unit. -/
structure KernelTree where
  value : (driver unit : String) → TreeAttribute → Option String

namespace KernelTree

def empty : KernelTree := ⟨fun _ _ _ => none⟩

/-- Sets one attribute of one device. -/
def insert (t : KernelTree) (driver unit : String) (attr : TreeAttribute) (text : String) :
    KernelTree where
  value d u a := if d = driver ∧ u = unit ∧ a = attr then some text else t.value d u a

end KernelTree

/-- The driver and the unit number of a system name: the unit is the longest tail of ASCII digits,
and a name without one has no unit. -/
def splitUnit (sysname : String) : Option (String × String) :=
  let driver := Text.dropTrailing Char.isDigit sysname.toList
  let unit := Text.takeTrailing Char.isDigit sysname.toList
  if unit.isEmpty then none else some (String.ofList driver, String.ofList unit)

/-- The bus of a legacy device and the numbers that identify it there. -/
structure LegacyId where
  bus : UInt32
  vendor : UInt32
  product : UInt32
  deriving DecidableEq, Repr

namespace LegacyId

/-- The parent of devices behind the AT keyboard controller. -/
def keyboardController : String := "atkbdc0"

/-- The numbers of a device behind the AT keyboard controller, which names no ids. -/
def ofController (driver : String) : LegacyId :=
  if driver = "atkbd" then ⟨Bus.i8042, 1, 1⟩
  else if driver = "psm" then ⟨Bus.i8042, 2, 1⟩
  else ⟨Bus.i8042, 0, 0⟩

/-- The identity of a device: from vendor and product (USB), else from vendor and device (PCI), else
from the keyboard controller, else that of a virtual device. Only the presence of a key decides; a
value that is no number counts as zero. -/
def resolve (driver : String) (pnp : PnpInfo) (parent : Option String) : LegacyId :=
  match pnp.vendor, pnp.product, pnp.device with
  | some vendor, some product, _ => ⟨Bus.usb, CInteger.ofText vendor, CInteger.ofText product⟩
  | some vendor, none, some device => ⟨Bus.pci, CInteger.ofText vendor, CInteger.ofText device⟩
  | _, _, _ => if parent = some keyboardController then ofController driver else ⟨Bus.virtual, 0, 0⟩

/-- Legacy devices report no version. -/
def productId (id : LegacyId) : ProductId := ⟨id.bus, id.vendor, id.product, 0⟩

end LegacyId

/-- Why the kernel's tree names no parent for a device. -/
inductive NoParent where
  | noUnit
  | noDescription
  | noPnpInfo
  deriving DecidableEq, Repr

def NoParent.messages (sysname : String) : NoParent → List Message
  | noUnit => []
  | noDescription => [.about .debug sysname "no description in kernel tree"]
  | noPnpInfo => [.about .debug sysname "no pnpinfo in kernel tree"]

/-- The parent of the device of a system name, from its description, its PNP blob and, if present,
the name of its parent in the tree. -/
def KernelTree.parentInfo (t : KernelTree) (sysname : String) : Except NoParent ParentInfo := do
  let some (driver, unit) := splitUnit sysname | throw .noUnit
  let some desc := t.value driver unit .description | throw .noDescription
  let some blob := t.value driver unit .pnpInfo | throw .noPnpInfo
  let pnp := PnpInfo.ofBlob blob
  let id := LegacyId.resolve driver pnp (t.value driver unit .parent)
  return {
    sysname
    name := stripName desc
    product := some id.productId.render
    pnpId := pnp.pnpId }

end InputUdev
