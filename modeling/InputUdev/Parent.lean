import InputUdev.Message
import InputUdev.Record
import InputUdev.Text.Quoted

/-!
# Synthetic parents

The parent record from which consumers read the name and the identity of a device.
-/

namespace InputUdev

/-- The part of a device description before its first comma. -/
def stripName (name : String) : String := String.ofList (name.toList.takeWhile (· != ','))

/-- What a synthetic parent says about its device. -/
structure ParentInfo where
  sysname : String
  name : String
  product : Option String := none
  pnpId : Option String := none
  deriving DecidableEq, Repr

namespace ParentInfo

/-- The parent record. A PNP id only decides that there is an `id` attribute, which holds the
product identity. -/
def record (p : ParentInfo) : Record :=
  let r : Record := { syspath := p.sysname }
  let r := (r.insertProperty "NAME" p.name).insertSysattr "name" p.name
  let r := p.product.elim r (r.insertProperty "PRODUCT")
  if p.pnpId.isSome then r.insertSysattr "id" (p.product.getD "") else r

/-- The parent as a device of its own. -/
def device (p : ParentInfo) : Device := { p.record with ancestors := [] }

/-- What attaching the parent to the device at a path has to say. -/
def message (p : ParentInfo) (syspath : String) : Message :=
  .about .debug syspath <|
    "parent " ++ p.sysname ++ " name=" ++ Text.quote p.name ++ " product=" ++
      Text.quoteOption p.product

end ParentInfo

def Device.attachParent (d : Device) (p : ParentInfo) : Device := d.setParent p.device

end InputUdev
