import InputUdev.Text.Numeral

/-!
# Product identities

The bus, vendor, product and version numbers of a device, and their text in the `PRODUCT` property.
-/

namespace InputUdev

structure ProductId where
  bus : UInt32
  vendor : UInt32
  product : UInt32
  version : UInt32
  deriving DecidableEq, Repr

namespace ProductId

/-- The numbers in the order in which they are printed. -/
def fields (id : ProductId) : List UInt32 := [id.bus, id.vendor, id.product, id.version]

/-- The four numbers in hexadecimal, joined by slashes, such as `3/46d/c077/111`. -/
def render (id : ProductId) : String :=
  String.intercalate "/" (id.fields.map fun n => Text.hex n.toNat)

end ProductId
end InputUdev
