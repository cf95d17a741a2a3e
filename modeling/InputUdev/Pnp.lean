import InputUdev.Text.Blank

/-!
# PNP blobs

The kernel describes a device by `key=value` tokens between blanks and commas. The first token with
a key decides; a token without `=` has no key.
-/

namespace InputUdev
namespace Pnp

def isSeparator (c : Char) : Bool := Text.isBlank c || c == ','

/-- The texts between the separators; between two separators in a row it is empty. -/
def tokens (blob : List Char) : List (List Char) := blob.splitOnP isSeparator

/-- The key and the value of a token, cut at its first `=`. -/
def pair? (token : List Char) : Option (List Char × List Char) :=
  match token.dropWhile (· != '=') with
  | [] => none
  | _ :: value => some (token.takeWhile (· != '='), value)

/-- The pairs of a blob in order. -/
def pairs (blob : List Char) : List (List Char × List Char) := (tokens blob).filterMap pair?

/-- The value of the first pair with the key. -/
def value? (blob key : String) : Option String :=
  ((pairs blob.toList).lookup key.toList).map String.ofList

end Pnp

/-- The fields of a PNP blob that identify a device. -/
structure PnpInfo where
  vendor : Option String := none
  product : Option String := none
  device : Option String := none
  /-- The hardware id; the id `none` does not count. -/
  pnpId : Option String := none
  deriving DecidableEq, Repr

def PnpInfo.ofBlob (blob : String) : PnpInfo where
  vendor := Pnp.value? blob "vendor"
  product := Pnp.value? blob "product"
  device := Pnp.value? blob "device"
  pnpId := (Pnp.value? blob "_HID").filter (· != "none")

end InputUdev
