import InputUdev.Toml.Token

/-!
# Keys of TOML

A key names a value by the tables on the way to it and its name in the last of them. It is written
as names with points between them; white space around the points does not count.
-/

namespace InputUdev.Toml

structure Key where
  path : List String
  name : String
  deriving DecidableEq, Repr

/-- A part of a written key. -/
inductive KeyPart where
  | name (s : String)
  | point
  deriving DecidableEq, Repr

namespace KeyPart

/-- The parts of a word: bare names and the points between them. -/
def ofWord (cs : List Char) : List KeyPart :=
  (((cs.splitOnP (· == '.')).map fun name => [KeyPart.name (String.ofList name)]).intersperse
    [point]).flatten.filter (· != .name "")

/-- The parts that a token stands for, unless it cannot be in a key. -/
def ofToken? : Token → Option (List KeyPart)
  | .word cs => if cs.all fun c => isKeyChar c || c == '.' then some (ofWord cs) else none
  | .quoted false s => some [.name s]
  | .gap _ => some []
  | _ => none

/-- Names with points between them. -/
def names? : List KeyPart → Option (List String)
  | [.name s] => some [s]
  | .name s :: .point :: rest => (names? rest).map (s :: ·)
  | _ => none

end KeyPart

namespace Key

/-- Keys have fewer names than this. -/
def maxDepth : Nat := 80

def ofTokens? (ts : List Token) : Option Key := do
  let parts ← ts.mapM KeyPart.ofToken?
  let names ← KeyPart.names? parts.flatten
  let name ← names.getLast?
  if names.length < maxDepth then return ⟨names.dropLast, name⟩ else none

end Key
end InputUdev.Toml
