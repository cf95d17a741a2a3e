import InputUdev.Toml.Key
import InputUdev.Toml.Scalar
import InputUdev.Toml.Table
import InputUdev.Text.Ends

/-!
# Bracketed groups of tokens

Tokens form groups between matching brackets. A group in square brackets is read as an array and one
in curly brackets as a table, the groups inside it first.
-/

namespace InputUdev.Toml

inductive Node where
  | token (t : Token)
  | group (b : Bracket) (nodes : List Node)

namespace Node

/-- Groups are nested less deeply than this. -/
def maxDepth : Nat := 80

/-- Groups the tokens, given the groups that are open, innermost first, each with the nodes before
it, and the nodes of the innermost one, all in reverse order. -/
def nest? : List (Bracket × List Node) → List Node → List Token → Option (List Node)
  | [], here, [] => some here.reverse
  | _ :: _, _, [] => none
  | outer, here, .opening b :: rest =>
    if outer.length + 1 < maxDepth then nest? ((b, here) :: outer) [] rest else none
  | [], _, .closing _ :: _ => none
  | (b', before) :: outer, here, .closing b :: rest =>
    if b = b' then nest? outer (.group b here.reverse :: before) rest else none
  | outer, here, t :: rest => nest? outer (.token t :: here) rest

def token? : Node → Option Token
  | token t => some t
  | group _ _ => none

end Node

/-- A token, or a group that has been read. -/
inductive Piece where
  | token (t : Token)
  | value (v : Value)

namespace Piece

def token? : Piece → Option Token
  | token t => some t
  | value _ => none

def isGap : Piece → Bool
  | token (.gap _) => true
  | _ => false

def isGapOrLineEnd : Piece → Bool
  | token .lineEnd => true
  | p => p.isGap

def isComma : Piece → Bool
  | token .comma => true
  | _ => false

def isEquals : Piece → Bool
  | token .equals => true
  | _ => false

end Piece

namespace Value

/-- The value that some pieces make up. A space may stand between a date and a time. -/
def ofPieces? : List Piece → Option Value
  | [.value v] => some v
  | [.token (.quoted _ s)] => some (.text s)
  | [.token (.word cs)] => ofWord? cs
  | [.token (.word date), .token (.gap [' ']), .token (.word time)] =>
    (datetime? (date ++ ' ' :: time)).map .datetime
  | _ => none

/-- The values between the commas of an array. A comma may follow the last of them. -/
def arrayOf? (ps : List Piece) : Option Value :=
  let parts := (ps.splitOnP (·.isComma)).map (Text.trim (·.isGapOrLineEnd))
  let parts := if (parts.getLast?.map (·.isEmpty)).getD true then parts.dropLast else parts
  (parts.mapM ofPieces?).map .array

end Value

/-- The key and the value around the first equals sign. -/
def assignment? (ps : List Piece) : Option (Key × Value) := do
  let (before, after) := ps.span (!·.isEquals)
  let key ← Key.ofTokens? (← before.mapM Piece.token?)
  let value ← Value.ofPieces? (Text.trim (·.isGap) (after.drop 1))
  return (key, value)

namespace Value

/-- The assignments between the commas of a table in brackets. -/
def tableOf? (ps : List Piece) : Option Value :=
  if ps.all (·.isGap) then some (.table [])
  else do
    let assignments ← (ps.splitOnP (·.isComma)).mapM assignment?
    let items ← assignments.foldlM (fun items (key, v) => Items.assign items key v) []
    return .table (finishItems items)

def ofGroup? : Bracket → List Piece → Option Value
  | .square => arrayOf?
  | .curly => tableOf?

end Value

mutual

def Node.piece? : Node → Option Piece
  | .token t => some (.token t)
  | .group b nodes => do return .value (← Value.ofGroup? b (← pieces? nodes))

def pieces? : List Node → Option (List Piece)
  | [] => some []
  | n :: rest => do return (← n.piece?) :: (← pieces? rest)

end

end InputUdev.Toml
