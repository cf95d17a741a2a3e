import InputUdev.Toml.Node

/-!
# TOML documents

A document is a list of statements, one to a line: headers, which choose the table for what follows,
and assignments to keys of that table.
-/

namespace InputUdev.Toml

inductive Statement where
  /-- Defines a table and chooses it. -/
  | table (key : Key)
  /-- Adds a table to an array of tables and chooses it. -/
  | element (key : Key)
  | assign (key : Key) (v : Value)

namespace Statement

/-- The statement of a line, if it has one; the outer `none` is a line that is no statement. -/
def ofLine? (line : List Node) : Option (Option Statement) := do
  let isGap (n : Node) : Bool := n.token?.any fun t => Piece.isGap (.token t)
  match Text.trim isGap line with
  | [] => return none
  | [.group .square [.group .square key]] =>
    return some (.element (← Key.ofTokens? (← key.mapM Node.token?)))
  | [.group .square key] => return some (.table (← Key.ofTokens? (← key.mapM Node.token?)))
  | line =>
    let (key, value) ← assignment? (← pieces? line)
    return some (.assign key value)

end Statement

/-- A document read so far: its content and the table chosen last. -/
structure Draft where
  items : Items := []
  chosen : List String := []

namespace Draft

def execute? (d : Draft) : Statement → Option Draft
  | .table key => do return ⟨← d.items.openTable key, key.path ++ [key.name]⟩
  | .element key => do return ⟨← d.items.appendTable key, key.path ++ [key.name]⟩
  | .assign key v => do
    let items ← d.items.within false (fun _ items => items.assign key v) d.chosen .header
    return { d with items }

end Draft

/-- The text with each line end as one character. -/
def unifyLineEnds : List Char → List Char
  | '\r' :: '\n' :: rest => '\n' :: unifyLineEnds rest
  | c :: rest => c :: unifyLineEnds rest
  | [] => []

/-- The text without a byte order mark at its beginning. -/
def dropByteOrderMark : List Char → List Char
  | '\ufeff' :: rest => rest
  | cs => cs

def statements? (text : String) : Option (List Statement) := do
  let tokens ← Token.readAll? (unifyLineEnds (dropByteOrderMark text.toList))
  let nodes ← Node.nest? [] [] tokens
  let isLineEnd (n : Node) : Bool := n.token? == some .lineEnd
  let lines ← (nodes.splitOnP isLineEnd).mapM Statement.ofLine?
  return lines.filterMap id

/-- The values of a document by key, unless the text is no document. -/
def read? (text : String) : Option Fields := do
  let draft ← (← statements? text).foldlM Draft.execute? {}
  return finishItems draft.items

end InputUdev.Toml
