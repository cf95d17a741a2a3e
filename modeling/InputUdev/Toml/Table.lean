import InputUdev.Toml.Key
import InputUdev.Toml.Value

/-!
# Tables under construction

The tables of a document grow with every header and every assignment. How a table came to be decides
what may be added to it: a table is defined once, and a table with a header of its own is not
extended by dotted keys.
-/

namespace InputUdev.Toml

inductive Origin where
  /-- By its own header, or as an element of an array of tables. -/
  | header
  /-- By the header of a table inside it. -/
  | implied
  /-- By a dotted key. -/
  | dotted
  deriving DecidableEq, Repr

inductive Item where
  | value (v : Value)
  | table (origin : Origin) (items : List (String × Item))
  /-- An array of tables, of which only the last can still grow. -/
  | tables (finished : List Value) (last : List (String × Item))

/-- The content of a table under construction; the keys are distinct where one is built. -/
abbrev Items := List (String × Item)

mutual

/-- The value that an item has become. -/
def Item.finish : Item → Value
  | .value v => v
  | .table _ items => .table (finishItems items)
  | .tables finished last => .array (finished ++ [.table (finishItems last)])

def finishItems : List (String × Item) → Fields
  | [] => []
  | (k, i) :: rest => (k, i.finish) :: finishItems rest

end

namespace Items

/-- Replaces the item of a key, or adds one at the end. -/
def update (key : String) (change : Option Item → Option Item) : Items → Option Items
  | [] => (change none).map fun i => [(key, i)]
  | (k, i) :: rest =>
    if k = key then (change (some i)).map fun i => (k, i) :: rest
    else (update key change rest).map ((k, i) :: ·)

/-- Changes the table at the end of a path, given the origin of the table at its beginning. Missing
tables are made, and of an array of tables the last is meant. The path of a dotted key does not lead
into a table with a header. -/
def within (dotted : Bool) (change : Origin → Items → Option Items) :
    List String → Origin → Items → Option Items
  | [], origin, items => change origin items
  | key :: path, _, items =>
    items.update key fun
      | none =>
        let origin := if dotted then Origin.dotted else .implied
        (within dotted change path origin []).map (.table origin)
      | some (.value _) => none
      | some (.tables finished last) =>
        (within dotted change path .header last).map (.tables finished)
      | some (.table origin items) =>
        if dotted && origin == .header then none
        else (within dotted change path origin items).map (.table origin)

/-- Gives a new key a value. All but the first of the tables on the way to it must belong to dotted
keys. -/
def assign (items : Items) (key : Key) (v : Value) : Option Items :=
  items.within true (fun origin items =>
    if !key.path.isEmpty && origin != .dotted then none
    else items.update key.name fun
      | none => some (.value v)
      | some _ => none) key.path .header

/-- Defines a table, unless it is defined already. -/
def openTable (items : Items) (key : Key) : Option Items :=
  items.within false (fun _ items => items.update key.name fun
    | none => some (.table .header [])
    | some (.table .implied items) => some (.table .header items)
    | some _ => none) key.path .header

/-- Adds a table to an array of tables. -/
def appendTable (items : Items) (key : Key) : Option Items :=
  items.within false (fun _ items => items.update key.name fun
    | none => some (.tables [] [])
    | some (.tables finished last) => some (.tables (finished ++ [.table (finishItems last)]) [])
    | some _ => none) key.path .header

end Items
end InputUdev.Toml
