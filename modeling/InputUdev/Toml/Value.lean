import InputUdev.Decimal.Notation
import InputUdev.Text.Quoted

/-!
# TOML values

The values of a TOML document, and the form in which an error message shows one.
-/

namespace InputUdev.Toml

structure Date where
  year : Nat
  month : Nat
  day : Nat
  deriving DecidableEq, Repr

structure Time where
  hour : Nat
  minute : Nat
  second : Nat
  nanosecond : Nat
  deriving DecidableEq, Repr

/-- The distance of a local time from universal time. -/
inductive Offset where
  | zulu
  | minutes (n : Int)
  deriving DecidableEq, Repr

structure Datetime where
  date : Option Date := none
  time : Option Time := none
  offset : Option Offset := none
  deriving DecidableEq, Repr

/-- A TOML value. The keys of a table are distinct where one is read; their order has no meaning. -/
inductive Value where
  | text (s : String)
  | integer (n : Int)
  | float (x : Decimal.Binary64)
  | boolean (b : Bool)
  | datetime (d : Datetime)
  | array (items : List Value)
  | table (fields : List (String × Value))
  deriving Repr

/-- The values of a table by key. -/
abbrev Fields := List (String × Value)

/-! ## Showing values -/

def optionText (shown : Option String) : String :=
  shown.elim "None" fun s => "Some(" ++ s ++ ")"

/-- A name with its fields in braces. -/
def structText (name : String) (fields : List (String × String)) : String :=
  name ++ " \x7b " ++ String.intercalate ", " (fields.map fun (k, v) => k ++ ": " ++ v) ++ " \x7d"

def Date.shown (d : Date) : String :=
  structText "Date"
    [("year", toString d.year), ("month", toString d.month), ("day", toString d.day)]

def Time.shown (t : Time) : String :=
  structText "Time" [("hour", toString t.hour), ("minute", toString t.minute),
    ("second", toString t.second), ("nanosecond", toString t.nanosecond)]

def Offset.shown : Offset → String
  | zulu => "Z"
  | minutes n => structText "Custom" [("minutes", toString n)]

def Datetime.shown (d : Datetime) : String :=
  structText "Datetime" [("date", optionText (d.date.map (·.shown))),
    ("time", optionText (d.time.map (·.shown))), ("offset", optionText (d.offset.map (·.shown)))]

/-- Floating point numbers are positional from `1e-4` up to `1e16`, with at least one place. -/
def floatNotation : Decimal.Notation where
  least := -4
  most := 16
  places := 1
  nan := "NaN"
  infinity := "inf"

mutual

/-- The value with its kind; tables in the order of their keys. -/
def Value.shown : Value → String
  | .text s => "String(" ++ Text.quote s ++ ")"
  | .integer n => "Integer(" ++ toString n ++ ")"
  | .float x => "Float(" ++ floatNotation.render x ++ ")"
  | .boolean b => "Boolean(" ++ (if b then "true" else "false") ++ ")"
  | .datetime d => "Datetime(" ++ d.shown ++ ")"
  | .array items => "Array([" ++ String.intercalate ", " (shownItems items) ++ "])"
  | .table fields =>
    let sorted := (shownFields fields).mergeSort fun a b => a.1 ≤ b.1
    "Table(\x7b" ++
      String.intercalate ", " (sorted.map fun (k, v) => Text.quote k ++ ": " ++ v) ++ "\x7d)"

def shownItems : List Value → List String
  | [] => []
  | v :: rest => v.shown :: shownItems rest

def shownFields : List (String × Value) → List (String × String)
  | [] => []
  | (k, v) :: rest => (k, v.shown) :: shownFields rest

end

end InputUdev.Toml
