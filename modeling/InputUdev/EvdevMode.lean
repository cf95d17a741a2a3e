/-!
# Evdev modes

Whether evdev counts as active: always, never, or as the kernel says. The words for a mode do not
depend on the case of their letters.
-/

namespace InputUdev

inductive EvdevMode where
  /-- Ask the kernel. -/
  | auto
  | on
  | off
  deriving DecidableEq, Repr

namespace EvdevMode

def all : List EvdevMode := [auto, on, off]

/-- The words for a mode, in lowercase. -/
def words : EvdevMode → List String
  | auto => ["auto"]
  | on => ["on", "true", "yes", "1"]
  | off => ["off", "false", "no", "0"]

/-- The lowercase form of a character. Outside ASCII the forms of the Kelvin sign and of the dotted
capital I alone have ASCII characters in them; for any other character outside ASCII its form is as
good as the character itself. -/
def foldCase (c : Char) : List Char :=
  if c = '\u212a' then ['k']
  else if c = '\u0130' then ['i', '\u0307']
  else [c.toLower]

def ofText? (s : String) : Option EvdevMode :=
  all.find? fun mode => mode.words.contains (String.ofList (s.toList.flatMap foldCase))

end EvdevMode
end InputUdev
