import InputUdev.Text.Numeral
import InputUdev.Text.Hidden

/-!
# Quoted text

The form in which messages show a text: in double quotes, with a backslash before a quote or a
backslash, short escapes for the common controls, and the number of any other hidden character.
-/

namespace InputUdev.Text

/-- The characters that stand for `c` inside the quotes. -/
def escape (c : Char) : List Char :=
  match c with
  | '\x00' => ['\\', '0']
  | '\t' => ['\\', 't']
  | '\r' => ['\\', 'r']
  | '\n' => ['\\', 'n']
  | '\\' => ['\\', '\\']
  | '\x22' => ['\\', '\x22']
  | c =>
    if isHidden c then ['\\', 'u', '\x7b'] ++ hexDigits c.toNat ++ ['\x7d'] else [c]

def quote (s : String) : String :=
  String.ofList ('\x22' :: s.toList.flatMap escape ++ ['\x22'])

/-- An optional text: `Some` with the quoted text in brackets, or `None`. -/
def quoteOption : Option String → String
  | none => "None"
  | some s => "Some(" ++ quote s ++ ")"

end InputUdev.Text
