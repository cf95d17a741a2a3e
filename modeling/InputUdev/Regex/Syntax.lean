/-!
# Regular expressions

The part of a regex engine's syntax that globs are translated to: characters, the dot, sets of
characters, `*` after one of these, and the anchors. The text is cut into tokens first, so that an
escaped character is told from a plain one; the tokens are read from left to right. All else that
the engine knows (groups, alternatives, other repetitions, named sets, sets within sets, flags) is
refused as unsupported. The bounds that the engine sets on the nesting of an expression and on its
size are left out.
-/

namespace InputUdev
namespace Regex

/-- The characters from `first` to `last`, both included. -/
structure Range where
  first : Char
  last : Char
  deriving DecidableEq, Repr

namespace Range

def single (c : Char) : Range := ⟨c, c⟩

def contains (r : Range) (c : Char) : Bool := decide (r.first ≤ c ∧ c ≤ r.last)

end Range

inductive SetOperator where
  | intersection
  | difference
  | symmetricDifference
  deriving DecidableEq, Repr

/-- The members of a bracket: unions of ranges, put together by operators from left to right. -/
inductive ClassSet where
  | union (rs : List Range)
  | combine (op : SetOperator) (left : ClassSet) (rs : List Range)
  deriving DecidableEq, Repr

/-- Adds a range to the last of the unions. -/
def ClassSet.add (r : Range) : ClassSet → ClassSet
  | union rs => union (rs ++ [r])
  | combine op left rs => combine op left (rs ++ [r])

/-- What takes one character. -/
inductive CharSet where
  /-- Any character that is no line break. -/
  | dot
  | literal (c : Char)
  | bracket (negated : Bool) (members : ClassSet)
  deriving DecidableEq, Repr

inductive Node where
  /-- The beginning of the text. -/
  | start
  /-- The end of the text. -/
  | stop
  | one (s : CharSet)
  /-- Any number of characters, none included. -/
  | many (s : CharSet)
  deriving DecidableEq, Repr

/-- Why a text is refused. -/
inductive Error where
  | reversedRange
  | unclosedClass
  | nothingToRepeat
  | incompleteEscape
  | unsupported (c : Char)
  deriving DecidableEq, Repr

/-- What the engine says of the error, after the place in the text where it is. -/
def Error.message : Error → String
  | reversedRange => "invalid character class range, the start must be <= the end"
  | unclosedClass => "unclosed character class"
  | nothingToRepeat => "repetition operator missing expression"
  | incompleteEscape => "incomplete escape sequence, reached end of pattern prematurely"
  | unsupported c => "unsupported use of " ++ c.toString

/-! ## Escapes -/

/-- The characters that may have a meaning of their own, in a bracket or outside of it. -/
def metaCharacters : List Char :=
  ['\\', '.', '+', '*', '?', '(', ')', '|', '[', ']', '{', '}', '^', '$', '#', '&', '-', '~']

def escapeChar (c : Char) : List Char := if c ∈ metaCharacters then ['\\', c] else [c]

/-- The expression for a plain text. -/
def escape (text : List Char) : List Char := text.flatMap escapeChar

inductive Token where
  | plain (c : Char)
  | escaped (c : Char)
  /-- A backslash at the end of the text. -/
  | incomplete
  deriving DecidableEq, Repr

def tokens : List Char → List Token
  | [] => []
  | ['\\'] => [.incomplete]
  | '\\' :: c :: rest => .escaped c :: tokens rest
  | c :: rest => .plain c :: tokens rest

/-- The character that a token stands for in a bracket, where it has no other meaning. -/
def Token.member : Token → Except Error Char
  | plain c => .ok c
  | escaped c => if c ∈ metaCharacters then .ok c else .error (.unsupported c)
  | incomplete => .error .incompleteEscape

/-- The character that a token stands for outside of brackets, where it has no other meaning. -/
def Token.literal : Token → Except Error Char
  | plain c => if c ∈ ['+', '?', '(', ')', '|', '{'] then .error (.unsupported c) else .ok c
  | t => t.member

/-! ## Reading -/

/-- The operator between the members of a bracket that two tokens make. -/
def SetOperator.ofTokens? : Token → Token → Option SetOperator
  | .plain '&', .plain '&' => some .intersection
  | .plain '-', .plain '-' => some .difference
  | .plain '~', .plain '~' => some .symmetricDifference
  | _, _ => none

mutual

/-- Reads on after the nodes `done`, the last of which comes first. -/
def readNodes (done : List Node) : List Token → Except Error (List Node)
  | [] => .ok done.reverse
  | .plain '^' :: rest => readNodes (.start :: done) rest
  | .plain '$' :: rest => readNodes (.stop :: done) rest
  | .plain '.' :: rest => readNodes (.one .dot :: done) rest
  | .plain '*' :: rest =>
    match done with
    | [] => .error .nothingToRepeat
    | .one s :: before => readNodes (.many s :: before) rest
    | _ => .error (.unsupported '*')
  | .plain '[' :: .plain '^' :: rest => readMembers done true true (.union []) rest
  | .plain '[' :: rest => readMembers done false true (.union []) rest
  | t :: rest => do readNodes (.one (.literal (← t.literal)) :: done) rest

/-- Reads on in a bracket, after the members `set`. Until there are others, hyphens are members, and
so is a closing bracket that comes first. A hyphen makes a range when it stands between two members
of which the second is no plain hyphen. -/
def readMembers (done : List Node) (negated leading : Bool) (set : ClassSet) :
    List Token → Except Error (List Node)
  | [] => .error .unclosedClass
  | t :: rest =>
    if t = .plain '-' ∧ leading then
      readMembers done negated true (set.add (.single '-')) rest
    else if t = .plain ']' then
      if leading ∧ set = .union [] then
        readMembers done negated false (set.add (.single ']')) rest
      else readNodes (.one (.bracket negated set) :: done) rest
    else if t = .plain '[' then .error (.unsupported '[')
    else do
      let first ← t.member
      match rest with
      | [] => .error .unclosedClass
      | u :: rest =>
        match SetOperator.ofTokens? t u with
        | some op => readMembers done negated false (.combine op set []) rest
        | none =>
          if u ≠ .plain '-' then
            readMembers done negated false (set.add (.single first)) (u :: rest)
          else match rest with
            | [] => .error .unclosedClass
            | v :: rest =>
              if v = .plain '-' ∨ v = .plain ']' then
                readMembers done negated false (set.add (.single first)) (u :: v :: rest)
              else do
                let last ← v.member
                if first ≤ last then
                  readMembers done negated false (set.add ⟨first, last⟩) rest
                else .error .reversedRange

end

end Regex

/-- A regular expression, matched anywhere in a text. -/
structure Regex where
  nodes : List Regex.Node
  deriving DecidableEq, Repr

def Regex.ofText (text : String) : Except Regex.Error Regex :=
  (Regex.readNodes [] (Regex.tokens text.toList)).map Regex.mk

end InputUdev
