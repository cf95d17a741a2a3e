import InputUdev.Regex.Matching

/-!
# Globs

A glob is a shell pattern over whole paths; `/` is a character like any other. Its text is
translated to a regular expression between anchors. While a bracket is read, both the text of its
set and the text as it was written are kept, as a bracket that is never closed stands for its text.
-/

namespace InputUdev
namespace Glob

/-- A member of a bracket, kept from negating the bracket, opening another and making an
operator. -/
def escapeMember (c : Char) : List Char :=
  if c ∈ ['\\', '[', '^', '&', '~'] then ['\\', c] else [c]

mutual

/-- The translation `out` of what stands before a pattern, continued by that of the pattern. A
bracket may begin with a mark of negation, and then with a closing bracket that is a member. -/
def translateFrom (out : List Char) : List Char → List Char
  | [] => out ++ ['$']
  | '*' :: rest => translateFrom (out ++ ['.', '*']) rest
  | '?' :: rest => translateFrom (out ++ ['.']) rest
  | '[' :: '!' :: ']' :: rest => translateBracket out ['^', '\\', ']'] ['[', '!', ']'] rest
  | '[' :: '!' :: rest => translateBracket out ['^'] ['[', '!'] rest
  | '[' :: ']' :: rest => translateBracket out ['\\', ']'] ['[', ']'] rest
  | '[' :: rest => translateBracket out [] ['['] rest
  | c :: rest => translateFrom (out ++ Regex.escape [c]) rest

/-- Goes on in a bracket, of which `set` is the text of the set and `raw` the text as written. -/
def translateBracket (out set raw : List Char) : List Char → List Char
  | [] => out ++ Regex.escape raw ++ ['$']
  | ']' :: rest => translateFrom (out ++ ['['] ++ set ++ [']']) rest
  | c :: rest => translateBracket out (set ++ escapeMember c) (raw ++ [c]) rest

end

/-- The regular expression that matches the paths a pattern stands for. -/
def translate (pattern : String) : String := .ofList (translateFrom ['^'] pattern.toList)

end Glob

/-- A glob, compiled from its text. -/
structure Glob where
  matcher : Except Regex.Error Regex

namespace Glob

def ofText (pattern : String) : Glob := ⟨Regex.ofText (translate pattern)⟩

/-- A pattern that failed to compile accepts nothing. -/
def accepts (g : Glob) (path : String) : Bool :=
  match g.matcher with
  | .ok r => r.isMatch path
  | .error _ => false

end Glob
end InputUdev
