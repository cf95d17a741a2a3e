import InputUdev.Regex.Syntax

/-!
# Matching regular expressions

An expression is looked for in a whole text: a match may begin and end anywhere, unless anchors say
otherwise. The matcher finds for every tail of the text at once whether the nodes match a beginning
of it, one node after the other from the last.
-/

namespace InputUdev
namespace Regex

def ClassSet.contains : ClassSet → Char → Bool
  | union rs, c => rs.any (·.contains c)
  | combine .intersection left rs, c => left.contains c && rs.any (·.contains c)
  | combine .difference left rs, c => left.contains c && !rs.any (·.contains c)
  | combine .symmetricDifference left rs, c => left.contains c != rs.any (·.contains c)

def CharSet.contains : CharSet → Char → Bool
  | dot, c => c != '\n'
  | literal a, c => c == a
  | bracket negated members, c => members.contains c != negated

/-- Keeps the answer for the text itself only. -/
def stepStart : List Bool → List Bool
  | [] => []
  | here :: later => here :: later.map fun _ => false

/-- Keeps the answer for the empty tail only. -/
def stepStop : List Char → List Bool → List Bool
  | _ :: cs, _ :: later => false :: stepStop cs later
  | _, later => later

/-- Extends the answers for the tails of a text by one character. -/
def stepOne (takes : Char → Bool) : List Char → List Bool → List Bool
  | c :: cs, _ :: later => (takes c && later.headD false) :: stepOne takes cs later
  | _, _ => [false]

/-- Extends the answers for the tails of a text by a run of characters. -/
def stepRun (takes : Char → Bool) : List Char → List Bool → List Bool
  | c :: cs, here :: later =>
    let tails := stepRun takes cs later
    (here || (takes c && tails.headD false)) :: tails
  | _, later => later

def Node.step : Node → List Char → List Bool → List Bool
  | start, _, answers => stepStart answers
  | stop, text, answers => stepStop text answers
  | one s, text, answers => stepOne s.contains text answers
  | many s, text, answers => stepRun s.contains text answers

/-- For each tail of the text, the text itself first, whether the nodes match a beginning of it. -/
def tailMatches : List Node → List Char → List Bool
  | [], text => text.map (fun _ => true) ++ [true]
  | n :: ns, text => n.step text (tailMatches ns text)

end Regex

/-- Whether the expression matches some part of the text. -/
def Regex.isMatch (r : Regex) (text : String) : Bool :=
  (Regex.tailMatches r.nodes text.toList).any fun here => here

end InputUdev
