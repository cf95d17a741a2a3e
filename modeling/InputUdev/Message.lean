/-!
# Log messages

What an operation has to say is part of its result, in the order in which it is said.
-/

namespace InputUdev

inductive Level where
  | trace
  | debug
  | info
  | warn
  | error
  deriving DecidableEq, Repr

def Level.name : Level → String
  | trace => "TRACE"
  | debug => "DEBUG"
  | info => "INFO"
  | warn => "WARN"
  | error => "ERROR"

structure Message where
  level : Level
  text : String
  deriving DecidableEq, Repr

namespace Message

/-- A message about a subject, which is named first, in parentheses. -/
def about (level : Level) (subject text : String) : Message :=
  ⟨level, "(" ++ subject ++ ") " ++ text⟩

end Message
end InputUdev
