import PowerGrant.Text.Numeral

/-!
# Log lines and their levels
-/

namespace PowerGrant.Log

/-- How much a log line matters, and how much has to matter to pass. -/
inductive Level where
  | off
  | error
  | warn
  | info
  | debug
  | trace
  deriving DecidableEq, Repr, Inhabited

namespace Level

/-- The levels by how much passes. -/
def rank : Level → Nat
  | .off => 0
  | .error => 1
  | .warn => 2
  | .info => 3
  | .debug => 4
  | .trace => 5

/-- The word for a level. -/
def word : Level → String
  | .off => "OFF"
  | .error => "ERROR"
  | .warn => "WARN"
  | .info => "INFO"
  | .debug => "DEBUG"
  | .trace => "TRACE"

/-- All levels. -/
def all : List Level := [.off, .error, .warn, .info, .debug, .trace]

/-- The level of a word, in capitals or not, or of a number. -/
def ofChars? (cs : List Char) : Option Level :=
  match Text.readBelow all.length cs with
  | .ok rank => all.find? (·.rank = rank)
  | .error _ => all.find? fun l => cs.map Char.toUpper = l.word.toList

end Level

/-- A log line. -/
structure Line where
  level : Level
  target : String
  text : String
  deriving DecidableEq, Repr, Inhabited

/-- The fields of a log line: its text. -/
def Line.fields (_ : Line) : List String := ["message"]

end PowerGrant.Log
