import SqlTemplate.Finding

/-!
# Events

What is reported while a document is worked on. An event has a level, a message, and fields that
say what the message is about.
-/

namespace SqlTemplate

inductive Level where
  | warn
  | debug
  deriving DecidableEq

inductive Event where
  /-- The template holds something suspicious. -/
  | suspicious (finding : Finding)
  /-- The placeholders have been replaced. -/
  | replaced (parameters : Nat)
  /-- The document has been read. -/
  | parsed (package name : String) (parameters : Nat)
  /-- The server has described the statement. -/
  | described (types : Nat)
  deriving DecidableEq

namespace Event

def level : Event → Level
  | suspicious _ => .warn
  | replaced _ | parsed _ _ _ | described _ => .debug

def message : Event → String
  | suspicious _ => "suspicious SQL while rewriting named parameters"
  | replaced _ => "rewrote named parameters"
  | parsed _ _ _ => "parsed query source"
  | described _ => "described statement parameters"

def fields : Event → List (String × String)
  | suspicious finding => [("diagnostic", finding.message)]
  | replaced parameters => [("parameters", toString parameters)]
  | parsed package name parameters =>
    [("package", package), ("name", name), ("parameters", toString parameters)]
  | described types => [("described", toString types)]

end Event

end SqlTemplate
