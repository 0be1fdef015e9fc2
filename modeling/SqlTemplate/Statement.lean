import SqlTemplate.Numbering
import SqlTemplate.Reading
import SqlTemplate.Text.Blank
import SqlTemplate.Traced

/-!
# Statements

A statement is a template whose placeholders have become `$1`, `$2` and so on. Each distinct name
has one number, given in the order in which the names first occur.
-/

namespace SqlTemplate

/-- The part of a statement that has been written, and the numbering of the names in it. -/
structure Draft where
  sql : String := ""
  numbering : Numbering := {}

/-- How a placeholder stands in a statement. -/
def positional (ordinal : UInt16) : String :=
  "$" ++ toString ordinal

def Draft.write : Draft → Token → Except Fault Draft
  | ⟨sql, numbering⟩, .text content => .ok ⟨sql ++ content, numbering⟩
  | ⟨sql, numbering⟩, .placeholder name =>
    match numbering.number name with
    | .ok (ordinal, numbering) => .ok ⟨sql ++ positional ordinal, numbering⟩
    | .error fault => .error fault

def Draft.writeAll (draft : Draft) (tokens : List Token) : Except Fault Draft :=
  tokens.foldlM write draft

structure Statement where
  sql : String
  /-- One parameter for each distinct name, in the order of the ordinals. -/
  parameters : List Parameter
  findings : List Finding
  deriving DecidableEq

/-- The statement for a template, which is trimmed first. -/
def Statement.ofTemplate (template : String) : Traced Statement := do
  let reading := Reading.ofTemplate (Text.trim template)
  Traced.report (reading.findings.map .suspicious)
  let draft ← Traced.ofExcept (Draft.writeAll {} reading.tokens)
  let parameters := draft.numbering.parameters.toList
  Traced.report [.replaced parameters.length]
  return ⟨draft.sql, parameters, reading.findings⟩

end SqlTemplate
