import SqlTemplate.Toml.Syntax

/-!
# Reading settings

From a text to the table it defines.
-/

namespace SqlTemplate.Toml

/-- A byte order mark may stand before the text. -/
def withoutMark : List Char → List Char
  | '\ufeff' :: text => text
  | text => text

def joinLineEndsFrom (joined : List Char) : List Char → List Char
  | '\r' :: '\n' :: text => joinLineEndsFrom ('\n' :: joined) text
  | c :: text => joinLineEndsFrom (c :: joined) text
  | [] => joined.reverse

/-- A carriage return and a line feed end a line as a line feed does. -/
def joinLineEnds (text : List Char) : List Char :=
  joinLineEndsFrom [] text

/-- The assignments before the first header, and the headers. -/
structure Outline where
  assignments : List (List String × Value) := []
  sections : List Section := []

def Outline.add (line : Line) (later : Outline) : Outline :=
  match line with
  | .blank => later
  | .assignment path v => { later with assignments := (path, v) :: later.assignments }
  | .table path => ⟨[], .table path later.assignments :: later.sections⟩
  | .element path => ⟨[], .element path later.assignments :: later.sections⟩

def Outline.ofLines (lines : List Line) : Outline :=
  lines.foldr add {}

def Outline.table? (outline : Outline) : Option Table := do
  let root ← assignAll {} outline.assignments
  let root ← outline.sections.foldlM Section.define root
  return inOrder (← entryValues? root)

def decode? (text : String) : Option Table := do
  let (lines, _) ← lines (joinLineEnds (withoutMark text.toList))
  (Outline.ofLines lines).table?

end SqlTemplate.Toml
