import SqlTemplate.Text.Blank
import SqlTemplate.Text.Cut

/-!
# Documents

A document is a template with blocks of settings in it. A block is an opening marker, a body of at
least one character, and the first closing marker after that character. An opening marker that no
closing marker follows belongs to the template.
-/

namespace SqlTemplate

def blockOpen : List Char := "/* pgxsql".toList

def blockClose : List Char := "pgxsql */".toList

/-- A block, and the text between it and the block before it. -/
structure Block where
  before : List Char
  body : List Char
  deriving DecidableEq

/-- The first block of a text, and what follows it. -/
def Block.next? (text : List Char) : Option (Block × List Char) :=
  match Text.cut? blockOpen text with
  | some (before, c :: inner) =>
    match Text.cut? blockClose inner with
    | some (body, after) => some (⟨before, c :: body⟩, after)
    | none => none
  | _ => none

theorem Block.length_of_next? {text after : List Char} {block : Block}
    (found : Block.next? text = some (block, after)) : after.length < text.length := by
  unfold Block.next? at found
  split at found
  · next before c inner opened =>
    split at found
    · next body rest closed =>
      obtain ⟨_, rfl⟩ := Prod.mk.inj (Option.some.inj found)
      rw [Text.eq_append_of_cut? opened, Text.eq_append_of_cut? closed]
      simp only [List.length_append, List.length_cons]
      omega
    · cases found
  · cases found

/-- A document taken apart: its blocks, and the text after the last one. -/
structure Layout where
  blocks : List Block
  rest : List Char
  deriving DecidableEq

/-- Takes a text apart, the blocks already seen being given latest first. -/
def Layout.extend (seen : List Block) (text : List Char) : Layout :=
  match _ : Block.next? text with
  | some (block, after) => extend (block :: seen) after
  | none => ⟨seen.reverse, text⟩
termination_by text.length
decreasing_by exact Block.length_of_next? ‹_›

def Layout.ofText (text : List Char) : Layout :=
  Layout.extend [] text

/-- Adds a body to the settings collected so far, on a new line unless there are none yet. -/
def addBody (settings : String) (body : List Char) : String :=
  (if settings.isEmpty then settings else settings.push '\n') ++ String.ofList body

/-- The bodies of the blocks, collected one after the other. -/
def Layout.settings (layout : Layout) : String :=
  (layout.blocks.map Block.body).foldl addBody ""

/-- All that stands outside the blocks. -/
def Layout.template (layout : Layout) : List Char :=
  layout.blocks.flatMap Block.before ++ layout.rest

structure Sections where
  settings : String
  template : String
  deriving DecidableEq

/-- The two halves of a document, each trimmed. -/
def Sections.ofDocument (document : String) : Sections :=
  let layout := Layout.ofText document.toList
  { settings := Text.trim layout.settings
    template := Text.trim (String.ofList layout.template) }

end SqlTemplate
