import SqlTemplate.Proofs.Blocks
import SqlTemplate.Query

/-!
# The place of a block

A document with one block is its settings and the text around them. Where in the text the block
stands makes no difference, even if it stands within a name or within quoted text.
-/

namespace SqlTemplate

namespace Sections

/-- A document with a block in it. -/
def withBlock (before body after : String) : String :=
  before ++ (String.ofList blockOpen ++ body ++ String.ofList blockClose) ++ after

/-- What a block may hold, and what may stand around it, if it is to be the only one. -/
structure Single (before body after : String) : Prop where
  before : ¬blockOpen <:+: before.toList
  nonempty : body ≠ ""
  body : ¬blockClose <:+: body.toList.tail
  after : ¬HasBlock after.toList

theorem Single.divides {before body after : String} (single : Single before body after) :
    Layout.Divides ⟨[⟨before.toList, body.toList⟩], after.toList⟩
      (withBlock before body after).toList where
  text := by simp [Layout.text, Block.text, withBlock]
  blocks := by
    rintro block member
    obtain rfl := List.mem_singleton.mp member
    exact ⟨single.before, String.toList_eq_nil_iff.not.mpr single.nonempty, single.body⟩
  rest := single.after

theorem Single.ofDocument_eq {before body after : String} (single : Single before body after) :
    ofDocument (withBlock before body after) = ⟨Text.trim body, Text.trim (before ++ after)⟩ := by
  have settings : Layout.settings ⟨[⟨before.toList, body.toList⟩], after.toList⟩ = body := by
    simp [Layout.settings, addBody]
  have template : String.ofList
      (Layout.template ⟨[⟨before.toList, body.toList⟩], after.toList⟩) = before ++ after := by
    simp [Layout.template]
  rw [ofDocument_of_divides single.divides, settings, template]

end Sections

namespace Query

theorem parseWith_eq_of_sections {document other : String}
    (same : Sections.ofDocument other = Sections.ofDocument document)
    (decode : String → Option Settings) : parseWith decode other = parseWith decode document := by
  rw [parseWith, parseWith, same]

/-- A block may stand anywhere in a text. Its body is decoded, the text is rewritten, and neither
depends on the place of the block. -/
theorem block_position_is_irrelevant {before body after earlier later : String}
    (single : Sections.Single before body after) (moved : Sections.Single earlier body later)
    (same : earlier ++ later = before ++ after) (decode : String → Option Settings) :
    let document := Sections.withBlock before body after
    let other := Sections.withBlock earlier body later
    Sections.ofDocument document = ⟨Text.trim body, Text.trim (before ++ after)⟩ ∧
      Sections.ofDocument other = Sections.ofDocument document ∧
      parseWith decode other = parseWith decode document ∧
      (parseWith decode document).result =
        (Settings.read decode (Text.trim body)).bind fun settings =>
          (Statement.ofTemplate (Text.trim (before ++ after))).result.map fun statement =>
            { package := settings.package
              name := settings.name
              sql := statement.sql
              parameters := statement.parameters
              extra := settings.extra
              findings := statement.findings } := by
  intro document other
  have sections := single.ofDocument_eq
  have sameSections : Sections.ofDocument other = Sections.ofDocument document := by
    rw [moved.ofDocument_eq, sections, same]
  refine ⟨sections, sameSections, parseWith_eq_of_sections sameSections decode, ?_⟩
  rw [result_parseWith, sections]

/-- A block in the name of a placeholder, and the same block in quoted text. -/
theorem block_position_is_irrelevant_in_name :
    let body := "\nname = \"A\"\n"
    Sections.Single "select :na" body "me, 'it' /* pgxsql" ∧
      Sections.Single "select :name, 'i" body "t' /* pgxsql" ∧
      "select :name, 'i" ++ "t' /* pgxsql" = "select :na" ++ "me, 'it' /* pgxsql" ∧
      Sections.ofDocument (Sections.withBlock "select :name, 'i" body "t' /* pgxsql") =
        ⟨"name = \"A\"", "select :name, 'it' /* pgxsql"⟩ ∧
      parseWith Settings.decode?
          (Sections.withBlock "select :name, 'i" body "t' /* pgxsql") =
        parseWith Settings.decode?
          (Sections.withBlock "select :na" body "me, 'it' /* pgxsql") := by
  intro body
  have single : Sections.Single "select :na" body "me, 'it' /* pgxsql" :=
    ⟨by decide, by decide, by decide, Block.next?_eq_none_iff.mp (by decide)⟩
  have moved : Sections.Single "select :name, 'i" body "t' /* pgxsql" :=
    ⟨by decide, by decide, by decide, Block.next?_eq_none_iff.mp (by decide)⟩
  have same : "select :name, 'i" ++ "t' /* pgxsql" = "select :na" ++ "me, 'it' /* pgxsql" := by
    decide
  obtain ⟨sections, sameSections, sameResult, -⟩ :=
    block_position_is_irrelevant single moved same Settings.decode?
  refine ⟨single, moved, same, ?_, sameResult⟩
  rw [sameSections, sections]
  decide +kernel

end Query

end SqlTemplate
