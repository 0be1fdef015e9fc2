import Mathlib
import SqlTemplate.Proofs.Idempotence
import SqlTemplate.Proofs.Placement

/-!
# Statements as documents

No number occurs in a marker, so the markers of a statement are those of its template, and a
statement has a block in it only if its template has one. A statement without a block is a
document that has no settings, and the query in it is the statement again.
-/

namespace SqlTemplate

/-- Whether a text is the other one with numbers in place of some of its parts. -/
inductive Renumbers : List Char → List Char → Prop
  | nil : Renumbers [] []
  | same {c : Char} {template sql : List Char} :
      Renumbers template sql → Renumbers (c :: template) (c :: sql)
  | number {part digits template sql : List Char} : part ≠ [] → digits ≠ [] →
      (∀ c ∈ digits, isPositionalChar c) → Renumbers template sql →
        Renumbers (part ++ template) (digits ++ sql)

namespace Renumbers

theorem append_same (text : List Char) {template sql : List Char}
    (renumbers : Renumbers template sql) : Renumbers (text ++ template) (text ++ sql) := by
  induction text with
  | nil => exact renumbers
  | cons c text inductionHypothesis => exact .same inductionHypothesis

theorem ne_nil {template sql : List Char} (renumbers : Renumbers template sql)
    (nonempty : sql ≠ []) : template ≠ [] := by
  cases renumbers with
  | nil => exact nonempty
  | same => exact List.cons_ne_nil _ _
  | number partNonempty => exact List.append_ne_nil_of_left_ne_nil partNonempty _

theorem single {part digits : List Char} (partNonempty : part ≠ []) (nonempty : digits ≠ [])
    (numbers : ∀ c ∈ digits, isPositionalChar c) : Renumbers part digits := by
  have followed : Renumbers (part ++ []) (digits ++ []) :=
    .number partNonempty nonempty numbers .nil
  simpa using followed

/-- A character that occurs in no number divides both texts. -/
theorem exists_append {template front rest : List Char} {m : Char} (noNumber : ¬isPositionalChar m)
    (renumbers : Renumbers template (front ++ m :: rest)) :
    ∃ before after, template = before ++ after ∧ Renumbers before front ∧
      Renumbers after (m :: rest) := by
  generalize whole : front ++ m :: rest = sql at renumbers
  induction renumbers generalizing front with
  | nil => exact absurd whole (List.append_ne_nil_of_right_ne_nil _ (List.cons_ne_nil _ _))
  | @same c template sql renumbers inductionHypothesis =>
    cases front with
    | nil =>
      obtain ⟨rfl, rfl⟩ := List.cons.inj whole
      exact ⟨[], m :: template, rfl, .nil, .same renumbers⟩
    | cons d front =>
      obtain ⟨rfl, others⟩ := List.cons.inj whole
      obtain ⟨before, after, rfl, first, second⟩ := inductionHypothesis others
      exact ⟨d :: before, after, rfl, .same first, second⟩
  | @number part digits template sql partNonempty nonempty numbers renumbers inductionHypothesis =>
    rcases List.append_eq_append_iff.mp whole with ⟨overlap, rfl, split⟩ | ⟨back, rfl, split⟩
    · cases overlap with
      | nil =>
        rw [List.append_nil] at nonempty numbers
        exact ⟨part, template, rfl, .single partNonempty nonempty numbers, split ▸ renumbers⟩
      | cons d overlap =>
        obtain ⟨rfl, -⟩ := List.cons.inj split
        exact absurd (numbers m (List.mem_append_right _ List.mem_cons_self)) noNumber
    · obtain ⟨before, after, rfl, first, second⟩ := inductionHypothesis split.symm
      exact ⟨part ++ before, after, (List.append_assoc _ _ _).symm,
        .number partNonempty nonempty numbers first, second⟩

theorem exists_cons {template rest : List Char} {m : Char} (noNumber : ¬isPositionalChar m)
    (renumbers : Renumbers template (m :: rest)) :
    ∃ after, template = m :: after ∧ Renumbers after rest := by
  generalize whole : m :: rest = sql at renumbers
  cases renumbers with
  | nil => cases whole
  | @same c template sql renumbers =>
    obtain ⟨rfl, rfl⟩ := List.cons.inj whole
    exact ⟨template, rfl, renumbers⟩
  | @number part digits template sql partNonempty nonempty numbers renumbers =>
    obtain ⟨d, digits, rfl⟩ := List.exists_cons_of_ne_nil nonempty
    obtain ⟨rfl, -⟩ := List.cons.inj whole
    exact absurd (numbers m List.mem_cons_self) noNumber

theorem exists_marker {marker : List Char} (noNumber : ∀ c ∈ marker, ¬isPositionalChar c)
    {template back : List Char} (renumbers : Renumbers template (marker ++ back)) :
    ∃ after, template = marker ++ after ∧ Renumbers after back := by
  induction marker generalizing template with
  | nil => exact ⟨template, rfl, renumbers⟩
  | cons m marker inductionHypothesis =>
    obtain ⟨first, others⟩ := List.forall_mem_cons.mp noNumber
    obtain ⟨tail, rfl, tailRenumbers⟩ := renumbers.exists_cons first
    obtain ⟨after, rfl, backRenumbers⟩ := inductionHypothesis others tailRenumbers
    exact ⟨after, rfl, backRenumbers⟩

/-- A marker that has no number in it stands in both texts. -/
theorem exists_around_marker {marker : List Char} (nonempty : marker ≠ [])
    (noNumber : ∀ c ∈ marker, ¬isPositionalChar c) {template front back : List Char}
    (renumbers : Renumbers template (front ++ (marker ++ back))) :
    ∃ before after, template = before ++ (marker ++ after) ∧ Renumbers before front ∧
      Renumbers after back := by
  obtain ⟨m, rest, rfl⟩ := List.exists_cons_of_ne_nil nonempty
  obtain ⟨before, middle, rfl, first, others⟩ :=
    renumbers.exists_append (noNumber m List.mem_cons_self)
  obtain ⟨after, rfl, second⟩ := exists_marker noNumber others
  exact ⟨before, after, rfl, first, second⟩

/-- Numbers make no block, neither in a marker nor between two of them. -/
theorem hasBlock {template sql : List Char} (renumbers : Renumbers template sql)
    (block : HasBlock sql) : HasBlock template := by
  obtain ⟨body, nonempty, front, back, rfl⟩ := block
  have regrouped : front ++ (blockOpen ++ (body ++ blockClose)) ++ back =
      front ++ (blockOpen ++ (body ++ (blockClose ++ back))) := by
    simp only [List.append_assoc]
  have inOpen : blockOpen.any isPositionalChar = false := by decide
  have inClose : blockClose.any isPositionalChar = false := by decide
  rw [regrouped] at renumbers
  obtain ⟨before, inner, rfl, -, innerRenumbers⟩ :=
    renumbers.exists_around_marker (by decide) (List.any_eq_false.mp inOpen)
  obtain ⟨content, after, rfl, bodyRenumbers, -⟩ :=
    innerRenumbers.exists_around_marker (by decide) (List.any_eq_false.mp inClose)
  exact ⟨content, bodyRenumbers.ne_nil nonempty, before, after, by simp⟩

end Renumbers

theorem Item.renumbers_textOf (names : List String) (items : List Item) :
    Renumbers (textOf items) (textOf (numberedAll names items)) := by
  induction items with
  | nil => exact .nil
  | cons item items inductionHypothesis =>
    rw [numberedAll_cons, textOf_append, textOf_cons]
    by_cases isText : item.IsText
    · rw [isText.numbered_eq, textOf_cons, textOf_nil, List.append_nil]
      exact inductionHypothesis.append_same item.text
    · obtain ⟨name, rfl⟩ := not_forall_not.mp isText
      rw [numbered, textOf_map_plain]
      apply Renumbers.number (text_ne_nil _) _ isPositionalChar_of_mem inductionHypothesis
      rw [toList_positional]
      exact List.cons_ne_nil _ _

namespace Statement

theorem trimmed_sql {template : String} {statement : Statement}
    (accepted : (ofTemplate template).result = .ok statement) :
    Text.Trimmed statement.sql.toList := by
  obtain ⟨items, names, reads, readsAgain, -⟩ := reads_sql accepted
  rw [← readsAgain.text]
  exact reads.trimmed_numberedAll (Text.trimmed_trim template) names

/-- A statement has no block in it if its template has none. -/
theorem not_hasBlock_sql {template : String} {statement : Statement}
    (accepted : (ofTemplate template).result = .ok statement)
    (noBlock : ¬HasBlock (Text.trim template).toList) : ¬HasBlock statement.sql.toList := by
  obtain ⟨items, names, reads, readsAgain, -⟩ := reads_sql accepted
  rw [← reads.text] at noBlock
  rw [← readsAgain.text]
  exact fun block => noBlock ((Item.renumbers_textOf names items).hasBlock block)

end Statement

/-- A decoder of settings, made of a decoder of tables. -/
def Settings.ofDecoder (decode : String → Option Toml.Table) (text : String) : Option Settings :=
  (decode text).bind ofTable?

theorem Settings.ofDecoder_decode? : ofDecoder Toml.decode? = decode? :=
  rfl

theorem Settings.read_empty {decode : String → Option Toml.Table} (empty : decode "" = some []) :
    read (ofDecoder decode) "" = .ok {} := by
  rw [read, ofDecoder, empty]
  rfl

namespace Query

/-- The statement of a document, if there is no block in it, is a document whose query is the
statement again. It has no settings and no parameters, and the only finding about it is the one
about the quoted text that the template leaves open, at the place where that text stands in the
statement. -/
theorem statement_is_its_own_document {decode : String → Option Toml.Table}
    (empty : decode "" = some []) {document : String} {source : Query}
    (parsed : (parseWith (Settings.ofDecoder decode) document).result = .ok source)
    (noBlock : ¬HasBlock (Sections.ofDocument document).template.toList) :
    Sections.ofDocument source.sql = ⟨"", source.sql⟩ ∧
      ∃ again, (parseWith (Settings.ofDecoder decode) source.sql).result = .ok again ∧
        again.sql = source.sql ∧ again.parameters = [] ∧
        again.package = "" ∧ again.name = "" ∧ again.extra = [] ∧
        ((∀ quote offset, .unterminated quote offset ∉ source.findings) → again.findings = []) ∧
        ∀ quote offset, .unterminated quote offset ∈ source.findings →
          ∃ before after opened,
            (Sections.ofDocument document).template = before ++ opened ∧
            before.utf8ByteSize = offset ∧ source.sql = after ++ opened ∧
            again.findings = [.unterminated quote after.utf8ByteSize] := by
  obtain ⟨settings, statement, -, accepted, rfl⟩ := exists_of_result_eq_ok parsed
  have templateTrimmed : Text.trim (Sections.ofDocument document).template =
      (Sections.ofDocument document).template := (Text.trimmed_trim _).trim_eq
  have trimmed := Statement.trimmed_sql accepted
  have sections : Sections.ofDocument statement.sql = ⟨"", statement.sql⟩ := by
    rw [← templateTrimmed] at noBlock
    rw [Sections.ofDocument_of_not_hasBlock (Statement.not_hasBlock_sql accepted noBlock),
      trimmed.trim_eq]
  obtain ⟨items, names, reads, readsAgain, findings⟩ := Statement.reads_sql accepted
  rw [templateTrimmed] at reads
  have parsedAgain : (parseWith (Settings.ofDecoder decode) statement.sql).result =
      .ok ⟨"", "", statement.sql, [], [], Item.findings 0 (Item.numberedAll names items)⟩ := by
    rw [result_parseWith, sections, Settings.read_empty empty,
      Statement.result_of_isText readsAgain trimmed Item.isText_of_mem_numberedAll]
    rfl
  refine ⟨sections, _, parsedAgain, rfl, rfl, rfl, rfl, rfl, ?_, ?_⟩
  · intro quiet
    apply Item.findings_numberedAll_of_closed
    apply Item.closed_of_findings
    exact findings ▸ quiet
  · intro quote offset found
    obtain ⟨before, after, opened, split, place, splitAgain, foundAgain⟩ :=
      Item.exists_opened_of_unterminated reads.fit names (findings ▸ found)
    refine ⟨String.ofList before, String.ofList after, String.ofList opened, ?_, ?_, ?_, ?_⟩
    · rw [← String.ofList_append, ← split, reads.text, String.ofList_toList]
    · rw [Text.utf8ByteSize_eq_bytes, String.toList_ofList, place]
    · rw [← String.ofList_append, ← splitAgain, readsAgain.text, String.ofList_toList]
    · rw [Text.utf8ByteSize_eq_bytes, String.toList_ofList]
      exact foundAgain

/-- A document that ends in a string which is open, with an opening marker in it. -/
theorem statement_is_its_own_document_with_open_string :
    let document := "/* pgxsql\nname = \"A\"\npgxsql */\nselect :name::int, '/* pgxsql :b"
    let sql := "select $1::int, '/* pgxsql :b"
    Toml.decode? "" = some [] ∧
      ¬HasBlock (Sections.ofDocument document).template.toList ∧
      ∃ source, (parse document).result = .ok source ∧
        source.sql = sql ∧ source.findings = [.unterminated .string 19] ∧
        Sections.ofDocument sql = ⟨"", sql⟩ ∧
        ∃ again, (parse sql).result = .ok again ∧
          again.sql = sql ∧ again.parameters = [] ∧
          again.findings = [.unterminated .string 16] := by
  intro document sql
  simp only [parse, ← Settings.ofDecoder_decode?]
  have empty : Toml.decode? "" = some [] := by cbv
  have sections : Sections.ofDocument document =
      ⟨"name = \"A\"", "select :name::int, '/* pgxsql :b"⟩ := by
    decide +kernel
  have noBlock : ¬HasBlock (Sections.ofDocument document).template.toList := by
    rw [sections]
    exact Block.next?_eq_none_iff.mp (by decide)
  have settings : Settings.ofDecoder Toml.decode? "name = \"A\"" = some ⟨"", "A", []⟩ := by cbv
  have statement : (Statement.ofTemplate "select :name::int, '/* pgxsql :b").result =
      .ok ⟨sql, [⟨"name", 1, none⟩], [.unterminated .string 19]⟩ := by
    rw [Statement.result_ofTemplate]
    decide +kernel
  have parsed : (parseWith (Settings.ofDecoder Toml.decode?) document).result =
      .ok ⟨"", "A", sql, [⟨"name", 1, none⟩], [], [.unterminated .string 19]⟩ := by
    rw [result_parseWith, sections, Settings.read, settings, statement]
    rfl
  obtain ⟨own, again, parsedAgain, sameSql, parameters, -, -, -, -, stillOpen⟩ :=
    statement_is_its_own_document empty parsed noBlock
  obtain ⟨before, after, opened, split, place, splitAgain, findings⟩ :=
    stillOpen .string 19 List.mem_cons_self
  have sizes := congrArg String.utf8ByteSize split
  have sizesAgain := congrArg String.utf8ByteSize splitAgain
  have size : (Sections.ofDocument document).template.utf8ByteSize = 32 := by
    rw [sections]
    decide +kernel
  have sizeAgain : sql.utf8ByteSize = 29 := by decide +kernel
  rw [String.utf8ByteSize_append] at sizes sizesAgain
  have placeAgain : after.utf8ByteSize = 16 := by
    dsimp only at sizesAgain
    omega
  exact ⟨empty, noBlock, _, parsed, rfl, rfl, own, again, parsedAgain, sameSql, parameters,
    placeAgain ▸ findings⟩

end Query

end SqlTemplate
