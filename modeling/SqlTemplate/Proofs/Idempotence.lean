import SqlTemplate.Proofs.Rewriting

/-!
# Statements of statements

A statement is trimmed, is read as text throughout, and is its own statement. All that can be
remarked about it is the quoted text that its template leaves open, at the same distance from the
end.
-/

namespace SqlTemplate

namespace Item

theorem trimmed_positional (ordinal : UInt16) : Text.Trimmed (positional ordinal).toList where
  head c member :=
    not_isBlank_of_isPositionalChar (isPositionalChar_of_mem c (List.mem_of_mem_head? member))
  last c member :=
    not_isBlank_of_isPositionalChar (isPositionalChar_of_mem c (List.mem_of_getLast? member))

/-- Rewriting the placeholders of a trimmed text leaves it trimmed. -/
theorem Reads.trimmed_numberedAll {items : List Item} {text : List Char} (reads : Reads items text)
    (trimmed : Text.Trimmed text) (names : List String) :
    Text.Trimmed (textOf (numberedAll names items)) := by
  have written : textOf (numberedAll names items) =
      items.flatMap fun item => textOf (item.numbered names) :=
    List.flatMap_assoc
  rw [written]
  apply reads.trimmed_flatMap trimmed
  case unchanged =>
    intro item isText
    rw [isText.numbered_eq, textOf_cons, textOf_nil, List.append_nil]
  case replaced =>
    intro name _
    rw [numbered, textOf_map_plain]
    exact ⟨by rw [toList_positional]; exact List.cons_ne_nil _ _, trimmed_positional _⟩

theorem findings_numberedAll_of_closed {items : List Item}
    (closed : ∀ opener body, unclosed opener body ∉ items) (names : List String) (offset : Nat) :
    findings offset (numberedAll names items) = [] := by
  apply findings_eq_nil
  intro item member place
  have isText := isText_of_mem_numberedAll item member
  obtain ⟨source, sourceMember, member⟩ := List.mem_flatMap.mp member
  cases item with
  | unclosed opener body =>
    -- A placeholder becomes single characters, so open quoted text comes from itself.
    cases source with
    | placeholder name =>
      obtain ⟨_, -, same⟩ := List.mem_map.mp member
      cases same
    | quoted other inner | unclosed other inner | cast | plain c =>
      rw [← List.mem_singleton.mp member] at sourceMember
      exact absurd sourceMember (closed _ _)
  | placeholder name => exact absurd rfl (isText name)
  | quoted opener body | cast | plain c => rfl

/-- Text that is open at the end of a template is the same in the statement. -/
theorem exists_opened_of_unterminated {items : List Item} (fit : AllFit items none)
    (names : List String) {quote : Quote} {offset : Nat}
    (found : .unterminated quote offset ∈ findings 0 items) :
    ∃ before after opened, textOf items = before ++ opened ∧ Text.bytes before = offset ∧
      textOf (numberedAll names items) = after ++ opened ∧
      findings 0 (numberedAll names items) = [.unterminated quote (Text.bytes after)] := by
  obtain ⟨front, opener, body, rfl, rfl, rfl⟩ := (mem_findings_unterminated fit).mp found
  have closed := (allFit_append.mp fit).1.closed nofun
  have last : numberedAll names [unclosed opener body] = [unclosed opener body] := rfl
  refine ⟨textOf front, textOf (numberedAll names front), textOf [unclosed opener body],
    textOf_append _ _, rfl, ?_, ?_⟩
  · rw [numberedAll_append, last, textOf_append]
  · rw [numberedAll_append, last, findings_append, findings_numberedAll_of_closed closed,
      List.nil_append, Nat.zero_add]
    rfl

/-- Text that is open at the end of a template is open at the end of the statement. -/
theorem findings_numberedAll_of_unterminated {items : List Item} (fit : AllFit items none)
    (names : List String) {quote : Quote} {offset : Nat}
    (found : .unterminated quote offset ∈ findings 0 items) :
    ∃ place, findings 0 (numberedAll names items) = [.unterminated quote place] ∧
      (Text.bytes (textOf (numberedAll names items)) : Int) - place =
        Text.bytes (textOf items) - offset := by
  obtain ⟨before, after, opened, split, rfl, splitAgain, foundAgain⟩ :=
    exists_opened_of_unterminated fit names found
  refine ⟨Text.bytes after, foundAgain, ?_⟩
  rw [split, splitAgain, Text.bytes_append, Text.bytes_append]
  omega

end Item

namespace Statement

/-- A statement has the items of its template, the placeholders being written as numbers. -/
theorem reads_sql {template : String} {statement : Statement}
    (accepted : (ofTemplate template).result = .ok statement) :
    ∃ items names, Item.Reads items (Text.trim template).toList ∧
      Item.Reads (Item.numberedAll names items) statement.sql.toList ∧
      statement.findings = Item.findings 0 items := by
  obtain ⟨items, reads⟩ := Item.exists_reads (Text.trim template).toList
  obtain ⟨-, sql, -, findings⟩ := parts_of_reads reads accepted
  exact ⟨items, _, reads, ⟨sql.symm, reads.fit.numberedAll _⟩, findings⟩

/-- Trimmed text without placeholders is its own statement. -/
theorem result_of_isText {sql : String} {items : List Item} (reads : Item.Reads items sql.toList)
    (trimmed : Text.Trimmed sql.toList) (isText : ∀ item ∈ items, item.IsText) :
    (ofTemplate sql).result = .ok ⟨sql, [], Item.findings 0 items⟩ := by
  rw [result_of_reads (trimmed.trim_eq.symm ▸ reads), Item.names_of_isText isText]
  simp only [Item.numberedAll_of_isText isText, reads.text, String.ofList_toList]
  rfl

/-- A statement is trimmed, reads as text throughout, and is its own statement without parameters.
The only finding about it is the one about open quoted text, if there was one about its template,
and it is as far from the end as that one. -/
theorem rewriting_is_idempotent {template : String} {statement : Statement}
    (accepted : (ofTemplate template).result = .ok statement) :
    (∀ c ∈ statement.sql.toList.head?, ¬Text.isBlank c) ∧
    (∀ c ∈ statement.sql.toList.getLast?, ¬Text.isBlank c) ∧
    (Reading.ofTemplate statement.sql).tokens =
      (if statement.sql = "" then [] else [.text statement.sql]) ∧
    ∃ again, (ofTemplate statement.sql).result = .ok again ∧
      again.sql = statement.sql ∧ again.parameters = [] ∧
      ((∀ quote offset, .unterminated quote offset ∉ statement.findings) → again.findings = []) ∧
      ∀ (quote : Quote) (offset : Nat), .unterminated quote offset ∈ statement.findings →
        ∃ place, again.findings = [.unterminated quote place] ∧
          (statement.sql.utf8ByteSize : Int) - place =
            (Text.trim template).utf8ByteSize - offset := by
  obtain ⟨items, names, reads, readsAgain, findings⟩ := reads_sql accepted
  have isText := @Item.isText_of_mem_numberedAll names items
  have trimmed : Text.Trimmed statement.sql.toList := by
    have source := Text.trimmed_trimEnd_trimStart template.toList
    rw [← Text.toList_trim] at source
    exact readsAgain.text ▸ reads.trimmed_numberedAll source names
  have empty : Item.numberedAll names items = [] ↔ statement.sql = "" := by
    rw [← Item.textOf_eq_nil_iff, readsAgain.text, String.toList_eq_nil_iff]
  have tokens : (Reading.ofTemplate statement.sql).tokens =
      if statement.sql = "" then [] else [.text statement.sql] := by
    rw [Reading.ofTemplate_of_reads readsAgain, Item.joined_of_isText isText, readsAgain.text,
      String.ofList_toList]
    simp only [empty]
  refine ⟨trimmed.head, trimmed.last, tokens, _, result_of_isText readsAgain trimmed isText, rfl,
    rfl, ?_, ?_⟩
  · intro quiet
    exact Item.findings_numberedAll_of_closed (Item.closed_of_findings (findings ▸ quiet)) names 0
  · intro quote offset found
    rw [Text.utf8ByteSize_eq_bytes, Text.utf8ByteSize_eq_bytes, ← readsAgain.text, ← reads.text]
    exact Item.findings_numberedAll_of_unterminated reads.fit names (findings ▸ found)

/-- A template whose last string is still open, and the statement of its statement. -/
theorem rewriting_is_idempotent_in_open_string :
    (ofTemplate " select :a::int, 'it :b\n").result =
        .ok ⟨"select $1::int, 'it :b", [⟨"a", 1, none⟩], [.unterminated .string 16]⟩ ∧
      ∃ again, (ofTemplate "select $1::int, 'it :b").result = .ok again ∧
        again.sql = "select $1::int, 'it :b" ∧ again.parameters = [] ∧
        again.findings = [.unterminated .string 16] := by
  have accepted : (ofTemplate " select :a::int, 'it :b\n").result =
      .ok ⟨"select $1::int, 'it :b", [⟨"a", 1, none⟩], [.unterminated .string 16]⟩ := by
    rw [result_ofTemplate]
    decide +kernel
  obtain ⟨-, -, -, again, result, sql, parameters, -, stillOpen⟩ :=
    rewriting_is_idempotent accepted
  obtain ⟨place, findings, distance⟩ := stillOpen .string 16 List.mem_cons_self
  have size : ("select $1::int, 'it :b".utf8ByteSize : Int) =
      (Text.trim " select :a::int, 'it :b\n").utf8ByteSize := by decide +kernel
  obtain rfl : place = 16 := by
    dsimp only at distance
    omega
  exact ⟨accepted, again, result, sql, parameters, findings⟩

end Statement

end SqlTemplate
