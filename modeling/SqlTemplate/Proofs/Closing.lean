import SqlTemplate.Proofs.Reporting

/-!
# Closing quoted text

Quoted text that a template leaves open is closed by the quote of its kind, and the rest of the
template is read as before. In an escape string a backslash may be left without a character to
escape. It then takes the first quote, and only a second one closes the string; everywhere else
two quotes are one quote of the text.
-/

namespace SqlTemplate

/-- Whether a suffix closes the quoted text that a template leaves open, and changes nothing
else. -/
def ClosedBy (template suffix : String) : Prop :=
  ∃ front content, (Reading.ofTemplate template).tokens = front ++ [.text content] ∧
    Reading.ofTemplate (template ++ suffix) =
      ⟨front ++ [.text (content ++ suffix)], (Reading.ofTemplate template).findings.dropLast⟩

/-- Whether a template ends with a backslash of an escape string that escapes nothing. -/
def EndsInBackslash (template : String) : Prop :=
  ∃ front opener body, Item.Reads (front ++ [.unclosed opener (body ++ ['\\'])]) template.toList ∧
    opener.quote = .escapeString ∧ opener.quote.Body body

namespace Quote

theorem Body.append {quote : Quote} {first second : List Char} (valid : quote.Body first)
    (validToo : quote.Body second) : quote.Body (first ++ second) := by
  induction valid with
  | nil => exact validToo
  | doubled _ inductionHypothesis => exact .doubled inductionHypothesis
  | escaped escapes _ inductionHypothesis => exact .escaped escapes inductionHypothesis
  | plain noMark noBackslash _ inductionHypothesis =>
    exact .plain noMark noBackslash inductionHypothesis

/-- No backslash stands last in what an escape string quotes, unless another one escapes it. -/
theorem not_body_concat_backslash {body : List Char} (valid : escapeString.Body body) :
    ¬escapeString.Body (body ++ ['\\']) := by
  intro complete
  have closes := @close?_of_body escapeString (body ++ ['\\']) [] complete nofun
  rw [List.append_assoc, close?_body_append valid] at closes
  cases closes

end Quote

namespace Item

section Unclosed

variable {front : List Item} {opener : Opener} {body : List Char} {template suffix : String}

/-- What goes on with open quoted text takes its place in the reading. -/
theorem Reads.extend (reads : Reads (front ++ [unclosed opener body]) template.toList)
    {item : Item} (first : item.first = opener.first) (fits : item.Fits none)
    (text : item.text = opener.text ++ body ++ suffix.toList) :
    Reads (front ++ [item]) (template ++ suffix).toList where
  text := by
    have unclosedText : (unclosed opener body).text = opener.text ++ body := rfl
    rw [String.toList_append, ← reads.text]
    simp [text, unclosedText]
  fit := by
    obtain ⟨frontFit, -⟩ := allFit_append.mp reads.fit
    refine allFit_append.mpr ⟨?_, fits, trivial⟩
    rw [firstOf, first]
    exact frontFit

theorem Reads.closedBy (reads : Reads (front ++ [unclosed opener body]) template.toList)
    {inner : List Char} (valid : opener.quote.Body inner)
    (split : inner ++ [opener.quote.mark] = body ++ suffix.toList) : ClosedBy template suffix := by
  have closed : Reads (front ++ [quoted opener inner]) (template ++ suffix).toList :=
    reads.extend rfl ⟨valid, (Option.some_ne_none _).symm⟩
      (by rw [Item.text, split, List.append_assoc])
  obtain ⟨tokens, content, -, joins⟩ := Token.exists_joined_concat_text (front.map token)
  have token : (quoted opener inner).token =
      .text (String.ofList (unclosed opener body).text ++ suffix) := by
    have isText : (quoted opener inner).IsText := fun _ => Item.noConfusion
    rw [isText.token_eq, Item.text, Item.text, split, ← List.append_assoc, String.ofList_append,
      String.ofList_toList]
  refine ⟨tokens, content ++ String.ofList (unclosed opener body).text, ?_, ?_⟩
  · rw [Reading.ofTemplate_of_reads reads, List.map_append]
    exact joins _
  · rw [Reading.ofTemplate_of_reads reads, Reading.ofTemplate_of_reads closed, List.map_append,
      List.map_singleton, token, joins, findings_concat_unclosed, List.dropLast_concat,
      findings_append, String.append_assoc]
    simp [findings, finding?]

theorem Reads.staysOpen (reads : Reads (front ++ [unclosed opener body]) template.toList)
    (valid : opener.quote.OpenBody (body ++ suffix.toList)) :
    .unterminated opener.quote (Text.bytes (textOf front)) ∈
      (Reading.ofTemplate (template ++ suffix)).findings := by
  have stillOpen : Reads (front ++ [unclosed opener (body ++ suffix.toList)])
      (template ++ suffix).toList :=
    reads.extend rfl ⟨valid, rfl⟩ (by rw [Item.text, List.append_assoc])
  rw [Reading.ofTemplate_of_reads stillOpen, findings_concat_unclosed]
  exact List.mem_concat_self

/-- The backslash that a template ends with belongs to what is still open. -/
theorem Reads.endsInBackslash_iff
    (reads : Reads (front ++ [unclosed opener body]) template.toList) :
    EndsInBackslash template ↔
      ∃ inner, body = inner ++ ['\\'] ∧ opener.quote = .escapeString ∧ opener.quote.Body inner := by
  constructor
  · rintro ⟨_, other, inner, readsToo, escapes, valid⟩
    have same := (List.append_inj' (reads.unique readsToo) rfl).2
    obtain ⟨rfl, rfl⟩ := Item.unclosed.inj (List.singleton_inj.mp same)
    exact ⟨inner, rfl, escapes, valid⟩
  · rintro ⟨inner, rfl, escapes, valid⟩
    exact ⟨front, opener, inner, reads, escapes, valid⟩

/-- One quote closes an escape string in which every backslash escapes a character. -/
theorem Reads.close_of_body (reads : Reads (front ++ [unclosed opener body]) template.toList)
    (escapes : opener.quote = .escapeString) (valid : opener.quote.Body body) :
    ClosedBy template "'" ∧ ¬EndsInBackslash template ∧
      .unterminated opener.quote (Text.bytes (textOf front)) ∈
        (Reading.ofTemplate (template ++ "''")).findings := by
  refine ⟨reads.closedBy valid (by rw [escapes]; rfl), ?_, reads.staysOpen ?_⟩
  · rw [reads.endsInBackslash_iff]
    rintro ⟨inner, rfl, -, validInner⟩
    rw [escapes] at valid validInner
    exact Quote.not_body_concat_backslash validInner valid
  · have doubled : opener.quote.Body "''".toList := by
      rw [escapes]
      exact .doubled .nil
    exact .body (valid.append doubled)

/-- Two quotes close an escape string that ends with a backslash; the first one is escaped. -/
theorem Reads.close_of_backslash
    (reads : Reads (front ++ [unclosed opener (body ++ ['\\'])]) template.toList)
    (escapes : opener.quote = .escapeString) (valid : opener.quote.Body body) :
    ClosedBy template "''" ∧ EndsInBackslash template ∧
      .unterminated opener.quote (Text.bytes (textOf front)) ∈
        (Reading.ofTemplate (template ++ "'")).findings := by
  have escaped : opener.quote.Body (body ++ ['\\', '\'']) := valid.append (.escaped escapes .nil)
  refine ⟨reads.closedBy escaped ?_, ⟨front, opener, body, reads, escapes, valid⟩,
    reads.staysOpen ?_⟩
  · rw [escapes, List.append_assoc, List.append_assoc]
    rfl
  · rw [List.append_assoc]
    exact .body escaped

end Unclosed

end Item

/-- Quoted text that is still open has not been closed. -/
theorem ClosedBy.not_unterminated {template suffix : String} (closed : ClosedBy template suffix)
    (quote : Quote) (offset : Nat) :
    .unterminated quote offset ∉ (Reading.ofTemplate (template ++ suffix)).findings := by
  obtain ⟨front, content, -, reading⟩ := closed
  obtain ⟨items, reads⟩ := Item.exists_reads template.toList
  rw [reading, Reading.ofTemplate_of_reads reads]
  intro reported
  obtain ⟨_, ⟨⟩⟩ := Item.exists_emptyName_of_mem_dropLast reads.fit reported

namespace Reading

/-- Text that ends in the midst of quoted text is repaired by the quote that is reported as
missing. Of one and two quotes exactly one closes an escape string, two if a backslash escapes
nothing yet; the other leaves it open where it was opened. -/
theorem reported_quotes_can_be_closed {template : String} {quote : Quote} {offset : Nat}
    (reported : .unterminated quote offset ∈ (ofTemplate template).findings) :
    (quote = .string → ClosedBy template "'") ∧
    (quote = .identifier → ClosedBy template "\"") ∧
    (quote = .escapeString →
      (ClosedBy template "'" ↔ ¬EndsInBackslash template) ∧
      (ClosedBy template "''" ↔ EndsInBackslash template) ∧
      ∀ suffix ∈ ["'", "''"], ¬ClosedBy template suffix →
        .unterminated quote offset ∈ (ofTemplate (template ++ suffix)).findings) := by
  obtain ⟨items, reads⟩ := Item.exists_reads template.toList
  rw [ofTemplate_of_reads reads, Item.mem_findings_unterminated reads.fit] at reported
  obtain ⟨front, opener, body, rfl, rfl, rfl⟩ := reported
  obtain ⟨-, ⟨openBody, -⟩, -⟩ := Item.allFit_append.mp reads.fit
  cases openBody with
  | body valid =>
    refine ⟨?_, ?_, ?_⟩
    · exact fun isString => reads.closedBy valid (by rw [isString]; rfl)
    · exact fun isIdentifier => reads.closedBy valid (by rw [isIdentifier]; rfl)
    · intro escapes
      obtain ⟨closes, complete, staysOpen⟩ := reads.close_of_body escapes valid
      refine ⟨iff_of_true closes complete, iff_of_false ?_ complete, ?_⟩
      · exact fun closesToo => closesToo.not_unterminated _ _ staysOpen
      · intro suffix member fails
        rcases List.mem_pair.mp member with rfl | rfl
        · exact absurd closes fails
        · exact staysOpen
  | @backslash body escapes valid =>
    obtain ⟨closes, ends, staysOpen⟩ := reads.close_of_backslash escapes valid
    refine ⟨?_, ?_, fun _ => ⟨iff_of_false ?_ (not_not.mpr ends), iff_of_true closes ends, ?_⟩⟩
    · exact fun isString => absurd (escapes.symm.trans isString) nofun
    · exact fun isIdentifier => absurd (escapes.symm.trans isIdentifier) nofun
    · exact fun closesToo => closesToo.not_unterminated _ _ staysOpen
    · intro suffix member fails
      rcases List.mem_pair.mp member with rfl | rfl
      · exact staysOpen
      · exact absurd closes fails

/-- The third of three backslashes escapes nothing, so the first quote belongs to it. -/
theorem reported_quotes_can_be_closed_behind_three_backslashes :
    let template := ":a = E'é\\\\\\"
    (ofTemplate template).findings = [.unterminated .escapeString 5] ∧
      EndsInBackslash template ∧ ClosedBy template "''" ∧ ¬ClosedBy template "'" ∧
      (ofTemplate (template ++ "'")).findings = [.unterminated .escapeString 5] := by
  intro template
  have findings : (ofTemplate template).findings = [.unterminated .escapeString 5] := by
    decide +kernel
  have stillOpen : (ofTemplate (template ++ "'")).findings = [.unterminated .escapeString 5] := by
    decide +kernel
  have reported : .unterminated .escapeString 5 ∈ (ofTemplate template).findings := by
    rw [findings]
    exact List.mem_cons_self
  obtain ⟨-, -, escaped⟩ := reported_quotes_can_be_closed reported
  obtain ⟨once, twice, -⟩ := escaped rfl
  have fails : ¬ClosedBy template "'" := by
    intro closes
    apply closes.not_unterminated .escapeString 5
    rw [stillOpen]
    exact List.mem_cons_self
  have ends : EndsInBackslash template := not_not.mp (once.not.mp fails)
  exact ⟨findings, ends, twice.mpr ends, fails, stillOpen⟩

end Reading

end SqlTemplate
