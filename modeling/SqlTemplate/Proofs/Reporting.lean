import SqlTemplate.Proofs.Markers

/-!
# What is reported about a template

Nothing is reported about a template but the markers without a name and the quoted text that is
still open at its end. The findings follow one another in the order of their places, and open
quoted text is reported last, at the opener that the end of the template leaves open.
-/

namespace SqlTemplate

/-- The place of a marker without a name. -/
def Finding.nameless? : Finding → Option Nat
  | .unterminated _ _ => none
  | .emptyName offset => some offset

/-- Whether a scan in this mode stands inside quoted text. -/
def Mode.IsWithin (quote : Quote) : Mode → Prop
  | .inside other => other = quote
  | .escaped => quote = .escapeString
  | .text | .letterE | .colon | .name | .closing _ => False

/-- Whether a template ends inside the quoted text that is opened at `offset`. -/
def LeavesOpen (template : String) (quote : Quote) (offset : Nat) : Prop :=
  ∃ front opener body, Item.Reads (front ++ [.unclosed opener body]) template.toList ∧
    opener.quote = quote ∧ Text.bytes (Item.textOf front) = offset

namespace Scan

/-- Whether all that has been found so far are markers without a name. -/
def FoundOnlyNameless (s : Scan) : Prop :=
  ∀ finding ∈ s.findings, ∃ offset, finding = .emptyName offset

theorem findings_begin (s : Scan) (c : Char) : (s.begin c).findings = s.findings := by
  unfold begin
  split <;> rfl

theorem FoundOnlyNameless.endMarker {s : Scan} (quiet : s.FoundOnlyNameless) :
    s.endMarker.FoundOnlyNameless := by
  intro finding member
  rcases List.mem_cons.mp member with rfl | earlier
  · exact ⟨_, rfl⟩
  · rw [findings_endText] at earlier
    exact quiet finding earlier

/-- A character can only settle that a marker has no name. -/
theorem findings_take (s : Scan) (c : Char) :
    (s.take c).findings = s.findings ∨ (s.take c).findings = s.endMarker.findings := by
  unfold take
  cases s.mode with
  | text => exact .inl (findings_begin s c)
  | letterE =>
    dsimp only
    split
    · exact .inl rfl
    · exact .inl (findings_begin s c)
  | colon =>
    dsimp only
    split
    · exact .inl rfl
    split
    · exact .inl (findings_endText s)
    · exact .inr (findings_begin s.endMarker c)
  | name =>
    dsimp only
    split
    · exact .inl rfl
    · exact .inl (findings_begin s.endName c)
  | inside quote | escaped => exact .inl rfl
  | closing quote =>
    dsimp only
    split
    · exact .inl rfl
    · exact .inl (findings_begin s c)

theorem FoundOnlyNameless.step {s : Scan} (quiet : s.FoundOnlyNameless) (c : Char) :
    (s.step c).FoundOnlyNameless := by
  intro finding member
  rcases s.findings_take c with same | marker
  · exact quiet finding (same ▸ member)
  · exact quiet.endMarker finding (marker ▸ member)

theorem FoundOnlyNameless.run {s : Scan} (quiet : s.FoundOnlyNameless) (text : List Char) :
    (s.run text).FoundOnlyNameless := by
  induction text generalizing s with
  | nil => exact quiet
  | cons c text inductionHypothesis => exact inductionHypothesis (quiet.step c)

theorem FoundOnlyNameless.not_mem {s : Scan} (quiet : s.FoundOnlyNameless) {quote : Quote}
    {offset : Nat} : .unterminated quote offset ∉ s.findings := by
  intro member
  obtain ⟨_, ⟨⟩⟩ := quiet _ member

theorem unterminated_mem_endQuoted_iff {s : Scan} (quiet : s.FoundOnlyNameless)
    {quote other : Quote} {offset : Nat} :
    .unterminated quote offset ∈ (s.endQuoted other).findings ↔
      other = quote ∧ offset = s.opened := by
  have findings : (s.endQuoted other).findings = .unterminated other s.opened :: s.findings :=
    congrArg _ (findings_endText s)
  rw [findings, List.mem_cons, or_iff_left quiet.not_mem, Finding.unterminated.injEq, eq_comm]

/-- The end of a template is a finding exactly inside quoted text. -/
theorem exists_unterminated_finish_iff {s : Scan} (quiet : s.FoundOnlyNameless) {quote : Quote} :
    (∃ offset, .unterminated quote offset ∈ s.finish.findings) ↔ s.mode.IsWithin quote := by
  unfold finish
  cases s.mode with
  | inside other | escaped =>
    simp [Mode.IsWithin, unterminated_mem_endQuoted_iff quiet, eq_comm]
  | colon => simp [Mode.IsWithin, quiet.endMarker.not_mem]
  | text | letterE | closing other => simp [Mode.IsWithin, quiet.not_mem]
  | name => simp [Mode.IsWithin, endName, quiet.not_mem]

end Scan

namespace Item

theorem offset_of_finding?_eq_some {item : Item} {offset : Nat} {finding : Finding}
    (found : item.finding? offset = some finding) : finding.offset = offset := by
  cases item with
  | unclosed opener body =>
    cases found
    rfl
  | placeholder name =>
    cases name with
    | nil =>
      cases found
      rfl
    | cons c name => cases found
  | quoted opener body | cast | plain c => cases found

theorem le_offset_of_mem_findings {offset : Nat} {items : List Item} {finding : Finding}
    (member : finding ∈ findings offset items) : offset ≤ finding.offset := by
  obtain ⟨front, item, back, -, found⟩ := mem_findings.mp member
  rw [offset_of_finding?_eq_some found]
  exact Nat.le_add_right _ _

/-- What is found later stands further on. -/
theorem pairwise_findings (offset : Nat) (items : List Item) :
    ((findings offset items).map Finding.offset).Pairwise (· < ·) := by
  induction items generalizing offset with
  | nil => exact .nil
  | cons item items inductionHypothesis =>
    rw [findings, List.map_append, List.pairwise_append]
    refine ⟨?_, inductionHypothesis _, ?_⟩
    · cases item.finding? offset with
      | none => exact .nil
      | some finding => exact List.pairwise_singleton _ _
    · intro place first later member
      obtain ⟨finding, found, rfl⟩ := List.mem_map.mp first
      obtain ⟨next, laterFound, rfl⟩ := List.mem_map.mp member
      have after := le_offset_of_mem_findings laterFound
      have nonempty := item.bytes_text_pos
      rw [offset_of_finding?_eq_some (Option.mem_toList.mp found)]
      omega

/-- The markers without a name are reported where they stand. -/
theorem nameless_findings (offset : Nat) (items : List Item) :
    (findings offset items).filterMap Finding.nameless? =
      ((Token.markers offset (items.map token)).filter (·.2 = "")).map Prod.fst := by
  induction items generalizing offset with
  | nil => rfl
  | cons item items inductionHypothesis =>
    rw [findings, List.filterMap_append, inductionHypothesis, List.map_cons, Token.markers,
      List.filter_append, List.map_append, utf8ByteSize_render_token]
    congr 1
    cases item with
    | placeholder name =>
      cases name with
      | nil => rfl
      | cons c name =>
        simp [finding?, token, Token.name?]
    | quoted opener body | unclosed opener body | cast | plain c => rfl

theorem exists_emptyName_of_closed {items : List Item}
    (closed : ∀ opener body, unclosed opener body ∉ items) {offset : Nat} {finding : Finding}
    (member : finding ∈ findings offset items) : ∃ place, finding = .emptyName place := by
  obtain ⟨front, item, back, rfl, found⟩ := mem_findings.mp member
  cases finding with
  | emptyName place => exact ⟨place, rfl⟩
  | unterminated quote place =>
    obtain ⟨opener, body, rfl, -, -⟩ := finding?_eq_unterminated found
    exact absurd (List.mem_append_right _ List.mem_cons_self) (closed opener body)

theorem findings_concat_unclosed (front : List Item) (opener : Opener) (body : List Char) :
    findings 0 (front ++ [unclosed opener body]) =
      findings 0 front ++ [.unterminated opener.quote (Text.bytes (textOf front))] := by
  rw [findings_append, Nat.zero_add]
  rfl

/-- Only the last finding can be open quoted text. -/
theorem exists_emptyName_of_mem_dropLast {items : List Item} (fit : AllFit items none)
    {finding : Finding} (member : finding ∈ (findings 0 items).dropLast) :
    ∃ place, finding = .emptyName place := by
  by_cases isOpen : ∃ front opener body, items = front ++ [unclosed opener body]
  · obtain ⟨front, opener, body, rfl⟩ := isOpen
    rw [findings_concat_unclosed, List.dropLast_concat] at member
    exact exists_emptyName_of_closed ((allFit_append.mp fit).1.closed nofun) member
  · have quiet : ∀ quote offset, .unterminated quote offset ∉ findings 0 items := by
      intro quote offset reported
      obtain ⟨front, opener, body, split, -⟩ := (mem_findings_unterminated fit).mp reported
      exact isOpen ⟨front, opener, body, split⟩
    exact exists_emptyName_of_closed (closed_of_findings quiet) (List.mem_of_mem_dropLast member)

/-- Open quoted text is reported if it is the last item of the reading. -/
theorem Reads.unterminated_mem_iff {items : List Item} {template : String}
    (reads : Reads items template.toList) {quote : Quote} {offset : Nat} :
    .unterminated quote offset ∈ findings 0 items ↔ LeavesOpen template quote offset := by
  rw [mem_findings_unterminated reads.fit]
  constructor
  · rintro ⟨front, opener, body, rfl, sameQuote, place⟩
    exact ⟨front, opener, body, reads, sameQuote, place⟩
  · rintro ⟨front, opener, body, readsToo, sameQuote, place⟩
    exact ⟨front, opener, body, reads.unique readsToo, sameQuote, place⟩

end Item

/-- Text at the end belongs to a token that begins where the last placeholder ends. -/
theorem Token.exists_joined_concat_text (tokens : List Token) :
    ∃ front content, (∀ token ∈ front.getLast?, ∃ name, token = .placeholder name) ∧
      ∀ more, joined (tokens ++ [.text more]) = front ++ [.text (content ++ more)] := by
  induction tokens with
  | nil => exact ⟨[], "", nofun, fun more => by simp [prepend]⟩
  | cons token tokens inductionHypothesis =>
    obtain ⟨front, content, last, split⟩ := inductionHypothesis
    cases token with
    | placeholder name =>
      refine ⟨.placeholder name :: front, content, ?_, fun more => by simp [split]⟩
      cases front with
      | nil =>
        rintro token ⟨⟩
        exact ⟨name, rfl⟩
      | cons next front => simpa using last
    | text first =>
      cases front with
      | nil =>
        refine ⟨[], first ++ content, nofun, fun more => ?_⟩
        simp [split, prepend, String.append_assoc]
      | cons next front =>
        cases next with
        | placeholder name =>
          refine ⟨.text first :: .placeholder name :: front, content, ?_, fun more => ?_⟩
          · simpa using last
          · simp [split]
        | text second =>
          refine ⟨.text (first ++ second) :: front, content, ?_, fun more => ?_⟩
          · cases front with
            | nil => obtain ⟨name, ⟨⟩⟩ := last _ rfl
            | cons next front => simpa using last
          · simp [split, prepend]

@[simp] theorem Token.renderAll_append (first second : List Token) :
    renderAll (first ++ second) = renderAll first ++ renderAll second := by
  induction first with
  | nil => simp
  | cons token first inductionHypothesis => simp [inductionHypothesis, String.append_assoc]

theorem Item.Reads.renderAll_eq {items : List Item} {template : String}
    (reads : Reads items template.toList) : Token.renderAll (items.map token) = template := by
  rw [← String.toList_inj, toList_renderAll_map_token, reads.text]

/-- Open quoted text belongs to the last token, which begins before its opener. -/
theorem LeavesOpen.exists_text {template : String} {quote : Quote} {offset : Nat}
    (leavesOpen : LeavesOpen template quote offset) :
    ∃ front content, (Reading.ofTemplate template).tokens = front ++ [.text content] ∧
      (∀ token ∈ front.getLast?, ∃ name, token = .placeholder name) ∧
      template = Token.renderAll front ++ content ∧
      (Token.renderAll front).utf8ByteSize ≤ offset ∧ offset < template.utf8ByteSize := by
  obtain ⟨items, opener, body, reads, -, rfl⟩ := leavesOpen
  obtain ⟨front, content, last, joins⟩ := Token.exists_joined_concat_text (items.map Item.token)
  have tokens : (Reading.ofTemplate template).tokens =
      front ++ [.text (content ++ String.ofList (Item.unclosed opener body).text)] := by
    rw [Reading.ofTemplate_of_reads reads, List.map_append]
    exact joins _
  have written := congrArg Token.renderAll (joins "")
  rw [Token.renderAll_joined, Token.renderAll_append] at written
  have before : Token.renderAll (items.map Item.token) = Token.renderAll front ++ content := by
    simpa [Token.render] using written
  have place : Text.bytes (Item.textOf items) =
      (Token.renderAll front).utf8ByteSize + content.utf8ByteSize := by
    rw [← String.utf8ByteSize_append, ← before, Text.utf8ByteSize_eq_bytes,
      Item.toList_renderAll_map_token]
  refine ⟨front, _, tokens, last, ?_, ?_, ?_⟩
  · have whole := reads.renderAll_eq
    rw [List.map_append, Token.renderAll_append, before] at whole
    rw [← whole, String.append_assoc]
    simp [Token.render, Item.token]
  · rw [place]
    exact Nat.le_add_right _ _
  · rw [Text.utf8ByteSize_eq_bytes, ← reads.text, Item.textOf_append, Text.bytes_append]
    have nonempty := (Item.unclosed opener body).bytes_text_pos
    simpa using nonempty

namespace Reading

/-- The findings stand in the order of their places. They are the markers without a name, and
after them the quoted text in which the template ends, which belongs to the last token and is
named by the place and the kind of its own opener. -/
theorem findings_are_exact (template : String) :
    let reading := ofTemplate template
    (reading.findings.map Finding.offset).Pairwise (· < ·) ∧
    reading.findings.filterMap Finding.nameless? =
      ((Token.markers 0 reading.tokens).filter (·.2 = "")).map Prod.fst ∧
    (∀ finding ∈ reading.findings.dropLast, ∃ offset, finding = .emptyName offset) ∧
    (∀ quote offset,
      .unterminated quote offset ∈ reading.findings ↔ LeavesOpen template quote offset) ∧
    (∀ quote, (∃ offset, .unterminated quote offset ∈ reading.findings) ↔
      (Scan.run {} template.toList).mode.IsWithin quote) ∧
    ∀ quote offset, .unterminated quote offset ∈ reading.findings →
      (∃ front content, reading.tokens = front ++ [.text content] ∧
        (∀ token ∈ front.getLast?, ∃ name, token = .placeholder name) ∧
        template = Token.renderAll front ++ content ∧
        (Token.renderAll front).utf8ByteSize ≤ offset ∧ offset < template.utf8ByteSize) ∧
      ∃ (before : List Char) (opener : Opener) (after : List Char),
        template.toList = before ++ (opener.text ++ after) ∧
        Text.bytes before = offset ∧ opener.quote = quote := by
  intro reading
  obtain ⟨items, reads⟩ := Item.exists_reads template.toList
  have same : reading = _ := ofTemplate_of_reads reads
  have isOpen (quote : Quote) (offset : Nat) :
      .unterminated quote offset ∈ reading.findings ↔ LeavesOpen template quote offset := by
    rw [same]
    exact reads.unterminated_mem_iff
  refine ⟨?_, ?_, ?_, isOpen, ?_, ?_⟩
  · rw [same]
    exact Item.pairwise_findings 0 items
  · rw [same, Token.markers_joined]
    exact Item.nameless_findings 0 items
  · rw [same]
    exact fun finding => Item.exists_emptyName_of_mem_dropLast reads.fit
  · intro quote
    have start : Scan.FoundOnlyNameless {} := fun _ member => absurd member List.not_mem_nil
    rw [← Scan.exists_unterminated_finish_iff (start.run template.toList)]
    simp only [reading, ofTemplate, List.mem_reverse]
  · intro quote offset reported
    have leavesOpen := (isOpen quote offset).mp reported
    refine ⟨leavesOpen.exists_text, ?_⟩
    obtain ⟨front, opener, body, readsOpen, sameQuote, place⟩ := leavesOpen
    refine ⟨Item.textOf front, opener, body, ?_, place, sameQuote⟩
    rw [← readsOpen.text, Item.textOf_append, Item.textOf_cons, Item.textOf_nil, List.append_nil,
      Item.text]

/-- Two literals of one kind, of which the second one is open, and markers with and without a
name. -/
theorem findings_are_exact_behind_closed_literal :
    let template := "e'é' = : or :a = E'it\\'"
    let reading := ofTemplate template
    reading.findings = [.emptyName 8, .unterminated .escapeString 18] ∧
      (Token.markers 0 reading.tokens).filter (·.2 = "") = [(8, "")] ∧
      LeavesOpen template .escapeString 18 ∧
      (Scan.run {} template.toList).mode.IsWithin .escapeString := by
  intro template reading
  have findings : reading.findings = [.emptyName 8, .unterminated .escapeString 18] := by
    decide +kernel
  obtain ⟨-, -, -, isOpen, isWithin, -⟩ := findings_are_exact template
  have reported : .unterminated .escapeString 18 ∈ reading.findings := by
    rw [findings]
    exact List.mem_cons_of_mem _ List.mem_cons_self
  exact ⟨findings, by decide +kernel, (isOpen _ _).mp reported, (isWithin _).mp ⟨_, reported⟩⟩

end Reading

end SqlTemplate
