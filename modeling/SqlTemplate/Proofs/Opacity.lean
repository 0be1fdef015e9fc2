import SqlTemplate.Proofs.Rewriting

/-!
# Quoted content

What is quoted has no influence on what stands around it, provided that its opener is not taken
for a part of what precedes it, nor its closing quote for the first of two.
-/

namespace SqlTemplate

namespace Quote

/-- The opener with which quoted text is written. -/
def opener : Quote → Opener
  | string => .apostrophe
  | identifier => .doubleQuote
  | escapeString => .capitalE

/-- Content as it stands between the quotes, where a character that means something is doubled. -/
def doubled (quote : Quote) (content : List Char) : List Char :=
  content.flatMap fun c =>
    if c = quote.mark ∨ quote = escapeString ∧ c = '\\' then [c, c] else [c]

/-- Content as quoted text. -/
def literal (quote : Quote) (content : String) : String :=
  String.ofList (quote.opener.text ++ (quote.doubled content.toList ++ [quote.mark]))

/-- Whether an opener opens quoted text after `front`, instead of continuing it. -/
def OpensAfter (quote : Quote) (front : String) : Prop :=
  let endsInPlaceholder := ∃ name,
    (Reading.ofTemplate front).tokens.getLast? = some (.placeholder name)
  match quote with
  | string => front.toList.getLast? ≠ some '\'' ∧
    (front.toList.getLast? = some 'e' ∨ front.toList.getLast? = some 'E' → endsInPlaceholder)
  | identifier => front.toList.getLast? ≠ some '"'
  | escapeString => ¬endsInPlaceholder

@[simp] theorem quote_opener (quote : Quote) : quote.opener.quote = quote := by
  cases quote <;> rfl

theorem body_doubled (quote : Quote) (content : List Char) :
    quote.Body (quote.doubled content) := by
  induction content with
  | nil => exact .nil
  | cons c content inductionHypothesis =>
    rw [doubled, List.flatMap_cons]
    split
    · next special =>
      rcases special with rfl | ⟨rfl, rfl⟩
      · exact .doubled inductionHypothesis
      · exact .escaped rfl inductionHypothesis
    · next ordinary =>
      obtain ⟨noMark, noEscape⟩ := not_or.mp ordinary
      exact .plain noMark (not_and.mp noEscape) inductionHypothesis

theorem trimmed_literal (quote : Quote) (content : String) :
    Text.Trimmed (quote.literal content).toList where
  head c member := by
    rw [literal, String.toList_ofList] at member
    cases quote <;> cases member <;> decide
  last c member := by
    rw [literal, String.toList_ofList, ← List.append_assoc, List.getLast?_concat] at member
    cases quote <;> cases member <;> decide

/-- Content as an item. -/
def item (quote : Quote) (content : String) : Item :=
  .quoted quote.opener (quote.doubled content.toList)

theorem toList_literal (quote : Quote) (content : String) :
    (quote.literal content).toList = (quote.item content).text := by
  rw [literal, String.toList_ofList, item, Item.text, quote_opener]

end Quote

namespace Item

/-- The last item of a text fits the opener of quoted text after it. -/
theorem Reads.fits_opener {items : List Item} {front : String} (reads : Reads items front.toList)
    (closed : ∀ opener body, unclosed opener body ∉ items) {quote : Quote}
    (opens : quote.OpensAfter front) :
    ∀ item ∈ items.getLast?, item.Fits (some quote.opener.first) := by
  intro item member
  have lastToken {name : String} :
      (Reading.ofTemplate front).tokens.getLast? = some (.placeholder name) ↔
        item.token = .placeholder name := by
    rw [Reading.ofTemplate_of_reads reads, Token.getLast?_joined, List.getLast?_map,
      Option.mem_def.mp member, Option.map_some, Option.some.injEq]
  obtain ⟨before, rfl⟩ := List.getLast?_eq_some_iff.mp member
  have lastChar {c : Char} (last : c ∈ item.text.getLast?) : front.toList.getLast? = some c :=
    reads.text ▸ mem_getLast?_textOf_concat.mpr last
  obtain ⟨-, fits, -⟩ := allFit_append.mp reads.fit
  cases item with
  | quoted opener body =>
    have last : front.toList.getLast? = some opener.quote.mark := lastChar <| by
      rw [Item.text, ← List.append_assoc]
      exact List.getLast?_concat
    refine ⟨fits.1, ?_⟩
    intro same
    cases quote with
    | string => exact opens.1 (last.trans same.symm)
    | identifier => exact opens (last.trans same.symm)
    | escapeString => cases opener <;> exact absurd same (by decide)
  | unclosed opener body => exact absurd (List.mem_concat_self) (closed opener body)
  | cast => trivial
  | placeholder name =>
    refine ⟨fits.1, ?_, fun _ => by cases quote <;> decide⟩
    rintro c ⟨⟩
    cases quote with
    | string | identifier => decide
    | escapeString => exact absurd ⟨_, lastToken.mpr rfl⟩ opens
  | plain c =>
    refine ⟨fits.1, fits.2.1, fits.2.2.1, ?_⟩
    intro letter same
    cases quote with
    | string =>
      -- The letter is text, so it cannot be the end of a name.
      have last : front.toList.getLast? = some c := lastChar rfl
      obtain ⟨name, placeholder⟩ := opens.2 (by simpa [last] using letter)
      cases lastToken.mp placeholder
    | identifier | escapeString => exact absurd same (by decide)

/-- Whatever is quoted between two texts, it is read as one item between items of the two. -/
theorem exists_reads_around {quote : Quote} {front back : String}
    (closed : ∀ other offset, .unterminated other offset ∉ (Reading.ofTemplate front).findings)
    (single : back.toList.head? ≠ some quote.mark) (opens : quote.OpensAfter front) :
    ∃ start rest, ∀ content, Reads (start ++ quote.item content :: rest)
      (Text.trim (front ++ quote.literal content ++ back)).toList := by
  obtain ⟨items, reads⟩ := exists_reads front.toList
  obtain ⟨start, readsStart, blanks, suffix⟩ := reads.trimStart
  obtain ⟨rest, readsRest⟩ := exists_reads (Text.trimEnd back.toList)
  rw [Reading.ofTemplate_of_reads reads] at closed
  have startFit : AllFit start (some quote.opener.first) := by
    apply readsStart.fit.of_none
    intro item last
    have lastOfFront : item ∈ items.getLast? :=
      suffix ▸ List.mem_getLast?_append_of_mem_getLast? last
    exact reads.fits_opener (closed_of_findings closed) opens item lastOfFront
  refine ⟨start, rest, ?_⟩
  intro content
  constructor
  · have nonempty : (quote.literal content).toList ≠ [] := by
      rw [Quote.toList_literal]
      exact text_ne_nil _
    rw [Text.toList_trim_append (quote.trimmed_literal content) nonempty, Quote.toList_literal,
      textOf_append, textOf_cons, readsStart.text, readsRest.text, List.append_assoc]
  · have restSingle : firstOf rest none ≠ some quote.mark := by
      rw [← head?_textOf, readsRest.text]
      exact fun marked => single (Text.mem_head?_of_trimEnd marked)
    have fits : (quote.item content).Fits (firstOf rest none) := by
      rw [Quote.item, Fits, Quote.quote_opener]
      exact ⟨Quote.body_doubled _ _, restSingle⟩
    exact allFit_append.mpr ⟨startFit, fits, readsRest.fit⟩

end Item

namespace Statement

/-- The statement for a template with quoted content among its items. -/
theorem result_of_reads_quoted {template content : String} {start rest : List Item} {quote : Quote}
    (reads : Item.Reads (start ++ quote.item content :: rest) (Text.trim template).toList) :
    (ofTemplate template).result =
      let names := (Token.names ((start ++ rest).map Item.token)).eraseDups
      if names.length ≤ maxParameters then
        .ok ⟨String.ofList (Item.textOf (Item.numberedAll names start)) ++ quote.literal content ++
            String.ofList (Item.textOf (Item.numberedAll names rest)),
          parametersOf names, Item.findings 0 (start ++ quote.item content :: rest)⟩
      else .error (.tooManyParameters (maxParameters + 1)) := by
  have sameNames : Token.names ((start ++ quote.item content :: rest).map Item.token) =
      Token.names ((start ++ rest).map Item.token) := by
    rw [List.map_append, List.map_append, Token.names_append, Token.names_append]
    rfl
  have sql (names : List String) :
      String.ofList (Item.textOf (Item.numberedAll names (start ++ quote.item content :: rest))) =
        String.ofList (Item.textOf (Item.numberedAll names start)) ++ quote.literal content ++
          String.ofList (Item.textOf (Item.numberedAll names rest)) := by
    have same : (quote.item content).numbered names = [quote.item content] := rfl
    rw [Item.numberedAll_append, Item.numberedAll_cons, same, Item.textOf_append,
      List.singleton_append, Item.textOf_cons, ← Quote.toList_literal, String.ofList_append,
      String.ofList_append, String.ofList_toList, String.append_assoc]
  rw [result_of_reads reads, sameNames]
  simp only [sql]

/-- Quoted content has no influence on the parameters of a statement, nor on what it says before
and after the quoted text, nor on whether there is a statement. -/
theorem quoted_content_has_no_influence {quote : Quote} {front back : String}
    (closed : ∀ other offset, .unterminated other offset ∉ (Reading.ofTemplate front).findings)
    (single : back.toList.head? ≠ some quote.mark) (opens : quote.OpensAfter front) :
    (∃ fault, ∀ content,
      (ofTemplate (front ++ quote.literal content ++ back)).result = .error fault) ∨
    ∃ before after parameters, ∀ content, ∃ findings,
      (ofTemplate (front ++ quote.literal content ++ back)).result =
        .ok ⟨before ++ quote.literal content ++ after, parameters, findings⟩ := by
  obtain ⟨start, rest, reads⟩ := Item.exists_reads_around closed single opens
  have result (content : String) := result_of_reads_quoted (reads content)
  by_cases room : (Token.names ((start ++ rest).map Item.token)).eraseDups.length ≤ maxParameters
  · right
    exact ⟨_, _, _, fun content => ⟨_, (result content).trans (if_pos room)⟩⟩
  · left
    exact ⟨_, fun content => (result content).trans (if_neg room)⟩

/-- Content quoted after a placeholder whose name ends in the letter that opens escape strings. -/
theorem quoted_content_has_no_influence_after_placeholder :
    ∃ before after parameters, ∀ content, ∃ findings,
      (ofTemplate (" :name" ++ Quote.string.literal content ++ ", :other")).result =
        .ok ⟨before ++ Quote.string.literal content ++ after, parameters, findings⟩ := by
  have reading : Reading.ofTemplate " :name" = ⟨[.text " ", .placeholder "name"], []⟩ := by
    decide +kernel
  have closed : ∀ other offset,
      .unterminated other offset ∉ (Reading.ofTemplate " :name").findings := by
    rw [reading]
    exact fun _ _ => List.not_mem_nil
  have opens : Quote.string.OpensAfter " :name" :=
    ⟨by decide, fun _ => ⟨"name", by rw [reading]; rfl⟩⟩
  rcases @quoted_content_has_no_influence .string " :name" ", :other" closed (by decide) opens with
    ⟨fault, fails⟩ | succeeds
  · have accepted : (ofTemplate (" :name" ++ Quote.string.literal "" ++ ", :other")).result =
        .ok ⟨"$1'', $2", [⟨"name", 1, none⟩, ⟨"other", 2, none⟩], []⟩ := by
      rw [result_ofTemplate]
      decide +kernel
    cases accepted.symm.trans (fails "")
  · exact succeeds

end Statement

end SqlTemplate
