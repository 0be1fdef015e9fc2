import SqlTemplate.Proofs.Renaming

/-!
# Items of a trimmed template

Trimming takes blanks away that are items of their own, or that stand at the end of text which is
still open there. Either way the placeholders and their names remain.
-/

namespace SqlTemplate

namespace Quote

theorem not_isBlank_mark (quote : Quote) : ¬Text.isBlank quote.mark := by
  cases quote <;> decide

/-- Text that is open remains open without some of the characters at its end, if the first of them
is not the closing quote. -/
theorem OpenBody.of_append {quote : Quote} {front back : List Char}
    (valid : quote.OpenBody (front ++ back)) (harmless : back.head? ≠ some quote.mark) :
    quote.OpenBody front := by
  apply openBody_of_close?
  rw [Option.eq_none_iff_forall_ne_some]
  rintro ⟨body, after⟩ closed
  obtain ⟨rfl, validBody, single⟩ := close?_sound closed
  have stillSingle : (after ++ back).head? ≠ some quote.mark := by
    cases after with
    | nil => exact harmless
    | cons c after => exact single
  have closedToo := close?_of_body validBody stillSingle
  rw [← List.cons_append, ← List.append_assoc, close?_of_openBody valid] at closedToo
  cases closedToo

end Quote

theorem Opener.text_ne_nil (opener : Opener) : opener.text ≠ [] := by
  cases opener <;> exact List.cons_ne_nil _ _

theorem Opener.not_isBlank_of_mem_getLast? {opener : Opener} :
    ∀ c ∈ opener.text.getLast?, ¬Text.isBlank c := by
  cases opener <;> rintro c ⟨⟩ <;> decide

namespace Item

/-- An item that is complete and ends in a blank is that blank. -/
theorem eq_plain_of_isBlank_last {item : Item} (fits : item.Fits none)
    (closed : ∀ opener body, item ≠ unclosed opener body) {c : Char}
    (last : c ∈ item.text.getLast?) (blank : Text.isBlank c) : item = plain c := by
  cases item with
  | quoted opener body =>
    rw [text, ← List.append_assoc, List.getLast?_concat] at last
    obtain rfl := Option.some.inj last
    exact absurd blank opener.quote.not_isBlank_mark
  | unclosed opener body => exact absurd rfl (closed opener body)
  | cast =>
    obtain rfl := Option.some.inj last
    exact absurd blank (by decide)
  | placeholder name =>
    have isName : IsName (String.ofList name) := by simpa [IsName] using fits.1
    have trimmed := trimmed_text_placeholder isName
    rw [String.toList_ofList] at trimmed
    exact absurd blank (trimmed.last c last)
  | plain d =>
    obtain rfl := Option.some.inj last
    rfl

theorem AllFit.atEnd {items : List Item} {next : Option Char} (fit : AllFit items next) :
    AllFit items none := by
  rcases List.eq_nil_or_concat items with rfl | ⟨front, item, rfl⟩
  · trivial
  · rw [List.concat_eq_append, allFit_append] at fit ⊢
    exact ⟨fit.1, fit.2.1.atEnd, trivial⟩

/-- How the items of a text change if blanks are taken away at its end. -/
inductive LosesBlanks : List Item → List Item → Prop
  | plain {items : List Item} {blanks : List Char} :
      LosesBlanks (items ++ blanks.map Item.plain) items
  | unclosed {items : List Item} {opener : Opener} {body blanks : List Char} :
      LosesBlanks (items ++ [Item.unclosed opener (body ++ blanks)])
        (items ++ [Item.unclosed opener body])

theorem names_map_plain (characters : List Char) :
    Token.names ((characters.map plain).map token) = [] :=
  names_of_isText isText_of_mem_map_plain

theorem LosesBlanks.names_eq {items rest : List Item} (loses : LosesBlanks items rest) :
    Token.names (rest.map token) = Token.names (items.map token) := by
  cases loses with
  | plain => rw [List.map_append, Token.names_append, names_map_plain, List.append_nil]
  | unclosed =>
    rw [List.map_append, List.map_append, Token.names_append, Token.names_append]
    rfl

theorem LosesBlanks.concat {front rest : List Item} {c : Char} (loses : LosesBlanks front rest)
    (closed : ∀ opener body, Item.unclosed opener body ∉ front) :
    LosesBlanks (front ++ [Item.plain c]) rest := by
  cases loses with
  | @plain _ blanks =>
    have regrouped : rest ++ blanks.map Item.plain ++ [Item.plain c] =
        rest ++ (blanks ++ [c]).map Item.plain := by simp
    rw [regrouped]
    exact .plain
  | unclosed => exact absurd List.mem_concat_self (closed _ _)

theorem Reads.trimEnd_unclosed {front : List Item} {opener : Opener} {body text : List Char}
    (reads : Reads (front ++ [unclosed opener body]) text) :
    Reads (front ++ [unclosed opener (Text.trimEnd body)]) (Text.trimEnd text) := by
  obtain ⟨rfl, fit⟩ := reads
  obtain ⟨frontFit, ⟨openBody, -⟩, -⟩ := allFit_append.mp fit
  obtain ⟨blanks, split, allBlank⟩ := Text.exists_trimEnd body
  have harmless : blanks.head? ≠ some opener.quote.mark := fun head =>
    opener.quote.not_isBlank_mark (allBlank _ (List.mem_of_mem_head? head))
  have stillOpen : opener.quote.OpenBody (Text.trimEnd body) :=
    Quote.OpenBody.of_append (split ▸ openBody) harmless
  have lastOfOpener : ∀ c ∈ (textOf front ++ opener.text).getLast?, ¬Text.isBlank c := by
    rw [List.getLast?_append_of_ne_nil _ opener.text_ne_nil]
    exact Opener.not_isBlank_of_mem_getLast?
  constructor
  case text =>
    have trimmed := Text.trimEnd_append body lastOfOpener
    simpa [Item.text] using trimmed.symm
  case fit => exact allFit_append.mpr ⟨frontFit, ⟨stillOpen, rfl⟩, trivial⟩

/-- Trimming the end of a text takes away blanks, each of which is an item of its own or stands in
text that is still open. -/
theorem Reads.trimEnd {items : List Item} {text : List Char} (reads : Reads items text) :
    ∃ rest, Reads rest (Text.trimEnd text) ∧ LosesBlanks items rest := by
  induction items using List.reverseRecOn generalizing text with
  | nil =>
    obtain rfl : [] = text := reads.text
    exact ⟨[], ⟨rfl, trivial⟩, @LosesBlanks.plain [] []⟩
  | append_singleton front item inductionHypothesis =>
    by_cases isOpen : ∃ opener body, item = Item.unclosed opener body
    · obtain ⟨opener, body, rfl⟩ := isOpen
      obtain ⟨blanks, split, -⟩ := Text.exists_trimEnd body
      refine ⟨_, reads.trimEnd_unclosed, ?_⟩
      nth_rewrite 1 [split]
      exact .unclosed
    · have closed (opener : Opener) (body : List Char) : item ≠ Item.unclosed opener body :=
        fun same => isOpen ⟨opener, body, same⟩
      obtain ⟨rfl, fit⟩ := reads
      obtain ⟨frontFit, fits, -⟩ := allFit_append.mp fit
      rw [textOf_append, textOf_cons, textOf_nil, List.append_nil]
      by_cases blank : ∃ c ∈ item.text.getLast?, Text.isBlank c
      · -- The blank is an item of its own, and the items before it lose the other blanks.
        obtain ⟨c, last, isBlank⟩ := blank
        obtain rfl := eq_plain_of_isBlank_last fits closed last isBlank
        obtain ⟨rest, readsRest, loses⟩ := inductionHypothesis ⟨rfl, frontFit.atEnd⟩
        refine ⟨rest, ?_, loses.concat (frontFit.closed nofun)⟩
        rwa [Item.text, Text.trimEnd_concat isBlank]
      · have lastOfItem : ∀ c ∈ (textOf front ++ item.text).getLast?, ¬Text.isBlank c := by
          rw [List.getLast?_append_of_ne_nil _ item.text_ne_nil]
          exact fun c last isBlank => blank ⟨c, last, isBlank⟩
        refine ⟨front ++ [item], ⟨?_, fit⟩, ?_⟩
        · rw [Text.trimEnd_eq_self lastOfItem]
          simp
        · simpa using @LosesBlanks.plain (front ++ [item]) []

/-- Trimming a text leaves its placeholders as they are. -/
theorem Reads.exists_reads_trim {items : List Item} {text : List Char} (reads : Reads items text) :
    ∃ rest, Reads rest (Text.trimEnd (Text.trimStart text)) ∧
      Token.names (rest.map token) = Token.names (items.map token) := by
  obtain ⟨middle, readsMiddle, taken, rfl⟩ := reads.trimStart
  obtain ⟨rest, readsRest, loses⟩ := readsMiddle.trimEnd
  refine ⟨rest, readsRest, ?_⟩
  have split : textOf taken ++ Text.trimStart text = text := by
    rw [← readsMiddle.text, ← textOf_append, reads.text]
  obtain ⟨blanks, blanksSplit, allBlank⟩ := Text.exists_trimStart text
  have takenBlank : textOf taken = blanks :=
    List.append_cancel_right (split.trans blanksSplit)
  have isText : ∀ item ∈ taken, item.IsText := by
    rintro item member name rfl
    have colon : ':' ∈ textOf taken := List.mem_flatMap.mpr ⟨_, member, List.mem_cons_self⟩
    exact absurd (allBlank ':' (takenBlank ▸ colon)) (by decide)
  rw [List.map_append, Token.names_append, names_of_isText isText, List.nil_append, loses.names_eq]

end Item

theorem Reading.names_trim (template : String) :
    Token.names (ofTemplate (Text.trim template)).tokens =
      Token.names (ofTemplate template).tokens := by
  obtain ⟨items, reads⟩ := Item.exists_reads template.toList
  obtain ⟨rest, readsRest, names⟩ := reads.exists_reads_trim
  rw [← Text.toList_trim] at readsRest
  rw [ofTemplate_of_reads reads, ofTemplate_of_reads readsRest, Token.names_joined,
    Token.names_joined, names]

end SqlTemplate
