import SqlTemplate.Proofs.Markers
import SqlTemplate.Proofs.Margins

/-!
# The letter before a quote

An `e` before a quote makes an escape string of a string, in which a backslash escapes the
character after it. Where there are no backslashes that is all the same: with an `x` for each `e`
a template is divided at the same places, since the letter is a character of its own then, and
what is quoted after it ends where it did.
-/

namespace SqlTemplate

/-- An `x` for an `e`, and any other character for itself. -/
def xForE (c : Char) : Char :=
  if c = 'e' then 'x' else if c = 'E' then 'X' else c

def Text.withX (text : String) : String :=
  String.ofList (text.toList.map xForE)

def Token.withX : Token → Token
  | .text content => .text (Text.withX content)
  | .placeholder name => .placeholder (Text.withX name)

/-- An escape string that is open becomes a string, which begins after the letter. -/
def Finding.withX : Finding → Finding
  | .unterminated .escapeString offset => .unterminated .string (offset + 1)
  | finding => finding

section Characters

variable {c d : Char}

theorem xForE_eq_iff (other : d ∉ ['e', 'E', 'x', 'X']) : xForE c = d ↔ c = d := by
  simp only [List.mem_cons, not_or] at other
  unfold xForE
  split
  · next small => simp [small, Ne.symm other.1, Ne.symm other.2.2.1]
  split
  · next capital => simp [capital, Ne.symm other.2.1, Ne.symm other.2.2.2.1]
  · exact Iff.rfl

/-- What does not tell the letters apart is not changed. -/
theorem congr_xForE {α : Type} {f : Char → α} (small : f 'x' = f 'e') (capital : f 'X' = f 'E') :
    f (xForE c) = f c := by
  unfold xForE
  split
  · next isSmall => rw [isSmall, small]
  split
  · next isCapital => rw [isCapital, capital]
  · rfl

theorem isNameChar_xForE : isNameChar (xForE c) = isNameChar c :=
  congr_xForE rfl rfl

theorem utf8Size_xForE : (xForE c).utf8Size = c.utf8Size :=
  congr_xForE (f := Char.utf8Size) rfl rfl

theorem xForE_ne : xForE c ≠ 'e' ∧ xForE c ≠ 'E' := by
  unfold xForE
  split
  · decide
  split
  · decide
  · exact ⟨‹_›, ‹_›⟩

theorem map_xForE_eq_iff {next : Option Char} (other : d ∉ ['e', 'E', 'x', 'X']) :
    next.map xForE = some d ↔ next = some d := by
  cases next <;> simp [xForE_eq_iff other]

end Characters

@[simp] theorem Text.bytes_map_xForE (text : List Char) : bytes (text.map xForE) = bytes text := by
  induction text with
  | nil => rfl
  | cons c text inductionHypothesis =>
    rw [List.map_cons, bytes_cons, bytes_cons, utf8Size_xForE, inductionHypothesis]

@[simp] theorem Text.withX_ofList (text : List Char) :
    withX (String.ofList text) = String.ofList (text.map xForE) := by
  rw [withX, String.toList_ofList]

theorem Text.withX_append (first second : String) :
    withX (first ++ second) = withX first ++ withX second := by
  simp [withX, String.ofList_append]

namespace Token

theorem prepend_map_withX (token : Token) (tokens : List Token) :
    token.withX.prepend (tokens.map withX) = (token.prepend tokens).map withX := by
  cases token with
  | placeholder name => rfl
  | text first =>
    cases tokens with
    | nil => rfl
    | cons next tokens =>
      cases next with
      | placeholder name => rfl
      | text second => simp [withX, prepend, Text.withX_append]

theorem utf8ByteSize_render_withX (token : Token) :
    token.withX.render.utf8ByteSize = token.render.utf8ByteSize := by
  have size (text : String) : (Text.withX text).utf8ByteSize = text.utf8ByteSize := by
    rw [Text.utf8ByteSize_eq_bytes, Text.withX, String.toList_ofList, Text.bytes_map_xForE,
      Text.utf8ByteSize_eq_bytes]
  cases token <;> simp [withX, render, size, String.utf8ByteSize_append]

end Token

namespace Quote

/-- The quote of text that no letter precedes. -/
def withX : Quote → Quote
  | string | escapeString => .string
  | identifier => .identifier

theorem mark_withX (quote : Quote) : quote.withX.mark = quote.mark := by
  cases quote <;> rfl

theorem withX_ne_escapeString (quote : Quote) : quote.withX ≠ escapeString := by
  cases quote <;> exact nofun

theorem mark_not_mem (quote : Quote) : quote.mark ∉ ['e', 'E', 'x', 'X'] := by
  cases quote <;> decide

theorem xForE_mark (quote : Quote) : xForE quote.mark = quote.mark :=
  (xForE_eq_iff quote.mark_not_mem).mpr rfl

theorem Body.withX {quote : Quote} {body : List Char} (valid : quote.Body body)
    (noBackslash : '\\' ∉ body) : quote.withX.Body (body.map xForE) := by
  induction valid with
  | nil => exact .nil
  | doubled _ inductionHypothesis =>
    simp only [List.mem_cons, not_or] at noBackslash
    rw [List.map_cons, List.map_cons, quote.xForE_mark, ← quote.mark_withX]
    exact .doubled (inductionHypothesis noBackslash.2.2)
  | escaped => exact absurd List.mem_cons_self noBackslash
  | @plain c _ noMark _ _ inductionHypothesis =>
    refine .plain ?_ (fun escapes => absurd escapes quote.withX_ne_escapeString)
      (inductionHypothesis fun member => noBackslash (.tail c member))
    rw [quote.mark_withX]
    exact (xForE_eq_iff quote.mark_not_mem).not.mpr noMark

theorem OpenBody.withX {quote : Quote} {body : List Char} (valid : quote.OpenBody body)
    (noBackslash : '\\' ∉ body) : quote.withX.OpenBody (body.map xForE) := by
  cases valid with
  | body valid => exact .body (valid.withX noBackslash)
  | backslash => exact absurd List.mem_concat_self noBackslash

end Quote

namespace Opener

/-- The characters before the quote, with an `x` for an `e`. -/
def lead : Opener → List Char
  | apostrophe | doubleQuote => []
  | smallE => ['x']
  | capitalE => ['X']

/-- The quote of an opener. -/
def bare : Opener → Opener
  | apostrophe | smallE | capitalE => .apostrophe
  | doubleQuote => .doubleQuote

theorem quote_bare (opener : Opener) : opener.bare.quote = opener.quote.withX := by
  cases opener <;> rfl

theorem map_text (opener : Opener) : opener.text.map xForE = opener.lead ++ opener.bare.text := by
  cases opener <;> rfl

end Opener

namespace Item

/-- What an item becomes with an `x` for each `e`. -/
def withX : Item → List Item
  | quoted opener body => opener.lead.map plain ++ [quoted opener.bare (body.map xForE)]
  | unclosed opener body => opener.lead.map plain ++ [unclosed opener.bare (body.map xForE)]
  | cast => [cast]
  | placeholder name => [placeholder (name.map xForE)]
  | plain c => [plain (xForE c)]

theorem textOf_withX (item : Item) : textOf item.withX = item.text.map xForE := by
  cases item with
  | quoted opener body =>
    simp [withX, text, Opener.map_text, Opener.quote_bare, Quote.mark_withX, Quote.xForE_mark]
  | unclosed opener body => simp [withX, text, Opener.map_text]
  | cast | placeholder name | plain c => simp [withX, text, xForE]

theorem textOf_flatMap_withX (items : List Item) :
    textOf (items.flatMap withX) = (textOf items).map xForE := by
  induction items with
  | nil => rfl
  | cons item items inductionHypothesis =>
    rw [List.flatMap_cons, textOf_append, textOf_withX, inductionHypothesis, textOf_cons,
      List.map_append]

theorem firstOf_flatMap_withX (items : List Item) (next : Option Char) :
    firstOf (items.flatMap withX) (next.map xForE) = (firstOf items next).map xForE := by
  cases items with
  | nil => rfl
  | cons item items =>
    cases item with
    | quoted opener body | unclosed opener body => cases opener <;> rfl
    | cast | placeholder name | plain c => rfl

theorem allFit_lead (opener : Opener) (next : Option Char) :
    AllFit (opener.lead.map plain) next := by
  cases opener with
  | apostrophe | doubleQuote => trivial
  | smallE | capitalE =>
    exact ⟨⟨by decide, by decide, by decide, fun isE => absurd isE (by decide)⟩, trivial⟩

theorem Fits.withX {item : Item} {next : Option Char} (fits : item.Fits next)
    (noBackslash : '\\' ∉ item.text) : AllFit item.withX (next.map xForE) := by
  cases item with
  | quoted opener body =>
    have noBackslashInBody : '\\' ∉ body := fun member => noBackslash (by simp [text, member])
    refine allFit_append.mpr ⟨allFit_lead opener _, ⟨?_, ?_⟩, trivial⟩
    · exact opener.quote_bare ▸ fits.1.withX noBackslashInBody
    · rw [opener.quote_bare, Quote.mark_withX]
      exact (map_xForE_eq_iff opener.quote.mark_not_mem).not.mpr fits.2
  | unclosed opener body =>
    have noBackslashInBody : '\\' ∉ body := fun member => noBackslash (by simp [text, member])
    refine allFit_append.mpr ⟨allFit_lead opener _, ⟨?_, ?_⟩, trivial⟩
    · exact opener.quote_bare ▸ fits.1.withX noBackslashInBody
    · exact Option.map_eq_none_iff.mpr fits.2
  | cast => exact ⟨trivial, trivial⟩
  | placeholder name =>
    obtain ⟨valid, ends, nameless⟩ := fits
    refine ⟨⟨?_, ?_, ?_⟩, trivial⟩
    · intro c member
      obtain ⟨d, inName, rfl⟩ := List.mem_map.mp member
      exact isNameChar_xForE.trans (valid d inName)
    · intro c member
      obtain ⟨d, isNext, rfl⟩ := Option.map_eq_some_iff.mp member
      exact isNameChar_xForE.symm ▸ ends d isNext
    · intro empty
      exact (map_xForE_eq_iff (by decide)).not.mpr (nameless (List.map_eq_nil_iff.mp empty))
  | plain c =>
    have unlike {d : Char} (other : d ∉ ['e', 'E', 'x', 'X']) (different : c ≠ d) : xForE c ≠ d :=
      (xForE_eq_iff other).not.mpr different
    obtain ⟨noApostrophe, noDoubleQuote, noColon, -⟩ := fits
    refine ⟨⟨unlike (by decide) noApostrophe, unlike (by decide) noDoubleQuote,
      unlike (by decide) noColon, ?_⟩, trivial⟩
    -- There is no `e` left that a quote might follow.
    rintro (small | capital)
    · exact absurd small xForE_ne.1
    · exact absurd capital xForE_ne.2

theorem AllFit.withX {items : List Item} {next : Option Char} (fit : AllFit items next)
    (noBackslash : '\\' ∉ textOf items) : AllFit (items.flatMap Item.withX) (next.map xForE) := by
  induction items with
  | nil => trivial
  | cons item items inductionHypothesis =>
    rw [textOf_cons, List.mem_append, not_or] at noBackslash
    rw [List.flatMap_cons, allFit_append, firstOf_flatMap_withX]
    exact ⟨fit.1.withX noBackslash.1, inductionHypothesis fit.2 noBackslash.2⟩

theorem IsText.of_mem_withX {item : Item} (isText : item.IsText) :
    ∀ part ∈ item.withX, part.IsText := by
  cases item with
  | quoted opener body | unclosed opener body =>
    refine List.forall_mem_append.mpr ⟨isText_of_mem_map_plain, ?_⟩
    exact List.forall_mem_singleton.mpr fun _ => Item.noConfusion
  | cast | plain c => exact List.forall_mem_singleton.mpr fun _ => Item.noConfusion
  | placeholder name => exact absurd rfl (isText name)

/-- Together, what an item becomes is one token again. -/
theorem joined_withX (item : Item) :
    Token.joined (item.withX.map token) = [item.token.withX] := by
  by_cases isText : item.IsText
  · have nonempty : textOf item.withX ≠ [] := by
      rw [textOf_withX]
      exact List.map_eq_nil_iff.not.mpr item.text_ne_nil
    rw [joined_eq_ofText isText.of_mem_withX, Token.ofText, if_neg nonempty, textOf_withX,
      isText.token_eq, Token.withX, Text.withX_ofList]
  · obtain ⟨name, rfl⟩ := not_forall_not.mp isText
    simp [withX, token, Token.withX]

theorem joined_flatMap_withX (items : List Item) :
    Token.joined ((items.flatMap withX).map token) =
      (Token.joined (items.map token)).map Token.withX := by
  induction items with
  | nil => rfl
  | cons item items inductionHypothesis =>
    rw [List.flatMap_cons, List.map_append, Token.joined_append_of_joined_eq item.joined_withX,
      inductionHypothesis, List.foldr_cons, List.foldr_nil, Token.prepend_map_withX,
      List.map_cons, Token.joined_cons]

theorem findings_withX (item : Item) (offset : Nat) :
    findings offset item.withX = (item.finding? offset).toList.map Finding.withX := by
  cases item with
  | quoted opener body => rw [withX, findings_append, findings_map_plain]; rfl
  | unclosed opener body =>
    rw [withX, findings_append, findings_map_plain]
    cases opener <;> rfl
  | placeholder name => cases name <;> rfl
  | cast | plain c => rfl

theorem findings_flatMap_withX (offset : Nat) (items : List Item) :
    findings offset (items.flatMap withX) = (findings offset items).map Finding.withX := by
  induction items generalizing offset with
  | nil => rfl
  | cons item items inductionHypothesis =>
    rw [List.flatMap_cons, findings_append, findings_withX, textOf_withX, Text.bytes_map_xForE,
      inductionHypothesis, findings, List.map_append]

theorem Reads.withX {items : List Item} {text : List Char} (reads : Reads items text)
    (noBackslash : '\\' ∉ text) : Reads (items.flatMap Item.withX) (text.map xForE) where
  text := by rw [textOf_flatMap_withX, reads.text]
  fit := reads.fit.withX (reads.text.symm ▸ noBackslash)

end Item

namespace Reading

/-- In a template without backslashes, an `e` before a quote means nothing. With an `x` for each
`e` it has the same tokens at the same places, and the same findings, but that an escape string
that is open is a string, which begins after the letter. -/
theorem letter_matters_only_for_backslashes {template : String}
    (noBackslash : '\\' ∉ template.toList) :
    let reading := ofTemplate template
    let other := ofTemplate (Text.withX template)
    other.tokens = reading.tokens.map Token.withX ∧
      other.findings = reading.findings.map Finding.withX ∧
      other.tokens.map (fun token => token.render.utf8ByteSize) =
        reading.tokens.map (fun token => token.render.utf8ByteSize) := by
  intro reading other
  obtain ⟨items, reads⟩ := Item.exists_reads template.toList
  have readsOther := reads.withX noBackslash
  rw [← String.toList_ofList (l := template.toList.map xForE), ← Text.withX] at readsOther
  have ofFirst : reading = _ := ofTemplate_of_reads reads
  have ofOther : other = _ := ofTemplate_of_reads readsOther
  have tokens : other.tokens = reading.tokens.map Token.withX := by
    rw [ofFirst, ofOther]
    exact Item.joined_flatMap_withX items
  refine ⟨tokens, ?_, ?_⟩
  · rw [ofFirst, ofOther]
    exact Item.findings_flatMap_withX 0 items
  · rw [tokens, List.map_map]
    exact List.map_congr_left fun token _ => token.utf8ByteSize_render_withX

/-- A date, a name that ends in the letter, a marker without a name, and an escape string that is
open. -/
theorem letter_matters_only_for_backslashes_in_date :
    let template := "date'é''s :b' = :le'e' or : = E'it"
    let reading := ofTemplate template
    let other := ofTemplate (Text.withX template)
    '\\' ∉ template.toList ∧
      reading.tokens = [.text "date'é''s :b' = ", .placeholder "le", .text "'e' or ",
        .placeholder "", .text " = E'it"] ∧
      reading.findings = [.emptyName 27, .unterminated .escapeString 31] ∧
      other.tokens = [.text "datx'é''s :b' = ", .placeholder "lx", .text "'x' or ",
        .placeholder "", .text " = X'it"] ∧
      other.findings = [.emptyName 27, .unterminated .string 32] := by
  intro template reading other
  have noBackslash : '\\' ∉ template.toList := by decide
  have ofFirst : reading = ⟨[.text "date'é''s :b' = ", .placeholder "le", .text "'e' or ",
      .placeholder "", .text " = E'it"], [.emptyName 27, .unterminated .escapeString 31]⟩ := by
    decide +kernel
  obtain ⟨tokens, findings, -⟩ := letter_matters_only_for_backslashes noBackslash
  rw [show ofTemplate template = _ from ofFirst] at tokens findings
  exact ⟨noBackslash, by rw [ofFirst], by rw [ofFirst], tokens, findings⟩

end Reading

end SqlTemplate
