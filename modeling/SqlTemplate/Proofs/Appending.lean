import SqlTemplate.Proofs.Trimming

/-!
# Appending to a template

A character that neither belongs to a name nor bears on what precedes it ends every item before it
that is closed. A text that begins with such a character is read after another one as it is read
alone, and appending it to a template leaves the ordinals of the template as they are.
-/

namespace SqlTemplate

/-- Whether a character leaves everything complete that can precede it, quoted text apart that is
still open. -/
def IsBoundary (c : Char) : Prop :=
  c ≠ '\'' ∧ c ≠ '"' ∧ c ≠ ':' ∧ ¬isNameChar c

/-- Tokens one after the other, with text joined to text where the two lists meet. -/
def Token.splice : List Token → List Token → List Token
  | [], second => second
  | [.text last], .text first :: second => .text (last ++ first) :: second
  | token :: first, second => token :: splice first second

/-- What is found in a text that stands further on in another one. -/
def Finding.shift (distance : Nat) : Finding → Finding
  | .unterminated quote offset => .unterminated quote (distance + offset)
  | .emptyName offset => .emptyName (distance + offset)

namespace Token

theorem splice_prepend (token : Token) (first second : List Token) :
    splice (token.prepend first) second = token.prepend (splice first second) := by
  cases token with
  | placeholder name => simp only [prepend_placeholder, splice]
  | text content =>
    cases first with
    | nil => cases second with
      | nil => rfl
      | cons next second => cases next <;> rfl
    | cons last first =>
      cases last with
      | placeholder name => simp only [text_prepend_placeholder, splice]
      | text more =>
        cases first with
        | cons token first => simp only [prepend, splice]
        | nil => cases second with
          | nil => rfl
          | cons next second =>
            cases next with
            | placeholder name => rfl
            | text last => simp only [prepend, splice, String.append_assoc]

theorem joined_append (first second : List Token) :
    joined (first ++ second) = splice (joined first) (joined second) := by
  induction first with
  | nil => rfl
  | cons token first inductionHypothesis =>
    rw [List.cons_append, joined_cons, inductionHypothesis, joined_cons, splice_prepend]

end Token

namespace Item

theorem Fits.beforeBoundary {item : Item} {c : Char} (fits : item.Fits none)
    (closed : ∀ opener body, item ≠ unclosed opener body) (boundary : IsBoundary c) :
    item.Fits (some c) := by
  obtain ⟨noApostrophe, noDoubleQuote, noColon, noName⟩ := boundary
  cases item with
  | quoted opener body =>
    refine ⟨fits.1, ?_⟩
    rintro ⟨⟩
    cases opener <;> contradiction
  | unclosed opener body => exact absurd rfl (closed opener body)
  | cast => trivial
  | placeholder name =>
    refine ⟨fits.1, ?_, fun _ colon => noColon (Option.some.inj colon)⟩
    rintro _ ⟨⟩
    exact noName
  | plain d =>
    exact ⟨fits.1, fits.2.1, fits.2.2.1, fun _ apostrophe =>
      noApostrophe (Option.some.inj apostrophe)⟩

/-- The items of a text that begins with a boundary follow those of a closed text. -/
theorem Reads.append {items more : List Item} {first second : List Char}
    (reads : Reads items first) (readsMore : Reads more second)
    (closed : ∀ opener body, unclosed opener body ∉ items)
    (boundary : ∀ c ∈ second.head?, IsBoundary c) : Reads (items ++ more) (first ++ second) where
  text := by rw [textOf_append, reads.text, readsMore.text]
  fit := by
    -- Only the last item of the first text is followed by another character than before.
    refine allFit_append.mpr ⟨reads.fit.of_none ?_, readsMore.fit⟩
    intro item last
    obtain ⟨front, rfl⟩ := List.getLast?_eq_some_iff.mp last
    obtain ⟨-, fits, -⟩ := allFit_append.mp reads.fit
    rw [← head?_textOf, readsMore.text]
    cases head : second.head? with
    | none => exact fits
    | some c =>
      refine fits.beforeBoundary ?_ (boundary c head)
      rintro opener body rfl
      exact closed opener body List.mem_concat_self

theorem finding?_add (item : Item) (distance offset : Nat) :
    item.finding? (distance + offset) = (item.finding? offset).map (Finding.shift distance) := by
  cases item with
  | placeholder name => cases name <;> rfl
  | quoted opener body | unclosed opener body | cast | plain c => rfl

theorem findings_add (distance offset : Nat) (items : List Item) :
    findings (distance + offset) items = (findings offset items).map (Finding.shift distance) := by
  induction items generalizing offset with
  | nil => rfl
  | cons item items inductionHypothesis =>
    rw [findings, findings, Nat.add_assoc, inductionHypothesis, finding?_add, List.map_append]
    cases item.finding? offset <;> rfl

end Item

theorem parametersOf_of_prefix {names more : List String} (extended : names <+: more) :
    parametersOf names <+: parametersOf more := by
  obtain ⟨later, rfl⟩ := extended
  unfold parametersOf
  rw [List.mapIdx_append]
  exact List.prefix_append _ _

namespace Statement

/-- The parameters of a statement are those of its template, trimmed or not. -/
theorem parameters_of_ok {template : String} {statement : Statement}
    (accepted : (ofTemplate template).result = .ok statement) :
    (Token.names (Reading.ofTemplate template).tokens).eraseDups.length ≤ maxParameters ∧
      statement.parameters =
        parametersOf (Token.names (Reading.ofTemplate template).tokens).eraseDups := by
  obtain ⟨room, -, parameters, -⟩ := parts_of_ok accepted
  rw [Reading.names_trim] at room parameters
  exact ⟨room, parameters⟩

theorem exists_of_length_le {template : String}
    (room : (Token.names (Reading.ofTemplate template).tokens).eraseDups.length ≤
      maxParameters) :
    ∃ statement, (ofTemplate template).result = .ok statement := by
  rw [← Reading.names_trim] at room
  exact ⟨_, (result_ofTemplate template).trans (if_pos room)⟩

/-- A template has a statement if a template with the same names and more names after them has
one, and its parameters are the first ones of the other statement. -/
theorem exists_of_names_append {template longer : String} {more : List String}
    (names : Token.names (Reading.ofTemplate longer).tokens =
      Token.names (Reading.ofTemplate template).tokens ++ more)
    {whole : Statement} (accepted : (ofTemplate longer).result = .ok whole) :
    ∃ part, (ofTemplate template).result = .ok part ∧ part.parameters <+: whole.parameters := by
  obtain ⟨room, wholeParameters⟩ := parameters_of_ok accepted
  rw [names] at room wholeParameters
  have extended := eraseDups_prefix_append (Token.names (Reading.ofTemplate template).tokens) more
  obtain ⟨part, result⟩ := exists_of_length_le (Nat.le_trans extended.length_le room)
  refine ⟨part, result, ?_⟩
  rw [(parameters_of_ok result).2, wholeParameters]
  exact parametersOf_of_prefix extended

/-- Text that begins with a boundary is read after a closed template as it is read alone, and
appending it neither renumbers nor renames the parameters of the template. -/
theorem appending_never_renumbers {first second : String}
    (closed : ∀ quote offset, .unterminated quote offset ∉ (Reading.ofTemplate first).findings)
    (boundary : ∀ c ∈ second.toList.head?, IsBoundary c) :
    (Reading.ofTemplate (first ++ second)).tokens =
        Token.splice (Reading.ofTemplate first).tokens (Reading.ofTemplate second).tokens ∧
      (Reading.ofTemplate (first ++ second)).findings =
        (Reading.ofTemplate first).findings ++
          (Reading.ofTemplate second).findings.map (Finding.shift first.utf8ByteSize) ∧
      ∀ whole, (ofTemplate (first ++ second)).result = .ok whole →
        ∃ part, (ofTemplate first).result = .ok part ∧ part.parameters <+: whole.parameters := by
  obtain ⟨items, reads⟩ := Item.exists_reads first.toList
  obtain ⟨more, readsMore⟩ := Item.exists_reads second.toList
  have ofFirst := Reading.ofTemplate_of_reads reads
  have ofSecond := Reading.ofTemplate_of_reads readsMore
  rw [ofFirst] at closed
  have readsWhole := reads.append readsMore (Item.closed_of_findings closed) boundary
  rw [← String.toList_append] at readsWhole
  have ofWhole := Reading.ofTemplate_of_reads readsWhole
  refine ⟨?_, ?_, ?_⟩
  · rw [ofWhole, ofFirst, ofSecond, List.map_append, Token.joined_append]
  · rw [ofWhole, ofFirst, ofSecond, Text.utf8ByteSize_eq_bytes, ← reads.text]
    dsimp only
    rw [Item.findings_append, Nat.zero_add, ← Item.findings_add, Nat.add_zero]
  · intro whole
    apply exists_of_names_append
    rw [ofWhole, ofFirst, Token.names_joined, Token.names_joined, List.map_append,
      Token.names_append]

/-- Text meets text where the first template ends, and the second one has a name of its own. -/
theorem appending_never_renumbers_behind_marker :
    let first := "'é' = :b or : is"
    let second := " null or :a = :b 'x"
    (∀ quote offset, .unterminated quote offset ∉ (Reading.ofTemplate first).findings) ∧
      (∀ c ∈ second.toList.head?, IsBoundary c) ∧
      (Reading.ofTemplate (first ++ second)).tokens =
        [.text "'é' = ", .placeholder "b", .text " or ", .placeholder "", .text " is null or ",
          .placeholder "a", .text " = ", .placeholder "b", .text " 'x"] ∧
      (Reading.ofTemplate (first ++ second)).findings =
        [.emptyName 13, .unterminated .string 34] ∧
      ∃ part whole, (ofTemplate first).result = .ok part ∧
        (ofTemplate (first ++ second)).result = .ok whole ∧
        part.parameters = [⟨"b", 1, none⟩, ⟨"", 2, none⟩] ∧
        whole.parameters = [⟨"b", 1, none⟩, ⟨"", 2, none⟩, ⟨"a", 3, none⟩] ∧
        part.parameters <+: whole.parameters := by
  intro first second
  have ofFirst : Reading.ofTemplate first =
      ⟨[.text "'é' = ", .placeholder "b", .text " or ", .placeholder "", .text " is"],
        [.emptyName 13]⟩ := by
    decide +kernel
  have ofSecond : Reading.ofTemplate second =
      ⟨[.text " null or ", .placeholder "a", .text " = ", .placeholder "b", .text " 'x"],
        [.unterminated .string 17]⟩ := by
    decide +kernel
  have closed : ∀ quote offset,
      .unterminated quote offset ∉ (Reading.ofTemplate first).findings := by
    rw [ofFirst]
    simp
  have boundary : ∀ c ∈ second.toList.head?, IsBoundary c := by
    have head : second.toList.head? = some ' ' := by decide
    rw [head]
    rintro c ⟨⟩
    exact ⟨by decide, by decide, by decide, by decide⟩
  obtain ⟨tokens, findings, parameters⟩ := appending_never_renumbers closed boundary
  rw [ofFirst, ofSecond] at tokens findings
  have accepted : (ofTemplate (first ++ second)).result =
      .ok ⟨"'é' = $1 or $2 is null or $3 = $1 'x",
        [⟨"b", 1, none⟩, ⟨"", 2, none⟩, ⟨"a", 3, none⟩],
        [.emptyName 13, .unterminated .string 34]⟩ := by
    rw [result_ofTemplate]
    decide +kernel
  have alone : (ofTemplate first).result =
      .ok ⟨"'é' = $1 or $2 is", [⟨"b", 1, none⟩, ⟨"", 2, none⟩], [.emptyName 13]⟩ := by
    rw [result_ofTemplate]
    decide +kernel
  obtain ⟨part, result, isPrefix⟩ := parameters _ accepted
  refine ⟨closed, boundary, tokens, findings, part, _, result, accepted, ?_, rfl, isPrefix⟩
  rw [Except.ok.inj (result.symm.trans alone)]

end Statement

end SqlTemplate
