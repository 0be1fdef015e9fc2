import Mathlib.Data.List.TakeWhile
import SqlTemplate.Proofs.Appending
import SqlTemplate.Proofs.Reporting

/-!
# Blanks around a template

The blanks at the start of a template are items of their own. Those at its end are items of their
own too, or they belong to quoted text that is still open. So a template that is trimmed before it
is read has the tokens of the whole template, but for the blanks at both ends of them, and its
findings are those of the whole template, but for the distance.
-/

namespace SqlTemplate

namespace Token

/-- Characters as a token, if there are any. -/
def ofText (content : List Char) : List Token :=
  if content = [] then [] else [.text (String.ofList content)]

/-- Tokens without the blanks that the first one begins with. -/
def trimStart : List Token → List Token
  | .text content :: tokens => ofText (Text.trimStart content.toList) ++ tokens
  | tokens => tokens

/-- Tokens without the blanks that the last one ends with. -/
def trimEnd : List Token → List Token
  | [] => []
  | [.text content] => ofText (Text.trimEnd content.toList)
  | token :: tokens => token :: trimEnd tokens

/-- Whether tokens do not begin with text. -/
def BeginsApart (tokens : List Token) : Prop :=
  ∀ token ∈ tokens.head?, ∃ name, token = .placeholder name

/-- Whether tokens do not end with text. -/
def EndsApart (tokens : List Token) : Prop :=
  ∀ token ∈ tokens.getLast?, ∃ name, token = .placeholder name

/-- Text meets no text at a placeholder. -/
theorem splice_eq_append {first second : List Token}
    (apart : EndsApart first ∨ BeginsApart second) : splice first second = first ++ second := by
  induction first with
  | nil => rfl
  | cons token first inductionHypothesis =>
    cases first with
    | cons next first =>
      have rest := inductionHypothesis (apart.imp_left fun ends => ends)
      cases token <;> exact congrArg _ rest
    | nil =>
      cases token with
      | placeholder name => rfl
      | text last =>
        have begins : BeginsApart second := apart.resolve_left fun ends => by
          obtain ⟨_, ⟨⟩⟩ := ends _ rfl
        cases second with
        | nil => rfl
        | cons next second =>
          obtain ⟨name, rfl⟩ := begins next rfl
          rfl

theorem trimStart_eq_self {tokens : List Token} (begins : BeginsApart tokens) :
    trimStart tokens = tokens := by
  cases tokens with
  | nil => rfl
  | cons token tokens =>
    obtain ⟨name, rfl⟩ := begins token rfl
    rfl

theorem trimStart_ofText_append (content : List Char) {tokens : List Token}
    (begins : BeginsApart tokens) :
    trimStart (ofText content ++ tokens) = ofText (Text.trimStart content) ++ tokens := by
  by_cases empty : content = []
  · subst empty
    exact trimStart_eq_self begins
  · rw [ofText, if_neg empty, List.singleton_append, trimStart, String.toList_ofList]

theorem trimEnd_append (front : List Token) {back : List Token} (nonempty : back ≠ []) :
    trimEnd (front ++ back) = front ++ trimEnd back := by
  induction front with
  | nil => rfl
  | cons token front inductionHypothesis =>
    obtain ⟨next, rest, split⟩ :=
      List.exists_cons_of_ne_nil (List.append_ne_nil_of_right_ne_nil front nonempty)
    rw [List.cons_append, List.cons_append, ← inductionHypothesis, split]
    cases token <;> rfl

theorem trimEnd_eq_self {tokens : List Token} (ends : EndsApart tokens) :
    trimEnd tokens = tokens := by
  rcases List.eq_nil_or_concat tokens with rfl | ⟨front, token, rfl⟩
  · rfl
  · rw [List.concat_eq_append] at ends ⊢
    obtain ⟨name, rfl⟩ := ends token List.getLast?_concat
    exact trimEnd_append front (List.cons_ne_nil _ _)

theorem trimEnd_append_ofText {tokens : List Token} (ends : EndsApart tokens)
    (content : List Char) :
    trimEnd (tokens ++ ofText content) = tokens ++ ofText (Text.trimEnd content) := by
  by_cases empty : content = []
  · subst empty
    have nothing : ofText (Text.trimEnd []) = [] := rfl
    rw [nothing, ofText, if_pos rfl, List.append_nil, trimEnd_eq_self ends]
  · rw [ofText, if_neg empty, trimEnd_append tokens (List.cons_ne_nil _ _), trimEnd,
      String.toList_ofList]

end Token

namespace Item

/-- Whether a sequence of items does not begin with text. -/
def BeginsApart (items : List Item) : Prop :=
  ∀ item ∈ items.head?, ∃ name, item = placeholder name

/-- Whether a sequence of items does not end with text. -/
def EndsApart (items : List Item) : Prop :=
  ∀ item ∈ items.getLast?, ∃ name, item = placeholder name

theorem BeginsApart.joined {items : List Item} (begins : BeginsApart items) :
    Token.BeginsApart (Token.joined (items.map token)) := by
  cases items with
  | nil => exact nofun
  | cons item items =>
    obtain ⟨name, rfl⟩ := begins item rfl
    rintro _ ⟨⟩
    exact ⟨_, rfl⟩

theorem EndsApart.joined {items : List Item} (ends : EndsApart items) :
    Token.EndsApart (Token.joined (items.map token)) := by
  rcases List.eq_nil_or_concat items with rfl | ⟨front, item, rfl⟩
  · exact nofun
  · rw [List.concat_eq_append] at ends ⊢
    obtain ⟨name, rfl⟩ := ends item List.getLast?_concat
    have last : (Token.joined ((front ++ [placeholder name]).map token)).getLast? =
        some (.placeholder (String.ofList name)) := by
      rw [Token.getLast?_joined, List.map_append]
      exact List.getLast?_concat
    rw [Token.EndsApart, last]
    rintro _ ⟨⟩
    exact ⟨_, rfl⟩

/-- Items of text make up the text of one token. -/
theorem joined_eq_ofText {items : List Item} (isText : ∀ item ∈ items, item.IsText) :
    Token.joined (items.map token) = Token.ofText (textOf items) := by
  rw [joined_of_isText isText, Token.ofText]
  simp only [textOf_eq_nil_iff]

theorem joined_text_append {front back : List Item} (isText : ∀ item ∈ front, item.IsText)
    (begins : BeginsApart back) :
    Token.joined ((front ++ back).map token) =
      Token.ofText (textOf front) ++ Token.joined (back.map token) := by
  rw [List.map_append, Token.joined_append, Token.splice_eq_append (.inr begins.joined),
    joined_eq_ofText isText]

theorem joined_append_text {front back : List Item} (ends : EndsApart front)
    (isText : ∀ item ∈ back, item.IsText) :
    Token.joined ((front ++ back).map token) =
      Token.joined (front.map token) ++ Token.ofText (textOf back) := by
  rw [List.map_append, Token.joined_append, Token.splice_eq_append (.inl ends.joined),
    joined_eq_ofText isText]

theorem exists_text_front (items : List Item) :
    ∃ front back, items = front ++ back ∧ (∀ item ∈ front, item.IsText) ∧ BeginsApart back := by
  induction items with
  | nil => exact ⟨[], [], rfl, nofun, nofun⟩
  | cons item items inductionHypothesis =>
    by_cases isText : item.IsText
    · obtain ⟨front, back, rfl, allText, begins⟩ := inductionHypothesis
      exact ⟨item :: front, back, rfl, List.forall_mem_cons.mpr ⟨isText, allText⟩, begins⟩
    · refine ⟨[], item :: items, rfl, nofun, ?_⟩
      rintro _ ⟨⟩
      exact not_forall_not.mp isText

theorem exists_text_back (items : List Item) :
    ∃ front back, items = front ++ back ∧ EndsApart front ∧ ∀ item ∈ back, item.IsText := by
  induction items using List.reverseRecOn with
  | nil => exact ⟨[], [], rfl, nofun, nofun⟩
  | append_singleton items item inductionHypothesis =>
    by_cases isText : item.IsText
    · obtain ⟨front, back, rfl, ends, allText⟩ := inductionHypothesis
      refine ⟨front, back ++ [item], List.append_assoc .., ends, ?_⟩
      exact List.forall_mem_append.mpr ⟨allText, List.forall_mem_singleton.mpr isText⟩
    · refine ⟨items ++ [item], [], (List.append_nil _).symm, ?_, nofun⟩
      rw [EndsApart, List.getLast?_concat]
      rintro _ ⟨⟩
      exact not_forall_not.mp isText

theorem findings_map_plain (offset : Nat) (characters : List Char) :
    findings offset (characters.map plain) = [] := by
  apply findings_eq_nil
  intro item member _
  obtain ⟨c, -, rfl⟩ := List.mem_map.mp member
  rfl

section Trim

variable {items rest : List Item} {text : List Char}

/-- The blanks at the start of a text are items of their own. -/
theorem Reads.eq_blanks_append (reads : Reads items text)
    (readsRest : Reads rest (Text.trimStart text)) :
    items = (text.takeWhile Text.isBlank).map plain ++ rest := by
  obtain ⟨other, readsOther, taken, rfl⟩ := reads.trimStart
  obtain rfl := readsOther.unique readsRest
  have blanks : textOf taken = text.takeWhile Text.isBlank := by
    have split : textOf taken ++ Text.trimStart text = text := by
      rw [← readsOther.text, ← textOf_append, reads.text]
    exact List.append_cancel_right (split.trans List.takeWhile_append_dropWhile.symm)
  have isPlain : ∀ item ∈ taken, plain item.first = item := by
    intro item member
    obtain ⟨tail, split⟩ := item.text_eq_first_cons
    have inBlanks : item.first ∈ text.takeWhile Text.isBlank := by
      rw [← blanks]
      exact List.mem_flatMap.mpr ⟨item, member, split ▸ List.mem_cons_self⟩
    exact (eq_plain_of_isBlank_first (List.all_eq_true.mp List.all_takeWhile _ inBlanks)).symm
  have plains : (taken.map first).map plain = taken := by
    rw [List.map_map]
    exact (List.map_congr_left isPlain).trans (List.map_id _)
  rw [← blanks, ← plains, textOf_map_plain]

theorem Reads.tokens_trimStart (reads : Reads items text)
    (readsRest : Reads rest (Text.trimStart text)) :
    Token.joined (rest.map token) = Token.trimStart (Token.joined (items.map token)) := by
  obtain ⟨front, back, rfl, isText, begins⟩ := exists_text_front rest
  have noBlank : ∀ c ∈ (textOf front).head?, ¬Text.isBlank c := by
    intro c head
    have first : c ∈ (Text.trimStart text).head? := by
      rw [← readsRest.text, textOf_append]
      exact List.mem_head?_append_of_mem_head? head
    exact Text.not_of_mem_head?_dropWhile c first
  have blanks : Text.trimStart (text.takeWhile Text.isBlank) = [] :=
    List.dropWhile_eq_nil_iff.mpr (List.all_eq_true.mp List.all_takeWhile)
  rw [reads.eq_blanks_append readsRest, ← List.append_assoc,
    joined_text_append (List.forall_mem_append.mpr ⟨isText_of_mem_map_plain, isText⟩) begins,
    joined_text_append isText begins, Token.trimStart_ofText_append _ begins.joined,
    textOf_append, textOf_map_plain, Text.trimStart_append _ noBlank, blanks, List.nil_append]

theorem Reads.findings_trimStart (reads : Reads items text)
    (readsRest : Reads rest (Text.trimStart text)) :
    findings 0 items =
      (findings 0 rest).map (Finding.shift (Text.bytes (text.takeWhile Text.isBlank))) := by
  rw [reads.eq_blanks_append readsRest, findings_append, findings_map_plain, textOf_map_plain,
    List.nil_append, Nat.zero_add, ← findings_add, Nat.add_zero]

/-- The blanks that items lose at their end belong to the text after the last placeholder. -/
theorem LosesBlanks.exists_text (loses : LosesBlanks items rest) :
    ∃ front back less blanks, items = front ++ back ∧ rest = front ++ less ∧ EndsApart front ∧
      (∀ item ∈ back, item.IsText) ∧ (∀ item ∈ less, item.IsText) ∧
      textOf back = textOf less ++ blanks := by
  cases loses with
  | @plain _ blanks =>
    obtain ⟨front, less, rfl, ends, isText⟩ := exists_text_back rest
    refine ⟨front, less ++ blanks.map Item.plain, less, blanks, List.append_assoc .., rfl, ends, ?_,
      isText, by simp⟩
    exact List.forall_mem_append.mpr ⟨isText, isText_of_mem_map_plain⟩
  | @unclosed items opener body blanks =>
    obtain ⟨front, middle, rfl, ends, isText⟩ := exists_text_back items
    have concat (inner : List Char) :
        ∀ item ∈ middle ++ [Item.unclosed opener inner], item.IsText :=
      List.forall_mem_append.mpr
        ⟨isText, List.forall_mem_singleton.mpr fun _ => Item.noConfusion⟩
    exact ⟨front, middle ++ [Item.unclosed opener (body ++ blanks)],
      middle ++ [Item.unclosed opener body], blanks, List.append_assoc .., List.append_assoc ..,
      ends, concat _, concat _, by simp [Item.text]⟩

theorem Reads.tokens_trimEnd (reads : Reads items text)
    (readsRest : Reads rest (Text.trimEnd text)) (loses : LosesBlanks items rest) :
    Token.joined (rest.map token) = Token.trimEnd (Token.joined (items.map token)) := by
  obtain ⟨front, back, less, blanks, rfl, rfl, ends, isText, lessIsText, split⟩ :=
    loses.exists_text
  have last : ∀ c ∈ (textOf front ++ textOf less).getLast?, ¬Text.isBlank c := by
    rw [← textOf_append, readsRest.text]
    exact Text.not_isBlank_of_mem_trimEnd
  have noBlank : ∀ c ∈ (textOf less).getLast?, ¬Text.isBlank c := fun c member =>
    last c (List.mem_getLast?_append_of_mem_getLast? member)
  -- The items end as the trimmed text does, so that only blanks can have been lost.
  have nothing : Text.trimEnd blanks = [] := by
    have trimmed := Text.trimEnd_append blanks last
    rw [List.append_assoc, ← split, ← textOf_append, reads.text, ← readsRest.text,
      textOf_append] at trimmed
    exact List.self_eq_append_right.mp trimmed
  rw [joined_append_text ends lessIsText, joined_append_text ends isText,
    Token.trimEnd_append_ofText ends.joined, split, Text.trimEnd_append _ noBlank, nothing,
    List.append_nil]

theorem LosesBlanks.findings_eq (loses : LosesBlanks items rest) :
    findings 0 rest = findings 0 items := by
  cases loses with
  | plain => rw [findings_append, findings_map_plain, List.append_nil]
  | unclosed => rw [findings_concat_unclosed, findings_concat_unclosed]

end Trim

end Item

namespace Reading

/-- Trimming a template before it is read takes blanks away at both ends of its tokens, and
nothing else. What is found in a statement's template is found in the whole template too, after
the blanks with which that begins. -/
theorem trimming_takes_only_blanks (template : String) :
    let lead := Text.bytes (template.toList.takeWhile Text.isBlank)
    let whole := ofTemplate template
    let trimmed := ofTemplate (Text.trim template)
    whole.findings = trimmed.findings.map (Finding.shift lead) ∧
    trimmed.tokens = Token.trimEnd (Token.trimStart whole.tokens) ∧
    Token.names trimmed.tokens = Token.names whole.tokens ∧
    ∀ statement, (Statement.ofTemplate template).result = .ok statement →
      whole.findings = statement.findings.map (Finding.shift lead) := by
  intro lead whole trimmed
  obtain ⟨items, reads⟩ := Item.exists_reads template.toList
  obtain ⟨middle, readsMiddle, -⟩ := reads.trimStart
  obtain ⟨rest, readsRest, loses⟩ := readsMiddle.trimEnd
  have ofWhole : whole = _ := ofTemplate_of_reads reads
  have ofTrimmed : trimmed = _ := ofTemplate_of_reads ((Text.toList_trim template).symm ▸ readsRest)
  have findings : whole.findings = trimmed.findings.map (Finding.shift lead) := by
    rw [ofWhole, ofTrimmed]
    dsimp only
    rw [loses.findings_eq, reads.findings_trimStart readsMiddle]
  refine ⟨findings, ?_, names_trim template, ?_⟩
  · rw [ofWhole, ofTrimmed]
    dsimp only
    rw [readsMiddle.tokens_trimEnd readsRest loses, reads.tokens_trimStart readsMiddle]
  · intro statement accepted
    obtain ⟨-, -, -, reported⟩ := Statement.parts_of_ok accepted
    rw [findings, reported]

/-- A blank of two bytes at the start, a marker behind it, and at the end a blank that a backslash
escapes. -/
theorem trimming_takes_only_blanks_behind_backslash :
    let template := "\u00a0 :a = E'é\\ \n"
    ∃ statement, (Statement.ofTemplate template).result = .ok statement ∧
      statement.sql = "$1 = E'é\\" ∧
      statement.findings = [.unterminated .escapeString 5] ∧
      (ofTemplate template).findings = [.unterminated .escapeString 8] ∧
      (ofTemplate template).tokens = [.text "\u00a0 ", .placeholder "a", .text " = E'é\\ \n"] ∧
      (ofTemplate (Text.trim template)).tokens = [.placeholder "a", .text " = E'é\\"] := by
  intro template
  have accepted : (Statement.ofTemplate template).result =
      .ok ⟨"$1 = E'é\\", [⟨"a", 1, none⟩], [.unterminated .escapeString 5]⟩ := by
    rw [Statement.result_ofTemplate]
    decide +kernel
  have tokens : (ofTemplate template).tokens =
      [.text "\u00a0 ", .placeholder "a", .text " = E'é\\ \n"] := by
    decide +kernel
  obtain ⟨-, trimmedTokens, -, findings⟩ := trimming_takes_only_blanks template
  rw [tokens] at trimmedTokens
  refine ⟨_, accepted, rfl, rfl, ?_, tokens, ?_⟩
  · rw [findings _ accepted]
    decide +kernel
  · rw [trimmedTokens]
    decide +kernel

end Reading

end SqlTemplate
