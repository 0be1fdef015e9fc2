import Mathlib.Data.List.Chain
import SqlTemplate.Proofs.Rewriting

/-!
# Canonical tokens

The tokens of a template, written one after the other, are the template. Conversely, tokens that
are written and read again are the same exactly if they are canonical, which is a condition on
each token and on each two tokens that follow one another.
-/

namespace SqlTemplate

namespace Token

@[simp] theorem renderAll_nil : renderAll [] = "" :=
  String.join_nil

@[simp] theorem renderAll_cons (token : Token) (tokens : List Token) :
    renderAll (token :: tokens) = token.render ++ renderAll tokens :=
  String.join_cons

@[simp] theorem renderAll_prepend (token : Token) (tokens : List Token) :
    renderAll (token.prepend tokens) = token.render ++ renderAll tokens := by
  cases token with
  | placeholder name => exact renderAll_cons _ _
  | text first =>
    cases tokens with
    | nil => exact renderAll_cons _ _
    | cons next tokens =>
      cases next with
      | placeholder name => exact renderAll_cons _ _
      | text second => simp only [prepend, renderAll_cons, render, String.append_assoc]

@[simp] theorem renderAll_joined (tokens : List Token) :
    renderAll (joined tokens) = renderAll tokens := by
  induction tokens with
  | nil => rfl
  | cons token tokens inductionHypothesis =>
    rw [joined_cons, renderAll_prepend, inductionHypothesis, renderAll_cons]

theorem foldr_prepend_joined (first second : List Token) :
    (joined first).foldr prepend second = first.foldr prepend second := by
  induction first with
  | nil => rfl
  | cons token first inductionHypothesis =>
    rw [List.foldr_cons, ← inductionHypothesis, joined_cons]
    cases token with
    | placeholder name => rfl
    | text content =>
      cases joined first with
      | nil => rfl
      | cons next rest =>
        cases next with
        | placeholder name => rfl
        | text more => exact (text_prepend_text_prepend content more _).symm

/-- Joining some of the tokens first makes no difference. -/
theorem joined_append_of_joined_eq {first tokens : List Token} (same : joined first = tokens)
    (second : List Token) : joined (first ++ second) = tokens.foldr prepend (joined second) := by
  rw [← same, foldr_prepend_joined, joined, List.foldr_append]
  rfl

/-- Whether a token can be one of those that are read in a template. -/
def Valid : Token → Prop
  | .text content => content ≠ "" ∧ (Reading.ofTemplate content).tokens = [.text content]
  | .placeholder name => ∀ c ∈ name.toList, isNameChar c

/-- Whether a token remains as it is when another one follows it. -/
def CanPrecede : Token → Token → Prop
  | .text _, .text _ => False
  | .text content, .placeholder _ => (Reading.ofTemplate content).findings = []
  | .placeholder name, .text content =>
    (∀ c ∈ content.toList.head?, ¬isNameChar c) ∧ (name = "" → content.toList.head? ≠ some ':')
  | .placeholder name, .placeholder _ => name ≠ ""

structure Canonical (tokens : List Token) : Prop where
  valid : ∀ token ∈ tokens, token.Valid
  chain : tokens.IsChain CanPrecede

theorem canonical_nil : Canonical [] :=
  ⟨nofun, .nil⟩

theorem canonical_cons {token : Token} {tokens : List Token} :
    Canonical (token :: tokens) ↔
      token.Valid ∧ (∀ next ∈ tokens.head?, token.CanPrecede next) ∧ Canonical tokens := by
  constructor
  · rintro ⟨valid, chain⟩
    obtain ⟨first, rest⟩ := List.forall_mem_cons.mp valid
    obtain ⟨precedes, chain⟩ := List.isChain_cons.mp chain
    exact ⟨first, precedes, rest, chain⟩
  · rintro ⟨first, precedes, rest, chain⟩
    exact ⟨List.forall_mem_cons.mpr ⟨first, rest⟩, List.isChain_cons.mpr ⟨precedes, chain⟩⟩

theorem text_prepend_of_canPrecede {content : String} {tokens : List Token}
    (precedes : ∀ next ∈ tokens.head?, (text content).CanPrecede next) :
    (text content).prepend tokens = .text content :: tokens := by
  cases tokens with
  | nil => rfl
  | cons next tokens =>
    cases next with
    | text more => exact absurd (precedes _ rfl) id
    | placeholder name => rfl

/-- The first character of valid tokens is that of the first one. -/
theorem head?_renderAll_cons {token : Token} (valid : token.Valid) (tokens : List Token) :
    (renderAll (token :: tokens)).toList.head? = token.render.toList.head? := by
  have nonempty : token.render.toList ≠ [] := by
    cases token with
    | text content => exact String.toList_eq_nil_iff.not.mpr valid.1
    | placeholder name => simp [render]
  rw [renderAll_cons, String.toList_append, List.head?_append_of_ne_nil _ nonempty]

end Token

namespace Item

@[simp] theorem toList_render_token (item : Item) : item.token.render.toList = item.text := by
  cases item <;> simp [token, Token.render, text]

@[simp] theorem toList_renderAll_map_token (items : List Item) :
    (Token.renderAll (items.map token)).toList = textOf items := by
  induction items with
  | nil => rfl
  | cons item items inductionHypothesis => simp [inductionHypothesis]

theorem isText_of_names_eq_nil {items : List Item}
    (nameless : Token.names (items.map token) = []) : ∀ item ∈ items, item.IsText := by
  rintro item member name rfl
  have known : String.ofList name ∈ Token.names (items.map token) :=
    List.mem_filterMap.mpr ⟨_, List.mem_map_of_mem member, rfl⟩
  rw [nameless] at known
  exact absurd known List.not_mem_nil

/-- A text is one token if there are items in it, none of which is a placeholder. -/
theorem Reads.tokens_eq_text_iff {items : List Item} {content : String}
    (reads : Reads items content.toList) :
    (Reading.ofTemplate content).tokens = [.text content] ↔
      items ≠ [] ∧ ∀ item ∈ items, item.IsText := by
  rw [Reading.ofTemplate_of_reads reads]
  dsimp only
  constructor
  · intro single
    have names : Token.names (items.map token) = [] := by
      rw [← Token.names_joined, single, Token.names_text_cons, Token.names_nil]
    refine ⟨?_, isText_of_names_eq_nil names⟩
    rintro rfl
    cases single
  · rintro ⟨nonempty, isText⟩
    rw [joined_of_isText isText, if_neg nonempty, reads.text, String.ofList_toList]

theorem Reads.valid_text_iff {items : List Item} {content : String}
    (reads : Reads items content.toList) :
    (Token.text content).Valid ↔ items ≠ [] ∧ ∀ item ∈ items, item.IsText := by
  rw [Token.Valid, reads.tokens_eq_text_iff, and_iff_right_iff_imp]
  rintro ⟨nonempty, -⟩ rfl
  exact nonempty (textOf_eq_nil_iff.mp reads.text)

/-- Nothing is to be remarked about text unless it is left open. -/
theorem Reads.findings_eq_nil_iff {items : List Item} {content : String}
    (reads : Reads items content.toList) (isText : ∀ item ∈ items, item.IsText) :
    (Reading.ofTemplate content).findings = [] ↔ ∀ opener body, unclosed opener body ∉ items := by
  rw [Reading.ofTemplate_of_reads reads]
  dsimp only
  constructor
  · intro quiet
    exact closed_of_findings (quiet ▸ fun _ _ => List.not_mem_nil)
  · intro closed
    apply findings_eq_nil
    intro item member offset
    cases item with
    | unclosed opener body => exact absurd member (closed opener body)
    | placeholder name => exact absurd rfl (isText _ member name)
    | quoted opener body | cast | plain c => rfl

/-- What fits before some character fits at the end of the template. -/
theorem Fits.atEnd {item : Item} {next : Option Char} (fits : item.Fits next) :
    item.Fits none := by
  cases item with
  | quoted opener body => exact ⟨fits.1, nofun⟩
  | unclosed opener body => exact ⟨fits.1, rfl⟩
  | cast => trivial
  | placeholder name => exact ⟨fits.1, nofun, nofun⟩
  | plain c => exact ⟨fits.1, fits.2.1, fits.2.2.1, nofun⟩

/-- No colon makes another item of text that is closed. -/
theorem Fits.beforeColon {item : Item} (fits : item.Fits none) (isText : item.IsText)
    (closed : ∀ opener body, item ≠ unclosed opener body) : item.Fits (some ':') := by
  cases item with
  | quoted opener body => exact ⟨fits.1, by cases opener <;> decide⟩
  | unclosed opener body => exact absurd rfl (closed opener body)
  | cast => trivial
  | placeholder name => exact absurd rfl (isText name)
  | plain c => exact ⟨fits.1, fits.2.1, fits.2.2.1, fun _ => by decide⟩

theorem AllFit.beforeColon {items : List Item} (fit : AllFit items none)
    (isText : ∀ item ∈ items, item.IsText)
    (closed : ∀ opener body, unclosed opener body ∉ items) : AllFit items (some ':') := by
  apply fit.of_none
  intro item last
  obtain ⟨front, rfl⟩ := List.getLast?_eq_some_iff.mp last
  obtain ⟨-, fits, -⟩ := allFit_append.mp fit
  refine fits.beforeColon (isText item List.mem_concat_self) ?_
  rintro opener body rfl
  exact closed opener body List.mem_concat_self

/-- An item that fits the first character of a text is read in front of it. -/
theorem Reads.cons {item : Item} {items : List Item} {content : String}
    (reads : Reads items content.toList) (fits : item.Fits content.toList.head?) :
    Reads (item :: items) (String.ofList item.text ++ content).toList where
  text := by simp [reads.text]
  fit := by
    rw [← reads.text, head?_textOf] at fits
    exact ⟨fits, reads.fit⟩

/-- Text before canonical tokens, to whose first character it fits, leaves them canonical. -/
theorem canonical_text_prepend {item : Item} {tokens : List Token} (isText : item.IsText)
    (fits : item.Fits (Token.renderAll tokens).toList.head?) (canonical : Token.Canonical tokens) :
    Token.Canonical ((Token.text (String.ofList item.text)).prepend tokens) := by
  have singleReads : Reads [item] (String.ofList item.text).toList :=
    ⟨by simp, fits.atEnd, trivial⟩
  have singleIsText : ∀ other ∈ [item], other.IsText := List.forall_mem_singleton.mpr isText
  have singleValid : (Token.text (String.ofList item.text)).Valid :=
    singleReads.valid_text_iff.mpr ⟨List.cons_ne_nil _ _, singleIsText⟩
  cases tokens with
  | nil => exact Token.canonical_cons.mpr ⟨singleValid, nofun, canonical⟩
  | cons token tokens =>
    obtain ⟨valid, precedes, rest⟩ := Token.canonical_cons.mp canonical
    rw [Token.head?_renderAll_cons valid] at fits
    cases token with
    | placeholder name =>
      have colon : (Token.placeholder name).render.toList.head? = some ':' := by
        simp [Token.render]
      have closed : ∀ opener body, unclosed opener body ∉ [item] :=
        @AllFit.closed [item] (some ':') ⟨colon ▸ fits, trivial⟩ nofun
      refine Token.canonical_cons.mpr ⟨singleValid, ?_, canonical⟩
      rintro next ⟨⟩
      exact (singleReads.findings_eq_nil_iff singleIsText).mpr closed
    | text content =>
      obtain ⟨items, reads⟩ := exists_reads content.toList
      obtain ⟨nonempty, allText⟩ := reads.valid_text_iff.mp valid
      have grownReads := reads.cons fits
      have grownIsText : ∀ other ∈ item :: items, other.IsText :=
        List.forall_mem_cons.mpr ⟨isText, allText⟩
      refine Token.canonical_cons.mpr
        ⟨grownReads.valid_text_iff.mpr ⟨List.cons_ne_nil _ _, grownIsText⟩, ?_, rest⟩
      intro next member
      have follows := precedes next member
      cases next with
      | text more => exact follows
      | placeholder name =>
        have closed := (reads.findings_eq_nil_iff allText).mp follows
        refine (grownReads.findings_eq_nil_iff grownIsText).mpr ?_
        intro opener body grownMember
        rcases List.mem_cons.mp grownMember with rfl | member
        · exact nonempty (firstOf_eq_none_iff.mp grownReads.fit.1.2).1
        · exact closed opener body member

/-- A placeholder before canonical tokens leaves them canonical if it fits the first character. -/
theorem canonical_placeholder_cons {name : String} {tokens : List Token} :
    Token.Canonical (.placeholder name :: tokens) ↔
      (placeholder name.toList).Fits (Token.renderAll tokens).toList.head? ∧
        Token.Canonical tokens := by
  rw [Token.canonical_cons, ← and_assoc, and_congr_left_iff]
  intro canonical
  simp only [Token.Valid, Fits, String.toList_eq_nil_iff, and_congr_right_iff]
  intro valid
  cases tokens with
  | nil => simp
  | cons next tokens =>
    rw [Token.head?_renderAll_cons (Token.canonical_cons.mp canonical).1]
    cases next with
    | text content => simp [Token.CanPrecede, Token.render]
    | placeholder other => simp [Token.CanPrecede, Token.render, isNameChar]

/-- The tokens of items that fit each other are canonical. -/
theorem canonical_joined {items : List Item} (fit : AllFit items none) :
    Token.Canonical (Token.joined (items.map token)) := by
  induction items with
  | nil => exact Token.canonical_nil
  | cons item items inductionHypothesis =>
    have canonical := inductionHypothesis fit.2
    have fits : item.Fits (Token.renderAll (Token.joined (items.map token))).toList.head? := by
      rw [Token.renderAll_joined, toList_renderAll_map_token, head?_textOf]
      exact fit.1
    rw [List.map_cons, Token.joined_cons]
    cases item with
    | placeholder name =>
      exact canonical_placeholder_cons.mpr ⟨String.toList_ofList.symm ▸ fits, canonical⟩
    | quoted opener body | unclosed opener body | cast | plain c =>
      exact canonical_text_prepend (fun _ => Item.noConfusion) fits canonical

/-- Canonical tokens are those of items that fit each other. -/
theorem exists_allFit_of_canonical {tokens : List Token} (canonical : Token.Canonical tokens) :
    ∃ items, AllFit items none ∧ Token.joined (items.map token) = tokens := by
  induction tokens with
  | nil => exact ⟨[], trivial, rfl⟩
  | cons token tokens inductionHypothesis =>
    obtain ⟨valid, precedes, rest⟩ := Token.canonical_cons.mp canonical
    obtain ⟨items, fit, same⟩ := inductionHypothesis rest
    have first : firstOf items none = (Token.renderAll tokens).toList.head? := by
      rw [← same, Token.renderAll_joined, toList_renderAll_map_token, head?_textOf]
    cases token with
    | placeholder name =>
      have fits := (canonical_placeholder_cons.mp canonical).1
      refine ⟨placeholder name.toList :: items, ⟨first ▸ fits, fit⟩, ?_⟩
      rw [List.map_cons, Token.joined_cons, same, Item.token, String.ofList_toList,
        Token.prepend_placeholder]
    | text content =>
      obtain ⟨inner, reads⟩ := exists_reads content.toList
      have isText := (reads.valid_text_iff.mp valid).2
      have innerFit : AllFit inner (firstOf items none) := by
        rw [first]
        cases tokens with
        | nil => exact reads.fit
        | cons next tokens =>
          cases next with
          | text more => exact absurd (precedes _ rfl) id
          | placeholder name =>
            have closed := (reads.findings_eq_nil_iff isText).mp (precedes _ rfl)
            simpa [Token.render] using reads.fit.beforeColon isText closed
      have single : Token.joined (inner.map Item.token) = [.text content] := by
        rw [← valid.2, Reading.ofTemplate_of_reads reads]
      refine ⟨inner ++ items, allFit_append.mpr ⟨innerFit, fit⟩, ?_⟩
      rw [List.map_append, Token.joined_append_of_joined_eq single, same]
      exact Token.text_prepend_of_canPrecede precedes

end Item

/-- The tokens of a template, written one after the other, are the template; and tokens that are
written one after the other are read again exactly if they are canonical. -/
theorem Token.rendering_and_reading_are_inverse :
    (∀ template, renderAll (Reading.ofTemplate template).tokens = template) ∧
      ∀ tokens, (Reading.ofTemplate (renderAll tokens)).tokens = tokens ↔ Canonical tokens := by
  constructor
  · intro template
    obtain ⟨items, reads⟩ := Item.exists_reads template.toList
    rw [Reading.ofTemplate_of_reads reads, Token.renderAll_joined, ← String.toList_inj,
      Item.toList_renderAll_map_token, reads.text]
  · intro tokens
    constructor
    · intro same
      obtain ⟨items, reads⟩ := Item.exists_reads (renderAll tokens).toList
      rw [Reading.ofTemplate_of_reads reads] at same
      exact same ▸ Item.canonical_joined reads.fit
    · intro canonical
      obtain ⟨items, fit, same⟩ := Item.exists_allFit_of_canonical canonical
      have reads : Item.Reads items (renderAll tokens).toList := by
        refine ⟨?_, fit⟩
        rw [← same, Token.renderAll_joined, Item.toList_renderAll_map_token]
      rw [Reading.ofTemplate_of_reads reads, same]

/-- Two placeholders of which the first has no name are read as a cast. -/
example : (Reading.ofTemplate (Token.renderAll [.placeholder "", .placeholder "a"])).tokens =
    [.text "::a"] := by decide +kernel

end SqlTemplate
