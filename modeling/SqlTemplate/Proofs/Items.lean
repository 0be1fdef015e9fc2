import SqlTemplate.Proofs.Texts
import SqlTemplate.Proofs.Tokens
import SqlTemplate.Reading

/-!
# Items of a template

A template is a sequence of items: quoted texts, casts, placeholders and single characters. An
item fits the character after it if that character neither continues the item nor makes another
item of it. Text that is opened and never closed fits only the end of the template.
-/

namespace SqlTemplate

/-- The ways to open quoted text. -/
inductive Opener where
  | apostrophe
  | doubleQuote
  | smallE
  | capitalE
  deriving DecidableEq

namespace Opener

def quote : Opener → Quote
  | apostrophe => .string
  | doubleQuote => .identifier
  | smallE | capitalE => .escapeString

def first : Opener → Char
  | apostrophe => '\''
  | doubleQuote => '"'
  | smallE => 'e'
  | capitalE => 'E'

def text : Opener → List Char
  | apostrophe => ['\'']
  | doubleQuote => ['"']
  | smallE => ['e', '\'']
  | capitalE => ['E', '\'']

end Opener

/-- What may stand between an opener and the closing quote. -/
inductive Quote.Body (quote : Quote) : List Char → Prop where
  | nil : Body quote []
  | doubled {body} : Body quote body → Body quote (quote.mark :: quote.mark :: body)
  | escaped {c body} : quote = .escapeString → Body quote body → Body quote ('\\' :: c :: body)
  | plain {c body} : c ≠ quote.mark → (quote = .escapeString → c ≠ '\\') → Body quote body →
      Body quote (c :: body)

/-- What may stand between an opener and the end of the template. -/
inductive Quote.OpenBody (quote : Quote) : List Char → Prop where
  | body {body} : Body quote body → OpenBody quote body
  | backslash {body} : quote = .escapeString → Body quote body → OpenBody quote (body ++ ['\\'])

inductive Item where
  | quoted (opener : Opener) (body : List Char)
  /-- Quoted text that is still open at the end of the template. -/
  | unclosed (opener : Opener) (body : List Char)
  | cast
  | placeholder (name : List Char)
  | plain (c : Char)
  deriving DecidableEq

namespace Item

def first : Item → Char
  | quoted opener _ | unclosed opener _ => opener.first
  | cast | placeholder _ => ':'
  | plain c => c

/-- How an item stands in a template. -/
def text : Item → List Char
  | quoted opener body => opener.text ++ (body ++ [opener.quote.mark])
  | unclosed opener body => opener.text ++ body
  | cast => [':', ':']
  | placeholder name => ':' :: name
  | plain c => [c]

def textOf (items : List Item) : List Char :=
  items.flatMap text

@[simp] theorem textOf_nil : textOf [] = [] := rfl

@[simp] theorem textOf_cons (item : Item) (items : List Item) :
    textOf (item :: items) = item.text ++ textOf items :=
  List.flatMap_cons

@[simp] theorem textOf_append (first second : List Item) :
    textOf (first ++ second) = textOf first ++ textOf second :=
  List.flatMap_append

theorem text_eq_first_cons (item : Item) : ∃ rest, item.text = item.first :: rest := by
  cases item with
  | quoted opener body | unclosed opener body => cases opener <;> exact ⟨_, rfl⟩
  | cast | placeholder name | plain c => exact ⟨_, rfl⟩

theorem text_ne_nil (item : Item) : item.text ≠ [] := by
  obtain ⟨rest, text⟩ := item.text_eq_first_cons
  rw [text]
  exact List.cons_ne_nil _ _

theorem textOf_eq_nil_iff {items : List Item} : textOf items = [] ↔ items = [] := by
  cases items <;> simp [text_ne_nil]

/-- Whether an item stands as it is before `next`, the character after it if there is one. -/
def Fits : Item → Option Char → Prop
  | quoted opener body, next => opener.quote.Body body ∧ next ≠ some opener.quote.mark
  | unclosed opener body, next => opener.quote.OpenBody body ∧ next = none
  | cast, _ => True
  | placeholder name, next =>
    (∀ c ∈ name, isNameChar c) ∧ (∀ c ∈ next, ¬isNameChar c) ∧ (name = [] → next ≠ some ':')
  | plain c, next =>
    c ≠ '\'' ∧ c ≠ '"' ∧ c ≠ ':' ∧ (c = 'e' ∨ c = 'E' → next ≠ some '\'')

/-- The first character of a sequence of items before `next`. -/
def firstOf : List Item → Option Char → Option Char
  | [], next => next
  | item :: _, _ => some item.first

theorem firstOf_append (first second : List Item) (next : Option Char) :
    firstOf (first ++ second) next = firstOf first (firstOf second next) := by
  cases first <;> rfl

theorem firstOf_eq_none_iff {items : List Item} {next : Option Char} :
    firstOf items next = none ↔ items = [] ∧ next = none := by
  cases items <;> simp [firstOf]

/-- Whether each item of a sequence before `next` fits the character after it. -/
def AllFit : List Item → Option Char → Prop
  | [], _ => True
  | item :: items, next => item.Fits (firstOf items next) ∧ AllFit items next

theorem allFit_append {first second : List Item} {next : Option Char} :
    AllFit (first ++ second) next ↔ AllFit first (firstOf second next) ∧ AllFit second next := by
  induction first with
  | nil => simp [AllFit]
  | cons item first inductionHypothesis =>
    simp only [List.cons_append, AllFit, firstOf_append, inductionHypothesis, and_assoc]

theorem AllFit.of_none {items : List Item} {next : Option Char} (fit : AllFit items none)
    (last : ∀ item ∈ items.getLast?, item.Fits next) : AllFit items next := by
  rcases List.eq_nil_or_concat items with rfl | ⟨front, item, rfl⟩
  · trivial
  · rw [List.concat_eq_append] at fit last ⊢
    rw [allFit_append] at fit ⊢
    exact ⟨fit.1, last item List.getLast?_concat, trivial⟩

/-- Only the last item can be unclosed. -/
theorem AllFit.closed {items : List Item} {next : Option Char} (fit : AllFit items next)
    (goesOn : next ≠ none) (opener : Opener) (body : List Char) :
    unclosed opener body ∉ items := by
  intro member
  obtain ⟨front, back, rfl⟩ := List.append_of_mem member
  obtain ⟨-, fits, -⟩ := allFit_append.mp fit
  exact goesOn (firstOf_eq_none_iff.mp fits.2).2

theorem AllFit.exists_fits {items : List Item} {next : Option Char} (fit : AllFit items next)
    {item : Item} (member : item ∈ items) : ∃ after, item.Fits after := by
  obtain ⟨front, back, rfl⟩ := List.append_of_mem member
  obtain ⟨-, fits, -⟩ := allFit_append.mp fit
  exact ⟨_, fits⟩

theorem head?_textOf_append (items : List Item) (rest : List Char) :
    (textOf items ++ rest).head? = firstOf items rest.head? := by
  cases items with
  | nil => rfl
  | cons item items =>
    obtain ⟨tail, text⟩ := item.text_eq_first_cons
    rw [textOf_cons, text]
    rfl

theorem head?_textOf (items : List Item) : (textOf items).head? = firstOf items none := by
  simpa using head?_textOf_append items []

theorem mem_getLast?_textOf_concat {items : List Item} {item : Item} {c : Char} :
    c ∈ (textOf (items ++ [item])).getLast? ↔ c ∈ item.text.getLast? := by
  have split : textOf (items ++ [item]) = textOf items ++ item.text := by simp
  rw [split, List.getLast?_append_of_ne_nil _ item.text_ne_nil]

/-- The readings of a text as a sequence of items. -/
structure Reads (items : List Item) (template : List Char) : Prop where
  text : textOf items = template
  fit : AllFit items none

theorem eq_plain_of_isBlank_first {item : Item} (blank : Text.isBlank item.first) :
    item = plain item.first := by
  cases item with
  | quoted opener body | unclosed opener body =>
    have notBlank (opener : Opener) : ¬Text.isBlank opener.first := by cases opener <;> decide
    exact absurd blank (notBlank opener)
  | cast | placeholder name =>
    have notBlank : ¬Text.isBlank ':' := by decide
    exact absurd blank notBlank
  | plain c => rfl

/-- Trimming the start of a text takes away its first items. -/
theorem Reads.trimStart {items : List Item} {text : List Char} (reads : Reads items text) :
    ∃ rest, Reads rest (Text.trimStart text) ∧ rest <:+ items := by
  induction items generalizing text with
  | nil =>
    obtain rfl : [] = text := reads.text
    exact ⟨[], ⟨rfl, trivial⟩, List.suffix_rfl⟩
  | cons item items inductionHypothesis =>
    by_cases blank : Text.isBlank item.first
    · have plain := eq_plain_of_isBlank_first blank
      obtain ⟨rest, readsRest, suffix⟩ := inductionHypothesis ⟨rfl, reads.fit.2⟩
      refine ⟨rest, ?_, suffix.trans (List.suffix_cons _ _)⟩
      rw [← reads.text, textOf_cons, plain]
      have shorter : Text.trimStart (item.first :: textOf items) = Text.trimStart (textOf items) :=
        List.dropWhile_cons_of_pos blank
      exact shorter.symm ▸ readsRest
    · have start : Text.trimStart text = text := by
        apply Text.dropWhile_eq_self
        intro c head
        rw [← reads.text, head?_textOf] at head
        exact Option.some.inj head ▸ blank
      exact ⟨item :: items, start.symm ▸ reads, List.suffix_rfl⟩

def token : Item → Token
  | placeholder name => .placeholder (String.ofList name)
  | item => .text (String.ofList item.text)

/-- What is to be remarked about an item that begins at `offset`. -/
def finding? : Item → Nat → Option Finding
  | unclosed opener _, offset => some (.unterminated opener.quote offset)
  | placeholder [], offset => some (.emptyName offset)
  | _, _ => none

/-- The findings about a sequence of items that begins at `offset`. -/
def findings : Nat → List Item → List Finding
  | _, [] => []
  | offset, item :: items =>
    (item.finding? offset).toList ++ findings (offset + Text.bytes item.text) items

theorem findings_append (offset : Nat) (first second : List Item) :
    findings offset (first ++ second) =
      findings offset first ++ findings (offset + Text.bytes (textOf first)) second := by
  induction first generalizing offset with
  | nil => rfl
  | cons item first inductionHypothesis =>
    simp only [List.cons_append, findings, inductionHypothesis, textOf_cons, Text.bytes_append,
      List.append_assoc, Nat.add_assoc]

theorem findings_eq_nil {items : List Item}
    (quiet : ∀ item ∈ items, ∀ offset, item.finding? offset = none) (offset : Nat) :
    findings offset items = [] := by
  induction items generalizing offset with
  | nil => rfl
  | cons item items inductionHypothesis =>
    obtain ⟨first, rest⟩ := List.forall_mem_cons.mp quiet
    rw [findings, first, inductionHypothesis rest]
    rfl

theorem mem_findings {offset : Nat} {items : List Item} {finding : Finding} :
    finding ∈ findings offset items ↔
      ∃ front item back, items = front ++ item :: back ∧
        item.finding? (offset + Text.bytes (textOf front)) = some finding := by
  induction items generalizing offset with
  | nil => simp [findings]
  | cons item items inductionHypothesis =>
    rw [findings, List.mem_append, Option.mem_toList, inductionHypothesis]
    constructor
    · rintro (found | ⟨front, other, back, rfl, found⟩)
      · exact ⟨[], item, items, rfl, found⟩
      · exact ⟨item :: front, other, back, rfl, by simpa [Nat.add_assoc] using found⟩
    · rintro ⟨front, other, back, split, found⟩
      cases front with
      | nil =>
        obtain ⟨rfl, rfl⟩ := List.cons.inj split
        exact .inl found
      | cons head front =>
        obtain ⟨rfl, rfl⟩ := List.cons.inj split
        exact .inr ⟨front, other, back, rfl, by simpa [Nat.add_assoc] using found⟩

theorem finding?_eq_unterminated {item : Item} {place offset : Nat} {quote : Quote}
    (found : item.finding? place = some (.unterminated quote offset)) :
    ∃ opener body, item = unclosed opener body ∧ opener.quote = quote ∧ place = offset := by
  cases item with
  | unclosed opener body =>
    obtain ⟨sameQuote, samePlace⟩ := Finding.unterminated.inj (Option.some.inj found)
    exact ⟨opener, body, rfl, sameQuote, samePlace⟩
  | placeholder name =>
    cases name with
    | nil => cases Option.some.inj found
    | cons c name => cases found
  | quoted opener body | cast | plain c => cases found

/-- Open quoted text is reported where the last item begins. -/
theorem mem_findings_unterminated {items : List Item} (fit : AllFit items none) {quote : Quote}
    {offset : Nat} :
    .unterminated quote offset ∈ findings 0 items ↔
      ∃ front opener body, items = front ++ [unclosed opener body] ∧ opener.quote = quote ∧
        Text.bytes (textOf front) = offset := by
  rw [mem_findings]
  constructor
  · rintro ⟨front, item, back, rfl, found⟩
    obtain ⟨opener, body, rfl, sameQuote, samePlace⟩ := finding?_eq_unterminated found
    obtain ⟨-, fits, -⟩ := allFit_append.mp fit
    obtain rfl : back = [] := (firstOf_eq_none_iff.mp fits.2).1
    exact ⟨front, opener, body, rfl, sameQuote, by simpa using samePlace⟩
  · rintro ⟨front, opener, body, rfl, rfl, rfl⟩
    exact ⟨front, unclosed opener body, [], rfl, by simp [finding?]⟩

/-- A sequence of items is closed if no finding says otherwise. -/
theorem closed_of_findings {items : List Item}
    (quiet : ∀ quote offset, .unterminated quote offset ∉ findings 0 items) (opener : Opener)
    (body : List Char) : unclosed opener body ∉ items := by
  intro member
  obtain ⟨front, back, rfl⟩ := List.append_of_mem member
  exact quiet opener.quote _ (mem_findings.mpr ⟨front, _, back, rfl, rfl⟩)

end Item

end SqlTemplate
