import SqlTemplate.Proofs.Readings
import SqlTemplate.Proofs.Writing

/-!
# Items of a statement

A statement has the items of its template, but for the placeholders, which have become single
characters that fit wherever the placeholder did. A statement therefore has no placeholders, and
is its own statement.
-/

namespace SqlTemplate

namespace Token

@[simp] theorem names_prepend (token : Token) (tokens : List Token) :
    names (token.prepend tokens) = names (token :: tokens) := by
  cases token with
  | placeholder name => rfl
  | text content =>
    cases tokens with
    | nil => rfl
    | cons next tokens => cases next <;> rfl

@[simp] theorem names_joined (tokens : List Token) : names (joined tokens) = names tokens := by
  induction tokens with
  | nil => rfl
  | cons token tokens inductionHypothesis =>
    rw [joined_cons, names_prepend]
    cases token with
    | text content => exact inductionHypothesis
    | placeholder name => exact congrArg (name :: ·) inductionHypothesis

@[simp] theorem writtenAll_prepend (distinct : List String) (token : Token) (tokens : List Token) :
    writtenAll distinct (token.prepend tokens) =
      token.written distinct ++ writtenAll distinct tokens := by
  cases token with
  | placeholder name => exact writtenAll_cons distinct _ _
  | text content =>
    cases tokens with
    | nil => exact writtenAll_cons distinct _ _
    | cons next tokens =>
      cases next with
      | placeholder name => exact writtenAll_cons distinct _ _
      | text more => simp only [prepend, writtenAll_cons, written, String.append_assoc]

@[simp] theorem writtenAll_joined (distinct : List String) (tokens : List Token) :
    writtenAll distinct (joined tokens) = writtenAll distinct tokens := by
  induction tokens with
  | nil => rfl
  | cons token tokens inductionHypothesis =>
    rw [joined_cons, writtenAll_prepend, inductionHypothesis, writtenAll_cons]

end Token

/-- The characters of which placeholders are made in a statement. -/
def isPositionalChar (c : Char) : Bool :=
  c = '$' || c.isDigit

theorem toList_positional (ordinal : UInt16) :
    (positional ordinal).toList = '$' :: Nat.toDigits 10 ordinal.toNat := by
  have digits : toString ordinal = ordinal.toNat.repr := rfl
  rw [positional, digits, String.toList_append, Nat.toList_repr]
  rfl

theorem isPositionalChar_of_mem {ordinal : UInt16} :
    ∀ c ∈ (positional ordinal).toList, isPositionalChar c := by
  intro c member
  rw [toList_positional] at member
  rcases List.mem_cons.mp member with rfl | digit
  · rfl
  · simp [isPositionalChar, Nat.isDigit_of_mem_toDigits (by decide) (by decide) digit]

theorem not_isBlank_of_isPositionalChar {c : Char} (positional : isPositionalChar c) :
    ¬Text.isBlank c := by
  rcases (Bool.or_eq_true _ _).mp positional with dollar | digit
  · rw [of_decide_eq_true dollar]
    decide
  · obtain ⟨low, high⟩ := Char.isDigit_iff_toNat.mp digit
    have zero : '0'.toNat = 48 := rfl
    have nine : '9'.toNat = 57 := rfl
    simp [Text.isBlank]
    omega

namespace Item

/-- What an item becomes in a statement, given the distinct names of all placeholders. -/
def numbered (names : List String) : Item → List Item
  | placeholder name => (positional (ordinalIn names (String.ofList name))).toList.map plain
  | item => [item]

def numberedAll (names : List String) (items : List Item) : List Item :=
  items.flatMap (numbered names)

@[simp] theorem numberedAll_nil (names : List String) : numberedAll names [] = [] := rfl

@[simp] theorem numberedAll_cons (names : List String) (item : Item) (items : List Item) :
    numberedAll names (item :: items) = item.numbered names ++ numberedAll names items :=
  List.flatMap_cons

@[simp] theorem numberedAll_append (names : List String) (first second : List Item) :
    numberedAll names (first ++ second) = numberedAll names first ++ numberedAll names second :=
  List.flatMap_append

@[simp] theorem textOf_map_plain (characters : List Char) :
    textOf (characters.map plain) = characters := by
  induction characters with
  | nil => rfl
  | cons c characters inductionHypothesis =>
    rw [List.map_cons, textOf_cons, inductionHypothesis]
    rfl

theorem textOf_numbered (names : List String) (item : Item) :
    textOf (item.numbered names) = (item.token.written names).toList := by
  cases item with
  | placeholder name => exact textOf_map_plain _
  | quoted opener body | unclosed opener body | cast | plain c =>
    simp [numbered, token, Token.written]

theorem toList_writtenAll (names : List String) (items : List Item) :
    (Token.writtenAll names (items.map token)).toList = textOf (numberedAll names items) := by
  induction items with
  | nil => simp
  | cons item items inductionHypothesis =>
    simp [inductionHypothesis, textOf_numbered]

theorem fits_of_isPositionalChar {c : Char} (positional : isPositionalChar c)
    (next : Option Char) : (plain c).Fits next := by
  have other {d : Char} (different : isPositionalChar d = false) : c ≠ d := by
    rintro rfl
    exact Bool.false_ne_true (different.symm.trans positional)
  refine ⟨other rfl, other rfl, other rfl, ?_⟩
  rintro (small | capital)
  · exact absurd small (other rfl)
  · exact absurd capital (other rfl)

theorem allFit_map_plain {characters : List Char}
    (positional : ∀ c ∈ characters, isPositionalChar c) (next : Option Char) :
    AllFit (characters.map plain) next := by
  induction characters with
  | nil => trivial
  | cons c characters inductionHypothesis =>
    exact ⟨fits_of_isPositionalChar (positional c List.mem_cons_self) _,
      inductionHypothesis fun d member => positional d (.tail c member)⟩

/-- The character after an item changes only from a colon to a dollar sign. -/
theorem firstOf_numberedAll (names : List String) (items : List Item) (next : Option Char) :
    firstOf (numberedAll names items) next = firstOf items next ∨
      firstOf items next = some ':' ∧ firstOf (numberedAll names items) next = some '$' := by
  cases items with
  | nil => exact .inl rfl
  | cons item items =>
    cases item with
    | placeholder name =>
      refine .inr ⟨rfl, ?_⟩
      rw [numberedAll_cons, numbered, toList_positional]
      rfl
    | quoted opener body | unclosed opener body | cast | plain c => exact .inl rfl

theorem Fits.dollar {item : Item} (fits : item.Fits (some ':')) : item.Fits (some '$') := by
  cases item with
  | quoted opener body =>
    refine ⟨fits.1, ?_⟩
    cases opener <;> decide
  | unclosed opener body => cases fits.2
  | cast => trivial
  | placeholder name =>
    refine ⟨fits.1, ?_, fun _ => by decide⟩
    rintro c ⟨⟩
    decide
  | plain c => exact ⟨fits.1, fits.2.1, fits.2.2.1, fun _ => by decide⟩

theorem AllFit.numberedAll {items : List Item} {next : Option Char} (fit : AllFit items next)
    (names : List String) : AllFit (numberedAll names items) next := by
  induction items with
  | nil => trivial
  | cons item items inductionHypothesis =>
    rw [numberedAll_cons, allFit_append]
    refine ⟨?_, inductionHypothesis fit.2⟩
    -- What follows the item is as before, or a dollar sign in place of a colon.
    have fits : item.Fits (firstOf (Item.numberedAll names items) next) := by
      rcases firstOf_numberedAll names items next with same | ⟨colon, dollar⟩
      · exact same ▸ fit.1
      · rw [dollar]
        exact Fits.dollar (colon ▸ fit.1)
    cases item with
    | placeholder name => exact allFit_map_plain isPositionalChar_of_mem _
    | quoted opener body | unclosed opener body | cast | plain c => exact ⟨fits, trivial⟩

/-- What is not a placeholder, and so is the same in a statement. -/
def IsText (item : Item) : Prop :=
  ∀ name, item ≠ placeholder name

theorem IsText.token_eq {item : Item} (isText : item.IsText) :
    item.token = .text (String.ofList item.text) := by
  cases item with
  | placeholder name => exact absurd rfl (isText name)
  | quoted opener body | unclosed opener body | cast | plain c => rfl

theorem IsText.numbered_eq {item : Item} (isText : item.IsText) (names : List String) :
    item.numbered names = [item] := by
  cases item with
  | placeholder name => exact absurd rfl (isText name)
  | quoted opener body | unclosed opener body | cast | plain c => rfl

/-- Writing other text for the placeholders of a trimmed text, without blanks at its ends, leaves
it trimmed. -/
theorem Reads.trimmed_flatMap {items : List Item} {text : List Char} (reads : Reads items text)
    (trimmed : Text.Trimmed text) {write : Item → List Char}
    (unchanged : ∀ item, item.IsText → write item = item.text)
    (replaced : ∀ name, placeholder name ∈ items →
      write (placeholder name) ≠ [] ∧ Text.Trimmed (write (placeholder name))) :
    Text.Trimmed (items.flatMap write) := by
  obtain ⟨rfl, -⟩ := reads
  have nonempty : ∀ item ∈ items, write item ≠ [] := by
    intro item member
    by_cases isText : item.IsText
    · rw [unchanged item isText]
      exact item.text_ne_nil
    · obtain ⟨name, rfl⟩ := not_forall_not.mp isText
      exact (replaced name member).1
  constructor
  case head =>
    cases items with
    | nil => exact nofun
    | cons item items =>
      have member : item ∈ item :: items := List.mem_cons_self
      rw [List.flatMap_cons, List.head?_append_of_ne_nil _ (nonempty item member)]
      by_cases isText : item.IsText
      · have first := trimmed.head
        rwa [textOf_cons, List.head?_append_of_ne_nil _ item.text_ne_nil,
          ← unchanged item isText] at first
      · obtain ⟨name, rfl⟩ := not_forall_not.mp isText
        exact (replaced name member).2.head
  case last =>
    rcases List.eq_nil_or_concat items with rfl | ⟨front, item, rfl⟩
    · exact nofun
    · rw [List.concat_eq_append] at trimmed replaced nonempty ⊢
      have member : item ∈ front ++ [item] := List.mem_concat_self
      rw [List.flatMap_append, List.flatMap_singleton,
        List.getLast?_append_of_ne_nil _ (nonempty item member)]
      by_cases isText : item.IsText
      · rw [unchanged item isText]
        exact fun c last => trimmed.last c (mem_getLast?_textOf_concat.mpr last)
      · obtain ⟨name, rfl⟩ := not_forall_not.mp isText
        exact (replaced name member).2.last

theorem isText_of_mem_map_plain {characters : List Char} :
    ∀ item ∈ characters.map plain, item.IsText := by
  intro item member
  obtain ⟨c, -, rfl⟩ := List.mem_map.mp member
  exact fun _ => Item.noConfusion

theorem isText_of_mem_numberedAll {names : List String} {items : List Item} :
    ∀ item ∈ numberedAll names items, item.IsText := by
  intro item member
  obtain ⟨source, -, member⟩ := List.mem_flatMap.mp member
  cases source with
  | placeholder name => exact isText_of_mem_map_plain item member
  | quoted opener body | unclosed opener body | cast | plain c =>
    obtain rfl := List.mem_singleton.mp member
    exact fun _ => Item.noConfusion

theorem numberedAll_of_isText {items : List Item} (isText : ∀ item ∈ items, item.IsText)
    (names : List String) : numberedAll names items = items := by
  induction items with
  | nil => rfl
  | cons item items inductionHypothesis =>
    obtain ⟨first, rest⟩ := List.forall_mem_cons.mp isText
    rw [numberedAll_cons, first.numbered_eq, inductionHypothesis rest, List.singleton_append]

theorem names_of_isText {items : List Item} (isText : ∀ item ∈ items, item.IsText) :
    Token.names (items.map token) = [] := by
  induction items with
  | nil => rfl
  | cons item items inductionHypothesis =>
    obtain ⟨first, rest⟩ := List.forall_mem_cons.mp isText
    rw [List.map_cons, first.token_eq, Token.names_text_cons, inductionHypothesis rest]

/-- Items that are all text make up one token, or none if there are no items. -/
theorem joined_of_isText {items : List Item} (isText : ∀ item ∈ items, item.IsText) :
    Token.joined (items.map token) =
      if items = [] then [] else [.text (String.ofList (textOf items))] := by
  induction items with
  | nil => rfl
  | cons item items inductionHypothesis =>
    obtain ⟨first, rest⟩ := List.forall_mem_cons.mp isText
    rw [List.map_cons, Token.joined_cons, inductionHypothesis rest, first.token_eq,
      if_neg (List.cons_ne_nil _ _), textOf_cons, String.ofList_append]
    split
    · next empty => rw [empty, textOf_nil, String.ofList_nil, String.append_empty]; rfl
    · rfl

end Item

namespace Statement

/-- The statement for a template, by the items of the template. -/
theorem result_of_reads {template : String} {items : List Item}
    (reads : Item.Reads items (Text.trim template).toList) :
    (ofTemplate template).result =
      let names := (Token.names (items.map Item.token)).eraseDups
      if names.length ≤ maxParameters then
        .ok ⟨String.ofList (Item.textOf (Item.numberedAll names items)), parametersOf names,
          Item.findings 0 items⟩
      else .error (.tooManyParameters (maxParameters + 1)) := by
  rw [result_ofTemplate, Reading.ofTemplate_of_reads reads]
  simp only [Token.names_joined, Token.writtenAll_joined, ← Item.toList_writtenAll,
    String.ofList_toList]

theorem parts_of_reads {template : String} {items : List Item}
    (reads : Item.Reads items (Text.trim template).toList) {statement : Statement}
    (accepted : (ofTemplate template).result = .ok statement) :
    let names := (Token.names (items.map Item.token)).eraseDups
    names.length ≤ maxParameters ∧
      statement.sql.toList = Item.textOf (Item.numberedAll names items) ∧
      statement.parameters = parametersOf names ∧ statement.findings = Item.findings 0 items := by
  obtain ⟨room, sql, parameters, findings⟩ := parts_of_ok accepted
  rw [Reading.ofTemplate_of_reads reads] at room sql parameters findings
  rw [Token.names_joined] at room sql parameters
  rw [Token.writtenAll_joined] at sql
  exact ⟨room, by rw [sql, Item.toList_writtenAll], parameters, findings⟩

end Statement

end SqlTemplate
