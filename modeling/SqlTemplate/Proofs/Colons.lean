import Mathlib.Algebra.Ring.Parity
import Mathlib.Data.List.DropRight
import SqlTemplate.Proofs.Markers

/-!
# Colons

Colons that follow one another are read in pairs, each of which is a cast, and only one that is
left over is a marker. The pairs begin where the run of colons begins, since no item that can
precede a colon ends in one, a cast apart. Outside quoted text a marker can therefore be told by
its colon being the last one of a run, and by the length of the run being odd.
-/

namespace SqlTemplate

/-- The colons in which a text ends. -/
def colonsAtEnd (text : List Char) : List Char :=
  text.rtakeWhile (· = ':')

def Item.IsQuoted : Item → Prop
  | quoted _ _ | unclosed _ _ => True
  | cast | placeholder _ | plain _ => False

/-- Whether a place lies in quoted text, be it closed or still open at the end. -/
def InQuotes (text : List Char) (place : Nat) : Prop :=
  ∃ front item back, Item.Reads (front ++ item :: back) text ∧ item.IsQuoted ∧
    Text.bytes (Item.textOf front) ≤ place ∧
    place < Text.bytes (Item.textOf front) + Text.bytes item.text

/-- Whether a colon between two parts of a text is the last one of an odd number of colons that
stand outside quoted text. -/
structure IsOddColon (before after : List Char) : Prop where
  last : after.head? ≠ some ':'
  odd : Odd (colonsAtEnd (before ++ [':'])).length
  outside : ¬InQuotes (before ++ ':' :: after) (Text.bytes before)

@[simp] theorem colonsAtEnd_nil : colonsAtEnd [] = [] := rfl

@[simp] theorem colonsAtEnd_concat_colon (text : List Char) :
    colonsAtEnd (text ++ [':']) = colonsAtEnd text ++ [':'] :=
  List.rtakeWhile_concat_pos _ _ _ rfl

theorem colonsAtEnd_eq_nil {text : List Char} (last : ∀ c ∈ text.getLast?, c ≠ ':') :
    colonsAtEnd text = [] := by
  rcases List.eq_nil_or_concat text with rfl | ⟨front, c, rfl⟩
  · rfl
  · rw [List.concat_eq_append] at last ⊢
    have noColon : c ≠ ':' := last c List.getLast?_concat
    exact List.rtakeWhile_concat_neg _ _ _ (by simpa using noColon)

namespace Item

/-- An item before a colon ends in another character, or is a cast. -/
theorem Fits.eq_cast_of_last {item : Item} (fits : item.Fits (some ':'))
    (last : ':' ∈ item.text.getLast?) : item = cast := by
  cases item with
  | quoted opener body =>
    rw [text, ← List.append_assoc, List.getLast?_concat] at last
    cases opener <;> cases last
  | unclosed opener body => cases fits.2
  | cast => rfl
  | placeholder name =>
    rcases List.eq_nil_or_concat name with rfl | ⟨front, c, rfl⟩
    · exact absurd rfl (fits.2.2 rfl)
    · rw [List.concat_eq_append] at fits last
      rw [text, ← List.cons_append, List.getLast?_concat] at last
      obtain rfl := Option.some.inj last
      exact absurd (fits.1 ':' List.mem_concat_self) (by decide)
  | plain c => exact absurd (Option.some.inj last) fits.2.2.1

/-- All colons before a colon have been read in pairs. -/
theorem AllFit.even_colonsAtEnd {items : List Item} (fit : AllFit items (some ':')) :
    Even (colonsAtEnd (textOf items)).length := by
  induction items using List.reverseRecOn with
  | nil => exact Even.zero
  | append_singleton front item inductionHypothesis =>
    obtain ⟨frontFit, fits, -⟩ := allFit_append.mp fit
    by_cases isCast : item = cast
    · subst isCast
      have split : textOf (front ++ [cast]) = textOf front ++ [':'] ++ [':'] := by simp [text]
      have even := inductionHypothesis frontFit
      rw [split, colonsAtEnd_concat_colon, colonsAtEnd_concat_colon]
      simpa [Nat.even_add_one] using even
    · rw [colonsAtEnd_eq_nil]
      · exact Even.zero
      · rintro c member rfl
        exact isCast (fits.eq_cast_of_last (mem_getLast?_textOf_concat.mp member))

/-- A character of a text belongs to one of the items of the text. -/
theorem exists_split_of_textOf_eq {items : List Item} {before after : List Char} {c : Char}
    (split : textOf items = before ++ c :: after) :
    ∃ front item back inner outer, items = front ++ item :: back ∧
      item.text = inner ++ c :: outer ∧ before = textOf front ++ inner ∧
      after = outer ++ textOf back := by
  induction items generalizing before with
  | nil => simp at split
  | cons item items inductionHypothesis =>
    rw [textOf_cons] at split
    rcases List.append_eq_append_iff.mp split with ⟨more, rfl, rest⟩ | ⟨more, text, rest⟩
    · obtain ⟨front, found, back, inner, outer, rfl, text, rfl, rfl⟩ := inductionHypothesis rest
      exact ⟨item :: front, found, back, inner, outer, rfl, text, by simp, rfl⟩
    · cases more with
      | nil =>
        obtain ⟨front, found, back, inner, outer, rfl, foundText, empty, rfl⟩ :=
          @inductionHypothesis [] rest.symm
        obtain ⟨frontEmpty, rfl⟩ := List.append_eq_nil_iff.mp empty.symm
        rw [List.append_nil] at text
        exact ⟨item :: front, found, back, [], outer, rfl, foundText,
          by simp [text, frontEmpty], rfl⟩
      | cons d more =>
        obtain ⟨rfl, rfl⟩ := List.cons.inj rest
        exact ⟨[], item, items, before, more, rfl, text, rfl, rfl⟩

/-- No place belongs to two items of one text. -/
theorem eq_of_overlap {front back other rest : List Item} {item next : Item} {place : Nat}
    (same : front ++ item :: back = other ++ next :: rest)
    (low : Text.bytes (textOf front) ≤ place)
    (high : place < Text.bytes (textOf front) + Text.bytes item.text)
    (lowToo : Text.bytes (textOf other) ≤ place)
    (highToo : place < Text.bytes (textOf other) + Text.bytes next.text) : item = next := by
  rcases List.append_eq_append_iff.mp same with ⟨more, rfl, split⟩ | ⟨more, rfl, split⟩
  · cases more with
    | nil => exact (List.cons.inj split).1
    | cons first more =>
      obtain ⟨rfl, -⟩ := List.cons.inj split
      simp only [textOf_append, textOf_cons, Text.bytes_append] at lowToo
      omega
  · cases more with
    | nil => exact (List.cons.inj split).1.symm
    | cons first more =>
      obtain ⟨rfl, -⟩ := List.cons.inj split
      simp only [textOf_append, textOf_cons, Text.bytes_append] at low
      omega

section Reads

variable {items front back : List Item} {before after name : List Char} {text : List Char}

theorem Reads.not_inQuotes (reads : Reads (front ++ placeholder name :: back) text) :
    ¬InQuotes text (Text.bytes (textOf front)) := by
  rintro ⟨start, item, rest, readsToo, isQuoted, low, high⟩
  have within : Text.bytes (textOf front) <
      Text.bytes (textOf front) + Text.bytes (placeholder name).text :=
    Nat.lt_add_of_pos_right (bytes_text_pos _)
  obtain rfl := eq_of_overlap (reads.unique readsToo) (Nat.le_refl _) within low high
  exact isQuoted

/-- The colon of a placeholder is left over by the colons before it. -/
theorem Reads.isOddColon (reads : Reads (front ++ placeholder name :: back) text) :
    IsOddColon (textOf front) (name ++ textOf back) ∧
      (name ++ textOf back).takeWhile isNameChar = name := by
  obtain ⟨frontFit, ⟨valid, ends, single⟩, -⟩ := allFit_append.mp reads.fit
  rw [← head?_textOf] at ends single
  refine ⟨⟨?_, ?_, ?_⟩, ?_⟩
  · cases name with
    | nil => exact single rfl
    | cons c name =>
      rintro colon
      obtain rfl : c = ':' := Option.some.inj colon
      exact absurd (valid ':' List.mem_cons_self) (by decide)
  · have even := frontFit.even_colonsAtEnd
    rw [colonsAtEnd_concat_colon, List.length_append]
    exact even.add_one
  · have split : textOf front ++ ':' :: (name ++ textOf back) = text := by
      rw [← reads.text]
      simp [Item.text]
    exact split ▸ reads.not_inQuotes
  · rw [List.takeWhile_append_of_pos valid, Text.takeWhile_eq_nil ends, List.append_nil]

/-- A colon that is left over by the colons before it is that of a placeholder. -/
theorem Reads.exists_placeholder (reads : Reads items (before ++ ':' :: after))
    (isOdd : IsOddColon before after) :
    ∃ front name back, items = front ++ placeholder name :: back ∧ before = textOf front ∧
      after = name ++ textOf back := by
  obtain ⟨front, item, back, inner, outer, rfl, text, rfl, rfl⟩ :=
    exists_split_of_textOf_eq reads.text
  obtain ⟨frontFit, fits, -⟩ := allFit_append.mp reads.fit
  have notQuoted : ¬item.IsQuoted := by
    intro isQuoted
    have within : Text.bytes inner < Text.bytes item.text := by
      have colon : 0 < Text.bytes (':' :: outer) :=
        Nat.lt_of_lt_of_le (by decide) (Nat.le_add_right _ _)
      rw [text, Text.bytes_append]
      omega
    refine isOdd.outside ⟨front, item, back, reads, isQuoted, ?_, ?_⟩
    all_goals rw [Text.bytes_append]
    · exact Nat.le_add_right _ _
    · exact Nat.add_lt_add_left within _
  cases item with
  | quoted opener body | unclosed opener body => exact absurd trivial notQuoted
  | cast =>
    rcases inner with _ | ⟨c, _ | ⟨d, inner⟩⟩
    · obtain rfl : [':'] = outer := (List.cons.inj text).2
      exact absurd rfl isOdd.last
    · obtain rfl : ':' = c := (List.cons.inj text).1
      have odd := isOdd.odd
      have even := frontFit.even_colonsAtEnd
      rw [colonsAtEnd_concat_colon, colonsAtEnd_concat_colon, List.append_assoc,
        List.length_append] at odd
      exact absurd (even.add even_two) (Nat.not_even_iff_odd.mpr odd)
    · simp [Item.text] at text
  | placeholder name =>
    cases inner with
    | nil =>
      obtain rfl : name = outer := (List.cons.inj text).2
      exact ⟨front, name, back, rfl, List.append_nil _, rfl⟩
    | cons c inner =>
      have member : ':' ∈ name := by
        rw [(List.cons.inj text).2]
        exact List.mem_append_right _ List.mem_cons_self
      exact absurd (fits.1 ':' member) (by decide)
  | plain c =>
    cases inner with
    | nil =>
      obtain rfl : c = ':' := (List.cons.inj text).1
      exact absurd rfl fits.2.2.1
    | cons d inner => simp [Item.text] at text

end Reads

end Item

namespace Reading

/-- A colon is that of a placeholder exactly if it is the last one of an odd number of colons that
stand outside quoted text. The name of the placeholder reaches as far as there are characters of
names, and the placeholders follow one another as their colons do. -/
theorem markers_are_odd_colons (template : String) :
    let markers := Token.markers 0 (ofTemplate template).tokens
    (∀ place name, (place, name) ∈ markers ↔
      ∃ before after, template.toList = before ++ ':' :: after ∧ Text.bytes before = place ∧
        IsOddColon before after ∧ name = String.ofList (after.takeWhile isNameChar)) ∧
    (markers.map Prod.fst).Pairwise (· < ·) ∧
    markers.map Prod.snd = Token.names (ofTemplate template).tokens := by
  intro markers
  refine ⟨?_, Token.pairwise_markers _ _, Token.map_snd_markers _ _⟩
  obtain ⟨items, reads⟩ := Item.exists_reads template.toList
  intro place name
  have counted : markers = Token.markers 0 (items.map Item.token) := by
    rw [← Token.markers_joined]
    exact congrArg (fun reading => Token.markers 0 reading.tokens) (ofTemplate_of_reads reads)
  rw [counted, Item.mem_markers]
  constructor
  · rintro ⟨front, chars, back, rfl, rfl, rfl⟩
    obtain ⟨isOdd, whole⟩ := reads.isOddColon
    refine ⟨Item.textOf front, chars ++ Item.textOf back, ?_, by simp, isOdd, by rw [whole]⟩
    rw [← reads.text]
    simp [Item.text]
  · rintro ⟨before, after, split, rfl, isOdd, rfl⟩
    obtain ⟨front, chars, back, rfl, rfl, rfl⟩ := (split ▸ reads).exists_placeholder isOdd
    refine ⟨front, chars, back, rfl, ?_, by simp⟩
    rw [reads.isOddColon.2]

/-- Three colons and one are markers, pairs are casts, and quoted colons are neither. -/
example : Token.markers 0 (ofTemplate "é:::a::b ':::c':::d :").tokens =
    [(4, "a"), (18, "d"), (21, "")] := by decide +kernel

end Reading

end SqlTemplate
