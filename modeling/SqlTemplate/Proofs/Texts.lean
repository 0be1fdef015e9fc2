import Mathlib.Algebra.GroupWithZero.Nat
import Mathlib.Data.List.Basic
import SqlTemplate.Text.Blank

/-!
# Sizes and ends of texts

The number of bytes of a text is the sum of those of its characters. A trimmed text neither begins
nor ends with a blank, and trimming does not change it.
-/

namespace SqlTemplate.Text

/-- The number of bytes of a text in UTF-8. -/
def bytes (text : List Char) : Nat :=
  (text.map Char.utf8Size).sum

@[simp] theorem bytes_nil : bytes [] = 0 := rfl

@[simp] theorem bytes_cons (c : Char) (text : List Char) :
    bytes (c :: text) = c.utf8Size + bytes text := rfl

@[simp] theorem bytes_append (first second : List Char) :
    bytes (first ++ second) = bytes first + bytes second := by
  simp only [bytes, List.map_append, List.sum_append_nat]

theorem utf8ByteSize_eq_bytes (text : String) : text.utf8ByteSize = bytes text.toList := by
  have ofList (characters : List Char) :
      (String.ofList characters).utf8ByteSize = bytes characters := by
    induction characters with
    | nil => rfl
    | cons c characters inductionHypothesis =>
      have split : String.ofList (c :: characters) =
          String.singleton c ++ String.ofList characters := by
        rw [String.singleton_eq_ofList, ← String.ofList_append, List.singleton_append]
      rw [split, String.utf8ByteSize_append, String.utf8ByteSize_singleton, inductionHypothesis,
        bytes_cons]
  rw [← ofList, String.ofList_toList]

theorem not_of_mem_head?_dropWhile {p : Char → Bool} {text : List Char} :
    ∀ c ∈ (text.dropWhile p).head?, ¬p c := by
  intro c member
  have stops := List.head?_dropWhile_not p text
  rw [Option.mem_def.mp member] at stops
  exact Bool.not_eq_true _ ▸ stops

theorem dropWhile_eq_self {p : Char → Bool} {text : List Char} (stops : ∀ c ∈ text.head?, ¬p c) :
    text.dropWhile p = text := by
  cases text with
  | nil => rfl
  | cons c text => exact List.dropWhile_cons_of_neg (stops c rfl)

theorem takeWhile_eq_nil {p : Char → Bool} {text : List Char}
    (stops : ∀ c ∈ text.head?, ¬p c) : text.takeWhile p = [] := by
  have split : text.takeWhile p ++ text.dropWhile p = text := List.takeWhile_append_dropWhile
  rw [dropWhile_eq_self stops] at split
  exact List.append_left_eq_self.mp split

/-- That a text neither begins nor ends with a blank. -/
structure Trimmed (text : List Char) : Prop where
  head : ∀ c ∈ text.head?, ¬isBlank c
  last : ∀ c ∈ text.getLast?, ¬isBlank c

theorem trimStart_append {text : List Char} (front : List Char)
    (head : ∀ c ∈ text.head?, ¬isBlank c) :
    trimStart (front ++ text) = trimStart front ++ text := by
  unfold trimStart
  rw [List.dropWhile_append]
  split
  · next empty => rw [List.isEmpty_iff.mp empty, dropWhile_eq_self head, List.nil_append]
  · rfl

theorem trimEnd_eq_reverse (text : List Char) : trimEnd text = (trimStart text.reverse).reverse :=
  rfl

theorem trimEnd_append {text : List Char} (back : List Char)
    (last : ∀ c ∈ text.getLast?, ¬isBlank c) :
    trimEnd (text ++ back) = text ++ trimEnd back := by
  rw [← List.head?_reverse] at last
  simp only [trimEnd_eq_reverse, List.reverse_append, trimStart_append _ last,
    List.reverse_reverse]

theorem trimEnd_eq_self {text : List Char} (last : ∀ c ∈ text.getLast?, ¬isBlank c) :
    trimEnd text = text := by
  rw [← List.head?_reverse] at last
  rw [trimEnd_eq_reverse, trimStart, dropWhile_eq_self last, List.reverse_reverse]

theorem trimEnd_concat {front : List Char} {c : Char} (blank : isBlank c) :
    trimEnd (front ++ [c]) = trimEnd front := by
  rw [trimEnd_eq_reverse, List.reverse_append, trimEnd_eq_reverse]
  exact congrArg _ (List.dropWhile_cons_of_pos blank)

/-- Trimming leaves everything between two characters that are not blank. -/
theorem toList_trim_append {front middle back : String} (trimmed : Trimmed middle.toList)
    (nonempty : middle.toList ≠ []) :
    (trim (front ++ middle ++ back)).toList =
      trimStart front.toList ++ middle.toList ++ trimEnd back.toList := by
  have last : ∀ c ∈ (trimStart front.toList ++ middle.toList).getLast?, ¬isBlank c := by
    rw [List.getLast?_append_of_ne_nil _ nonempty]
    exact trimmed.last
  have head : ∀ c ∈ (middle.toList ++ back.toList).head?, ¬isBlank c := by
    rw [List.head?_append_of_ne_nil _ nonempty]
    exact trimmed.head
  rw [toList_trim, String.toList_append, String.toList_append, List.append_assoc,
    trimStart_append _ head, ← List.append_assoc, trimEnd_append _ last]

theorem trimEnd_prefix (text : List Char) : trimEnd text <+: text := by
  rw [trimEnd_eq_reverse, ← List.reverse_suffix, List.reverse_reverse]
  exact List.dropWhile_suffix _

theorem mem_of_mem_trim {text : String} {c : Char} (member : c ∈ (trim text).toList) :
    c ∈ text.toList := by
  rw [toList_trim] at member
  have start := trimEnd_prefix (trimStart text.toList)
  exact (List.dropWhile_suffix isBlank).subset (start.subset member)

theorem mem_head?_of_trimEnd {text : List Char} {c : Char} (member : c ∈ (trimEnd text).head?) :
    c ∈ text.head? := by
  obtain ⟨rest, split⟩ := trimEnd_prefix text
  rw [← split, List.head?_append, Option.mem_def.mp member]
  rfl

theorem exists_trimStart (text : List Char) :
    ∃ blanks, text = blanks ++ trimStart text ∧ ∀ c ∈ blanks, isBlank c := by
  refine ⟨text.takeWhile isBlank, List.takeWhile_append_dropWhile.symm, ?_⟩
  exact List.all_eq_true.mp List.all_takeWhile

theorem exists_trimEnd (text : List Char) :
    ∃ blanks, text = trimEnd text ++ blanks ∧ ∀ c ∈ blanks, isBlank c := by
  obtain ⟨blanks, split, allBlank⟩ := exists_trimStart text.reverse
  refine ⟨blanks.reverse, ?_, fun c member => allBlank c (List.mem_reverse.mp member)⟩
  rw [trimEnd_eq_reverse, ← List.reverse_append, ← split, List.reverse_reverse]

theorem not_isBlank_of_mem_trimEnd {text : List Char} :
    ∀ c ∈ (trimEnd text).getLast?, ¬isBlank c := by
  rw [trimEnd_eq_reverse, List.getLast?_reverse]
  exact not_of_mem_head?_dropWhile

theorem trimmed_trimEnd_trimStart (text : List Char) : Trimmed (trimEnd (trimStart text)) where
  head c member := not_of_mem_head?_dropWhile c (mem_head?_of_trimEnd member)
  last := not_isBlank_of_mem_trimEnd

theorem trimmed_trim (text : String) : Trimmed (trim text).toList := by
  rw [toList_trim]
  exact trimmed_trimEnd_trimStart text.toList

theorem Trimmed.trim_eq {text : String} (trimmed : Trimmed text.toList) : trim text = text := by
  have start : trimStart text.toList = text.toList := dropWhile_eq_self trimmed.head
  have stop : trimEnd text.toList = text.toList := trimEnd_eq_self trimmed.last
  rw [trim, start, stop, String.ofList_toList]

end SqlTemplate.Text
