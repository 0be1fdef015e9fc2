import SqlTemplate.Proofs.Attaching
import SqlTemplate.Proofs.Rewriting

/-!
# Restoring templates

In the statement for a template without dollar signs, each dollar sign and the digits after it
stand for a placeholder. The parameters say which one, so that the template can be restored.
-/

namespace SqlTemplate

/-- What stands for a dollar sign and the digits after it: the placeholder for the parameter whose
ordinal the digits make, if there is one. -/
def placeholderFor (parameters : List Parameter) (digits : List Char) : List Char :=
  match parameters.find? fun p => p.ordinal.toNat == Nat.ofDigitChars 10 digits 0 with
  | some p => ':' :: p.name.toList
  | none => '$' :: digits

/-- A text with placeholders for all dollar signs and the digits after them. -/
def restore (parameters : List Parameter) : List Char → List Char
  | [] => []
  | c :: text =>
    if c = '$' then
      placeholderFor parameters (text.takeWhile Char.isDigit) ++
        restore parameters (text.dropWhile Char.isDigit)
    else c :: restore parameters text
termination_by text => text.length
decreasing_by
  · exact Nat.lt_succ_of_le (List.dropWhile_suffix _).length_le
  · exact Nat.lt_succ_self _

/-- The template that a statement is for, as far as the statement tells. -/
def Statement.restored (statement : Statement) : String :=
  String.ofList (restore statement.parameters statement.sql.toList)

section Restore

variable {parameters : List Parameter}

@[simp] theorem restore_nil : restore parameters [] = [] := by
  rw [restore]

theorem restore_append {front : List Char} (noDollar : '$' ∉ front) (rest : List Char) :
    restore parameters (front ++ rest) = front ++ restore parameters rest := by
  induction front with
  | nil => rfl
  | cons c front inductionHypothesis =>
    obtain ⟨first, others⟩ := not_or.mp (List.mem_cons.not.mp noDollar)
    rw [List.cons_append, restore, if_neg (Ne.symm first), inductionHypothesis others,
      List.cons_append]

/-- The digits of an ordinal end where a character follows that is no digit. -/
theorem restore_positional_append (ordinal : UInt16) {rest : List Char}
    (ends : ∀ c ∈ rest.head?, ¬c.isDigit) :
    restore parameters ((positional ordinal).toList ++ rest) =
      placeholderFor parameters (Nat.toDigits 10 ordinal.toNat) ++ restore parameters rest := by
  have digits : ∀ c ∈ Nat.toDigits 10 ordinal.toNat, c.isDigit := fun c member =>
    Nat.isDigit_of_mem_toDigits (by decide) (by decide) member
  rw [toList_positional, List.cons_append, restore, if_pos rfl,
    List.takeWhile_append_of_pos digits, List.dropWhile_append_of_pos digits,
    Text.takeWhile_eq_nil ends, Text.dropWhile_eq_self ends, List.append_nil]

theorem Numbered.find?_toNat (numbered : Numbered parameters) {i : Nat}
    (inList : i < parameters.length) :
    parameters.find? (fun p => p.ordinal.toNat == i + 1) = some parameters[i] := by
  rw [List.find?_eq_some_iff_getElem]
  refine ⟨beq_iff_eq.mpr (numbered.ordinal i inList), i, inList, rfl, ?_⟩
  intro j earlier
  have different : parameters[j].ordinal.toNat ≠ i + 1 := by
    rw [numbered.ordinal j (Nat.lt_trans earlier inList)]
    omega
  simpa using different

end Restore

/-- The ordinal of a name is restored as the placeholder for the name. -/
theorem placeholderFor_ordinalIn {names : List String} (distinct : names.Nodup)
    (bounded : names.length ≤ maxParameters) {name : String} (known : name ∈ names) :
    placeholderFor (parametersOf names) (Nat.toDigits 10 (ordinalIn names name).toNat) =
      ':' :: name.toList := by
  have place := List.idxOf_lt_length_of_mem known
  have inList : names.idxOf name < (parametersOf names).length := by
    rwa [parametersOf, List.length_mapIdx]
  have found := (numbered_parametersOf distinct bounded).find?_toNat inList
  rw [placeholderFor, Nat.ofDigitChars_toDigits (by decide) (by decide),
    toNat_ordinalIn bounded known, found]
  simp [parametersOf]

namespace Item

/-- What follows a number in a statement is no digit, as the name of the placeholder had ended. -/
theorem not_isDigit_of_fits {name : List Char} {names : List String} {items : List Item}
    (fits : (placeholder name).Fits (firstOf items none)) :
    ∀ c ∈ (textOf (numberedAll names items)).head?, ¬c.isDigit := by
  intro c member digit
  rw [head?_textOf] at member
  rcases firstOf_numberedAll names items none with same | ⟨-, dollar⟩
  · have inName : isNameChar c := by simp [isNameChar, Char.isAlphanum, digit]
    exact fits.2.1 c (same ▸ member) inName
  · rw [dollar] at member
    obtain rfl := Option.some.inj member
    exact absurd digit (by decide)

theorem restore_textOf_numberedAll {names : List String} {items : List Item}
    (distinct : names.Nodup) (bounded : names.length ≤ maxParameters)
    (known : ∀ name ∈ Token.names (items.map token), name ∈ names)
    (noDollar : '$' ∉ textOf items) (fit : AllFit items none) :
    restore (parametersOf names) (textOf (numberedAll names items)) = textOf items := by
  induction items with
  | nil => exact restore_nil
  | cons item items inductionHypothesis =>
    rw [textOf_cons, List.mem_append, not_or] at noDollar
    rw [numberedAll_cons, textOf_append, textOf_cons]
    by_cases isText : item.IsText
    · rw [List.map_cons, isText.token_eq, Token.names_text_cons] at known
      rw [isText.numbered_eq, textOf_cons, textOf_nil, List.append_nil,
        restore_append noDollar.1, inductionHypothesis known noDollar.2 fit.2]
    · obtain ⟨name, rfl⟩ := not_forall_not.mp isText
      obtain ⟨first, others⟩ := List.forall_mem_cons.mp known
      rw [numbered, textOf_map_plain, restore_positional_append _ (not_isDigit_of_fits fit.1),
        placeholderFor_ordinalIn distinct bounded first,
        inductionHypothesis others noDollar.2 fit.2, String.toList_ofList]
      rfl

end Item

namespace Statement

theorem restored_eq_trim {template : String} {statement : Statement}
    (noDollar : '$' ∉ template.toList)
    (accepted : (ofTemplate template).result = .ok statement) :
    statement.restored = Text.trim template := by
  obtain ⟨items, reads⟩ := Item.exists_reads (Text.trim template).toList
  obtain ⟨room, sql, parameters, -⟩ := parts_of_reads reads accepted
  have noDollarLeft : '$' ∉ Item.textOf items := by
    rw [reads.text]
    exact fun member => noDollar (Text.mem_of_mem_trim member)
  rw [restored, sql, parameters, Item.restore_textOf_numberedAll (nodup_eraseDups _) room
    (fun _ => List.mem_eraseDups.mpr) noDollarLeft reads.fit, reads.text, String.ofList_toList]

/-- A template without dollar signs can be restored from its statement. Two such templates that
have the same statement and the same parameters are therefore the same, apart from the blanks
around them. -/
theorem rewriting_loses_nothing {template : String} {statement : Statement}
    (noDollar : '$' ∉ template.toList)
    (accepted : (ofTemplate template).result = .ok statement) :
    statement.restored = Text.trim template ∧
      ∀ (other : String) (otherStatement : Statement), '$' ∉ other.toList →
        (ofTemplate other).result = .ok otherStatement → otherStatement.sql = statement.sql →
        otherStatement.parameters = statement.parameters →
          Text.trim other = Text.trim template := by
  have restored := restored_eq_trim noDollar accepted
  refine ⟨restored, ?_⟩
  intro other otherStatement otherNoDollar otherAccepted sql parameters
  have otherRestored := restored_eq_trim otherNoDollar otherAccepted
  rw [← otherRestored, ← restored, Statement.restored, Statement.restored, sql, parameters]

/-- Two numbers that follow one another, a name that is a number, and digits that are text. -/
theorem rewriting_loses_nothing_between_numbers :
    let template := " :a1:b or :1::int = :b0"
    let other := ":a1:b or :1::int = :b0\n"
    let parameters : List Parameter :=
      [⟨"a1", 1, none⟩, ⟨"b", 2, none⟩, ⟨"1", 3, none⟩, ⟨"b0", 4, none⟩]
    '$' ∉ template.toList ∧ '$' ∉ other.toList ∧
      ∃ statement, (ofTemplate template).result = .ok statement ∧
        (ofTemplate other).result = .ok statement ∧
        statement.sql = "$1$2 or $3::int = $4" ∧ statement.parameters = parameters ∧
        statement.restored = Text.trim template ∧ Text.trim other = Text.trim template := by
  intro template other parameters
  have noDollar : '$' ∉ template.toList := by decide
  have otherNoDollar : '$' ∉ other.toList := by decide
  have accepted : (ofTemplate template).result =
      .ok ⟨"$1$2 or $3::int = $4", parameters, []⟩ := by
    rw [result_ofTemplate]
    decide +kernel
  have otherAccepted : (ofTemplate other).result =
      .ok ⟨"$1$2 or $3::int = $4", parameters, []⟩ := by
    rw [result_ofTemplate]
    decide +kernel
  obtain ⟨restored, same⟩ := rewriting_loses_nothing noDollar accepted
  exact ⟨noDollar, otherNoDollar, _, accepted, otherAccepted, rfl, rfl, restored,
    same other _ otherNoDollar otherAccepted rfl rfl⟩

end Statement

end SqlTemplate
