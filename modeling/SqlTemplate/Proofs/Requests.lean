import Mathlib
import SqlTemplate.Proofs.Attaching

/-!
# Requests for ordinals

Ordinals may be asked for again after a request has been refused. A numbering that is changed in
place then holds the first names that were asked for, as many as there is room for, and goes on
answering for them. All other requests are refused from then on.
-/

namespace SqlTemplate

/-- The first distinct names, as many as can be numbered. -/
def firstNames (names : List String) : List String :=
  names.eraseDups.take maxParameters

theorem mem_of_mem_firstNames {names : List String} {name : String}
    (known : name ∈ firstNames names) : name ∈ names :=
  List.mem_eraseDups.mp (List.mem_of_mem_take known)

theorem length_firstNames_le (names : List String) : (firstNames names).length ≤ maxParameters :=
  List.length_take_le _ _

theorem firstNames_prefix_append (names more : List String) :
    firstNames names <+: firstNames (names ++ more) :=
  (eraseDups_prefix_append names more).take maxParameters

section Concat

variable {names : List String} {name : String}

theorem firstNames_concat_of_mem (known : name ∈ firstNames names) :
    firstNames (names ++ [name]) = firstNames names := by
  rw [firstNames, eraseDups_concat, if_pos (mem_of_mem_firstNames known), firstNames]

theorem firstNames_concat_of_full (full : maxParameters ≤ (firstNames names).length) :
    firstNames (names ++ [name]) = firstNames names := by
  have extended := firstNames_prefix_append names [name]
  have bounded := length_firstNames_le (names ++ [name])
  exact (extended.eq_of_length_le (Nat.le_trans bounded full)).symm

theorem firstNames_concat_of_new (new : name ∉ firstNames names)
    (room : (firstNames names).length < maxParameters) :
    firstNames (names ++ [name]) = firstNames names ++ [name] := by
  rw [firstNames, List.length_take] at room
  have few : names.eraseDups.length < maxParameters := by omega
  have all : firstNames names = names.eraseDups := List.take_of_length_le (Nat.le_of_lt few)
  rw [all, List.mem_eraseDups] at new
  rw [all, firstNames, eraseDups_concat, if_neg new]
  exact List.take_of_length_le (by simpa using few)

end Concat

namespace Numbering

/-- Work that changes a numbering in place and may end with a fault. -/
abbrev InPlace := ExceptT Fault (StateM Numbering)

/-- Puts a name after the others with the given ordinal, unless that is too great. -/
def insert (name : String) (count : Nat) : InPlace UInt16 :=
  if count ≤ maxParameters then do
    let ordinal := UInt16.ofNat count
    modify fun numbering : Numbering =>
      { parameters := numbering.parameters.push { name, ordinal }
        ordinals := numbering.ordinals.insert name ordinal }
    return ordinal
  else throw (.tooManyParameters count)

/-- Asks for the ordinal of a name. -/
def request (name : String) : InPlace UInt16 := do
  let numbering ← get
  match numbering.ordinals[name]? with
  | some ordinal => return ordinal
  | none => insert name (numbering.parameters.size + 1)

/-- The answer to a request, and the numbering that it leaves. -/
def answer (numbering : Numbering) (name : String) : Except Fault UInt16 × Numbering :=
  (request name).run.run numbering

/-- A request is answered as numbering the name gives it, and leaves what was there if refused. -/
theorem answer_eq (numbering : Numbering) (name : String) :
    numbering.answer name =
      match numbering.number name with
      | .ok (ordinal, next) => (.ok ordinal, next)
      | .error fault => (.error fault, numbering) := by
  have start : numbering.answer name =
      (match numbering.ordinals[name]? with
        | some ordinal => pure ordinal
        | none => insert name (numbering.parameters.size + 1) : InPlace UInt16).run.run
          numbering := rfl
  cases known : numbering.ordinals[name]? with
  | some ordinal =>
    rw [start, known, number_of_known known]
    rfl
  | none =>
    rw [start, known]
    by_cases room : numbering.parameters.size + 1 ≤ maxParameters
    · rw [insert, if_pos room, number_of_room known rfl room]
      rfl
    · rw [insert, if_neg room, number_of_full known (Nat.le_of_not_lt room)]
      rfl

/-- The answer to a request after which a numbering holds the given names. -/
def answerIn (names : List String) (name : String) : Except Fault UInt16 :=
  if name ∈ names then .ok (ordinalIn names name)
  else .error (.tooManyParameters (maxParameters + 1))

theorem Knows.answer {numbering : Numbering} {requests : List String}
    (knows : numbering.Knows (firstNames requests)) (name : String) :
    (numbering.answer name).1 = answerIn (firstNames (requests ++ [name])) name ∧
      (numbering.answer name).2.Knows (firstNames (requests ++ [name])) := by
  rw [answer_eq]
  by_cases known : name ∈ firstNames requests
  · rw [firstNames_concat_of_mem known, knows.number_of_mem known, answerIn, if_pos known]
    exact ⟨rfl, knows⟩
  by_cases room : (firstNames requests).length < maxParameters
  · obtain ⟨next, numbered, knowsNext⟩ := knows.number_of_new known room
    rw [firstNames_concat_of_new known room, numbered, answerIn, if_pos List.mem_concat_self]
    exact ⟨rfl, knowsNext⟩
  · -- The names stay the same, so that the invariant holds after a refusal as well.
    have full : maxParameters ≤ (firstNames requests).length := Nat.le_of_not_lt room
    rw [firstNames_concat_of_full full, knows.number_of_full known full, answerIn, if_neg known]
    exact ⟨rfl, knows⟩

/-- The numbering after some requests, those that were refused included. -/
def after (requests : List String) : Numbering :=
  requests.foldl (fun numbering name => (numbering.answer name).2) {}

theorem Knows.names {numbering : Numbering} {names : List String} (knows : numbering.Knows names) :
    numbering.parameters.toList.map Parameter.name = names := by
  rw [knows.parameters, map_name_parametersOf]

end Numbering

end SqlTemplate
