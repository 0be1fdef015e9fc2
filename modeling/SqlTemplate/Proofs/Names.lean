import Mathlib.Data.List.Infix
import Mathlib.Data.List.Nodup
import SqlTemplate.Numbering

/-!
# Names in the order of their first occurrence

A numbering that has met some names knows each of them once. The ordinals follow the order in
which the names first occurred, and neither a known name nor a refused one changes them.
-/

namespace SqlTemplate

/-- The ordinal that belongs to the place of a name among distinct names. -/
def ordinalIn (names : List String) (name : String) : UInt16 :=
  UInt16.ofNat (names.idxOf name + 1)

/-- The parameters for distinct names, without types. -/
def parametersOf (names : List String) : List Parameter :=
  names.mapIdx fun i name => { name, ordinal := UInt16.ofNat (i + 1) }

theorem ordinalIn_of_prefix {names more : List String} (extended : names <+: more) {name : String}
    (known : name ∈ names) : ordinalIn more name = ordinalIn names name := by
  unfold ordinalIn
  rw [extended.idxOf_eq_of_mem known]

theorem ordinalIn_concat {names : List String} {name : String} (new : name ∉ names) :
    ordinalIn (names ++ [name]) name = UInt16.ofNat (names.length + 1) := by
  unfold ordinalIn
  rw [List.idxOf_append_of_notMem new, List.idxOf_cons_self, Nat.add_zero]

theorem toNat_ordinalIn {names : List String} (bounded : names.length ≤ maxParameters)
    {name : String} (known : name ∈ names) :
    (ordinalIn names name).toNat = names.idxOf name + 1 := by
  have place : names.idxOf name < names.length := List.idxOf_lt_length_of_mem known
  exact toNat_ofNat_of_le (Nat.le_trans place bounded)

/-- One name more leaves the distinct names as they are or comes after them. -/
theorem eraseDups_concat (names : List String) (name : String) :
    (names ++ [name]).eraseDups =
      if name ∈ names then names.eraseDups else names.eraseDups ++ [name] := by
  rw [List.eraseDups_append]
  split
  · next known => simp [List.removeAll, known]
  · next new => simp [List.removeAll, new, List.eraseDups_cons]

theorem nodup_eraseDups (names : List String) : names.eraseDups.Nodup := by
  induction names using List.reverseRecOn with
  | nil => exact .nil
  | append_singleton names name inductionHypothesis =>
    rw [eraseDups_concat]
    split
    · exact inductionHypothesis
    · next new =>
      rw [← List.concat_eq_append]
      exact inductionHypothesis.concat fun member => new (List.mem_eraseDups.mp member)

theorem eraseDups_prefix_append (names more : List String) :
    names.eraseDups <+: (names ++ more).eraseDups := by
  rw [List.eraseDups_append]
  exact List.prefix_append _ _

namespace Numbering

/-- That a numbering holds the given distinct names in their order, and nothing else. -/
structure Knows (numbering : Numbering) (names : List String) : Prop where
  parameters : numbering.parameters.toList = parametersOf names
  ordinals : ∀ name, numbering.ordinals[name]? =
    if name ∈ names then some (ordinalIn names name) else none
  distinct : names.Nodup
  bounded : names.length ≤ maxParameters

theorem knows_nil : ({} : Numbering).Knows [] where
  parameters := rfl
  ordinals name := by simp
  distinct := .nil
  bounded := Nat.zero_le _

theorem Knows.size {numbering : Numbering} {names : List String} (knows : numbering.Knows names) :
    numbering.parameters.size = names.length := by
  rw [← Array.length_toList, knows.parameters, parametersOf, List.length_mapIdx]

theorem Knows.number_of_mem {numbering : Numbering} {names : List String} {name : String}
    (knows : numbering.Knows names) (known : name ∈ names) :
    numbering.number name = .ok (ordinalIn names name, numbering) :=
  number_of_known (by rw [knows.ordinals, if_pos known])

theorem number_of_room {numbering : Numbering} {name : String} {count : Nat}
    (unknown : numbering.ordinals[name]? = none) (size : numbering.parameters.size = count)
    (room : count < maxParameters) :
    numbering.number name =
      .ok (UInt16.ofNat (count + 1),
        { parameters := numbering.parameters.push { name, ordinal := UInt16.ofNat (count + 1) }
          ordinals := numbering.ordinals.insert name (UInt16.ofNat (count + 1)) }) := by
  subst size
  have fits : numbering.parameters.size + 1 ≤ maxParameters := room
  simp only [number, unknown, fits, if_true]

theorem Knows.number_of_new {numbering : Numbering} {names : List String} {name : String}
    (knows : numbering.Knows names) (new : name ∉ names) (room : names.length < maxParameters) :
    ∃ next, numbering.number name = .ok (ordinalIn (names ++ [name]) name, next) ∧
      next.Knows (names ++ [name]) := by
  have unknown : numbering.ordinals[name]? = none := (knows.ordinals name).trans (if_neg new)
  refine ⟨_, (number_of_room unknown knows.size room).trans (by rw [ordinalIn_concat new]), ?_⟩
  constructor
  case parameters =>
    simp [knows.parameters, parametersOf, List.mapIdx_append]
  case ordinals =>
    intro other
    rw [Std.HashMap.getElem?_insert, knows.ordinals]
    by_cases same : name = other
    · subst same
      simp [ordinalIn_concat new]
    · by_cases known : other ∈ names
      · simp [same, known, ordinalIn_of_prefix (List.prefix_append names [name]) known]
      · simp [same, known, Ne.symm same]
  case distinct =>
    rw [← List.concat_eq_append]
    exact knows.distinct.concat new
  case bounded =>
    rw [List.length_append, List.length_singleton]
    exact room

theorem Knows.number_of_full {numbering : Numbering} {names : List String} {name : String}
    (knows : numbering.Knows names) (new : name ∉ names) (full : maxParameters ≤ names.length) :
    numbering.number name = .error (.tooManyParameters (maxParameters + 1)) := by
  have size : numbering.parameters.size = maxParameters :=
    knows.size.trans (Nat.le_antisymm knows.bounded full)
  have unknown : numbering.ordinals[name]? = none := (knows.ordinals name).trans (if_neg new)
  rw [Numbering.number_of_full unknown (Nat.le_of_eq size.symm), size]

/-- A name is numbered as long as there is room for the distinct names met by then. -/
theorem Knows.number_of_length_le {numbering : Numbering} {earlier : List String} {name : String}
    (knows : numbering.Knows earlier.eraseDups)
    (room : (earlier ++ [name]).eraseDups.length ≤ maxParameters) :
    ∃ next, numbering.number name = .ok (ordinalIn (earlier ++ [name]).eraseDups name, next) ∧
      next.Knows (earlier ++ [name]).eraseDups := by
  rw [eraseDups_concat] at room ⊢
  split at room
  · next known =>
    rw [if_pos known]
    exact ⟨numbering, knows.number_of_mem (List.mem_eraseDups.mpr known), knows⟩
  · next new =>
    rw [if_neg new]
    rw [List.length_append, List.length_singleton] at room
    exact knows.number_of_new (fun member => new (List.mem_eraseDups.mp member)) room

theorem Knows.number_of_lt_length {numbering : Numbering} {earlier : List String} {name : String}
    (knows : numbering.Knows earlier.eraseDups)
    (excess : maxParameters < (earlier ++ [name]).eraseDups.length) :
    numbering.number name = .error (.tooManyParameters (maxParameters + 1)) := by
  rw [eraseDups_concat] at excess
  split at excess
  · exact absurd knows.bounded (Nat.not_le_of_lt excess)
  · next new =>
    rw [List.length_append, List.length_singleton] at excess
    exact knows.number_of_full (fun member => new (List.mem_eraseDups.mp member))
      (Nat.le_of_lt_succ excess)

end Numbering

end SqlTemplate
