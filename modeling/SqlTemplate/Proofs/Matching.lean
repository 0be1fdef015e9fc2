import Mathlib
import SqlTemplate.Query

/-!
# Matching types to parameters

The parameters of a query may have been edited, so that ordinals are missing, repeated or out of
order. Types are attached if there is one for each parameter and the ordinals count the
parameters, in whatever order they stand. Each parameter then gets the type that its ordinal
counts. Otherwise the query stays as it is, even if it is changed in place.
-/

namespace SqlTemplate

/-- Whether some parameter has the ordinal `n`. -/
def Carries (parameters : List Parameter) (n : Nat) : Prop :=
  ∃ p ∈ parameters, p.ordinal.toNat = n

/-- Whether the ordinals are 1, 2 and so on, one for each parameter, in some order. -/
def CountedByOrdinals (parameters : List Parameter) : Prop :=
  (parameters.map fun p => p.ordinal.toNat).Perm (List.range' 1 parameters.length)

/-- The parameters with the types that their ordinals count. -/
def typedByOrdinals (parameters : List Parameter) (types : List DataType) : List Parameter :=
  parameters.map fun p => { p with type := types[p.ordinal.toNat - 1]? }

section Counted

variable {parameters : List Parameter}

/-- As many ordinals as parameters, each of them carried, leave none to be carried twice. -/
theorem countedByOrdinals_of_carries
    (complete : ∀ n, 1 ≤ n → n ≤ parameters.length → Carries parameters n) :
    CountedByOrdinals parameters := by
  have covered : List.range' 1 parameters.length ⊆ parameters.map fun p => p.ordinal.toNat := by
    intro n member
    rw [List.mem_range'_1] at member
    exact List.mem_map.mpr (complete n member.1 (by omega))
  have distinct : (List.range' 1 parameters.length).Nodup := List.nodup_range'
  exact ((distinct.subperm covered).perm_of_length_le (by simp)).symm

namespace CountedByOrdinals

theorem distinct (counted : CountedByOrdinals parameters) :
    (parameters.map fun p => p.ordinal.toNat).Nodup :=
  counted.nodup_iff.mpr List.nodup_range'

theorem bounds (counted : CountedByOrdinals parameters) {p : Parameter}
    (member : p ∈ parameters) : 1 ≤ p.ordinal.toNat ∧ p.ordinal.toNat ≤ parameters.length := by
  have counts := counted.mem_iff.mp (List.mem_map_of_mem member)
  rw [List.mem_range'_1] at counts
  omega

theorem carries (counted : CountedByOrdinals parameters) {n : Nat} (positive : 1 ≤ n)
    (bounded : n ≤ parameters.length) : Carries parameters n :=
  List.mem_map.mp (counted.mem_iff.mpr (List.mem_range'_1.mpr ⟨positive, by omega⟩))

/-- Ordinals that count the parameters are too small to count more than can be bound. -/
theorem length_le (counted : CountedByOrdinals parameters) :
    parameters.length ≤ maxParameters := by
  cases parameters with
  | nil => exact Nat.zero_le _
  | cons p rest =>
    obtain ⟨last, -, counts⟩ := counted.carries (Nat.succ_pos rest.length) (Nat.le_refl _)
    have small : last.ordinal.toNat < 65536 := last.ordinal.toNat_lt
    rw [List.length_cons, maxParameters]
    omega

theorem findIdx_eq (counted : CountedByOrdinals parameters) {place : Nat}
    (inList : place < parameters.length) :
    parameters.findIdx (·.ordinal == parameters[place].ordinal) = place := by
  rw [List.findIdx_eq inList]
  refine ⟨beq_self_eq_true _, ?_⟩
  intro earlier before
  have different := List.pairwise_iff_getElem.mp (List.pairwise_map.mp counted.distinct)
    earlier place (Nat.lt_trans before inList) inList before
  rw [beq_eq_false_iff_ne]
  exact fun same => different (congrArg UInt16.toNat same)

end CountedByOrdinals

end Counted

namespace Query

variable {parameters : List Parameter}

/-- Where the first parameter with ordinal `n` stands. -/
def placeOf (parameters : List Parameter) (n : Nat) : Nat :=
  parameters.findIdx (·.ordinal == UInt16.ofNat n)

/-- Where the parameters stand, in the order of their ordinals. -/
def placesByOrdinal (parameters : List Parameter) : List Nat :=
  (List.range parameters.length).map fun i => placeOf parameters (i + 1)

@[simp] theorem length_placesByOrdinal (parameters : List Parameter) :
    (placesByOrdinal parameters).length = parameters.length := by
  simp [placesByOrdinal]

theorem ordinal_eq_iff {p : Parameter} {n : Nat} (small : n ≤ maxParameters) :
    p.ordinal = UInt16.ofNat n ↔ p.ordinal.toNat = n := by
  rw [← UInt16.toNat_inj, toNat_ofNat_of_le small]

theorem slot_of_carries {n : Nat} (small : n ≤ maxParameters) (carried : Carries parameters n) :
    slot (places parameters) parameters.length n = .ok (placeOf parameters n) := by
  obtain ⟨p, member, counts⟩ := carried
  have found : parameters.findIdx? (·.ordinal == UInt16.ofNat n) = some (placeOf parameters n) :=
    List.findIdx?_eq_some_of_exists ⟨p, member, beq_iff_eq.mpr ((ordinal_eq_iff small).mpr counts)⟩
  rw [slot, if_neg (Nat.not_lt_of_le small), getElem?_places, found]

theorem slot_of_gap {n : Nat} (small : n ≤ maxParameters) (gap : ¬Carries parameters n) :
    slot (places parameters) parameters.length n =
      .error (.unmatchedParameterType (UInt16.ofNat n)) := by
  have missing : parameters.findIdx? (·.ordinal == UInt16.ofNat n) = none := by
    rw [List.findIdx?_eq_none_iff]
    intro p member
    rw [beq_eq_false_iff_ne]
    exact fun same => gap ⟨p, member, (ordinal_eq_iff small).mp same⟩
  rw [slot, if_neg (Nat.not_lt_of_le small), getElem?_places, missing]

theorem slot_of_excess {n : Nat} (large : maxParameters < n) :
    slot (places parameters) parameters.length n =
      .error (.tooManyParameters parameters.length) :=
  if_pos large

theorem mapM_eq_ok {ε α β : Type} {f : α → Except ε β} {g : α → β} {elements : List α}
    (succeeds : ∀ element ∈ elements, f element = .ok (g element)) :
    elements.mapM f = .ok (elements.map g) := by
  induction elements with
  | nil => rfl
  | cons element elements inductionHypothesis =>
    obtain ⟨first, rest⟩ := List.forall_mem_cons.mp succeeds
    rw [List.mapM_cons, first, inductionHypothesis rest]
    rfl

/-- A traversal ends with the first error. -/
theorem mapM_eq_error {ε α β : Type} {f : α → Except ε β} {g : α → β} {front back : List α}
    {element : α} {fault : ε} (succeeds : ∀ earlier ∈ front, f earlier = .ok (g earlier))
    (fails : f element = .error fault) : (front ++ element :: back).mapM f = .error fault := by
  rw [List.mapM_append, mapM_eq_ok succeeds, List.mapM_cons, fails]
  rfl

/-- The first ordinal that cannot be given a place decides why types are refused. -/
theorem slots_of_fault {n : Nat} {fault : Fault} (positive : 1 ≤ n)
    (bounded : n ≤ parameters.length) (small : n ≤ maxParameters + 1)
    (carried : ∀ m, 1 ≤ m → m < n → Carries parameters m)
    (fails : slot (places parameters) parameters.length n = .error fault) :
    slots parameters = .error fault := by
  obtain ⟨k, rfl⟩ := Nat.exists_eq_add_of_le' positive
  obtain ⟨rest, length⟩ := Nat.exists_eq_add_of_le bounded
  have split : List.range parameters.length =
      List.range k ++ k :: (List.range rest).map (fun i => k + (i + 1)) := by
    rw [length, Nat.add_assoc, Nat.add_comm 1 rest, List.range_add, List.range_succ_eq_map]
    simp [Function.comp_def]
  have succeeds : ∀ i ∈ List.range k, slot (places parameters) parameters.length (i + 1) =
      .ok (placeOf parameters (i + 1)) := by
    intro i member
    have before := List.mem_range.mp member
    exact slot_of_carries (by omega) (carried _ (Nat.succ_pos i) (by omega))
  rw [slots, split]
  exact mapM_eq_error succeeds fails

theorem slots_of_counted (counted : CountedByOrdinals parameters) :
    slots parameters = .ok (placesByOrdinal parameters) := by
  apply mapM_eq_ok
  intro i member
  have inList := List.mem_range.mp member
  exact slot_of_carries (Nat.le_trans inList counted.length_le)
    (counted.carries (Nat.succ_pos i) inList)

theorem placeOf_ordinal (counted : CountedByOrdinals parameters) {place : Nat}
    (inList : place < parameters.length) :
    placeOf parameters parameters[place].ordinal.toNat = place := by
  rw [placeOf, UInt16.ofNat_toNat]
  exact counted.findIdx_eq inList

/-- Each parameter stands at one of these places, and at one only. -/
theorem perm_placesByOrdinal (counted : CountedByOrdinals parameters) :
    (placesByOrdinal parameters).Perm (List.range parameters.length) := by
  have covered : List.range parameters.length ⊆ placesByOrdinal parameters := by
    intro place member
    have inList := List.mem_range.mp member
    obtain ⟨positive, bounded⟩ := counted.bounds (List.getElem_mem inList)
    refine List.mem_map.mpr ⟨parameters[place].ordinal.toNat - 1, ?_, ?_⟩
    · exact List.mem_range.mpr (by omega)
    · rw [Nat.sub_add_cancel positive, placeOf_ordinal counted inList]
  exact ((List.nodup_range.subperm covered).perm_of_length_le (by simp)).symm

theorem setTypes_cons (parameters : List Parameter) (place : Nat) (type : DataType)
    (types : List (Nat × DataType)) :
    setTypes parameters ((place, type) :: types) =
      setTypes (parameters.modify place fun p => { p with type := some type }) types := by
  simp [setTypes]

theorem length_setTypes (parameters : List Parameter) (types : List (Nat × DataType)) :
    (setTypes parameters types).length = parameters.length := by
  induction types generalizing parameters with
  | nil => rfl
  | cons first types inductionHypothesis =>
    rw [setTypes_cons, inductionHypothesis, List.length_modify]

theorem getElem?_setTypes_of_not_mem {types : List (Nat × DataType)} {place : Nat}
    (other : place ∉ types.map Prod.fst) (parameters : List Parameter) :
    (setTypes parameters types)[place]? = parameters[place]? := by
  induction types generalizing parameters with
  | nil => rfl
  | cons first types inductionHypothesis =>
    rw [List.map_cons, List.mem_cons, not_or] at other
    rw [setTypes_cons, inductionHypothesis other.2, List.getElem?_modify_ne _ _ (Ne.symm other.1)]

/-- At distinct places, each place gets its type. -/
theorem getElem?_setTypes_of_mem {types : List (Nat × DataType)}
    (distinct : (types.map Prod.fst).Nodup) {place : Nat} {type : DataType}
    (member : (place, type) ∈ types) (parameters : List Parameter) :
    (setTypes parameters types)[place]? =
      parameters[place]?.map fun p => { p with type := some type } := by
  induction types generalizing parameters with
  | nil => cases member
  | cons first types inductionHypothesis =>
    rw [List.map_cons, List.nodup_cons] at distinct
    rw [setTypes_cons]
    rcases List.mem_cons.mp member with rfl | later
    · rw [getElem?_setTypes_of_not_mem distinct.1, List.getElem?_modify_eq]
      rfl
    · have different : first.1 ≠ place := by
        rintro rfl
        exact distinct.1 (List.mem_map.mpr ⟨_, later, rfl⟩)
      rw [inductionHypothesis distinct.2 later, List.getElem?_modify_ne _ _ different]

/-- Each parameter gets the type that its ordinal counts. -/
theorem setTypes_zip_placesByOrdinal (counted : CountedByOrdinals parameters)
    {types : List DataType} (complete : types.length = parameters.length) :
    setTypes parameters ((placesByOrdinal parameters).zip types) =
      typedByOrdinals parameters types := by
  have distinct : (((placesByOrdinal parameters).zip types).map Prod.fst).Nodup := by
    rw [List.map_fst_zip (by simp [complete])]
    exact (perm_placesByOrdinal counted).nodup_iff.mpr List.nodup_range
  apply List.ext_getElem (by simp [length_setTypes, typedByOrdinals])
  intro place isSet isTyped
  have inList : place < parameters.length := length_setTypes parameters _ ▸ isSet
  obtain ⟨positive, bounded⟩ := counted.bounds (List.getElem_mem inList)
  have inTypes : parameters[place].ordinal.toNat - 1 < types.length := by omega
  have member : (place, types[parameters[place].ordinal.toNat - 1]) ∈
      (placesByOrdinal parameters).zip types := by
    rw [List.mem_iff_getElem]
    refine ⟨parameters[place].ordinal.toNat - 1, by simp; omega, ?_⟩
    simp [placesByOrdinal, Nat.sub_add_cancel positive, placeOf_ordinal counted inList]
  have set := getElem?_setTypes_of_mem distinct member parameters
  rw [List.getElem?_eq_getElem isSet, List.getElem?_eq_getElem inList, Option.map_some] at set
  rw [Option.some.inj set]
  simp [typedByOrdinals, inTypes]

end Query

/-- A query that is changed as work goes on. A fault ends the work and takes nothing back. -/
abbrev InPlace := ExceptT Fault (StateM Query)

namespace InPlace

def putType (place : Nat) (type : DataType) : InPlace Unit :=
  modify fun query : Query =>
    { query with
      parameters := query.parameters.modify place fun p => { p with type := some type } }

/-- Attaches types one after the other, as soon as there is a place for each of them. -/
def attach (types : List DataType) : InPlace Unit := do
  let query ← get
  if types.length = query.parameters.length then
    let places ← liftM (Query.slots query.parameters)
    forM (places.zip types) fun (place, type) => putType place type
  else throw (.parameterTypeCount query.parameters.length types.length)

/-- What the work ends with, and the query that it leaves. -/
def apply (work : InPlace Unit) (query : Query) : Except Fault Unit × Query :=
  work.run.run query

theorem apply_forM_putType (types : List (Nat × DataType)) (query : Query) :
    apply (forM types fun (place, type) => putType place type) query =
      (.ok (), { query with parameters := Query.setTypes query.parameters types }) := by
  induction types generalizing query with
  | nil => rfl
  | cons first types inductionHypothesis =>
    rw [List.forM_cons, Query.setTypes_cons]
    exact inductionHypothesis
      { query with
        parameters := query.parameters.modify first.1 fun p => { p with type := some first.2 } }

/-- Changed in place, a query is left as attaching the types gives it, or as it was. -/
theorem apply_attach (query : Query) (types : List DataType) :
    apply (attach types) query =
      match query.attach types with
      | .ok next => (.ok (), next)
      | .error fault => (.error fault, query) := by
  have start : apply (attach types) query =
      apply (if types.length = query.parameters.length then do
          let places ← liftM (Query.slots query.parameters)
          forM (places.zip types) fun (place, type) => putType place type
        else throw (.parameterTypeCount query.parameters.length types.length)) query := rfl
  rw [start, Query.attach]
  by_cases complete : types.length = query.parameters.length
  · rw [if_pos complete, if_neg (not_not.mpr complete)]
    cases Query.slots query.parameters with
    | error fault => rfl
    | ok places => exact apply_forM_putType (places.zip types) query
  · rw [if_neg complete, if_pos complete]
    rfl

end InPlace

namespace Query

variable {query : Query} {types : List DataType}

theorem attach_of_slots_error (complete : types.length = query.parameters.length) {fault : Fault}
    (refused : slots query.parameters = .error fault) : query.attach types = .error fault := by
  rw [attach, if_neg (not_not.mpr complete), refused]

theorem attach_of_gap (complete : types.length = query.parameters.length) {n : UInt16}
    (positive : 1 ≤ n.toNat) (bounded : n.toNat ≤ query.parameters.length)
    (gap : ¬Carries query.parameters n.toNat)
    (carried : ∀ m, 1 ≤ m → m < n.toNat → Carries query.parameters m) :
    query.attach types = .error (.unmatchedParameterType n) := by
  have small : n.toNat ≤ maxParameters := Nat.le_of_lt_succ n.toNat_lt
  have fails := slot_of_gap small gap
  rw [UInt16.ofNat_toNat] at fails
  exact attach_of_slots_error complete
    (slots_of_fault positive bounded (Nat.le_succ_of_le small) carried fails)

theorem attach_of_excess (complete : types.length = query.parameters.length)
    (excess : maxParameters < query.parameters.length)
    (carried : ∀ n, 1 ≤ n → n ≤ maxParameters → Carries query.parameters n) :
    query.attach types = .error (.tooManyParameters query.parameters.length) := by
  have fails := @slot_of_excess query.parameters _ (Nat.lt_succ_self maxParameters)
  refine attach_of_slots_error complete
    (slots_of_fault (Nat.succ_pos _) excess (Nat.le_refl _) ?_ fails)
  exact fun m positive before => carried m positive (Nat.le_of_lt_succ before)

theorem attach_of_counted (complete : types.length = query.parameters.length)
    (counted : CountedByOrdinals query.parameters) :
    query.attach types =
      .ok { query with parameters := typedByOrdinals query.parameters types } := by
  rw [attach, if_neg (not_not.mpr complete), slots_of_counted counted]
  dsimp only
  rw [setTypes_zip_placesByOrdinal counted complete]

/-- Types that are not refused have parameters that their ordinals count. -/
theorem counted_of_attach {next : Query} (attached : query.attach types = .ok next) :
    types.length = query.parameters.length ∧ CountedByOrdinals query.parameters := by
  have complete : types.length = query.parameters.length := by
    by_contra refused
    rw [attach, if_pos refused] at attached
    cases attached
  refine ⟨complete, ?_⟩
  -- The first ordinal that is missing would have been reported.
  have carried : ∀ n, 1 ≤ n → n ≤ query.parameters.length → n ≤ maxParameters →
      Carries query.parameters n := by
    intro n
    induction n using Nat.strong_induction_on with
    | _ n inductionHypothesis =>
      intro positive bounded small
      by_contra gap
      have refused : query.attach types = .error (.unmatchedParameterType (UInt16.ofNat n)) := by
        apply attach_of_gap complete
        all_goals rw [toNat_ofNat_of_le small]
        · exact positive
        · exact bounded
        · exact gap
        · exact fun m positive before => inductionHypothesis m before positive (by omega) (by omega)
      cases attached.symm.trans refused
  have room : query.parameters.length ≤ maxParameters := by
    by_contra excess
    have refused := attach_of_excess complete (Nat.lt_of_not_le excess) fun n positive small =>
      carried n positive (by omega) small
    cases attached.symm.trans refused
  exact countedByOrdinals_of_carries fun n positive bounded =>
    carried n positive bounded (Nat.le_trans bounded room)

/-- Whatever parameters a query has been given, types are refused for their number first, then for
the first ordinal that is missing, and then for the number of parameters. They are attached
exactly if the ordinals count the parameters, each to the parameter whose ordinal counts it.
Types that are refused leave the query as it was, also if it is changed in place. -/
theorem types_are_matched_by_ordinal (query : Query) (types : List DataType) :
    let parameters := query.parameters
    let count := parameters.length
    let result := query.attach types
    (types.length ≠ count → result = .error (.parameterTypeCount count types.length)) ∧
    (types.length = count →
      (∀ n : UInt16, 1 ≤ n.toNat → n.toNat ≤ count → ¬Carries parameters n.toNat →
        (∀ m, 1 ≤ m → m < n.toNat → Carries parameters m) →
          result = .error (.unmatchedParameterType n)) ∧
      ((∀ n, 1 ≤ n → n ≤ min count maxParameters → Carries parameters n) →
        (maxParameters < count → result = .error (.tooManyParameters count)) ∧
        (count ≤ maxParameters → ∃ next, result = .ok next))) ∧
    ((∃ next, result = .ok next) ↔ types.length = count ∧ CountedByOrdinals parameters) ∧
    (∀ next, result = .ok next →
      next = { query with parameters := typedByOrdinals parameters types } ∧
      (∀ p ∈ parameters, p.ordinal.toNat - 1 < types.length) ∧
      (InPlace.attach types).apply query = (.ok (), next)) ∧
    ∀ fault, result = .error fault → (InPlace.attach types).apply query = (.error fault, query) := by
  intro parameters count result
  refine ⟨fun refused => if_pos refused, ?_, ⟨?_, ?_⟩, ?_, ?_⟩
  · intro complete
    refine ⟨fun n => attach_of_gap complete, fun carried => ⟨fun excess => ?_, fun room => ?_⟩⟩
    · exact attach_of_excess complete excess fun n positive small =>
        carried n positive (Nat.le_min.mpr ⟨Nat.le_trans small (Nat.le_of_lt excess), small⟩)
    · refine ⟨_, attach_of_counted complete (countedByOrdinals_of_carries ?_)⟩
      exact fun n positive bounded =>
        carried n positive (Nat.le_min.mpr ⟨bounded, Nat.le_trans bounded room⟩)
  · rintro ⟨next, attached⟩
    exact counted_of_attach attached
  · rintro ⟨complete, counted⟩
    exact ⟨_, attach_of_counted complete counted⟩
  · intro next attached
    obtain ⟨complete, counted⟩ := counted_of_attach attached
    refine ⟨?_, ?_, ?_⟩
    · exact Except.ok.inj (attached.symm.trans (attach_of_counted complete counted))
    · intro p member
      have bounds := counted.bounds member
      omega
    · rw [InPlace.apply_attach, show query.attach types = _ from attached]
  · intro fault refused
    rw [InPlace.apply_attach, show query.attach types = _ from refused]

/-- Ordinals that count the parameters out of order, and an ordinal that two parameters share. -/
theorem types_are_matched_by_ordinal_in_shuffled_list :
    let int8 : DataType := ⟨"INT8", some 20⟩
    let text : DataType := ⟨"TEXT", some 25⟩
    let bool : DataType := ⟨"BOOL", none⟩
    let shuffled : Query := ⟨"", "", "", [⟨"c", 3, some text⟩, ⟨"a", 1, none⟩, ⟨"", 2, none⟩], [], []⟩
    let doubled : Query := ⟨"", "", "", [⟨"a", 1, some text⟩, ⟨"b", 1, none⟩], [], []⟩
    (InPlace.attach [int8, text, bool]).apply shuffled =
        (.ok (), { shuffled with
          parameters := [⟨"c", 3, some bool⟩, ⟨"a", 1, some int8⟩, ⟨"", 2, some text⟩] }) ∧
      (InPlace.attach [int8, bool]).apply doubled =
        (.error (.unmatchedParameterType 2), doubled) := by
  intro int8 text bool shuffled doubled
  constructor
  · obtain ⟨-, -, accepted, typed, -⟩ := types_are_matched_by_ordinal shuffled [int8, text, bool]
    have counted : CountedByOrdinals shuffled.parameters := by
      unfold CountedByOrdinals
      decide
    obtain ⟨next, attached⟩ := accepted.mpr ⟨rfl, counted⟩
    obtain ⟨same, -, applied⟩ := typed next attached
    rw [applied, same]
    rfl
  · obtain ⟨-, refused, -, -, unchanged⟩ := types_are_matched_by_ordinal doubled [int8, bool]
    have gap : ¬Carries doubled.parameters (2 : UInt16).toNat := by
      unfold Carries
      decide
    have carried : ∀ m, 1 ≤ m → m < (2 : UInt16).toNat → Carries doubled.parameters m := by
      intro m positive before
      obtain rfl : m = 1 := Nat.le_antisymm (Nat.le_of_lt_succ before) positive
      exact ⟨_, List.mem_cons_self, rfl⟩
    exact unchanged _ ((refused rfl).1 2 (by decide) (by decide) gap carried)

end Query

end SqlTemplate
