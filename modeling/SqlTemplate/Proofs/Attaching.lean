import Mathlib
import SqlTemplate.Proofs.Matching
import SqlTemplate.Proofs.Writing

/-!
# Attaching types

The parameters of a query that has been read from a document have distinct names and the ordinals
1, 2 and so on. Types are then refused only for their number, and the types of a query are always
those attached last, one for each parameter, or none.
-/

namespace SqlTemplate

/-- Whether parameters have distinct names, and the ordinals 1, 2 and so on in their order. -/
structure Numbered (parameters : List Parameter) : Prop where
  bounded : parameters.length ≤ maxParameters
  ordinal : ∀ i (inList : i < parameters.length), parameters[i].ordinal.toNat = i + 1
  distinct : (parameters.map Parameter.name).Nodup

theorem map_name_parametersOf (names : List String) :
    (parametersOf names).map Parameter.name = names := by
  apply List.ext_getElem (by simp [parametersOf])
  intro i _ _
  simp [parametersOf]

theorem numbered_parametersOf {names : List String} (distinct : names.Nodup)
    (bounded : names.length ≤ maxParameters) : Numbered (parametersOf names) where
  bounded := by rwa [parametersOf, List.length_mapIdx]
  ordinal i inList := by
    rw [parametersOf, List.length_mapIdx] at inList
    simp only [parametersOf, List.getElem_mapIdx]
    exact toNat_ofNat_of_le (Nat.le_trans inList bounded)
  distinct := by rwa [map_name_parametersOf]

theorem type_of_mem_parametersOf {names : List String} {p : Parameter}
    (member : p ∈ parametersOf names) : p.type = none := by
  obtain ⟨i, inList, rfl⟩ := List.getElem_of_mem member
  simp [parametersOf]

/-- The first element with some key is the only one if the keys are distinct. -/
theorem find?_eq_some_of_nodup {α β : Type} [BEq β] [LawfulBEq β] {key : α → β} {elements : List α}
    (distinct : (elements.map key).Nodup) {element : α} (member : element ∈ elements) :
    elements.find? (fun other => key other == key element) = some element := by
  induction elements with
  | nil => cases member
  | cons first rest inductionHypothesis =>
    rw [List.map_cons, List.nodup_cons] at distinct
    rcases List.mem_cons.mp member with rfl | later
    · exact List.find?_cons_of_pos (beq_self_eq_true _)
    · have different : key first ≠ key element := by
        intro same
        exact distinct.1 (same ▸ List.mem_map_of_mem later)
      rw [List.find?_cons, beq_false_of_ne different]
      exact inductionHypothesis distinct.2 later

namespace Numbered

variable {parameters : List Parameter}

theorem ordinal_eq (numbered : Numbered parameters) {i : Nat} (inList : i < parameters.length) :
    parameters[i].ordinal = UInt16.ofNat (i + 1) := by
  rw [← numbered.ordinal i inList, UInt16.ofNat_toNat]

theorem counted (numbered : Numbered parameters) : CountedByOrdinals parameters := by
  have ordinals : parameters.map (fun p => p.ordinal.toNat) =
      List.range' 1 parameters.length := by
    apply List.ext_getElem (by simp)
    intro i inMap _
    have inList : i < parameters.length := by simpa using inMap
    simp [numbered.ordinal i inList, Nat.add_comm]
  rw [CountedByOrdinals, ordinals]

theorem findIdx?_ordinal (numbered : Numbered parameters) {i : Nat}
    (inList : i < parameters.length) :
    parameters.findIdx? (·.ordinal == UInt16.ofNat (i + 1)) = some i := by
  have found : parameters.findIdx? (·.ordinal == parameters[i].ordinal) =
      some (parameters.findIdx (·.ordinal == parameters[i].ordinal)) :=
    List.findIdx?_eq_some_of_exists ⟨parameters[i], List.getElem_mem inList, beq_self_eq_true _⟩
  rwa [numbered.counted.findIdx_eq inList, numbered.ordinal_eq inList] at found

/-- An ordinal belongs to a parameter if it counts one of them. -/
theorem isSome_find?_ordinal_iff (numbered : Numbered parameters) (ordinal : UInt16) :
    (parameters.find? (·.ordinal == ordinal)).isSome ↔
      1 ≤ ordinal.toNat ∧ ordinal.toNat ≤ parameters.length := by
  rw [List.find?_isSome]
  constructor
  · rintro ⟨p, member, same⟩
    obtain ⟨i, inList, rfl⟩ := List.getElem_of_mem member
    rw [← beq_iff_eq.mp same, numbered.ordinal i inList]
    omega
  · rintro ⟨positive, bounded⟩
    have inList : ordinal.toNat - 1 < parameters.length := by omega
    refine ⟨parameters[ordinal.toNat - 1], List.getElem_mem inList, beq_iff_eq.mpr ?_⟩
    rw [← UInt16.toNat_inj, numbered.ordinal _ inList]
    omega

theorem find?_name (numbered : Numbered parameters) {p : Parameter} (member : p ∈ parameters) :
    parameters.find? (·.name == p.name) = some p :=
  find?_eq_some_of_nodup numbered.distinct member

end Numbered

/-- Parameters with the given types, in their order. -/
def withTypes (parameters : List Parameter) (types : List DataType) : List Parameter :=
  List.zipWith (fun p type => { p with type := some type }) parameters types

section WithTypes

variable {parameters : List Parameter} {types : List DataType}

theorem length_withTypes (complete : types.length = parameters.length) :
    (withTypes parameters types).length = parameters.length := by
  rw [withTypes, List.length_zipWith, complete, Nat.min_self]

/-- Types change nothing about parameters but their types. -/
theorem map_withTypes {α : Type} {view : Parameter → α}
    (blind : ∀ (p : Parameter) (type : Option DataType), view { p with type } = view p)
    (complete : types.length = parameters.length) :
    (withTypes parameters types).map view = parameters.map view := by
  apply List.ext_getElem (by simp [length_withTypes complete])
  intro i _ _
  simp [withTypes, blind]

/-- Types take the place of those that were there before. -/
theorem withTypes_withTypes {earlier : List DataType}
    (complete : earlier.length = parameters.length) :
    withTypes (withTypes parameters earlier) types = withTypes parameters types := by
  apply List.ext_getElem (by simp [withTypes, complete])
  intro i _ _
  simp [withTypes]

/-- Types that are counted by the ordinals of numbered parameters stand in their order. -/
theorem Numbered.typedByOrdinals_eq (numbered : Numbered parameters)
    (complete : types.length = parameters.length) :
    typedByOrdinals parameters types = withTypes parameters types := by
  apply List.ext_getElem (by simp [typedByOrdinals, length_withTypes complete])
  intro i inTyped _
  have inList : i < parameters.length := by simpa [typedByOrdinals] using inTyped
  have inTypes : i < types.length := complete ▸ inList
  simp [typedByOrdinals, withTypes, numbered.ordinal i inList, inTypes]

theorem Numbered.withTypes (numbered : Numbered parameters)
    (complete : types.length = parameters.length) : Numbered (withTypes parameters types) where
  bounded := by
    rw [length_withTypes complete]
    exact numbered.bounded
  ordinal i inList := by
    rw [length_withTypes complete] at inList
    simpa [SqlTemplate.withTypes] using numbered.ordinal i inList
  distinct := by
    rw [map_withTypes (fun _ _ => rfl) complete]
    exact numbered.distinct

end WithTypes

namespace Query

/-- Numbered parameters get all types or, if their number is not that of the parameters, none. -/
theorem attach_of_numbered {query : Query} (numbered : Numbered query.parameters)
    (types : List DataType) :
    query.attach types =
      if types.length = query.parameters.length then
        .ok { query with parameters := withTypes query.parameters types }
      else .error (.parameterTypeCount query.parameters.length types.length) := by
  by_cases complete : types.length = query.parameters.length
  · rw [if_pos complete, attach_of_counted complete numbered.counted,
      numbered.typedByOrdinals_eq complete]
  · rw [if_neg complete, attach, if_pos complete]

/-- The parameters of a query that has been read are numbered, and have no types. -/
theorem parameters_of_parseWith {decode : String → Option Settings} {document : String}
    {query : Query} (parsed : (parseWith decode document).result = .ok query) :
    Numbered query.parameters ∧ ∀ p ∈ query.parameters, p.type = none := by
  obtain ⟨settings, statement, -, accepted, rfl⟩ := exists_of_result_eq_ok parsed
  obtain ⟨room, -, parameters, -⟩ := Statement.parts_of_ok accepted
  dsimp only
  rw [parameters]
  exact ⟨numbered_parametersOf (nodup_eraseDups _) room, fun _ => type_of_mem_parametersOf⟩

end Query

/-- A query to which types are attached in turn, and those that were attached last. -/
structure Session where
  query : Query
  attached : Option (List DataType) := none

namespace Session

/-- Attaches types, if they are not refused. -/
def attach (session : Session) (types : List DataType) : Session :=
  match session.query.attach types with
  | .ok query => ⟨query, some types⟩
  | .error _ => session

def attachAll (session : Session) (calls : List (List DataType)) : Session :=
  calls.foldl attach session

/-- What holds throughout a session: only the types attached last tell the query from the one with
which the session began. -/
structure Follows (session : Session) (source : Query) : Prop where
  query : session.query =
    match session.attached with
    | none => source
    | some types => { source with parameters := withTypes source.parameters types }
  complete : ∀ types ∈ session.attached, types.length = source.parameters.length

section Follows

variable {session : Session} {source : Query}

theorem follows_start (source : Query) : Follows ⟨source, none⟩ source :=
  ⟨rfl, nofun⟩

theorem Follows.numbered (follows : session.Follows source)
    (numbered : Numbered source.parameters) : Numbered session.query.parameters := by
  rw [follows.query]
  cases attached : session.attached with
  | none => exact numbered
  | some types => exact numbered.withTypes (follows.complete types attached)

theorem Follows.map_parameters (follows : session.Follows source) {α : Type}
    {view : Parameter → α}
    (blind : ∀ (p : Parameter) (type : Option DataType), view { p with type } = view p) :
    session.query.parameters.map view = source.parameters.map view := by
  rw [follows.query]
  cases attached : session.attached with
  | none => rfl
  | some types => exact map_withTypes blind (follows.complete types attached)

theorem Follows.length (follows : session.Follows source) :
    session.query.parameters.length = source.parameters.length := by
  have names : session.query.parameters.map Parameter.name =
      source.parameters.map Parameter.name := follows.map_parameters fun _ _ => rfl
  simpa using congrArg List.length names

theorem Follows.attach_eq (follows : session.Follows source)
    (numbered : Numbered source.parameters) (types : List DataType) :
    session.query.attach types =
      if types.length = source.parameters.length then
        .ok { source with parameters := withTypes source.parameters types }
      else .error (.parameterTypeCount source.parameters.length types.length) := by
  rw [Query.attach_of_numbered (follows.numbered numbered), follows.length]
  congr 2
  rw [follows.query]
  cases attached : session.attached with
  | none => rfl
  | some earlier => simp only [withTypes_withTypes (follows.complete earlier attached)]

theorem Follows.attach_of_complete (follows : session.Follows source)
    (numbered : Numbered source.parameters) {types : List DataType}
    (complete : types.length = source.parameters.length) :
    session.attach types =
      ⟨{ source with parameters := withTypes source.parameters types }, some types⟩ := by
  rw [attach, follows.attach_eq numbered, if_pos complete]

theorem Follows.attach_of_refused (follows : session.Follows source)
    (numbered : Numbered source.parameters) {types : List DataType}
    (refused : types.length ≠ source.parameters.length) : session.attach types = session := by
  rw [attach, follows.attach_eq numbered, if_neg refused]

theorem Follows.attach (follows : session.Follows source) (numbered : Numbered source.parameters)
    (types : List DataType) : (session.attach types).Follows source := by
  by_cases complete : types.length = source.parameters.length
  · rw [follows.attach_of_complete numbered complete]
    refine ⟨rfl, ?_⟩
    rintro _ ⟨⟩
    exact complete
  · rw [follows.attach_of_refused numbered complete]
    exact follows

theorem attachAll_concat (session : Session) (calls : List (List DataType))
    (types : List DataType) :
    session.attachAll (calls ++ [types]) = (session.attachAll calls).attach types :=
  List.foldl_concat ..

theorem Follows.attachAll (follows : session.Follows source)
    (numbered : Numbered source.parameters) (calls : List (List DataType)) :
    (session.attachAll calls).Follows source := by
  induction calls using List.reverseRecOn with
  | nil => exact follows
  | append_singleton calls types inductionHypothesis =>
    rw [attachAll_concat]
    exact inductionHypothesis.attach numbered types

/-- The types attached last are those of the last call that gives one to each parameter. -/
theorem attached_attachAll (numbered : Numbered source.parameters) (calls : List (List DataType)) :
    (attachAll ⟨source, none⟩ calls).attached =
      (calls.filter fun types => types.length = source.parameters.length).getLast? := by
  induction calls using List.reverseRecOn with
  | nil => rfl
  | append_singleton calls types inductionHypothesis =>
    have follows := (follows_start source).attachAll numbered calls
    rw [attachAll_concat, List.filter_append]
    by_cases complete : types.length = source.parameters.length
    · rw [follows.attach_of_complete numbered complete]
      simp [complete]
    · rw [follows.attach_of_refused numbered complete, inductionHypothesis]
      simp [complete]

/-- Either no parameter has a type, or each has the one whose place its ordinal counts. -/
theorem Follows.types (follows : session.Follows source) (numbered : Numbered source.parameters)
    (untyped : ∀ p ∈ source.parameters, p.type = none) :
    match session.attached with
    | none => ∀ p ∈ session.query.parameters, p.type = none
    | some types =>
      session.query.parameters.map (fun p => (p.ordinal.toNat, p.type)) =
        types.mapIdx fun i type => (i + 1, some type) := by
  have query := follows.query
  cases attached : session.attached with
  | none =>
    rw [attached] at query
    exact query ▸ untyped
  | some types =>
    rw [attached] at query
    have complete := follows.complete types attached
    rw [query]
    apply List.ext_getElem (by simp [length_withTypes complete, complete])
    intro i inList _
    have inSource : i < source.parameters.length := by
      simpa [length_withTypes complete] using inList
    simp [withTypes, numbered.ordinal i inSource]

end Follows

/-- However often types are attached to a query that has been read, with or without success, only
their number can be a reason to refuse them, all parameters have types or none has, the types are
those of the last call that succeeded, in the order of the ordinals, and nothing else changes. -/
theorem types_are_those_attached_last {decode : String → Option Settings} {document : String}
    {source : Query} (parsed : (Query.parseWith decode document).result = .ok source)
    (calls : List (List DataType)) :
    let session := attachAll ⟨source, none⟩ calls
    let query := session.query
    let count := source.parameters.length
    (∀ types,
      (types.length = count → ∃ next, query.attach types = .ok next) ∧
      (types.length ≠ count →
        query.attach types = .error (.parameterTypeCount count types.length))) ∧
    session.attached = (calls.filter fun types => types.length = count).getLast? ∧
    (match session.attached with
      | none => ∀ p ∈ query.parameters, p.type = none
      | some types =>
        query.parameters.map (fun p => (p.ordinal.toNat, p.type)) =
          types.mapIdx fun i type => (i + 1, some type)) ∧
    { query with parameters := source.parameters } = source ∧
    query.parameters.map (fun p => (p.name, p.ordinal)) =
      source.parameters.map (fun p => (p.name, p.ordinal)) ∧
    ∀ ordinal : UInt16,
      ((query.parameter? ordinal).isSome ↔ 1 ≤ ordinal.toNat ∧ ordinal.toNat ≤ count) ∧
      ∀ p ∈ query.parameter? ordinal, query.named? p.name = some p := by
  intro session query count
  obtain ⟨numbered, untyped⟩ := Query.parameters_of_parseWith parsed
  have follows : session.Follows source := (follows_start source).attachAll numbered calls
  refine ⟨?_, attached_attachAll numbered calls, follows.types numbered untyped, ?_,
    follows.map_parameters fun _ _ => rfl, ?_⟩
  · intro types
    rw [follows.attach_eq numbered]
    exact ⟨fun complete => ⟨_, if_pos complete⟩, fun refused => if_neg refused⟩
  · rw [show query = _ from follows.query]
    cases session.attached <;> rfl
  · intro ordinal
    rw [show count = query.parameters.length from follows.length.symm]
    refine ⟨(follows.numbered numbered).isSome_find?_ordinal_iff ordinal, ?_⟩
    intro p found
    exact (follows.numbered numbered).find?_name (List.mem_of_find?_eq_some found)

/-- A call with too few types, two that succeed, and one with too many. -/
theorem types_are_those_attached_last_of_four_calls :
    let document := "/* pgxsql\nname = \"A\"\npgxsql */\nselect :b = :a"
    let int8 : DataType := ⟨"INT8", some 20⟩
    let text : DataType := ⟨"TEXT", some 25⟩
    ∃ source, (Query.parseWith Settings.decode? document).result = .ok source ∧
      let session :=
        attachAll ⟨source, none⟩ [[int8], [int8, text], [text, int8], [text, text, text]]
      session.attached = some [text, int8] ∧
      session.query.parameters.map (fun p => (p.name, p.ordinal)) = [("b", 1), ("a", 2)] ∧
      session.query.parameters.map (fun p => (p.ordinal.toNat, p.type)) =
        [(1, some text), (2, some int8)] := by
  intro document int8 text
  have sections : Sections.ofDocument document = ⟨"name = \"A\"", "select :b = :a"⟩ := by
    decide +kernel
  have settings : Settings.decode? "name = \"A\"" = some ⟨"", "A", []⟩ := by cbv
  have statement : (Statement.ofTemplate "select :b = :a").result =
      .ok ⟨"select $1 = $2", [⟨"b", 1, none⟩, ⟨"a", 2, none⟩], []⟩ := by
    rw [Statement.result_ofTemplate]
    decide +kernel
  have parsed : (Query.parseWith Settings.decode? document).result =
      .ok ⟨"", "A", "select $1 = $2", [⟨"b", 1, none⟩, ⟨"a", 2, none⟩], [], []⟩ := by
    rw [Query.result_parseWith, sections, Settings.read, settings, statement]
    rfl
  obtain ⟨-, attached, types, -, parameters, -⟩ := types_are_those_attached_last parsed
    [[int8], [int8, text], [text, int8], [text, text, text]]
  refine ⟨_, parsed, attached, parameters, ?_⟩
  rw [attached] at types
  exact types

end Session

end SqlTemplate
