import SqlTemplate.Proofs.Endings
import SqlTemplate.Proofs.Idempotence
import SqlTemplate.Resolution

/-!
# Describing statements

A server is asked about the statement of a query, and about nothing else. It then depends on the
number of types in its answer alone whether they are attached, and each type goes to the parameter
whose ordinal is its place.
-/

namespace SqlTemplate

theorem Statement.names_sql {template : String} {statement : Statement}
    (accepted : (ofTemplate template).result = .ok statement) :
    Token.names (Reading.ofTemplate statement.sql).tokens = [] := by
  obtain ⟨items, names, -, readsAgain, -⟩ := reads_sql accepted
  rw [Reading.ofTemplate_of_reads readsAgain, Token.names_joined]
  exact Item.names_of_isText Item.isText_of_mem_numberedAll

theorem getElem?_name_parametersOf {names : List String} {k : Nat}
    (inList : k < (parametersOf names).length) : names[k]? = some (parametersOf names)[k].name := by
  rw [parametersOf, List.length_mapIdx] at inList
  simp [parametersOf, inList]

namespace Query

theorem result_describeBy (query : Query) (server : Server) :
    (query.describeBy server).result =
      match server query.sql with
      | .error failure => .error (.server failure)
      | .ok description => description.types.bind query.attach := by
  unfold describeBy
  cases answer : server query.sql with
  | error failure => simp [Except.mapError, Except.bind]
  | ok description => simp [Except.mapError, Except.bind]

/-- The parameters of a query are the distinct names in its template. -/
theorem parameters_eq_parametersOf {decode : String → Option Settings} {document : String}
    {query : Query} (parsed : (parseWith decode document).result = .ok query) :
    query.parameters = parametersOf (Sections.ofDocument document).names := by
  obtain ⟨settings, statement, -, accepted, rfl⟩ := exists_of_result_eq_ok parsed
  obtain ⟨-, -, parameters, -⟩ := Statement.parts_of_ok accepted
  rwa [Sections.trim_template] at parameters

theorem length_parameters {decode : String → Option Settings} {document : String}
    {query : Query} (parsed : (parseWith decode document).result = .ok query) :
    query.parameters.length = (Sections.ofDocument document).names.length := by
  rw [parameters_eq_parametersOf parsed, parametersOf, List.length_mapIdx]

theorem parameter?_of_numbered {query : Query} (numbered : Numbered query.parameters) {k : Nat}
    (inList : k < query.parameters.length) :
    query.parameter? (UInt16.ofNat (k + 1)) = some query.parameters[k] := by
  rw [parameter?, List.find?_eq_bind_findIdx?_getElem?, numbered.findIdx?_ordinal inList]
  exact List.getElem?_eq_getElem inList

/-- Each type goes to the parameter whose ordinal is its place. -/
theorem parameter?_withTypes {query : Query} (numbered : Numbered query.parameters)
    {types : List DataType} (complete : types.length = query.parameters.length) {k : Nat}
    (described : k < types.length) :
    { query with parameters := withTypes query.parameters types }.parameter?
        (UInt16.ofNat (k + 1)) =
      some { query.parameters[k] with type := some types[k] } := by
  have inList : k < (withTypes query.parameters types).length := by
    rwa [length_withTypes complete, ← complete]
  rw [parameter?_of_numbered (numbered.withTypes complete) inList]
  simp only [withTypes, List.getElem_zipWith]

/-- Types that are attached and taken away again leave the parameters as they were. -/
theorem map_untyped_withTypes {parameters : List Parameter} {types : List DataType}
    (complete : types.length = parameters.length) (untyped : ∀ p ∈ parameters, p.type = none) :
    (withTypes parameters types).map (fun p => { p with type := none }) = parameters := by
  rw [map_withTypes (fun _ _ => rfl) complete]
  conv_rhs => rw [← List.map_id parameters]
  apply List.map_congr_left
  intro p member
  rw [← untyped p member]
  rfl

end Query

namespace Resolution

variable {decode : String → Option Settings} {server : Server} {document : String}

theorem ofDocument_of_error {fault : Fault}
    (failed : (Query.parseWith decode document).result = .error fault) :
    ofDocument decode server document = ⟨none, Query.parseWith decode document⟩ := by
  simp only [ofDocument, failed]

theorem ofDocument_of_ok {query : Query}
    (parsed : (Query.parseWith decode document).result = .ok query) :
    ofDocument decode server document =
      ⟨some query.sql, do (← Query.parseWith decode document).describeBy server⟩ := by
  simp only [ofDocument, parsed]

theorem result_of_ok {query : Query}
    (parsed : (Query.parseWith decode document).result = .ok query) :
    (ofDocument decode server document).outcome.result = (query.describeBy server).result := by
  rw [ofDocument_of_ok parsed, Traced.bind_of_ok parsed]

/-- Servers that say the same about the prepared statement lead to the same resolution. -/
theorem ofDocument_eq_of_prepared {other : Server}
    (same : ∀ sql ∈ (ofDocument decode server document).prepared, other sql = server sql) :
    ofDocument decode other document = ofDocument decode server document := by
  cases parsed : (Query.parseWith decode document).result with
  | error fault => rw [ofDocument_of_error parsed, ofDocument_of_error parsed]
  | ok query =>
    rw [ofDocument_of_ok parsed] at same
    have answer : other query.sql = server query.sql := same query.sql rfl
    have described : query.describeBy other = query.describeBy server := by
      rw [Query.describeBy, Query.describeBy, answer]
    rw [ofDocument_of_ok parsed, ofDocument_of_ok parsed, Traced.bind_of_ok parsed,
      Traced.bind_of_ok parsed, described]

/-- What comes of types that are known: they are attached if there is one for each parameter. -/
theorem result_of_described {query : Query}
    (parsed : (Query.parseWith decode document).result = .ok query) {description : Description}
    (described : server query.sql = .ok description) {types : List DataType}
    (known : description.types = .ok types) :
    (ofDocument decode server document).outcome.result =
      if types.length = (Sections.ofDocument document).names.length then
        .ok { query with parameters := withTypes query.parameters types }
      else .error (.parameterTypeCount (Sections.ofDocument document).names.length
        types.length) := by
  obtain ⟨numbered, -⟩ := Query.parameters_of_parseWith parsed
  rw [result_of_ok parsed, Query.result_describeBy, described, ← Query.length_parameters parsed]
  dsimp only
  rw [known]
  exact Query.attach_of_numbered numbered types

/-- If there are no parameters, a query is complete without types. -/
theorem result_of_counted_zero {query : Query}
    (parsed : (Query.parseWith decode document).result = .ok query)
    (counted : server query.sql = .ok (.counted 0)) :
    (ofDocument decode server document).outcome.result =
      if (Sections.ofDocument document).names = [] then .ok query
      else .error (.parameterTypeCount (Sections.ofDocument document).names.length 0) := by
  have count := Query.length_parameters parsed
  rw [result_of_described parsed counted rfl, List.length_nil]
  by_cases noNames : (Sections.ofDocument document).names = []
  · have noParameters : query.parameters = [] := by
      rw [← List.length_eq_zero_iff, count, noNames, List.length_nil]
    have unchanged : { query with parameters := withTypes query.parameters [] } = query := by
      rw [withTypes, List.zipWith_nil_right, ← noParameters]
    rw [if_pos noNames, noNames, if_pos List.length_nil.symm, unchanged]
  · have someNames := List.length_pos_iff.mpr noNames
    rw [if_neg noNames, if_neg (Nat.ne_of_lt someNames)]

/-- Without types, nothing is attached. -/
theorem result_of_untyped {query : Query}
    (parsed : (Query.parseWith decode document).result = .ok query) {description : Description}
    (described : server query.sql = .ok description) {fault : Fault}
    (unknown : description.types = .error fault) :
    (ofDocument decode server document).outcome.result = .error fault := by
  rw [result_of_ok parsed, Query.result_describeBy, described]
  dsimp only
  rw [unknown]
  rfl

/-- A document that cannot be read is shown to no server. Otherwise a server is asked to prepare
the statement of the query, in which no placeholder is left, and its answer to that decides: either
it fails, or it describes as many types as the template has distinct names, and each of them goes
to the parameter whose ordinal is its place, or else the numbers differ and no type is attached.
A server that tells no types is believed only if it says that there are no parameters. -/
theorem types_are_those_described (decode : String → Option Settings) (server : Server)
    (document : String) :
    let template := (Sections.ofDocument document).template
    let names := (Token.names (Reading.ofTemplate template).tokens).eraseDups
    let resolution := ofDocument decode server document
    (∀ other : Server, (∀ sql ∈ resolution.prepared, other sql = server sql) →
      ofDocument decode other document = resolution) ∧
    match (Query.parseWith decode document).result with
    | .error fault => resolution.prepared = none ∧ resolution.outcome.result = .error fault
    | .ok query =>
      resolution.prepared = some query.sql ∧
      Token.names (Reading.ofTemplate query.sql).tokens = [] ∧
      match server query.sql with
      | .error failure => resolution.outcome.result = .error (.server failure)
      | .ok (.typed types) =>
        if types.length = names.length then
          ∃ resolved, resolution.outcome.result = .ok resolved ∧
            { resolved with parameters := query.parameters } = query ∧
            resolved.parameters.map (fun p => { p with type := none }) = query.parameters ∧
            ∀ k (described : k < types.length), ∃ p,
              query.parameter? (UInt16.ofNat (k + 1)) = some p ∧
              p.ordinal.toNat = k + 1 ∧ names[k]? = some p.name ∧
              resolved.parameter? (UInt16.ofNat (k + 1)) = some { p with type := some types[k] }
        else
          resolution.outcome.result = .error (.parameterTypeCount names.length types.length)
      | .ok (.counted 0) =>
        resolution.outcome.result =
          if names = [] then .ok query else .error (.parameterTypeCount names.length 0)
      | .ok _ => resolution.outcome.result = .error .parameterTypesUnavailable := by
  intro template names resolution
  refine ⟨fun other same => ofDocument_eq_of_prepared same, ?_⟩
  cases parsed : (Query.parseWith decode document).result with
  | error fault =>
    dsimp only
    rw [show resolution = _ from ofDocument_of_error parsed]
    exact ⟨rfl, parsed⟩
  | ok query =>
    obtain ⟨numbered, untyped⟩ := Query.parameters_of_parseWith parsed
    obtain ⟨settings, statement, -, accepted, sql⟩ := Query.exists_of_result_eq_ok parsed
    have prepared : resolution.prepared = some query.sql := by
      rw [show resolution = _ from ofDocument_of_ok parsed]
    have distinct : query.parameters = parametersOf names :=
      Query.parameters_eq_parametersOf parsed
    have count : query.parameters.length = names.length := Query.length_parameters parsed
    have noneLeft : Token.names (Reading.ofTemplate query.sql).tokens = [] := by
      rw [sql]
      exact Statement.names_sql accepted
    refine ⟨prepared, noneLeft, ?_⟩
    cases answer : server query.sql with
    | error failure =>
      dsimp only
      rw [show resolution.outcome.result = _ from result_of_ok parsed, Query.result_describeBy,
        answer]
    | ok description =>
      cases description with
      | typed types =>
        have result := result_of_described parsed answer rfl
        dsimp only
        split
        · next complete =>
          refine ⟨_, result.trans (if_pos complete), rfl, ?_, ?_⟩
          · exact Query.map_untyped_withTypes (complete.trans count.symm) untyped
          · intro k described
            have inList : k < query.parameters.length := by rwa [count, ← complete]
            refine ⟨query.parameters[k], Query.parameter?_of_numbered numbered inList,
              numbered.ordinal k inList, ?_,
              Query.parameter?_withTypes numbered (complete.trans count.symm) described⟩
            simp only [distinct] at inList ⊢
            exact getElem?_name_parametersOf inList
        · next refused => exact result.trans (if_neg refused)
      | silent => exact result_of_untyped parsed answer rfl
      | counted parameters =>
        cases parameters with
        | succ parameters => exact result_of_untyped parsed answer rfl
        | zero => exact result_of_counted_zero parsed answer

/-- A server that knows one statement, and another one that describes every statement alike. -/
theorem types_are_those_described_for_two_names :
    let document := "/* pgxsql\nname = \"A\"\npgxsql */\nselect :b = :a"
    let int8 : DataType := ⟨"INT8", some 20⟩
    let text : DataType := ⟨"TEXT", some 25⟩
    let server : Server := fun sql =>
      if sql = "select $1 = $2" then .ok (.typed [text, int8]) else .error ⟨"no such statement"⟩
    let resolution := ofDocument Settings.decode? server document
    resolution.prepared = some "select $1 = $2" ∧
      ofDocument Settings.decode? (fun _ => .ok (.typed [text, int8])) document = resolution ∧
      ∃ resolved, resolution.outcome.result = .ok resolved ∧
        resolved.parameter? 1 = some ⟨"b", 1, some text⟩ ∧
        resolved.parameter? 2 = some ⟨"a", 2, some int8⟩ := by
  intro document int8 text server resolution
  have sections : Sections.ofDocument document = ⟨"name = \"A\"", "select :b = :a"⟩ := by
    decide +kernel
  have settings : Settings.decode? "name = \"A\"" = some ⟨"", "A", []⟩ := by cbv
  have statement : (Statement.ofTemplate "select :b = :a").result =
      .ok ⟨"select $1 = $2", [⟨"b", 1, none⟩, ⟨"a", 2, none⟩], []⟩ := by
    rw [Statement.result_ofTemplate]
    decide +kernel
  have parsed : (Query.parseWith Settings.decode? document).result =
      .ok ⟨"", "A", "select $1 = $2", [⟨"b", 1, none⟩, ⟨"a", 2, none⟩], [], []⟩ := by
    rw [Query.result_parseWith, sections, Settings.read, settings, statement]
    rfl
  have distinct : (Token.names (Reading.ofTemplate "select :b = :a").tokens).eraseDups =
      ["b", "a"] := by
    decide +kernel
  have answer : server "select $1 = $2" = .ok (.typed [text, int8]) := if_pos rfl
  obtain ⟨sameAnswers, spec⟩ := types_are_those_described Settings.decode? server document
  simp only [parsed, sections, distinct, answer] at spec
  obtain ⟨prepared, -, resolved, result, -, -, types⟩ := spec
  refine ⟨prepared, sameAnswers _ ?_, resolved, result, ?_, ?_⟩
  · intro sql asked
    obtain rfl := Option.some.inj (prepared.symm.trans asked)
    exact answer.symm
  · obtain ⟨p, before, -, -, after⟩ := types 0 (by decide)
    obtain rfl := Option.some.inj before
    exact after
  · obtain ⟨p, before, -, -, after⟩ := types 1 (by decide)
    obtain rfl := Option.some.inj before
    exact after

end Resolution

end SqlTemplate
