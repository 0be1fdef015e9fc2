import SqlTemplate.Proofs.Names
import SqlTemplate.Statement

/-!
# Writing statements

A statement is written from the tokens of its trimmed template alone: text as it stands, and each
placeholder as the place of its name among the distinct names.
-/

namespace SqlTemplate

namespace Token

/-- The names of the placeholders among tokens, with repetitions. -/
def names (tokens : List Token) : List String :=
  tokens.filterMap name?

/-- How a token stands in a statement, given the distinct names of all placeholders. -/
def written (names : List String) : Token → String
  | .text content => content
  | .placeholder name => positional (ordinalIn names name)

def writtenAll (names : List String) (tokens : List Token) : String :=
  String.join (tokens.map (written names))

@[simp] theorem names_nil : names [] = [] := rfl

@[simp] theorem names_text_cons (content : String) (tokens : List Token) :
    names (.text content :: tokens) = names tokens := rfl

@[simp] theorem names_placeholder_cons (name : String) (tokens : List Token) :
    names (.placeholder name :: tokens) = name :: names tokens := rfl

@[simp] theorem names_append (first second : List Token) :
    names (first ++ second) = names first ++ names second :=
  List.filterMap_append

@[simp] theorem writtenAll_nil (names : List String) : writtenAll names [] = "" :=
  String.join_nil

@[simp] theorem writtenAll_cons (names : List String) (token : Token) (tokens : List Token) :
    writtenAll names (token :: tokens) = token.written names ++ writtenAll names tokens :=
  String.join_cons

end Token

namespace Draft

@[simp] theorem writeAll_nil (draft : Draft) : draft.writeAll [] = .ok draft := rfl

theorem writeAll_cons (draft : Draft) (token : Token) (tokens : List Token) :
    draft.writeAll (token :: tokens) = (draft.write token).bind (·.writeAll tokens) := rfl

theorem write_placeholder (draft : Draft) (name : String) :
    draft.write (.placeholder name) =
      (draft.numbering.number name).map fun (ordinal, numbering) =>
        ⟨draft.sql ++ positional ordinal, numbering⟩ := by
  obtain ⟨sql, numbering⟩ := draft
  cases number : numbering.number name <;> simp [write, number, Except.map]

/-- Tokens are written one after the other if there is room for all their names. -/
theorem writeAll_of_length_le {draft : Draft} {earlier : List String} {tokens : List Token}
    (knows : draft.numbering.Knows earlier.eraseDups)
    (room : (earlier ++ Token.names tokens).eraseDups.length ≤ maxParameters) :
    ∃ numbering,
      draft.writeAll tokens =
          .ok ⟨draft.sql ++ Token.writtenAll (earlier ++ Token.names tokens).eraseDups tokens,
            numbering⟩ ∧
        numbering.Knows (earlier ++ Token.names tokens).eraseDups := by
  induction tokens generalizing draft earlier with
  | nil => exact ⟨draft.numbering, by simp, by simpa using knows⟩
  | cons token tokens inductionHypothesis =>
    cases token with
    | text content =>
      obtain ⟨numbering, writes, numbered⟩ :=
        @inductionHypothesis ⟨draft.sql ++ content, draft.numbering⟩ earlier knows room
      refine ⟨numbering, ?_, numbered⟩
      rw [Token.names_text_cons, Token.writtenAll_cons, Token.written, ← String.append_assoc]
      exact writes
    | placeholder name =>
      -- The names to come do not move the name, since the names so far are a prefix of all.
      rw [Token.names_placeholder_cons, List.append_cons] at room ⊢
      have extended := eraseDups_prefix_append (earlier ++ [name]) (Token.names tokens)
      obtain ⟨next, number, nextKnows⟩ :=
        knows.number_of_length_le (Nat.le_trans extended.length_le room)
      obtain ⟨numbering, writes, numbered⟩ := @inductionHypothesis
        ⟨draft.sql ++ positional (ordinalIn (earlier ++ [name]).eraseDups name), next⟩ _ nextKnows
        room
      have member : name ∈ (earlier ++ [name]).eraseDups := by simp
      refine ⟨numbering, ?_, numbered⟩
      rw [writeAll_cons, write_placeholder, number, Token.writtenAll_cons, Token.written,
        ordinalIn_of_prefix extended member, ← String.append_assoc]
      exact writes

theorem writeAll_of_lt_length {draft : Draft} {earlier : List String} {tokens : List Token}
    (knows : draft.numbering.Knows earlier.eraseDups)
    (excess : maxParameters < (earlier ++ Token.names tokens).eraseDups.length) :
    draft.writeAll tokens = .error (.tooManyParameters (maxParameters + 1)) := by
  induction tokens generalizing draft earlier with
  | nil =>
    rw [Token.names_nil, List.append_nil] at excess
    exact absurd knows.bounded (Nat.not_le_of_lt excess)
  | cons token tokens inductionHypothesis =>
    cases token with
    | text content =>
      exact @inductionHypothesis ⟨draft.sql ++ content, draft.numbering⟩ earlier knows excess
    | placeholder name =>
      rw [Token.names_placeholder_cons, List.append_cons] at excess
      rw [writeAll_cons, write_placeholder]
      by_cases room : (earlier ++ [name]).eraseDups.length ≤ maxParameters
      · obtain ⟨next, number, nextKnows⟩ := knows.number_of_length_le room
        rw [number]
        exact inductionHypothesis nextKnows excess
      · rw [knows.number_of_lt_length (Nat.lt_of_not_le room)]
        rfl

end Draft

/-- Parameters carry the places of their names, counted from one. -/
theorem map_parametersOf {names : List String} (room : names.length ≤ maxParameters) :
    (parametersOf names).map (fun p => (p.name, p.ordinal.toNat, p.type)) =
      names.mapIdx fun i name => (name, i + 1, none) := by
  unfold parametersOf
  apply List.ext_getElem (by simp)
  intro i inParameters inNames
  rw [List.length_mapIdx] at inNames
  have ordinal : (UInt16.ofNat (i + 1)).toNat = i + 1 :=
    toNat_ofNat_of_le (Nat.le_trans inNames room)
  rw [List.getElem_map, List.getElem_mapIdx, List.getElem_mapIdx, ordinal]

/-- Placeholders are written as the places of their names, counted from one. -/
theorem Token.writtenAll_eq_join {names : List String} {tokens : List Token}
    (room : names.length ≤ maxParameters) (known : ∀ name ∈ Token.names tokens, name ∈ names) :
    writtenAll names tokens = String.join (tokens.map fun
      | .text content => content
      | .placeholder name => "$" ++ toString (names.idxOf name + 1)) := by
  unfold writtenAll
  congr 1
  apply List.map_congr_left
  intro token member
  cases token with
  | text content => rfl
  | placeholder name =>
    have place : name ∈ Token.names tokens := List.mem_filterMap.mpr ⟨_, member, rfl⟩
    have digits : toString (ordinalIn names name) = toString (ordinalIn names name).toNat := rfl
    rw [written, positional, digits, toNat_ordinalIn room (known name place)]

namespace Statement

theorem result_ofTemplate_of_writeAll (template : String) :
    (ofTemplate template).result =
      (Draft.writeAll {} (Reading.ofTemplate (Text.trim template)).tokens).map fun draft =>
        ⟨draft.sql, draft.numbering.parameters.toList,
          (Reading.ofTemplate (Text.trim template)).findings⟩ := by
  unfold ofTemplate
  cases written : Draft.writeAll {} (Reading.ofTemplate (Text.trim template)).tokens with
  | ok draft => simp [written, Traced.report, Traced.ofExcept, bind, Except.map, pure]
  | error fault => simp [written, Traced.report, Traced.ofExcept, bind, Except.map]

/-- What a template becomes: a statement if there is room for its names, and a fault if not. -/
theorem result_ofTemplate (template : String) :
    (ofTemplate template).result =
      let reading := Reading.ofTemplate (Text.trim template)
      let names := (Token.names reading.tokens).eraseDups
      if names.length ≤ maxParameters then
        .ok ⟨Token.writtenAll names reading.tokens, parametersOf names, reading.findings⟩
      else .error (.tooManyParameters (maxParameters + 1)) := by
  have start : (Draft.numbering {}).Knows ([] : List String).eraseDups := Numbering.knows_nil
  rw [result_ofTemplate_of_writeAll]
  dsimp only
  split
  · next room =>
    rw [← List.nil_append (Token.names _)] at room
    obtain ⟨numbering, writes, knows⟩ := Draft.writeAll_of_length_le start room
    rw [writes, Except.map, knows.parameters, List.nil_append, String.empty_append]
  · next excess =>
    have tooMany := Nat.lt_of_not_le excess
    rw [← List.nil_append (Token.names _)] at tooMany
    rw [Draft.writeAll_of_lt_length start tooMany, Except.map]

/-- What a statement is made of, if there is one. -/
theorem parts_of_ok {template : String} {statement : Statement}
    (accepted : (ofTemplate template).result = .ok statement) :
    let reading := Reading.ofTemplate (Text.trim template)
    let names := (Token.names reading.tokens).eraseDups
    names.length ≤ maxParameters ∧ statement.sql = Token.writtenAll names reading.tokens ∧
      statement.parameters = parametersOf names ∧ statement.findings = reading.findings := by
  rw [result_ofTemplate] at accepted
  generalize Reading.ofTemplate (Text.trim template) = reading at accepted ⊢
  dsimp only at accepted
  split at accepted
  · next room =>
    obtain rfl := Except.ok.inj accepted
    exact ⟨room, rfl, rfl, rfl⟩
  · cases accepted

/-- The parameters of a statement are the distinct names of its placeholders in the order of their
first occurrence, with the ordinals 1, 2 and so on, and each placeholder is written as the place
of its name among them. A template with more than 65535 names has no statement. -/
theorem ordinals_follow_first_occurrence (template : String) :
    let reading := Reading.ofTemplate (Text.trim template)
    let names := (Token.names reading.tokens).eraseDups
    (names.length ≤ 65535 →
      ∃ statement, (ofTemplate template).result = .ok statement ∧
        names.Nodup ∧
        statement.parameters.map (fun p => (p.name, p.ordinal.toNat, p.type)) =
          names.mapIdx (fun i name => (name, i + 1, none)) ∧
        statement.sql = String.join (reading.tokens.map fun
          | .text content => content
          | .placeholder name => "$" ++ toString (names.idxOf name + 1)) ∧
        statement.findings = reading.findings) ∧
    (65535 < names.length → (ofTemplate template).result = .error (.tooManyParameters 65536)) := by
  have result := result_ofTemplate template
  generalize Reading.ofTemplate (Text.trim template) = reading at result ⊢
  intro reading names
  have known : ∀ name ∈ Token.names reading.tokens, name ∈ names := fun name member =>
    List.mem_eraseDups.mpr member
  constructor
  · intro room
    exact ⟨⟨Token.writtenAll names reading.tokens, parametersOf names, reading.findings⟩,
      result.trans (if_pos room), nodup_eraseDups _, map_parametersOf room,
      Token.writtenAll_eq_join room known, rfl⟩
  · intro excess
    exact result.trans (if_neg (Nat.not_le_of_lt excess))

/-- A name that occurs twice has one parameter. -/
theorem ordinals_follow_first_occurrence_of_repeated_name :
    ∃ statement, (ofTemplate " :b = :a or :b::int").result = .ok statement ∧
      statement.parameters.map (fun p => (p.name, p.ordinal.toNat, p.type)) =
        [("b", 1, none), ("a", 2, none)] ∧
      statement.sql = "$1 = $2 or $1::int" := by
  have reading : Reading.ofTemplate (Text.trim " :b = :a or :b::int") =
      ⟨[.placeholder "b", .text " = ", .placeholder "a", .text " or ", .placeholder "b",
        .text "::int"], []⟩ := by
    decide +kernel
  have spec := ordinals_follow_first_occurrence " :b = :a or :b::int"
  rw [reading] at spec
  obtain ⟨statement, result, -, parameters, sql, -⟩ := spec.1 (by decide)
  refine ⟨statement, result, ?_, ?_⟩
  · rw [parameters]
    decide
  · rw [sql]
    decide +kernel

end Statement

end SqlTemplate
