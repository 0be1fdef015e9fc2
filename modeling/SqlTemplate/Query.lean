import SqlTemplate.Document
import SqlTemplate.Settings
import SqlTemplate.Statement
import Std.Data.HashMap

/-!
# Queries

A document read in full: its settings, and the statement for its template. The parameters have no
types at first. Types are attached all at once or not at all, the first type to the parameter with
ordinal 1 and so on.
-/

namespace SqlTemplate

structure Query where
  package : String
  name : String
  sql : String
  parameters : List Parameter
  /-- The settings other than the two names. -/
  extra : Toml.Table
  findings : List Finding

namespace Query

/-- Reads a document, its settings with the given decoder. -/
def parseWith (decode : String → Option Settings) (document : String) : Traced Query := do
  let sections := Sections.ofDocument document
  let settings ← Traced.ofExcept (Settings.read decode sections.settings)
  let statement ← Statement.ofTemplate sections.template
  Traced.report [.parsed settings.package settings.name statement.parameters.length]
  return {
    package := settings.package
    name := settings.name
    sql := statement.sql
    parameters := statement.parameters
    extra := settings.extra
    findings := statement.findings }

def parse (document : String) : Traced Query :=
  parseWith Settings.decode? document

/-- A document is refused for its settings first, and then for its template. -/
theorem result_parseWith (decode : String → Option Settings) (document : String) :
    (parseWith decode document).result =
      (Settings.read decode (Sections.ofDocument document).settings).bind fun settings =>
        (Statement.ofTemplate (Sections.ofDocument document).template).result.map fun statement =>
          { package := settings.package
            name := settings.name
            sql := statement.sql
            parameters := statement.parameters
            extra := settings.extra
            findings := statement.findings } := by
  unfold parseWith
  simp only [Traced.result_bind, Traced.result_ofExcept, Traced.result_report, Traced.result_pure]
  generalize Statement.ofTemplate (Sections.ofDocument document).template = rewritten
  cases Settings.read decode (Sections.ofDocument document).settings with
  | error fault => rfl
  | ok settings => cases rewritten.result <;> rfl

theorem exists_of_result_eq_ok {decode : String → Option Settings} {document : String}
    {query : Query} (parsed : (parseWith decode document).result = .ok query) :
    ∃ settings statement,
      Settings.read decode (Sections.ofDocument document).settings = .ok settings ∧
      (Statement.ofTemplate (Sections.ofDocument document).template).result = .ok statement ∧
      query =
        { package := settings.package
          name := settings.name
          sql := statement.sql
          parameters := statement.parameters
          extra := settings.extra
          findings := statement.findings } := by
  rw [result_parseWith] at parsed
  cases decoded : Settings.read decode (Sections.ofDocument document).settings with
  | error fault =>
    rw [decoded] at parsed
    cases parsed
  | ok settings =>
    cases rewritten : (Statement.ofTemplate (Sections.ofDocument document).template).result with
    | error fault =>
      rw [decoded, rewritten] at parsed
      cases parsed
    | ok statement =>
      rw [decoded, rewritten] at parsed
      exact ⟨settings, statement, rfl, rfl, (Except.ok.inj parsed).symm⟩

/-- The first parameter with the given ordinal. -/
def parameter? (query : Query) (ordinal : UInt16) : Option Parameter :=
  query.parameters.find? (·.ordinal == ordinal)

/-- The first parameter with the given name. -/
def named? (query : Query) (name : String) : Option Parameter :=
  query.parameters.find? (·.name == name)

/-- Where the first parameter with each ordinal stands, the first of the given ones at `place`.
The ordinals that are known already keep their places. -/
def placesFrom (places : Std.HashMap UInt16 Nat) (place : Nat) :
    List Parameter → Std.HashMap UInt16 Nat
  | [] => places
  | p :: rest => placesFrom (places.insertIfNew p.ordinal place) (place + 1) rest

def places (parameters : List Parameter) : Std.HashMap UInt16 Nat :=
  placesFrom {} 0 parameters

theorem getElem?_placesFrom (parameters : List Parameter) (ordinal : UInt16) :
    ∀ (places : Std.HashMap UInt16 Nat) (place : Nat),
      (placesFrom places place parameters)[ordinal]? =
        places[ordinal]?.or
          ((parameters.findIdx? (·.ordinal == ordinal)).map (· + place)) := by
  induction parameters with
  | nil => intro places place; simp [placesFrom]
  | cons p rest inductionHypothesis =>
    intro places place
    rw [placesFrom, inductionHypothesis, Std.HashMap.getElem?_insertIfNew, List.findIdx?_cons]
    by_cases found : p.ordinal = ordinal
    · subst found
      by_cases known : p.ordinal ∈ places <;> simp [known]
    · simp [found, Nat.add_assoc, Nat.add_comm 1 place, Function.comp_def]

@[simp] theorem getElem?_places (parameters : List Parameter) (ordinal : UInt16) :
    (places parameters)[ordinal]? = parameters.findIdx? (·.ordinal == ordinal) := by
  simp [places, getElem?_placesFrom]

/-- Where the first parameter with ordinal `n` stands in a list of `count` parameters. -/
def slot (places : Std.HashMap UInt16 Nat) (count n : Nat) : Except Fault Nat :=
  if maxParameters < n then .error (.tooManyParameters count)
  else
    match places[UInt16.ofNat n]? with
    | some place => .ok place
    | none => .error (.unmatchedParameterType (UInt16.ofNat n))

/-- Where the first parameters with the ordinals 1, 2 and so on stand, one for each parameter. -/
def slots (parameters : List Parameter) : Except Fault (List Nat) :=
  let count := parameters.length
  let known := places parameters
  (List.range count).mapM fun i => slot known count (i + 1)

def setTypes (parameters : List Parameter) (types : List (Nat × DataType)) : List Parameter :=
  (types.foldl (fun parameters (place, type) =>
    parameters.modify place fun p => { p with type := some type }) parameters.toArray).toList

def attach (query : Query) (types : List DataType) : Except Fault Query :=
  let expected := query.parameters.length
  if types.length ≠ expected then .error (.parameterTypeCount expected types.length)
  else
    match slots query.parameters with
    | .error fault => .error fault
    | .ok places => .ok { query with parameters := setTypes query.parameters (places.zip types) }

end Query

end SqlTemplate
