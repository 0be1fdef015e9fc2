import Mathlib
import SqlTemplate.Proofs.Attaching
import SqlTemplate.Proofs.Texts
import SqlTemplate.Proofs.Tokens

/-!
# The endings of a reading

A document is read in stages, and the first stage that fails ends the reading. So a reading ends in
one of four ways, and what has been reported by then tells how far it came: nothing until the names
have been checked, the findings before the placeholders are replaced, and two summaries if all goes
well.
-/

namespace SqlTemplate

namespace Settings

/-- A letter or an underscore, and then letters, digits and underscores, up to the end. -/
def IsIdentifier (text : String) : Prop :=
  ∃ first rest, text.toList = first :: rest ∧ (IsLetter first ∨ first = '_') ∧
    ∀ c ∈ rest, IsLetter c ∨ ('0' ≤ c ∧ c ≤ '9') ∨ c = '_'

theorem isIdentifier_iff {text : String} : isIdentifier text ↔ IsIdentifier text := by
  unfold isIdentifier IsIdentifier
  cases text.toList with
  | nil => simp
  | cons first rest => simp [isAlpha_iff, isNameChar_iff]

/-- Whether a name may stand in settings. -/
def Permits (name : String) : Prop :=
  name = "" ∨ IsIdentifier name

theorem not_permits_iff {name : String} :
    ¬Permits name ↔ (!name.isEmpty && !isIdentifier name) = true := by
  rw [Permits, not_or, Bool.and_eq_true, Bool.not_eq_true', Bool.not_eq_true', ← isIdentifier_iff,
    Bool.not_eq_true, String.isEmpty_eq_false_iff]

def value (settings : Settings) : NameKey → String
  | .package => settings.package
  | .name => settings.name

def WellNamed (settings : Settings) : Prop :=
  Permits settings.package ∧ Permits settings.name

/-- Whether a key is the first one whose name may not stand in settings. -/
def Misnames (settings : Settings) : NameKey → Prop
  | .package => ¬Permits settings.package
  | .name => Permits settings.package ∧ ¬Permits settings.name

theorem check_of_misnames {settings : Settings} {key : NameKey} (misnames : settings.Misnames key) :
    settings.check = .error (.invalidName key (settings.value key)) := by
  cases key with
  | package => exact if_pos (not_permits_iff.mp misnames)
  | name =>
    rw [check, if_neg (not_permits_iff.not.mp (not_not.mpr misnames.1)),
      if_pos (not_permits_iff.mp misnames.2)]
    rfl

theorem check_of_wellNamed {settings : Settings} (wellNamed : settings.WellNamed) :
    settings.check = .ok settings := by
  rw [check, if_neg (not_permits_iff.not.mp (not_not.mpr wellNamed.1)),
    if_neg (not_permits_iff.not.mp (not_not.mpr wellNamed.2))]

theorem exists_misnames_iff {settings : Settings} :
    (∃ key, settings.Misnames key) ↔ ¬settings.WellNamed := by
  constructor
  · rintro ⟨key, misnames⟩ wellNamed
    cases key with
    | package => exact misnames wellNamed.1
    | name => exact misnames.2 wellNamed.2
  · intro notWell
    by_cases package : Permits settings.package
    · exact ⟨.name, package, fun name => notWell ⟨package, name⟩⟩
    · exact ⟨.package, package⟩

end Settings

/-- An event as it is logged: its level, its message and its fields. -/
def Event.shown (event : Event) : Level × String × List (String × String) :=
  (event.level, event.message, event.fields)

/-- What is logged about a computation. -/
def Traced.log {α : Type} (outcome : Traced α) : List (Level × String × List (String × String)) :=
  outcome.events.map Event.shown

/-- How a finding is logged. -/
def Finding.warning (finding : Finding) : Level × String × List (String × String) :=
  (.warn, "suspicious SQL while rewriting named parameters", [("diagnostic", finding.message)])

/-- What is logged about a query after the findings. -/
def Query.summaries (query : Query) : List (Level × String × List (String × String)) :=
  let count := toString query.parameters.length
  [(.debug, "rewrote named parameters", [("parameters", count)]),
    (.debug, "parsed query source",
      [("package", query.package), ("name", query.name), ("parameters", count)])]

namespace Statement

theorem events_of_error {template : String} {fault : Fault}
    (refused : (ofTemplate template).result = .error fault) :
    (ofTemplate template).events =
      (Reading.ofTemplate (Text.trim template)).findings.map .suspicious := by
  unfold ofTemplate at refused ⊢
  generalize Reading.ofTemplate (Text.trim template) = reading at refused ⊢
  cases written : Draft.writeAll {} reading.tokens with
  | error other => simp [written, Traced.report, Traced.ofExcept, bind]
  | ok draft => simp [written, Except.bind] at refused

theorem events_of_ok {template : String} {statement : Statement}
    (accepted : (ofTemplate template).result = .ok statement) :
    (ofTemplate template).events =
      (Reading.ofTemplate (Text.trim template)).findings.map .suspicious ++
        [.replaced statement.parameters.length] := by
  unfold ofTemplate at accepted ⊢
  generalize Reading.ofTemplate (Text.trim template) = reading at accepted ⊢
  cases written : Draft.writeAll {} reading.tokens with
  | error other => simp [written, Except.bind] at accepted
  | ok draft =>
    simp only [written, Traced.result_bind, Traced.result_report, Traced.result_ofExcept,
      Traced.result_pure, Except.bind, Except.ok.injEq] at accepted
    simp [← accepted, written, Traced.report, Traced.ofExcept, bind, pure]

end Statement

namespace Sections

/-- The template of a document is trimmed already, and read as it stands. -/
theorem trim_template (document : String) :
    Text.trim (ofDocument document).template = (ofDocument document).template :=
  (Text.trimmed_trim _).trim_eq

/-- The distinct names in a template, in the order of their first occurrence. -/
def names (sections : Sections) : List String :=
  (Token.names (Reading.ofTemplate sections.template).tokens).eraseDups

variable {document : String}

theorem statement_of_excess (excess : 65535 < (ofDocument document).names.length) :
    (Statement.ofTemplate (ofDocument document).template).result =
      .error (.tooManyParameters 65536) := by
  have spec := Statement.result_ofTemplate (ofDocument document).template
  rw [trim_template] at spec
  exact spec.trans (if_neg (Nat.not_le_of_lt excess))

theorem exists_statement_of_room (room : (ofDocument document).names.length ≤ 65535) :
    ∃ statement, (Statement.ofTemplate (ofDocument document).template).result = .ok statement ∧
      statement.parameters = parametersOf (ofDocument document).names ∧
      statement.findings = (Reading.ofTemplate (ofDocument document).template).findings := by
  have spec := Statement.result_ofTemplate (ofDocument document).template
  rw [trim_template] at spec
  unfold names at room ⊢
  generalize Reading.ofTemplate (ofDocument document).template = reading at spec room ⊢
  exact ⟨_, spec.trans (if_pos room), rfl, rfl⟩

end Sections

namespace Query

variable {decode : String → Option Settings} {document : String}

/-- If the settings are refused, the template is not looked at. -/
theorem parseWith_of_refused {fault : Fault}
    (refused : Settings.read decode (Sections.ofDocument document).settings = .error fault) :
    parseWith decode document = ⟨[], .error fault⟩ := by
  unfold parseWith
  exact Traced.bind_of_error refused _

theorem events_of_overfull {settings : Settings} {fault : Fault}
    (read : Settings.read decode (Sections.ofDocument document).settings = .ok settings)
    (refused : (Statement.ofTemplate (Sections.ofDocument document).template).result =
      .error fault) :
    (parseWith decode document).events =
      (Statement.ofTemplate (Sections.ofDocument document).template).events := by
  unfold parseWith
  rw [Traced.bind_of_ok read]
  generalize Statement.ofTemplate (Sections.ofDocument document).template = rewritten at refused ⊢
  rw [Traced.bind_of_error refused]
  exact List.nil_append _

theorem events_of_accepted {settings : Settings} {statement : Statement}
    (read : Settings.read decode (Sections.ofDocument document).settings = .ok settings)
    (accepted : (Statement.ofTemplate (Sections.ofDocument document).template).result =
      .ok statement) :
    (parseWith decode document).events =
      (Statement.ofTemplate (Sections.ofDocument document).template).events ++
        [.parsed settings.package settings.name statement.parameters.length] := by
  unfold parseWith
  rw [Traced.bind_of_ok read]
  generalize Statement.ofTemplate (Sections.ofDocument document).template = rewritten at accepted ⊢
  rw [Traced.bind_of_ok accepted]
  exact List.nil_append _

end Query

/-- The ways in which the reading of a document can end. -/
inductive Ending where
  | undecodable
  | misnamed
  | overfull
  | accepted

namespace Ending

/-- When a reading ends in a certain way, by its settings, if they can be decoded, and the distinct
names in its template. -/
def Applies (decoded : Option Settings) (names : List String) : Ending → Prop
  | undecodable => decoded = none
  | misnamed => ∃ settings ∈ decoded, ∃ key, settings.Misnames key
  | overfull => ∃ settings ∈ decoded, settings.WellNamed ∧ 65535 < names.length
  | accepted => ∃ settings ∈ decoded, settings.WellNamed ∧ names.length ≤ 65535

/-- What a reading that ends in a certain way comes to, and what is logged about it. -/
def Leaves (decoded : Option Settings) (reading : Reading) (names : List String)
    (outcome : Traced Query) : Ending → Prop
  | undecodable => outcome.result = .error .invalidSettings ∧ outcome.log = []
  | misnamed => ∃ settings ∈ decoded, ∃ key, settings.Misnames key ∧
      outcome.result = .error (.invalidName key (settings.value key)) ∧ outcome.log = []
  | overfull => outcome.result = .error (.tooManyParameters 65536) ∧
      outcome.log = reading.findings.map Finding.warning
  | accepted => ∃ settings ∈ decoded, ∃ query, outcome.result = .ok query ∧
      query.package = settings.package ∧ query.name = settings.name ∧
      Settings.Permits query.package ∧ Settings.Permits query.name ∧
      query.extra = settings.extra ∧ query.findings = reading.findings ∧
      query.parameters.length = names.length ∧
      outcome.log = query.findings.map Finding.warning ++ query.summaries

/-- One and only one ending applies. -/
theorem exists_applies_iff (decoded : Option Settings) (names : List String) :
    ∃ ending, ∀ other, Applies decoded names other ↔ other = ending := by
  cases decoded with
  | none =>
    refine ⟨undecodable, ?_⟩
    rintro (_ | _ | _ | _) <;> simp [Applies]
  | some settings =>
    by_cases wellNamed : settings.WellNamed
    · have noKey := Settings.exists_misnames_iff.not.mpr (not_not.mpr wellNamed)
      by_cases room : names.length ≤ 65535
      · refine ⟨accepted, ?_⟩
        rintro (_ | _ | _ | _) <;> simp [Applies, wellNamed, noKey, room]
      · refine ⟨overfull, ?_⟩
        rintro (_ | _ | _ | _) <;> simp [Applies, wellNamed, noKey, room, not_le.mp room]
    · refine ⟨misnamed, ?_⟩
      have key := Settings.exists_misnames_iff.mpr wellNamed
      rintro (_ | _ | _ | _) <;> simp [Applies, wellNamed, key]

end Ending

theorem Event.map_shown_suspicious (findings : List Finding) :
    (findings.map Event.suspicious).map Event.shown = findings.map Finding.warning :=
  List.map_map

namespace Query

section Leaves

variable {decode : String → Option Settings} {document : String} {settings : Settings}

theorem read_of_wellNamed (decoded : decode (Sections.ofDocument document).settings = some settings)
    (wellNamed : settings.WellNamed) :
    Settings.read decode (Sections.ofDocument document).settings = .ok settings := by
  rw [Settings.read, decoded]
  exact Settings.check_of_wellNamed wellNamed

theorem leaves_undecodable (undecodable : decode (Sections.ofDocument document).settings = none) :
    Ending.undecodable.Leaves none (Reading.ofTemplate (Sections.ofDocument document).template)
      (Sections.ofDocument document).names (parseWith decode document) := by
  have refused : Settings.read decode (Sections.ofDocument document).settings =
      .error .invalidSettings := by
    rw [Settings.read, undecodable]
  rw [parseWith_of_refused refused]
  exact ⟨rfl, rfl⟩

theorem leaves_misnamed (decoded : decode (Sections.ofDocument document).settings = some settings)
    {key : NameKey} (misnames : settings.Misnames key) :
    Ending.misnamed.Leaves settings (Reading.ofTemplate (Sections.ofDocument document).template)
      (Sections.ofDocument document).names (parseWith decode document) := by
  have refused : Settings.read decode (Sections.ofDocument document).settings =
      .error (.invalidName key (settings.value key)) := by
    rw [Settings.read, decoded]
    exact Settings.check_of_misnames misnames
  rw [parseWith_of_refused refused]
  exact ⟨settings, rfl, key, misnames, rfl, rfl⟩

theorem leaves_overfull (decoded : decode (Sections.ofDocument document).settings = some settings)
    (wellNamed : settings.WellNamed)
    (excess : 65535 < (Sections.ofDocument document).names.length) :
    Ending.overfull.Leaves settings (Reading.ofTemplate (Sections.ofDocument document).template)
      (Sections.ofDocument document).names (parseWith decode document) := by
  have read := read_of_wellNamed decoded wellNamed
  have refused := Sections.statement_of_excess excess
  constructor
  · rw [result_parseWith, read, Except.bind, refused]
    rfl
  · rw [Traced.log, events_of_overfull read refused, Statement.events_of_error refused,
      Sections.trim_template]
    exact Event.map_shown_suspicious _

theorem leaves_accepted (decoded : decode (Sections.ofDocument document).settings = some settings)
    (wellNamed : settings.WellNamed) (room : (Sections.ofDocument document).names.length ≤ 65535) :
    Ending.accepted.Leaves settings (Reading.ofTemplate (Sections.ofDocument document).template)
      (Sections.ofDocument document).names (parseWith decode document) := by
  have read := read_of_wellNamed decoded wellNamed
  obtain ⟨statement, accepted, parameters, findings⟩ :=
    Sections.exists_statement_of_room room
  have result := result_parseWith decode document
  rw [read, Except.bind, accepted, Except.map] at result
  have log : (parseWith decode document).log =
      statement.findings.map Finding.warning ++ summaries
        ⟨settings.package, settings.name, statement.sql, statement.parameters, settings.extra,
          statement.findings⟩ := by
    rw [Traced.log, events_of_accepted read accepted, Statement.events_of_ok accepted,
      Sections.trim_template, ← findings, List.append_assoc, List.map_append,
      Event.map_shown_suspicious]
    rfl
  have count : statement.parameters.length = (Sections.ofDocument document).names.length := by
    rw [parameters, parametersOf, List.length_mapIdx]
  exact ⟨settings, rfl, _, result, rfl, rfl, wellNamed.1, wellNamed.2, rfl, findings, count, log⟩

end Leaves

/-- The reading of a document ends in exactly one of four ways. If its settings cannot be decoded,
or else one of the two names in them is no identifier, it is refused without a word, whatever its
template is like. If there are more than 65535 names in its template it is refused after the
findings have been logged. And otherwise there is a query, whose findings and size are logged. -/
theorem reading_ends_in_one_of_four_ways (decode : String → Option Settings) (document : String) :
    let sections := Sections.ofDocument document
    let reading := Reading.ofTemplate sections.template
    let names := (Token.names reading.tokens).eraseDups
    ∃ ending : Ending,
      (∀ other, Ending.Applies (decode sections.settings) names other ↔ other = ending) ∧
      ending.Leaves (decode sections.settings) reading names (parseWith decode document) := by
  intro sections reading distinct
  obtain ⟨ending, only⟩ := Ending.exists_applies_iff (decode sections.settings) distinct
  refine ⟨ending, only, ?_⟩
  have applies := (only ending).mpr rfl
  cases ending with
  | undecodable =>
    rw [show decode sections.settings = none from applies]
    exact leaves_undecodable applies
  | misnamed =>
    obtain ⟨settings, decoded, key, misnames⟩ := applies
    rw [show decode sections.settings = some settings from decoded]
    exact leaves_misnamed decoded misnames
  | overfull =>
    obtain ⟨settings, decoded, wellNamed, excess⟩ := applies
    rw [show decode sections.settings = some settings from decoded]
    exact leaves_overfull decoded wellNamed excess
  | accepted =>
    obtain ⟨settings, decoded, wellNamed, room⟩ := applies
    rw [show decode sections.settings = some settings from decoded]
    exact leaves_accepted decoded wellNamed room

/-- A document with a marker that has no name, and with a string that is open. -/
theorem reading_ends_in_one_of_four_ways_with_two_warnings :
    let document := "/* pgxsql\nname = \"A\"\npgxsql */ select : , 'a"
    ∃ query, (parse document).result = .ok query ∧
      (parse document).log =
        [(.warn, "suspicious SQL while rewriting named parameters",
            [("diagnostic", "placeholder marker at byte 7 has an empty name")]),
          (.warn, "suspicious SQL while rewriting named parameters",
            [("diagnostic", "unterminated string literal starting at byte 11")]),
          (.debug, "rewrote named parameters", [("parameters", "1")]),
          (.debug, "parsed query source",
            [("package", ""), ("name", "A"), ("parameters", "1")])] := by
  intro document
  have sections : Sections.ofDocument document = ⟨"name = \"A\"", "select : , 'a"⟩ := by
    decide +kernel
  have settings : Settings.decode? "name = \"A\"" = some ⟨"", "A", []⟩ := by cbv
  have reading : Reading.ofTemplate "select : , 'a" =
      ⟨[.text "select ", .placeholder "", .text " , 'a"],
        [.emptyName 7, .unterminated .string 11]⟩ := by
    decide +kernel
  obtain ⟨ending, only, leaves⟩ := reading_ends_in_one_of_four_ways Settings.decode? document
  simp only [sections, settings, reading] at only leaves
  have identifier : Settings.IsIdentifier "A" := Settings.isIdentifier_iff.mp (by decide)
  obtain rfl := (only .accepted).mp ⟨_, rfl, ⟨.inl rfl, .inr identifier⟩, by decide⟩
  obtain ⟨_, ⟨⟩, query, parsed, package, name, -, -, -, findings, count, log⟩ := leaves
  refine ⟨query, parsed, ?_⟩
  rw [parse, log, findings, summaries, count, package, name]
  decide +kernel

end Query

end SqlTemplate
