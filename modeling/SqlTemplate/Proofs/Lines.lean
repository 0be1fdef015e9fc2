import Mathlib
import SqlTemplate.Listing
import SqlTemplate.Proofs.Blocks
import SqlTemplate.Proofs.Describing
import SqlTemplate.Proofs.Renaming

/-!
# Lines of a listing

The name of a query is an identifier, and the names of its placeholders are made of letters, digits
and underscores, so that no line above the statement has a newline in it. A listing can therefore
be read back, whatever lines the statement itself has. If there is no query, nothing is listed.
The messages of findings, and of faults that are not a server's, are single lines too.
-/

namespace SqlTemplate

namespace Text

/-- A text cut at its newlines. What follows the last one is a line as well. -/
def lines (text : String) : List String :=
  (text.toList.splitOn '\n').map String.ofList

/-- Lines with a newline between each two of them. -/
def unlines (lines : List String) : String :=
  String.ofList (['\n'].intercalate (lines.map String.toList))

theorem unlines_lines (text : String) : unlines (lines text) = text := by
  have same : (lines text).map String.toList = text.toList.splitOn '\n' := by
    simp [lines, Function.comp_def]
  rw [unlines, same, List.intercalate_splitOn, String.ofList_toList]

theorem lines_append_newline (text : String) : lines (text ++ "\n") = lines text ++ [""] := by
  have newline : (text ++ "\n").toList = text.toList ++ '\n' :: [] := String.toList_append
  rw [lines, newline, List.splitOn_append_cons_self, List.map_append]
  rfl

theorem lines_newline_append {line : String} (single : '\n' ∉ line.toList) (rest : String) :
    lines (line ++ "\n" ++ rest) = line :: lines rest := by
  have newline : (line ++ "\n" ++ rest).toList = line.toList ++ '\n' :: rest.toList := by simp
  rw [lines, newline, List.splitOn_append_cons_self_of_not_mem single, List.map_cons,
    String.ofList_toList]
  rfl

end Text

@[simp] theorem joinLines_nil : joinLines [] = "" :=
  String.join_nil

@[simp] theorem joinLines_cons (line : String) (lines : List String) :
    joinLines (line :: lines) = line ++ "\n" ++ joinLines lines :=
  String.join_cons

theorem joinLines_append (first second : List String) :
    joinLines (first ++ second) = joinLines first ++ joinLines second := by
  induction first with
  | nil => simp
  | cons line first inductionHypothesis => simp [inductionHypothesis, String.append_assoc]

theorem Text.lines_joinLines_append {lines : List String}
    (single : ∀ line ∈ lines, '\n' ∉ line.toList) (rest : String) :
    Text.lines (joinLines lines ++ rest) = lines ++ Text.lines rest := by
  induction lines with
  | nil => simp
  | cons line lines inductionHypothesis =>
    obtain ⟨first, others⟩ := List.forall_mem_cons.mp single
    rw [joinLines_cons, String.append_assoc, lines_newline_append first,
      inductionHypothesis others, List.cons_append]

/-- The lines above a statement, given the name of the query and those of its parameters. -/
def headersOf (title : String) (names : List String) : List String :=
  (if title = "" then [] else ["-- " ++ title]) ++
    names.mapIdx fun k name => "-- $" ++ toString (k + 1) ++ ": " ++ name

theorem length_headersOf (title : String) (names : List String) :
    (headersOf title names).length = (if title = "" then 0 else 1) + names.length := by
  rw [headersOf, List.length_append, List.length_mapIdx]
  split <;> rfl

/-- The lines about the parameters come after the one with the name. -/
theorem getElem?_headersOf (title : String) {names : List String} {k : Nat}
    (inNames : k < names.length) :
    (headersOf title names)[(if title = "" then 0 else 1) + k]? =
      some ("-- $" ++ toString (k + 1) ++ ": " ++ names[k]) := by
  unfold headersOf
  split <;> simp [inNames, Nat.add_comm 1 k]

/-- The statement below some lines of a listing, which a newline ends. -/
def statementBelow (count : Nat) (listing : String) : String :=
  Text.unlines ((Text.lines listing).drop count).dropLast

/-- The ordinal and the name in a line about a parameter. -/
def readParameter? (line : String) : Option (Nat × String) := do
  let inner ← Text.after? "-- $".toList line.toList
  let name ← Text.after? ": ".toList (inner.dropWhile Char.isDigit)
  return (Nat.ofDigitChars 10 (inner.takeWhile Char.isDigit) 0, String.ofList name)

theorem readParameter?_eq (n : Nat) (name : String) :
    readParameter? ("-- $" ++ toString n ++ ": " ++ name) = some (n, name) := by
  have digits : ∀ c ∈ Nat.toDigits 10 n, c.isDigit := fun c member =>
    Nat.isDigit_of_mem_toDigits (by decide) (by decide) member
  have stops : ∀ c ∈ (": ".toList ++ name.toList).head?, ¬c.isDigit := by
    rintro c ⟨⟩
    decide
  have line : ("-- $" ++ toString n ++ ": " ++ name).toList =
      "-- $".toList ++ (Nat.toDigits 10 n ++ (": ".toList ++ name.toList)) := by
    simp [Nat.toString_eq_repr, Nat.toList_repr]
  have number : (Nat.toDigits 10 n ++ (": ".toList ++ name.toList)).takeWhile Char.isDigit =
      Nat.toDigits 10 n := by
    rw [List.takeWhile_append_of_pos digits, Text.takeWhile_eq_nil stops, List.append_nil]
  have others : (Nat.toDigits 10 n ++ (": ".toList ++ name.toList)).dropWhile Char.isDigit =
      ": ".toList ++ name.toList := by
    rw [List.dropWhile_append_of_pos digits, Text.dropWhile_eq_self stops]
  rw [readParameter?, line, Text.after?_append, Option.bind_eq_bind, Option.bind_some, number,
    others, Text.after?_append, Nat.ofDigitChars_ten_toDigits, Option.bind_some]
  exact congrArg (fun read => some (n, read)) String.ofList_toList

@[simp] theorem newline_not_mem_toDigits {base : Nat} (large : 1 < base) (n : Nat) :
    '\n' ∉ Nat.toDigits base n := by
  induction n using Nat.strong_induction_on with
  | _ n inductionHypothesis =>
    rcases Nat.lt_or_ge n base with small | great
    · simp [Nat.toDigits_of_lt_base small]
    · have less : n / base < n := Nat.div_lt_self (by omega) large
      rw [Nat.toDigits_of_base_le large great]
      simp [inductionHypothesis (n / base) less]

namespace Text

/-- A newline is shown by a name, so that what shows a character stands in one line. -/
theorem newline_not_mem_shown (c : Char) : '\n' ∉ (shown c).toList := by
  unfold shown
  split_ifs with null tab newline carriageReturn quote backslash shape
  case pos | pos | pos | pos | pos | pos => decide
  case pos => simp [Ne.symm newline]
  case neg => simp [numbered, hex]

theorem newline_not_mem_quoted (text : String) : '\n' ∉ (quoted text).toList := by
  simp [quoted, newline_not_mem_shown]

end Text

theorem Quote.newline_not_mem_label (quote : Quote) : '\n' ∉ quote.label.toList := by
  cases quote <;> decide

theorem Finding.newline_not_mem_message (finding : Finding) :
    '\n' ∉ finding.message.toList := by
  cases finding with
  | unterminated quote offset =>
    have message : (unterminated quote offset).message =
        "unterminated " ++ quote.label ++ " starting at byte " ++ toString offset := rfl
    simp [message, quote.newline_not_mem_label]
  | emptyName offset =>
    have message : (emptyName offset).message =
        "placeholder marker at byte " ++ toString offset ++ " has an empty name" := rfl
    simp [message]

/-- A fault is told in one line, whatever text it is about, unless a server tells it in several. -/
theorem Fault.newline_not_mem_message {fault : Fault}
    (single : ∀ failure, fault = .server failure → '\n' ∉ failure.message.toList) :
    '\n' ∉ fault.message.toList := by
  cases fault with
  | invalidSettings => exact show '\n' ∉ "Invalid configuration".toList by decide
  | invalidName key value =>
    have message : (invalidName key value).message =
        "Invalid configuration: `" ++ key.label ++ "` must be an identifier, got " ++
          Text.quoted value := rfl
    have label : '\n' ∉ key.label.toList := by cases key <;> decide
    simp [message, label, Text.newline_not_mem_quoted]
  | tooManyParameters count =>
    have message : (tooManyParameters count).message =
        "Too many distinct named parameters: " ++ toString count ++ " (at most " ++
          toString maxParameters ++ ")" := rfl
    simp [message]
  | parameterTypeCount expected actual =>
    have message : (parameterTypeCount expected actual).message =
        "Statement has " ++ toString expected ++
          " named parameter(s) but the database described " ++ toString actual := rfl
    simp [message]
  | unmatchedParameterType ordinal =>
    have message : (unmatchedParameterType ordinal).message =
        "Unable to match named parameter with prepared statement parameter $" ++
          toString ordinal.toNat := rfl
    simp [message]
  | parameterTypesUnavailable =>
    exact show '\n' ∉ "Database did not describe parameter types for the statement".toList by
      decide
  | server failure =>
    have message : (server failure).message = "Database error: " ++ failure.message := rfl
    simp [message, single failure rfl]

theorem IsName.newline_not_mem {name : String} (isName : IsName name) : '\n' ∉ name.toList :=
  fun member => absurd (isName '\n' member) (by decide)

theorem Settings.Permits.newline_not_mem {name : String} (permits : Permits name) :
    '\n' ∉ name.toList := by
  rcases permits with rfl | ⟨first, rest, split, isFirst, inName⟩
  · exact List.not_mem_nil
  · rw [split, List.mem_cons, not_or]
    constructor
    · rintro rfl
      rcases isFirst with letter | underscore
      · exact absurd letter (by unfold IsLetter; decide)
      · cases underscore
    · intro member
      exact absurd (isNameChar_iff.mpr (inName _ member)) (by decide)

/-- Settings that have been read have names that may stand in them. -/
theorem Settings.wellNamed_of_read {decode : String → Option Settings} {text : String}
    {settings : Settings} (read : Settings.read decode text = .ok settings) :
    settings.WellNamed := by
  unfold Settings.read at read
  split at read
  · cases read
  · next decoded _ =>
    by_cases wellNamed : decoded.WellNamed
    · rw [check_of_wellNamed wellNamed] at read
      exact Except.ok.inj read ▸ wellNamed
    · obtain ⟨key, misnames⟩ := exists_misnames_iff.mpr wellNamed
      rw [check_of_misnames misnames] at read
      cases read

/-- The names of placeholders are made of the characters of names. -/
theorem Reading.isName_of_mem_names {template name : String}
    (member : name ∈ Token.names (ofTemplate template).tokens) : IsName name := by
  obtain ⟨items, reads⟩ := Item.exists_reads template.toList
  rw [ofTemplate_of_reads reads, Token.names_joined] at member
  obtain ⟨token, inTokens, named⟩ := List.mem_filterMap.mp member
  obtain ⟨item, inItems, rfl⟩ := List.mem_map.mp inTokens
  cases item with
  | placeholder chars =>
    obtain rfl := Option.some.inj named
    exact reads.fit.isName inItems
  | quoted opener body | unclosed opener body | cast | plain c => cases named

theorem newline_not_mem_headersOf {title : String} {names : List String}
    (permits : Settings.Permits title) (isName : ∀ name ∈ names, IsName name) :
    ∀ header ∈ headersOf title names, '\n' ∉ header.toList := by
  intro header member
  rcases List.mem_append.mp member with inTitle | inNames
  · split at inTitle
    · cases inTitle
    · obtain rfl := List.mem_singleton.mp inTitle
      simp [permits.newline_not_mem]
  · obtain ⟨k, inList, rfl⟩ := List.mem_mapIdx.mp inNames
    have noNewline := (isName _ (List.getElem_mem inList)).newline_not_mem
    simp [noNewline]

namespace Query

variable {decode : String → Option Settings} {document : String} {query : Query}

theorem permits_name (parsed : (parseWith decode document).result = .ok query) :
    Settings.Permits query.name := by
  obtain ⟨settings, statement, read, -, rfl⟩ := exists_of_result_eq_ok parsed
  exact (Settings.wellNamed_of_read read).2

theorem headerLines_eq (parsed : (parseWith decode document).result = .ok query) :
    query.headerLines = headersOf query.name (Sections.ofDocument document).names := by
  have room : (Sections.ofDocument document).names.length ≤ maxParameters := by
    rw [← length_parameters parsed]
    exact (parameters_of_parseWith parsed).1.bounded
  have written : query.parameters.map (fun p => "-- $" ++ toString p.ordinal ++ ": " ++ p.name) =
      (Sections.ofDocument document).names.mapIdx fun k name =>
        "-- $" ++ toString (k + 1) ++ ": " ++ name := by
    rw [parameters_eq_parametersOf parsed, parametersOf]
    apply List.ext_getElem (by simp)
    intro k inMap _
    have inList : k < (Sections.ofDocument document).names.length := by simpa using inMap
    have toNat : (UInt16.ofNat (k + 1)).toNat = k + 1 :=
      toNat_ofNat_of_le (Nat.le_trans inList room)
    have digits : toString (UInt16.ofNat (k + 1)) = toString (UInt16.ofNat (k + 1)).toNat := rfl
    simp only [List.getElem_map, List.getElem_mapIdx, digits, toNat]
  rw [headerLines, headersOf, written]
  simp only [String.isEmpty_iff]

theorem newline_not_mem_warningLines (query : Query) :
    ∀ line ∈ query.warningLines, '\n' ∉ line.toList := by
  intro line member
  obtain ⟨finding, -, rfl⟩ := List.mem_map.mp member
  simp [finding.newline_not_mem_message]

end Query

theorem fromUTF8?_eq_some_iff {bytes : ByteArray} {text : String} :
    String.fromUTF8? bytes = some text ↔ text.toUTF8 = bytes := by
  unfold String.fromUTF8?
  constructor
  · intro decoded
    split at decoded
    · obtain rfl := Option.some.inj decoded
      rfl
    · cases decoded
  · rintro rfl
    exact dif_pos text.isValidUTF8

namespace Listing

variable {decode : String → Option Settings} {document : String} {query : Query}

theorem ofBytes_of_ok (parsed : (Query.parseWith decode document).result = .ok query) :
    ofBytes decode document.toUTF8 =
      ⟨0, joinLines query.listingLines, some (joinLines query.warningLines)⟩ := by
  rw [ofBytes, fromUTF8?_eq_some_iff.mpr rfl]
  dsimp only
  rw [parsed]

theorem ofBytes_of_fails {bytes : ByteArray}
    (fails : ¬∃ document query, document.toUTF8 = bytes ∧
      (Query.parseWith decode document).result = .ok query) :
    ofBytes decode bytes = failure := by
  unfold ofBytes
  cases decoded : String.fromUTF8? bytes with
  | none => rfl
  | some document =>
    cases parsed : (Query.parseWith decode document).result with
    | error fault =>
      dsimp only
      rw [parsed]
    | ok query => exact absurd ⟨document, query, fromUTF8?_eq_some_iff.mp decoded, parsed⟩ fails

theorem exitCode_eq_zero_iff {bytes : ByteArray} :
    (ofBytes decode bytes).exitCode = 0 ↔ ∃ document query, document.toUTF8 = bytes ∧
      (Query.parseWith decode document).result = .ok query := by
  constructor
  · intro succeeds
    by_contra fails
    rw [ofBytes_of_fails fails] at succeeds
    cases succeeds
  · rintro ⟨document, query, rfl, parsed⟩
    rw [ofBytes_of_ok parsed]

theorem lines_stderr (parsed : (Query.parseWith decode document).result = .ok query) :
    (ofBytes decode document.toUTF8).stderr.map Text.lines = some (query.warningLines ++ [""]) := by
  rw [ofBytes_of_ok parsed]
  dsimp only
  rw [Option.map_some, ← String.append_empty (s := joinLines query.warningLines),
    Text.lines_joinLines_append query.newline_not_mem_warningLines]
  rfl

theorem newline_not_mem_header (parsed : (Query.parseWith decode document).result = .ok query) :
    ∀ header ∈ headersOf query.name (Sections.ofDocument document).names,
      '\n' ∉ header.toList :=
  newline_not_mem_headersOf (Query.permits_name parsed) fun _ member =>
    Reading.isName_of_mem_names (List.mem_eraseDups.mp member)

theorem lines_stdout (parsed : (Query.parseWith decode document).result = .ok query) :
    Text.lines (ofBytes decode document.toUTF8).stdout =
      headersOf query.name (Sections.ofDocument document).names ++
        (Text.lines query.sql ++ [""]) := by
  rw [ofBytes_of_ok parsed]
  dsimp only
  rw [Query.listingLines, joinLines_append, Query.headerLines_eq parsed, joinLines_cons,
    joinLines_nil, String.append_empty,
    Text.lines_joinLines_append (newline_not_mem_header parsed), Text.lines_append_newline]

/-- Either a query is listed, with a warning for each finding, or nothing is. What is listed can
be read back: the lines above the statement are as many as its query has parameters, and one more
if it has a name, each parameter is told by its ordinal and its name, and the rest is the statement
and a newline. -/
theorem listings_can_be_read_back (decode : String → Option Settings) (bytes : ByteArray) :
    let listing := ofBytes decode bytes
    (listing.exitCode = 0 ↔ ∃ document query, document.toUTF8 = bytes ∧
      (Query.parseWith decode document).result = .ok query) ∧
    (listing.exitCode ≠ 0 → listing.stdout = "") ∧
    ∀ (document : String) (query : Query), document.toUTF8 = bytes →
      (Query.parseWith decode document).result = .ok query →
        let names := (Sections.ofDocument document).names
        let titles := if query.name = "" then 0 else 1
        let headers := headersOf query.name names
        listing.stderr.map Text.lines =
          some (query.findings.map (fun finding => "warning: " ++ finding.message) ++ [""]) ∧
        headers.length = titles + query.parameters.length ∧
        (∀ header ∈ headers, '\n' ∉ header.toList) ∧
        Text.lines listing.stdout = headers ++ (Text.lines query.sql ++ [""]) ∧
        statementBelow headers.length listing.stdout = query.sql ∧
        ∀ k (inNames : k < names.length),
          (Text.lines listing.stdout)[titles + k]?.bind readParameter? =
            some (k + 1, names[k]) := by
  intro listing
  refine ⟨exitCode_eq_zero_iff, ?_, ?_⟩
  · intro fails
    rw [show listing = failure from ofBytes_of_fails (exitCode_eq_zero_iff.not.mp fails)]
    rfl
  · rintro document query rfl parsed names titles headers
    have length : headers.length = titles + names.length := length_headersOf query.name names
    have lines : Text.lines listing.stdout = headers ++ (Text.lines query.sql ++ [""]) :=
      lines_stdout parsed
    refine ⟨lines_stderr parsed, ?_, newline_not_mem_header parsed, lines, ?_, ?_⟩
    · rw [length, Query.length_parameters parsed]
    · rw [statementBelow, lines, List.drop_left, List.dropLast_concat, Text.unlines_lines]
    · intro k inNames
      have inHeaders : titles + k < headers.length := by
        rw [length]
        exact Nat.add_lt_add_left inNames titles
      rw [lines, List.getElem?_append_left inHeaders, getElem?_headersOf query.name inNames,
        Option.bind_some, readParameter?_eq]

/-- A statement that begins with a comment, which looks like one more line about the query. -/
theorem listings_can_be_read_back_above_comment :
    let document := "/* pgxsql\nname = \"A\"\npgxsql */\n-- a\nselect :b, : 'é"
    let listing := ofBytes Settings.decode? document.toUTF8
    (∃ query, (Query.parseWith Settings.decode? document).result = .ok query) ∧
      listing.exitCode = 0 ∧
      listing.stderr.map Text.lines =
        some ["warning: placeholder marker at byte 16 has an empty name",
          "warning: unterminated string literal starting at byte 18", ""] ∧
      Text.lines listing.stdout =
        ["-- A", "-- $1: b", "-- $2: ", "-- a", "select $1, $2 'é", ""] ∧
      statementBelow 3 listing.stdout = "-- a\nselect $1, $2 'é" ∧
      (Text.lines listing.stdout)[2]?.bind readParameter? = some (2, "") := by
  intro document listing
  have sections : Sections.ofDocument document = ⟨"name = \"A\"", "-- a\nselect :b, : 'é"⟩ := by
    decide +kernel
  have settings : Settings.decode? "name = \"A\"" = some ⟨"", "A", []⟩ := by cbv
  have statement : (Statement.ofTemplate "-- a\nselect :b, : 'é").result =
      .ok ⟨"-- a\nselect $1, $2 'é", [⟨"b", 1, none⟩, ⟨"", 2, none⟩],
        [.emptyName 16, .unterminated .string 18]⟩ := by
    rw [Statement.result_ofTemplate]
    decide +kernel
  have parsed : (Query.parseWith Settings.decode? document).result =
      .ok ⟨"", "A", "-- a\nselect $1, $2 'é", [⟨"b", 1, none⟩, ⟨"", 2, none⟩], [],
        [.emptyName 16, .unterminated .string 18]⟩ := by
    rw [Query.result_parseWith, sections, Settings.read, settings, statement]
    rfl
  have names : (Sections.ofDocument document).names = ["b", ""] := by
    rw [sections]
    decide +kernel
  obtain ⟨accepts, -, readBack⟩ := listings_can_be_read_back Settings.decode? document.toUTF8
  obtain ⟨warnings, -, -, lines, rest, parameters⟩ := readBack document _ rfl parsed
  rw [names] at lines rest parameters
  refine ⟨⟨_, parsed⟩, accepts.mpr ⟨_, _, rfl, parsed⟩, ?_, ?_, rest, parameters 1 (by decide)⟩
  · rw [warnings]
    decide +kernel
  · rw [lines]
    decide +kernel

end Listing

end SqlTemplate
