import SqlTemplate.Proofs.Canonical

/-!
# Renaming placeholders

The names of the placeholders of a template are only labels. Other names, as long as they are names
and tell apart what the old ones do, make no difference to the statement and are given to its
parameters instead.
-/

namespace SqlTemplate

def Token.rename (label : String → String) : Token → Token
  | .text content => .text content
  | .placeholder name => .placeholder (label name)

def Parameter.rename (label : String → String) (p : Parameter) : Parameter :=
  { p with name := label p.name }

def Item.rename (label : String → String) : Item → Item
  | placeholder name => placeholder (label (String.ofList name)).toList
  | item => item

/-- Whether a placeholder can have the given name, which may be empty. -/
def IsName (name : String) : Prop :=
  ∀ c ∈ name.toList, isNameChar c

/-- Whether names can be replaced by others. The new names are names, empty only where the old one
is, and no two of the given names become the same. -/
structure Relabels (label : String → String) (names : List String) : Prop where
  isName : ∀ name, IsName name → IsName (label name)
  nonempty : ∀ name, IsName name → name ≠ "" → label name ≠ ""
  injective : ∀ first ∈ names, ∀ second ∈ names, label first = label second → first = second

theorem Relabels.of_subset {label : String → String} {names fewer : List String}
    (relabels : Relabels label names) (subset : fewer ⊆ names) : Relabels label fewer where
  isName := relabels.isName
  nonempty := relabels.nonempty
  injective first inFewer second alsoInFewer :=
    relabels.injective first (subset inFewer) second (subset alsoInFewer)

theorem not_isBlank_of_isNameChar {c : Char} (inName : isNameChar c) : ¬Text.isBlank c := by
  have bounds := toNat_of_isNameChar inName
  simp [Text.isBlank]
  omega

section Names

variable {label : String → String} {names : List String}

theorem mem_map_of_injective {name : String}
    (injective : ∀ other ∈ names, label other = label name → other = name) :
    label name ∈ names.map label ↔ name ∈ names := by
  constructor
  · intro member
    obtain ⟨other, known, same⟩ := List.mem_map.mp member
    exact injective other known same ▸ known
  · exact List.mem_map_of_mem

/-- Distinct names remain distinct, in the same order. -/
theorem eraseDups_map_of_injective
    (injective : ∀ first ∈ names, ∀ second ∈ names, label first = label second → first = second) :
    (names.map label).eraseDups = names.eraseDups.map label := by
  induction names using List.reverseRecOn with
  | nil => rfl
  | append_singleton names name inductionHypothesis =>
    have earlier (other : String) (known : other ∈ names) : other ∈ names ++ [name] :=
      List.mem_append_left _ known
    have last : name ∈ names ++ [name] := List.mem_concat_self
    have known : label name ∈ names.map label ↔ name ∈ names :=
      mem_map_of_injective fun other member => injective other (earlier other member) name last
    have rest : (names.map label).eraseDups = names.eraseDups.map label :=
      inductionHypothesis fun first inNames second alsoInNames =>
        injective first (earlier first inNames) second (earlier second alsoInNames)
    rw [List.map_append, List.map_singleton, eraseDups_concat, eraseDups_concat, rest]
    by_cases member : name ∈ names
    · rw [if_pos (known.mpr member), if_pos member]
    · rw [if_neg (known.not.mpr member), if_neg member, List.map_append, List.map_singleton]

theorem idxOf_map_of_injective {name : String}
    (injective : ∀ other ∈ names, label other = label name → other = name) :
    (names.map label).idxOf (label name) = names.idxOf name := by
  induction names with
  | nil => rfl
  | cons first names inductionHypothesis =>
    obtain ⟨atFirst, later⟩ := List.forall_mem_cons.mp injective
    rw [List.map_cons, List.idxOf_cons, List.idxOf_cons, inductionHypothesis later]
    by_cases same : first = name
    · subst same
      rw [beq_self_eq_true, beq_self_eq_true]
    · have different : label first ≠ label name := fun equal => same (atFirst equal)
      rw [beq_false_of_ne same, beq_false_of_ne different]

theorem parametersOf_map (label : String → String) (names : List String) :
    parametersOf (names.map label) = (parametersOf names).map (Parameter.rename label) := by
  apply List.ext_getElem (by simp [parametersOf])
  intro i _ _
  simp [parametersOf, Parameter.rename]

end Names

namespace Token

variable (label : String → String)

theorem prepend_map_rename (token : Token) (tokens : List Token) :
    (token.rename label).prepend (tokens.map (rename label)) =
      (token.prepend tokens).map (rename label) := by
  cases token with
  | placeholder name => rfl
  | text first =>
    cases tokens with
    | nil => rfl
    | cons next tokens => cases next <;> rfl

theorem joined_map_rename (tokens : List Token) :
    joined (tokens.map (rename label)) = (joined tokens).map (rename label) := by
  induction tokens with
  | nil => rfl
  | cons token tokens inductionHypothesis =>
    rw [List.map_cons, joined_cons, inductionHypothesis, prepend_map_rename, joined_cons]

theorem names_map_rename (tokens : List Token) :
    names (tokens.map (rename label)) = (names tokens).map label := by
  induction tokens with
  | nil => rfl
  | cons token tokens inductionHypothesis =>
    cases token with
    | text content => exact inductionHypothesis
    | placeholder name => exact congrArg (label name :: ·) inductionHypothesis

end Token

namespace Item

variable {label : String → String} {names : List String}

theorem token_rename (item : Item) : (item.rename label).token = item.token.rename label := by
  cases item with
  | placeholder name => simp [rename, token, Token.rename]
  | quoted opener body | unclosed opener body | cast | plain c => rfl

theorem map_token_map_rename (items : List Item) :
    (items.map (rename label)).map token = (items.map token).map (Token.rename label) := by
  rw [List.map_map, List.map_map]
  exact List.map_congr_left fun item _ => item.token_rename

theorem firstOf_map_rename (items : List Item) (next : Option Char) :
    firstOf (items.map (rename label)) next = firstOf items next := by
  cases items with
  | nil => rfl
  | cons item items => cases item <;> rfl

theorem IsText.rename_eq {item : Item} (isText : item.IsText) : item.rename label = item := by
  cases item with
  | placeholder name => exact absurd rfl (isText name)
  | quoted opener body | unclosed opener body | cast | plain c => rfl

theorem Fits.rename {item : Item} {next : Option Char} (relabels : Relabels label names)
    (fits : item.Fits next) : (item.rename label).Fits next := by
  cases item with
  | placeholder name =>
    obtain ⟨valid, ends, nameless⟩ := fits
    have isName : IsName (String.ofList name) := by simpa [IsName] using valid
    refine ⟨relabels.isName _ isName, ends, ?_⟩
    intro empty
    apply nameless
    by_contra named
    exact relabels.nonempty _ isName (String.ofList_eq_empty_iff.not.mpr named)
      (String.toList_eq_nil_iff.mp empty)
  | quoted opener body | unclosed opener body | cast | plain c => exact fits

theorem AllFit.map_rename {items : List Item} {next : Option Char}
    (relabels : Relabels label names) (fit : AllFit items next) :
    AllFit (items.map (Item.rename label)) next := by
  induction items with
  | nil => trivial
  | cons item items inductionHypothesis =>
    refine ⟨?_, inductionHypothesis fit.2⟩
    rw [firstOf_map_rename]
    exact fit.1.rename relabels

theorem numberedAll_map_rename {items : List Item} (relabels : Relabels label names)
    (known : ∀ name ∈ Token.names (items.map token), name ∈ names) :
    numberedAll (names.map label) (items.map (rename label)) = numberedAll names items := by
  induction items with
  | nil => rfl
  | cons item items inductionHypothesis =>
    rw [List.map_cons, numberedAll_cons, numberedAll_cons]
    by_cases isText : item.IsText
    · rw [List.map_cons, isText.token_eq, Token.names_text_cons] at known
      rw [isText.rename_eq, isText.numbered_eq, isText.numbered_eq, inductionHypothesis known]
    · obtain ⟨name, rfl⟩ := not_forall_not.mp isText
      obtain ⟨first, rest⟩ := List.forall_mem_cons.mp known
      have place : (names.map label).idxOf (label (String.ofList name)) =
          names.idxOf (String.ofList name) :=
        idxOf_map_of_injective fun other member => relabels.injective other member _ first
      rw [inductionHypothesis rest, rename, numbered, numbered, String.ofList_toList, ordinalIn,
        ordinalIn, place]

theorem unclosed_mem_map_rename {items : List Item} {opener : Opener} {body : List Char} :
    unclosed opener body ∈ items.map (rename label) ↔ unclosed opener body ∈ items := by
  rw [List.mem_map]
  constructor
  · rintro ⟨item, member, same⟩
    cases item with
    | unclosed other inner => exact same ▸ member
    | placeholder name | quoted other inner | cast | plain c => cases same
  · intro member
    exact ⟨_, member, rfl⟩

/-- Open quoted text is reported if there is an item of it. -/
theorem exists_findings_unterminated {items : List Item} {quote : Quote} :
    (∃ offset, .unterminated quote offset ∈ findings 0 items) ↔
      ∃ opener body, unclosed opener body ∈ items ∧ opener.quote = quote := by
  constructor
  · rintro ⟨offset, reported⟩
    obtain ⟨front, item, back, rfl, found⟩ := mem_findings.mp reported
    obtain ⟨opener, body, rfl, same, -⟩ := finding?_eq_unterminated found
    exact ⟨opener, body, List.mem_append_right _ List.mem_cons_self, same⟩
  · rintro ⟨opener, body, member, rfl⟩
    obtain ⟨front, back, rfl⟩ := List.append_of_mem member
    exact ⟨_, mem_findings.mpr ⟨front, _, back, rfl, rfl⟩⟩

theorem AllFit.isName {items : List Item} {next : Option Char} (fit : AllFit items next)
    {name : List Char} (member : placeholder name ∈ items) : IsName (String.ofList name) := by
  obtain ⟨after, valid, -⟩ := fit.exists_fits member
  simpa [IsName] using valid

theorem trimmed_text_placeholder {name : String} (isName : IsName name) :
    Text.Trimmed (placeholder name.toList).text where
  head c member := by
    obtain rfl := Option.some.inj member
    decide
  last c member := by
    rcases List.mem_cons.mp (List.mem_of_getLast? member) with rfl | inName
    · decide
    · exact not_isBlank_of_isNameChar (isName c inName)

/-- A trimmed text with other names is trimmed. -/
theorem Reads.trimmed_map_rename {items : List Item} {text : List Char} (reads : Reads items text)
    (trimmed : Text.Trimmed text) (relabels : Relabels label names) :
    Text.Trimmed (textOf (items.map (rename label))) := by
  rw [textOf, List.flatMap_map]
  apply reads.trimmed_flatMap trimmed
  case unchanged =>
    intro item isText
    rw [isText.rename_eq]
  case replaced =>
    intro name member
    exact ⟨text_ne_nil _, trimmed_text_placeholder (relabels.isName _ (reads.fit.isName member))⟩

end Item

namespace Statement

/-- The names of placeholders are only labels. Other names for them make no difference to what a
statement says, and its parameters differ in their names alone. -/
theorem names_are_only_labels {template : String} {label : String → String}
    (relabels :
      Relabels label (Token.names (Reading.ofTemplate (Text.trim template)).tokens)) :
    let reading := Reading.ofTemplate (Text.trim template)
    let renamed := Token.renderAll (reading.tokens.map (Token.rename label))
    (Reading.ofTemplate renamed).tokens = reading.tokens.map (Token.rename label) ∧
      (ofTemplate renamed).result.map (fun s => (s.sql, s.parameters)) =
        (ofTemplate template).result.map
          (fun s => (s.sql, s.parameters.map (Parameter.rename label))) ∧
      ∀ quote,
        (∃ offset, .unterminated quote offset ∈ (Reading.ofTemplate renamed).findings) ↔
          ∃ offset, .unterminated quote offset ∈ reading.findings := by
  intro reading renamed
  obtain ⟨items, reads⟩ := Item.exists_reads (Text.trim template).toList
  have ofTrimmed : reading = ⟨Token.joined (items.map Item.token), Item.findings 0 items⟩ :=
    Reading.ofTemplate_of_reads reads
  have relabelsItems : Relabels label (Token.names (items.map Item.token)) := by
    rwa [Reading.ofTemplate_of_reads reads, Token.names_joined] at relabels
  have relabelsDistinct := relabelsItems.of_subset fun _ => List.mem_eraseDups.mp
  have tokens : reading.tokens.map (Token.rename label) =
      Token.joined ((items.map (Item.rename label)).map Item.token) := by
    rw [ofTrimmed, Item.map_token_map_rename, Token.joined_map_rename]
  have readsRenamed : Item.Reads (items.map (Item.rename label)) renamed.toList := by
    refine ⟨?_, reads.fit.map_rename relabels⟩
    rw [← Item.toList_renderAll_map_token, ← Token.renderAll_joined, ← tokens]
  refine ⟨?_, ?_, ?_⟩
  · rw [Reading.ofTemplate_of_reads readsRenamed, tokens]
  · have trimmed : Text.Trimmed renamed.toList :=
      readsRenamed.text ▸ reads.trimmed_map_rename (Text.trimmed_trim template) relabels
    rw [result_of_reads reads, result_of_reads (trimmed.trim_eq.symm ▸ readsRenamed),
      Item.map_token_map_rename, Token.names_map_rename,
      eraseDups_map_of_injective relabelsItems.injective]
    dsimp only
    rw [Item.numberedAll_map_rename relabelsDistinct fun _ => List.mem_eraseDups.mpr,
      parametersOf_map, List.length_map]
    split <;> rfl
  · intro quote
    rw [Reading.ofTemplate_of_reads readsRenamed, ofTrimmed]
    simp only [Item.exists_findings_unterminated, Item.unclosed_mem_map_rename]

/-- New names that end in the letter of escape strings, one of them for a placeholder that had no
name, in front of quoted text, a cast and the end of the template. -/
theorem names_are_only_labels_before_quotes :
    let label := fun name => name ++ "e"
    Relabels label
        (Token.names (Reading.ofTemplate (Text.trim " :a'it' = : or :a::int 'x ")).tokens) ∧
      (Reading.ofTemplate ":ae'it' = :e or :ae::int 'x").tokens =
        [.placeholder "ae", .text "'it' = ", .placeholder "e", .text " or ", .placeholder "ae",
          .text "::int 'x"] ∧
      (ofTemplate ":ae'it' = :e or :ae::int 'x").result.map (fun s => (s.sql, s.parameters)) =
        .ok ("$1'it' = $2 or $1::int 'x", [⟨"ae", 1, none⟩, ⟨"e", 2, none⟩]) ∧
      ∃ offset, .unterminated .string offset ∈
        (Reading.ofTemplate ":ae'it' = :e or :ae::int 'x").findings := by
  intro label
  have relabels (names : List String) : Relabels label names := by
    constructor
    case isName =>
      intro name isName c member
      rw [String.toList_append, List.mem_append] at member
      rcases member with inName | last
      · exact isName c inName
      · obtain rfl := List.mem_singleton.mp last
        decide
    case nonempty => exact fun name _ _ => by simp [label]
    case injective => exact fun first _ second _ same => by simpa [label] using same
  have reading : Reading.ofTemplate (Text.trim " :a'it' = : or :a::int 'x ") =
      ⟨[.placeholder "a", .text "'it' = ", .placeholder "", .text " or ", .placeholder "a",
        .text "::int 'x"], [.emptyName 9, .unterminated .string 22]⟩ := by
    decide +kernel
  have result : (ofTemplate " :a'it' = : or :a::int 'x ").result =
      .ok ⟨"$1'it' = $2 or $1::int 'x", [⟨"a", 1, none⟩, ⟨"", 2, none⟩],
        [.emptyName 9, .unterminated .string 22]⟩ := by
    rw [result_ofTemplate]
    decide +kernel
  obtain ⟨tokens, same, terminated⟩ := names_are_only_labels
    (relabels (Token.names (Reading.ofTemplate (Text.trim " :a'it' = : or :a::int 'x ")).tokens))
  rw [reading] at tokens same terminated
  rw [result] at same
  exact ⟨relabels _, tokens, same, (terminated .string).mpr ⟨22, by decide⟩⟩

end Statement

end SqlTemplate
