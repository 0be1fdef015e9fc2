import Mathlib.Data.List.Infix
import Mathlib.Logic.ExistsUnique
import SqlTemplate.Document

/-!
# The division of a document

A document is divided by its blocks in exactly one way. The first character of a marker stands
nowhere else in it, so that markers do not overlap; and a block anywhere in a text means that the
first opening marker of the text opens one.
-/

namespace SqlTemplate

namespace Text

/-- Whether the first character of a text stands nowhere else in it. Occurrences of such a text
do not overlap. -/
def IsMarker : List Char → Prop
  | [] => False
  | m :: marker => m ∉ marker

instance : (text : List Char) → Decidable (IsMarker text)
  | [] => isFalse id
  | m :: marker => inferInstanceAs (Decidable (m ∉ marker))

theorem IsMarker.ne_nil {marker : List Char} (isMarker : IsMarker marker) : marker ≠ [] := by
  rintro rfl
  exact isMarker

theorem after?_append (marker after : List Char) : after? marker (marker ++ after) = some after := by
  induction marker with
  | nil => rfl
  | cons m marker inductionHypothesis =>
    rw [List.cons_append, after?, if_pos rfl, inductionHypothesis]

theorem prefix_of_prefix_append_cons {m : Char} {marker before rest : List Char}
    (elsewhere : m ∉ marker) (start : marker <+: before ++ m :: rest) : marker <+: before := by
  rcases List.prefix_or_prefix_of_prefix start (List.prefix_append before (m :: rest)) with
    inside | ⟨overlap, rfl⟩
  · exact inside
  · rw [List.prefix_append_right_inj] at start
    cases overlap with
    | nil => rw [List.append_nil]
    | cons c overlap =>
      obtain ⟨rfl, -⟩ := List.cons_prefix_cons.mp start
      exact absurd (List.mem_append_right _ List.mem_cons_self) elsewhere

theorem cutFrom?_append {marker before : List Char} (isMarker : IsMarker marker)
    (absent : ¬marker <:+: before) (scanned after : List Char) :
    cutFrom? marker scanned (before ++ (marker ++ after)) =
      some (scanned.reverse ++ before, after) := by
  induction before generalizing scanned with
  | nil =>
    unfold cutFrom?
    rw [List.nil_append, after?_append, List.append_nil]
  | cons c before inductionHypothesis =>
    obtain ⟨notHere, notLater⟩ := not_or.mp (List.infix_cons_iff.not.mp absent)
    have skips : after? marker (c :: before ++ (marker ++ after)) = none := by
      rw [Option.eq_none_iff_forall_ne_some]
      intro rest found
      cases marker with
      | nil => exact isMarker.ne_nil rfl
      | cons m marker =>
        -- Past its first character the marker would have to lie within the text before it.
        obtain ⟨rfl, split⟩ := List.cons.inj (eq_append_of_after? found)
        have start : marker <+: before ++ c :: (marker ++ after) := ⟨rest, split.symm⟩
        have inside := prefix_of_prefix_append_cons isMarker start
        exact notHere (List.cons_prefix_cons.mpr ⟨rfl, inside⟩)
    unfold cutFrom?
    rw [skips, List.cons_append]
    dsimp only
    rw [inductionHypothesis notLater, List.reverse_cons, List.append_assoc, List.singleton_append]

/-- A text is cut at the first place where the marker occurs, or before that place. -/
theorem exists_cutFrom? (marker scanned front back : List Char) :
    ∃ before after,
      cutFrom? marker scanned (front ++ (marker ++ back)) = some (before, after) ∧
        back <:+ after := by
  induction front generalizing scanned with
  | nil =>
    unfold cutFrom?
    rw [List.nil_append, after?_append]
    exact ⟨_, back, rfl, List.suffix_rfl⟩
  | cons c front inductionHypothesis =>
    unfold cutFrom?
    split
    · next after found =>
      have split := eq_append_of_after? found
      refine ⟨_, after, rfl, ?_⟩
      have backIsLast : back <:+ marker ++ after :=
        ⟨c :: front ++ marker, by rw [← split, List.append_assoc]⟩
      have shorter : back.length ≤ after.length := by
        have lengths := congrArg List.length split
        simp only [List.length_append, List.length_cons] at lengths
        omega
      exact List.suffix_of_suffix_length_le backIsLast (List.suffix_append marker after) shorter
    · exact inductionHypothesis (c :: scanned)

theorem exists_cut? (marker front back : List Char) :
    ∃ before after, cut? marker (front ++ (marker ++ back)) = some (before, after) ∧
      back <:+ after :=
  exists_cutFrom? marker [] front back

/-- A text is cut at a marker where the marker first occurs. -/
theorem cut?_eq_some_iff {marker text before after : List Char} (isMarker : IsMarker marker) :
    cut? marker text = some (before, after) ↔
      text = before ++ (marker ++ after) ∧ ¬marker <:+: before := by
  constructor
  · intro found
    have split := eq_append_of_cut? found
    refine ⟨split, ?_⟩
    rintro ⟨front, back, rfl⟩
    -- The earlier marker would be followed by more than what follows the cut.
    obtain ⟨_, rest, cutThere, more⟩ := exists_cut? marker front (back ++ (marker ++ after))
    have sameText : text = front ++ (marker ++ (back ++ (marker ++ after))) := by
      rw [split]
      simp only [List.append_assoc]
    rw [← sameText, found] at cutThere
    obtain ⟨-, rfl⟩ := Prod.mk.inj (Option.some.inj cutThere)
    have longer := more.length_le
    have nonempty := List.length_pos_iff.mpr isMarker.ne_nil
    simp only [List.length_append] at longer
    omega
  · rintro ⟨rfl, absent⟩
    exact cutFrom?_append isMarker absent [] after

end Text

/-- Whether there is a complete block anywhere in a text. -/
def HasBlock (text : List Char) : Prop :=
  ∃ body, body ≠ [] ∧ blockOpen ++ (body ++ blockClose) <:+: text

namespace Block

/-- A block as it stands in a document, with the text before it. -/
def text (block : Block) : List Char :=
  block.before ++ (blockOpen ++ (block.body ++ blockClose))

/-- Whether a block is the first one of its text and ends where it first can. -/
structure Proper (block : Block) : Prop where
  before : ¬blockOpen <:+: block.before
  nonempty : block.body ≠ []
  body : ¬blockClose <:+: block.body.tail

theorem next?_eq_some_iff {text after : List Char} {block : Block} :
    next? text = some (block, after) ↔ text = block.text ++ after ∧ block.Proper := by
  constructor
  · intro found
    unfold next? at found
    split at found
    · next before c inner opened =>
      split at found
      · next body rest closed =>
        obtain ⟨rfl, rfl⟩ := Prod.mk.inj (Option.some.inj found)
        obtain ⟨rfl, openAbsent⟩ := (Text.cut?_eq_some_iff (by decide)).mp opened
        obtain ⟨rfl, closeAbsent⟩ := (Text.cut?_eq_some_iff (by decide)).mp closed
        exact ⟨by simp [Block.text], openAbsent, List.cons_ne_nil c body, closeAbsent⟩
      · cases found
    · cases found
  · rintro ⟨rfl, proper⟩
    obtain ⟨before, body⟩ := block
    obtain ⟨c, rest, rfl⟩ := List.exists_cons_of_ne_nil proper.nonempty
    have opened : Text.cut? blockOpen (Block.text ⟨before, c :: rest⟩ ++ after) =
        some (before, c :: (rest ++ (blockClose ++ after))) :=
      (Text.cut?_eq_some_iff (by decide)).mpr ⟨by simp [Block.text], proper.before⟩
    have closed : Text.cut? blockClose (rest ++ (blockClose ++ after)) = some (rest, after) :=
      (Text.cut?_eq_some_iff (by decide)).mpr ⟨rfl, proper.body⟩
    simp only [next?, opened, closed]

theorem exists_next? {text : List Char} (block : HasBlock text) :
    ∃ first after, next? text = some (first, after) := by
  obtain ⟨body, nonempty, front, back, rfl⟩ := block
  obtain ⟨c, body, rfl⟩ := List.exists_cons_of_ne_nil nonempty
  obtain ⟨before, inner, opened, later⟩ :=
    Text.exists_cut? blockOpen front (c :: body ++ (blockClose ++ back))
  -- What follows the first opening marker holds the closing marker of the later block, and at
  -- least one character before it.
  obtain ⟨extra, rfl⟩ := later
  obtain ⟨d, extra, shape⟩ : ∃ d extra', extra ++ (c :: body ++ (blockClose ++ back)) =
      d :: (extra' ++ (blockClose ++ back)) := by
    cases extra with
    | nil => exact ⟨c, body, rfl⟩
    | cons d extra => exact ⟨d, extra ++ c :: body, by simp⟩
  obtain ⟨rest, after, closed, -⟩ := Text.exists_cut? blockClose extra back
  refine ⟨⟨before, d :: rest⟩, after, ?_⟩
  rw [shape] at opened
  have regrouped : front ++ (blockOpen ++ (c :: body ++ blockClose)) ++ back =
      front ++ (blockOpen ++ (c :: body ++ (blockClose ++ back))) := by
    simp only [List.append_assoc]
  rw [regrouped]
  simp only [next?, opened, closed]

theorem next?_eq_none_iff {text : List Char} : next? text = none ↔ ¬HasBlock text := by
  constructor
  · intro missing block
    obtain ⟨first, after, found⟩ := exists_next? block
    cases missing.symm.trans found
  · intro noBlock
    rw [Option.eq_none_iff_forall_ne_some]
    rintro ⟨block, after⟩ found
    obtain ⟨rfl, proper⟩ := next?_eq_some_iff.mp found
    exact noBlock ⟨block.body, proper.nonempty, block.before, after, by simp [Block.text]⟩

end Block

namespace Layout

/-- The document that has a layout. -/
def text (layout : Layout) : List Char :=
  layout.blocks.flatMap Block.text ++ layout.rest

/-- The ways to divide a document into blocks and the text around them. -/
structure Divides (layout : Layout) (document : List Char) : Prop where
  text : layout.text = document
  blocks : ∀ block ∈ layout.blocks, block.Proper
  rest : ¬HasBlock layout.rest

theorem exists_divides (document : List Char) : ∃ layout : Layout, layout.Divides document := by
  match found : Block.next? document with
  | none => exact ⟨⟨[], document⟩, rfl, nofun, Block.next?_eq_none_iff.mp found⟩
  | some (block, after) =>
    have shorter := Block.length_of_next? found
    obtain ⟨split, proper⟩ := Block.next?_eq_some_iff.mp found
    obtain ⟨layout, divides⟩ := exists_divides after
    refine ⟨⟨block :: layout.blocks, layout.rest⟩, ?_, ?_, divides.rest⟩
    · rw [split, ← divides.text, text, text, List.flatMap_cons, List.append_assoc]
    · exact List.forall_mem_cons.mpr ⟨proper, divides.blocks⟩
termination_by document.length
decreasing_by exact shorter

theorem extend_of_divides {layout : Layout} {document : List Char}
    (divides : layout.Divides document) (seen : List Block) :
    extend seen document = ⟨seen.reverse ++ layout.blocks, layout.rest⟩ := by
  obtain ⟨blocks, rest⟩ := layout
  obtain ⟨rfl, proper, noBlock⟩ := divides
  induction blocks generalizing seen with
  | nil =>
    have last : Block.next? (text ⟨[], rest⟩) = none := Block.next?_eq_none_iff.mpr noBlock
    rw [extend]
    split
    · next found => cases last.symm.trans found
    · rw [List.append_nil]
      rfl
  | cons block blocks inductionHypothesis =>
    obtain ⟨first, others⟩ := List.forall_mem_cons.mp proper
    have next : Block.next? (text ⟨block :: blocks, rest⟩) = some (block, text ⟨blocks, rest⟩) :=
      Block.next?_eq_some_iff.mpr ⟨by simp [text], first⟩
    rw [extend]
    split
    · next found =>
      obtain ⟨rfl, rfl⟩ := Prod.mk.inj (Option.some.inj (next.symm.trans found))
      rw [inductionHypothesis (block :: seen) others noBlock, List.reverse_cons, List.append_assoc,
        List.singleton_append]
    · next missing => cases next.symm.trans missing

theorem ofText_of_divides {layout : Layout} {document : List Char}
    (divides : layout.Divides document) : ofText document = layout :=
  extend_of_divides divides []

theorem toList_addBody {settings : String} (started : settings ≠ "") (body : List Char) :
    (addBody settings body).toList = settings.toList ++ '\n' :: body := by
  have goesOn : settings.isEmpty = false := by simpa using started
  simp [addBody, goesOn]

theorem toList_foldl_addBody {settings : String} (started : settings ≠ "")
    (bodies : List (List Char)) :
    (bodies.foldl addBody settings).toList = ['\n'].intercalate (settings.toList :: bodies) := by
  induction bodies generalizing settings with
  | nil => simp
  | cons body bodies inductionHypothesis =>
    have goesOn : addBody settings body ≠ "" := by
      rw [Ne, ← String.toList_eq_nil_iff, toList_addBody started]
      simp
    rw [List.foldl_cons, inductionHypothesis goesOn, toList_addBody started]
    cases bodies <;> simp [List.intercalate_cons_cons]

/-- As no body is empty, bodies collected one after the other are bodies joined by newlines. -/
theorem toList_settings {layout : Layout} (nonempty : ∀ block ∈ layout.blocks, block.body ≠ []) :
    layout.settings.toList = ['\n'].intercalate (layout.blocks.map Block.body) := by
  unfold settings
  cases blocks : layout.blocks with
  | nil => simp
  | cons block others =>
    rw [blocks] at nonempty
    have first : addBody "" block.body = String.ofList block.body := by simp [addBody]
    have started : String.ofList block.body ≠ "" := by
      rw [Ne, ← String.toList_eq_nil_iff, String.toList_ofList]
      exact nonempty block List.mem_cons_self
    rw [List.map_cons, List.foldl_cons, first, toList_foldl_addBody started,
      String.toList_ofList]

end Layout

theorem Sections.ofDocument_of_divides {document : String} {layout : Layout}
    (divides : layout.Divides document.toList) :
    ofDocument document =
      ⟨Text.trim layout.settings, Text.trim (String.ofList layout.template)⟩ := by
  rw [ofDocument, Layout.ofText_of_divides divides]

theorem Sections.ofDocument_of_not_hasBlock {document : String}
    (noBlock : ¬HasBlock document.toList) : ofDocument document = ⟨"", Text.trim document⟩ := by
  have divides : Layout.Divides ⟨[], document.toList⟩ document.toList := ⟨rfl, nofun, noBlock⟩
  rw [ofDocument_of_divides divides, Layout.template, List.flatMap_nil, List.nil_append,
    String.ofList_toList]
  rfl

/-- Every document is divided by its blocks in exactly one way. Its settings are the bodies of the
blocks, joined by newlines, and its template is all the rest, joined as it stands; both are
trimmed. -/
theorem Sections.document_divides_uniquely (document : String) :
    (∃! layout : Layout, layout.Divides document.toList) ∧
      ∀ layout : Layout, layout.Divides document.toList →
        Sections.ofDocument document =
          { settings := Text.trim
              (String.ofList (['\n'].intercalate (layout.blocks.map Block.body)))
            template := Text.trim
              (String.ofList (layout.blocks.flatMap Block.before ++ layout.rest)) } := by
  constructor
  · obtain ⟨layout, divides⟩ := Layout.exists_divides document.toList
    refine ⟨layout, divides, ?_⟩
    intro other otherDivides
    rw [← Layout.ofText_of_divides divides, Layout.ofText_of_divides otherDivides]
  · intro layout divides
    have nonempty : ∀ block ∈ layout.blocks, block.body ≠ [] := fun block member =>
      (divides.blocks block member).nonempty
    rw [ofDocument, Layout.ofText_of_divides divides, ← Layout.toList_settings nonempty,
      String.ofList_toList]
    rfl

/-- A closing marker right after an opening one belongs to the body, and an opening marker that is
never closed belongs to the template. -/
theorem Sections.document_divides_uniquely_at_touching_markers :
    let document := "a /* pgxsqlpgxsql */ x pgxsql */b/* pgxsql\npgxsql */ /* pgxsql"
    let layout : Layout :=
      ⟨[⟨['a', ' '], "pgxsql */ x ".toList⟩, ⟨['b'], ['\n']⟩], " /* pgxsql".toList⟩
    layout.Divides document.toList ∧
      Sections.ofDocument document = ⟨"pgxsql */ x", "a b /* pgxsql"⟩ := by
  intro document layout
  have divides : layout.Divides document.toList := by
    constructor
    case text => decide
    case blocks =>
      refine List.forall_mem_cons.mpr ⟨⟨?_, ?_, ?_⟩, List.forall_mem_singleton.mpr ⟨?_, ?_, ?_⟩⟩
      all_goals decide
    case rest => exact Block.next?_eq_none_iff.mp (by decide)
  refine ⟨divides, ?_⟩
  rw [(document_divides_uniquely document).2 layout divides]
  decide +kernel

end SqlTemplate
