import SqlTemplate.Proofs.Blocks
import SqlTemplate.Proofs.Bytes

/-!
# No slice fails

The markers of a block are ASCII, so that their bytes stand in a text only where they do
themselves. A search for their bytes finds the places between characters at which a text is cut,
and dividing a document by slices never fails. Neither does scanning a template by bytes.
-/

namespace SqlTemplate

namespace Text

/-- The first place in a text at which the bytes of a marker stand. -/
def find? (marker : List Char) (text : String) : Option Nat :=
  (utf8 text).tails.findIdx? (marker.flatMap String.utf8EncodeChar).isPrefixOf

/-- Whether the bytes of a marker stand at a place. -/
def OccursAt (marker : List Char) (text : String) (place : Nat) : Prop :=
  marker.flatMap String.utf8EncodeChar <+: (utf8 text).drop place

variable {marker rest : List Char} {text : String} {place : Nat}

theorem find?_eq_some_iff :
    find? marker text = some place ↔
      place ≤ text.utf8ByteSize ∧ OccursAt marker text place ∧
        ∀ earlier < place, ¬OccursAt marker text earlier := by
  simp only [find?, List.findIdx?_eq_some_iff_getElem, List.length_tails, List.getElem_tails,
    List.isPrefixOf_iff_prefix, length_utf8, Nat.lt_succ_iff, exists_prop, OccursAt]

theorem Ahead.occursAt (ahead : Ahead text place (marker ++ rest)) :
    OccursAt marker text place := by
  obtain ⟨front, split, rfl⟩ := ahead
  rw [OccursAt, utf8_eq, split, List.flatMap_append, List.flatMap_append,
    ← length_flatMap_utf8EncodeChar, List.drop_left]
  exact List.prefix_append _ _

theorem OccursAt.of_cons {m : Char} (occurs : OccursAt (m :: marker) text place)
    (ascii : IsAscii m) :
    byte? text place = some m.toUInt8 ∧ OccursAt marker text (place + 1) := by
  obtain ⟨back, split⟩ := occurs
  rw [List.flatMap_cons, utf8EncodeChar_of_isAscii ascii] at split
  constructor
  · have first : byte? text place = ((utf8 text).drop place)[0]? := by
      rw [List.getElem?_drop]
      rfl
    rw [first, ← split]
    rfl
  · rw [OccursAt, ← List.tail_drop, ← split]
    exact List.prefix_append _ _

/-- A place within a text lies at a character or within one. -/
theorem Ahead.exists_of_lt (ahead : Ahead text place rest) {inside : Nat} (le : place ≤ inside)
    (lt : inside < text.utf8ByteSize) :
    ∃ edge d after i, Ahead text edge (d :: after) ∧ i < d.utf8Size ∧ inside = edge + i := by
  induction rest generalizing place with
  | nil =>
    have size := ahead.add_bytes
    rw [bytes_nil] at size
    omega
  | cons d rest inductionHypothesis =>
    by_cases here : inside < place + d.utf8Size
    · exact ⟨place, d, rest, inside - place, ahead, by omega, by omega⟩
    · exact inductionHypothesis ahead.tail (Nat.le_of_not_lt here)

theorem exists_ahead_of_byte? {mark : Char} (ascii : IsAscii mark)
    (found : byte? text place = some mark.toUInt8) : ∃ rest, Ahead text place (mark :: rest) := by
  have inside : place < text.utf8ByteSize := by
    rw [← length_utf8]
    exact (List.getElem?_eq_some_iff.mp found).1
  obtain ⟨edge, d, rest, i, ahead, within, rfl⟩ :=
    (Ahead.start text).exists_of_lt (Nat.zero_le place) inside
  obtain ⟨byte, member, here⟩ := ahead.byte?_of_lt within
  obtain rfl := Option.some.inj (here.symm.trans found)
  obtain rfl := eq_of_mem_utf8EncodeChar ascii member
  obtain rfl : i = 0 := by
    rw [ascii] at within
    omega
  exact ⟨rest, ahead⟩

theorem OccursAt.exists_eq_append (occurs : OccursAt marker text place)
    (ascii : ∀ d ∈ marker, IsAscii d) (ahead : Ahead text place rest) :
    ∃ after, rest = marker ++ after := by
  induction marker generalizing place rest with
  | nil => exact ⟨rest, rfl⟩
  | cons m marker inductionHypothesis =>
    obtain ⟨first, others⟩ := List.forall_mem_cons.mp ascii
    obtain ⟨found, later⟩ := occurs.of_cons first
    obtain ⟨tail, rfl⟩ := List.head?_eq_some_iff.mp ((ahead.byte?_eq_some_iff first).mp found)
    obtain ⟨after, rfl⟩ := inductionHypothesis later others (ahead.tail_of_isAscii first)
    exact ⟨after, rfl⟩

/-- The bytes of an ASCII marker stand only where the marker does. -/
theorem OccursAt.exists_ahead (occurs : OccursAt marker text place)
    (ascii : ∀ d ∈ marker, IsAscii d) (nonempty : marker ≠ []) :
    ∃ after, Ahead text place (marker ++ after) := by
  obtain ⟨m, others, rfl⟩ := List.exists_cons_of_ne_nil nonempty
  have first : IsAscii m := ascii m List.mem_cons_self
  obtain ⟨rest, ahead⟩ := exists_ahead_of_byte? first (occurs.of_cons first).1
  obtain ⟨after, split⟩ := occurs.exists_eq_append ascii ahead
  exact ⟨after, split ▸ ahead⟩

/-- The bytes of a marker are found where the text is cut at the marker. -/
theorem find?_eq_map_cut? (isMarker : IsMarker marker) (ascii : ∀ d ∈ marker, IsAscii d) :
    find? marker text = (cut? marker text.toList).map fun (before, _) => bytes before := by
  cases cut : cut? marker text.toList with
  | none =>
    rw [Option.map_none, Option.eq_none_iff_forall_ne_some]
    intro place found
    obtain ⟨-, occurs, -⟩ := find?_eq_some_iff.mp found
    obtain ⟨after, front, split, -⟩ := occurs.exists_ahead ascii isMarker.ne_nil
    obtain ⟨before, rest, cutThere, -⟩ := exists_cut? marker front after
    rw [← split, cut] at cutThere
    cases cutThere
  | some parts =>
    obtain ⟨before, after⟩ := parts
    have split := eq_append_of_cut? cut
    have ahead : Ahead text (bytes before) (marker ++ after) := ⟨before, split, rfl⟩
    have size := ahead.add_bytes
    rw [Option.map_some, find?_eq_some_iff]
    refine ⟨Nat.le_of_add_right_le (Nat.le_of_eq size), ahead.occursAt, ?_⟩
    intro earlier less occurs
    -- The text would have been cut at the earlier place.
    obtain ⟨rest, front, splitToo, rfl⟩ := occurs.exists_ahead ascii isMarker.ne_nil
    obtain ⟨_, _, cutThere, more⟩ := exists_cut? marker front rest
    rw [← splitToo, cut] at cutThere
    obtain ⟨rfl, rfl⟩ := Prod.mk.inj (Option.some.inj cutThere)
    have start : before <+: front := by
      apply List.prefix_of_prefix_length_le ⟨_, split.symm⟩ ⟨_, splitToo.symm⟩
      have lengths := congrArg List.length (split.symm.trans splitToo)
      have shorter := more.length_le
      simp only [List.length_append] at lengths
      omega
    obtain ⟨between, rfl⟩ := start
    rw [bytes_append] at less
    exact absurd less (Nat.not_lt.mpr (Nat.le_add_right _ _))

theorem Ahead.slice_toEnd (ahead : Ahead text place rest) :
    slice text place text.utf8ByteSize = .ok (String.ofList rest) := by
  have size := ahead.add_bytes
  rw [← List.append_nil rest] at ahead
  rw [← size]
  exact ahead.slice_eq

end Text

namespace Block

open Text

/-- The first block of a text and what follows it, by the places of the markers. -/
def sliceNext? (text : String) : Except Panic (Option (Block × String)) :=
  match find? blockOpen text with
  | none => .ok none
  | some opening => do
    let bodyStart := opening + bytes blockOpen
    let inner ← slice text bodyStart text.utf8ByteSize
    match inner.toList.head? with
    | none => return none
    | some c =>
      -- The body holds at least one character.
      let closeFrom := bodyStart + c.utf8Size
      let rest ← slice text closeFrom text.utf8ByteSize
      match find? blockClose rest with
      | none => return none
      | some offset =>
        let closing := closeFrom + offset
        let before ← slice text 0 opening
        let body ← slice text bodyStart closing
        let after ← slice text (closing + bytes blockClose) text.utf8ByteSize
        return some (⟨before.toList, body.toList⟩, after)

theorem isAscii_of_all {characters : List Char}
    (small : (characters.all fun d => d.toNat ≤ 127) = true) : ∀ d ∈ characters, IsAscii d :=
  fun d member => isAscii_iff.mpr (of_decide_eq_true (List.all_eq_true.mp small d member))

theorem sliceNext?_eq (text : String) :
    sliceNext? text = .ok ((next? text.toList).map fun (block, after) =>
      (block, String.ofList after)) := by
  rw [sliceNext?, find?_eq_map_cut? (by decide) (isAscii_of_all (by decide)), next?]
  cases opened : cut? blockOpen text.toList with
  | none => rfl
  | some parts =>
    obtain ⟨before, inner⟩ := parts
    have ahead : Ahead text (bytes before) (blockOpen ++ inner) :=
      ⟨before, eq_append_of_cut? opened, rfl⟩
    have sliced := ahead.append.slice_toEnd
    dsimp only [Option.map_some]
    rw [bind_of_eq_ok sliced, String.toList_ofList]
    cases inner with
    | nil => rfl
    | cons c inner =>
      have slicedRest := ahead.append.tail.slice_toEnd
      dsimp only [List.head?_cons]
      rw [bind_of_eq_ok slicedRest,
        find?_eq_map_cut? (by decide) (isAscii_of_all (by decide)), String.toList_ofList]
      cases closed : cut? blockClose inner with
      | none => rfl
      | some parts =>
        obtain ⟨body, after⟩ := parts
        have parts := eq_append_of_cut? closed
        have slicedBefore : slice text 0 (bytes before) = .ok (String.ofList before) := by
          have start := Ahead.start text
          rw [eq_append_of_cut? opened] at start
          have taken := start.slice_eq
          rwa [Nat.zero_add] at taken
        have bodyAhead := ahead.append
        rw [parts, ← List.cons_append] at bodyAhead
        have slicedBody := bodyAhead.slice_eq
        have slicedAfter := bodyAhead.append.append.slice_toEnd
        rw [bytes_cons, ← Nat.add_assoc] at slicedBody slicedAfter
        dsimp only [Option.map_some]
        rw [bind_of_eq_ok slicedBefore, bind_of_eq_ok slicedBody, bind_of_eq_ok slicedAfter,
          String.toList_ofList, String.toList_ofList]
        rfl

theorem next?_of_sliceNext? {text after : String} {block : Block}
    (found : sliceNext? text = .ok (some (block, after))) :
    next? text.toList = some (block, after.toList) := by
  obtain ⟨⟨first, rest⟩, next, same⟩ :=
    Option.map_eq_some_iff.mp (Except.ok.inj ((sliceNext?_eq text).symm.trans found))
  obtain ⟨rfl, rfl⟩ := Prod.mk.inj same
  rw [next, String.toList_ofList]

/-- What follows a block is shorter than the text that the block stands in. -/
theorem utf8ByteSize_of_sliceNext? {text after : String} {block : Block}
    (found : sliceNext? text = .ok (some (block, after))) :
    after.utf8ByteSize < text.utf8ByteSize := by
  obtain ⟨split, -⟩ := next?_eq_some_iff.mp (next?_of_sliceNext? found)
  have marker : bytes blockOpen = 9 := by decide
  rw [utf8ByteSize_eq_bytes, utf8ByteSize_eq_bytes, split, Block.text]
  simp only [bytes_append]
  omega

end Block

open Text

/-- Takes a text apart by slices, the blocks already seen being given latest first. -/
def Layout.slice (seen : List Block) (text : String) : Except Panic Layout :=
  match _ : Block.sliceNext? text with
  | .error panic => .error panic
  | .ok none => .ok ⟨seen.reverse, text.toList⟩
  | .ok (some (block, after)) => slice (block :: seen) after
termination_by text.utf8ByteSize
decreasing_by exact Block.utf8ByteSize_of_sliceNext? ‹_›

theorem Layout.slice_eq (seen : List Block) (text : String) :
    slice seen text = .ok (extend seen text.toList) := by
  fun_induction slice seen text with
  | case1 seen text panic failed => cases failed.symm.trans (Block.sliceNext?_eq text)
  | case2 seen text ended =>
    have none := Except.ok.inj ((Block.sliceNext?_eq text).symm.trans ended)
    have missing := Option.map_eq_none_iff.mp none
    rw [extend]
    split
    · next found => cases missing.symm.trans found
    · rfl
  | case3 seen text block after found inductionHypothesis =>
    have next := Block.next?_of_sliceNext? found
    rw [inductionHypothesis]
    conv_rhs => rw [extend]
    split
    · next first rest foundToo =>
      obtain ⟨rfl, rfl⟩ := Prod.mk.inj (Option.some.inj (next.symm.trans foundToo))
      rfl
    · next missing => cases next.symm.trans missing

/-- The two halves of a document, taken by slices. -/
def Sections.slice (document : String) : Except Panic Sections :=
  (Layout.slice [] document).map fun layout =>
    { settings := trim layout.settings
      template := trim (String.ofList layout.template) }

theorem Sections.slice_eq (document : String) : slice document = .ok (ofDocument document) := by
  rw [slice, Layout.slice_eq]
  rfl

/-- A template can be scanned byte by byte and a document be divided by slices without a slice that
fails and without a place before the start, and both give what reading characters gives. On the way
the start is never behind the place, both lie between two characters, plain text is taken up
further on each time, and what is left of a document becomes shorter with each block. -/
theorem scanning_and_dividing_never_panic (text : String) :
    (∃ final : Cursor, Cursor.scan text = .ok final ∧
      (⟨final.tokens.reverse, final.findings.reverse⟩ : Reading) = Reading.ofTemplate text ∧
      (∀ mark ∈ final.marks, mark.InBounds text) ∧
      (Cursor.rawPlaces final.marks.reverse).Pairwise (· < ·)) ∧
    Block.sliceNext? text = .ok ((Block.next? text.toList).map fun (block, after) =>
      (block, String.ofList after)) ∧
    (∀ block after, Block.sliceNext? text = .ok (some (block, after)) →
      after.utf8ByteSize < text.utf8ByteSize) ∧
    Sections.slice text = .ok (Sections.ofDocument text) := by
  refine ⟨?_, Block.sliceNext?_eq text, fun block after => Block.utf8ByteSize_of_sliceNext?,
    Sections.slice_eq text⟩
  obtain ⟨final, bound, scanned, reading, sound⟩ := Cursor.ends_scan text
  refine ⟨final, scanned, reading, sound.inBounds, ?_⟩
  rw [Cursor.rawPlaces, List.filterMap_reverse, List.pairwise_reverse]
  exact sound.increasing

/-- A backslash takes a character of two bytes along, a colon before such a character is a marker
without a name, and the body of a block begins with one. -/
theorem scanning_and_dividing_never_panic_at_wide_characters :
    let text := "e'\\é' :é/* pgxsqlé pgxsql */"
    (∃ final, Cursor.scan text = .ok final ∧ final.findings = [.emptyName 7] ∧
      final.tokens.reverse =
        [.text "e'\\é' ", .placeholder "", .text "é/* pgxsqlé pgxsql */"]) ∧
    Sections.slice text = .ok ⟨"é", "e'\\é' :é"⟩ := by
  intro text
  obtain ⟨⟨final, scanned, reading, -⟩, -, -, sections⟩ := scanning_and_dividing_never_panic text
  have expected : Reading.ofTemplate text =
      ⟨[.text "e'\\é' ", .placeholder "", .text "é/* pgxsqlé pgxsql */"], [.emptyName 7]⟩ := by
    decide +kernel
  have halves : Sections.ofDocument text = ⟨"é", "e'\\é' :é"⟩ := by decide +kernel
  obtain ⟨tokens, findings⟩ := Reading.mk.inj (reading.trans expected)
  refine ⟨⟨final, scanned, ?_, tokens⟩, sections.trans (congrArg _ halves)⟩
  exact List.reverse_eq_iff.mp findings

end SqlTemplate
