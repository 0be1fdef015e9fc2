import SqlTemplate.Proofs.Cursor
import SqlTemplate.Proofs.Readings

/-!
# Bytes tell what characters tell

The scan of bytes goes over the items of a template one after the other. At each item it stands
between two characters, and what it has found is what the scan of characters has found there.
-/

namespace SqlTemplate

open Text

namespace Cursor

variable {text : String} {c : Cursor} {rest : List Char}

section NameBytes

variable {d : Char}

theorem toNat_ofUInt8 (byte : UInt8) : (Char.ofUInt8 byte).toNat = byte.toNat :=
  UInt8.toNat_toUInt32 byte

theorem isAscii_of_isNameChar (inName : isNameChar d) : IsAscii d :=
  isAscii_iff.mpr (Nat.le_trans (toNat_of_isNameChar inName).2 (by decide))

theorem isNameByte_toUInt8 (ascii : IsAscii d) : isNameByte d.toUInt8 = isNameChar d := by
  have same : Char.ofUInt8 d.toUInt8 = d := by
    apply Char.toNat_inj.mp
    rw [toNat_ofUInt8, toNat_toUInt8_of_isAscii ascii]
  rw [isNameByte, same]

theorem isNameChar_of_mem_utf8EncodeChar {byte : UInt8} (member : byte ∈ String.utf8EncodeChar d)
    (inName : isNameByte byte) : isNameChar d := by
  by_cases ascii : IsAscii d
  · rw [utf8EncodeChar_of_isAscii ascii, List.mem_singleton] at member
    rwa [member, isNameByte_toUInt8 ascii] at inName
  · have large := le_of_mem_utf8EncodeChar ascii member
    have small := (toNat_of_isNameChar inName).2
    rw [toNat_ofUInt8] at small
    omega

end NameBytes

/-- A name ends where no character of a name follows. -/
theorem skipName_eq {name : List Char} (ahead : Ahead text c.place (name ++ rest))
    (valid : ∀ d ∈ name, isNameChar d) (stops : ∀ d ∈ rest.head?, ¬isNameChar d) :
    c.skipName text = c.skip (bytes name) := by
  induction name generalizing c with
  | nil =>
    cases rest with
    | nil => exact skipName_of_none ahead.byte?_eq_none
    | cons d rest =>
      obtain ⟨first, member, here⟩ := ahead.byte?_of_lt d.utf8Size_pos
      have noName : ¬isNameByte first := fun inName =>
        stops d rfl (isNameChar_of_mem_utf8EncodeChar member inName)
      rw [skipName_of_some here, if_neg noName]
      rfl
  | cons d name inductionHypothesis =>
    obtain ⟨inName, others⟩ := List.forall_mem_cons.mp valid
    have ascii := isAscii_of_isNameChar inName
    have next : Ahead text (c.skip 1).place (name ++ rest) := ahead.tail_of_isAscii ascii
    rw [skipName_of_some (ahead.byte?_eq_some ascii), isNameByte_toUInt8 ascii, if_pos inName,
      inductionHypothesis next others, skip_skip, bytes_cons, ascii]

section Raw

/-- A character of plain text is passed over, whatever its bytes are. -/
theorem raw_plain {d : Char} (ahead : Ahead text c.place (d :: rest))
    (fits : (Item.plain d).Fits rest.head?) : c.raw text = (c.skip d.utf8Size).raw text := by
  obtain ⟨noApostrophe, noDoubleQuote, noColon, noOpener⟩ := fits
  have passed (count : Nat) (bounded : count ≤ d.utf8Size) :
      c.raw text = (c.skip count).raw text := by
    induction count with
    | zero => rw [skip_zero]
    | succ count inductionHypothesis =>
      obtain ⟨byte, member, found⟩ := ahead.byte?_of_lt bounded
      have here : (c.skip count).peek text = some byte := found
      have differs {mark : Char} (ascii : IsAscii mark) (other : d ≠ mark) :
          byte ≠ mark.toUInt8 := by
        rintro rfl
        exact other (eq_of_mem_utf8EncodeChar ascii member)
      have noCast : ¬(byte = ':'.toUInt8 ∧ ((c.skip count).skip 1).peek text = some ':'.toUInt8) :=
        fun both => differs rfl noColon both.1
      have noStart : ¬((byte = 'e'.toUInt8 ∨ byte = 'E'.toUInt8) ∧
          ((c.skip count).skip 1).peek text = some '\''.toUInt8) := by
        rintro ⟨letter, apostrophe⟩
        -- The letters are single bytes, so this is the whole character and the next one follows.
        have isLetter : d = 'e' ∨ d = 'E' := by
          rcases letter with rfl | rfl
          · exact .inl (eq_of_mem_utf8EncodeChar rfl member)
          · exact .inr (eq_of_mem_utf8EncodeChar rfl member)
        have ascii : d.utf8Size = 1 := by rcases isLetter with rfl | rfl <;> rfl
        obtain rfl : count = 0 := by omega
        have next := ahead.tail_of_isAscii ascii
        exact noOpener isLetter ((next.byte?_eq_some_iff rfl).mp apostrophe)
      rw [inductionHypothesis (Nat.le_of_succ_le bounded), raw_of_some here, if_neg noStart,
        if_neg (differs rfl noApostrophe), if_neg (differs rfl noDoubleQuote), if_neg noCast,
        if_neg (differs rfl noColon), skip_skip]
  exact passed d.utf8Size (Nat.le_refl _)

theorem raw_colon (ahead : Ahead text c.place (':' :: rest)) :
    c.raw text =
      if rest.head? = some ':' then (c.skip 2).raw text
      else ((c.skip 1).flush text c.place).map fun flushed =>
        (some .name, { flushed with start := flushed.place }) := by
  have next : Ahead text (c.skip 1).place rest := ahead.tail
  have noOpener : ¬((':'.toUInt8 = 'e'.toUInt8 ∨ ':'.toUInt8 = 'E'.toUInt8) ∧
      (c.skip 1).peek text = some '\''.toUInt8) := by
    rintro ⟨letter, -⟩
    exact absurd letter (by decide)
  have twice : (c.skip 1).peek text = some ':'.toUInt8 ↔ rest.head? = some ':' :=
    next.byte?_eq_some_iff rfl
  rw [raw_of_some (ahead.byte?_eq_some rfl), if_neg noOpener, if_neg (by decide),
    if_neg (by decide), if_pos rfl]
  simp only [twice, true_and]

/-- The cursor after an opener. -/
def openAt (c : Cursor) (opener : Opener) : Cursor :=
  { c.skip (bytes opener.text) with opened := c.place }

theorem raw_opener {opener : Opener} (ahead : Ahead text c.place (opener.text ++ rest)) :
    c.raw text = .ok (some (.quoted opener.quote), c.openAt opener) := by
  cases opener with
  | apostrophe | doubleQuote =>
    rw [raw_of_some (ahead.byte?_eq_some rfl), if_neg fun both => absurd both.1 (by decide)]
    rfl
  | smallE | capitalE =>
    have next : Ahead text (c.skip 1).place ('\'' :: rest) := ahead.tail
    rw [raw_of_some (ahead.byte?_eq_some rfl), if_pos ⟨by decide, next.byte?_eq_some rfl⟩]
    rfl

end Raw

/-- The places at which plain text was taken up. -/
def rawPlaces (marks : List Mark) : List Nat :=
  marks.filterMap fun
    | .entered .raw _ place => some place
    | _ => none

/-- Whether the places of a mark lie in the template, in order and between characters, and a name
has room for a colon before it. -/
def Mark.InBounds (text : String) : Mark → Prop
  | .entered state start place =>
    (start ≤ place ∧ place ≤ text.utf8ByteSize) ∧ (IsEdge text start ∧ IsEdge text place) ∧
      (state = .name → 0 < start)
  | .sliced start place first last =>
    (start ≤ place ∧ place ≤ text.utf8ByteSize) ∧ (IsEdge text start ∧ IsEdge text place) ∧
      (first ≤ last ∧ last ≤ text.utf8ByteSize) ∧ (IsEdge text first ∧ IsEdge text last)

/-- What can be said of the marks of a scan, given latest first. -/
structure Sound (text : String) (bound : Nat) (marks : List Mark) : Prop where
  inBounds : ∀ mark ∈ marks, mark.InBounds text
  increasing : (rawPlaces marks).Pairwise (· > ·)
  below : ∀ place ∈ rawPlaces marks, place < bound

namespace Sound

variable {bound : Nat} {marks : List Mark}

theorem nil (text : String) (bound : Nat) : Sound text bound [] :=
  ⟨nofun, .nil, nofun⟩

theorem mono (sound : Sound text bound marks) {larger : Nat} (le : bound ≤ larger) :
    Sound text larger marks :=
  ⟨sound.inBounds, sound.increasing, fun place member =>
    Nat.lt_of_lt_of_le (sound.below place member) le⟩

theorem cons {mark : Mark} (sound : Sound text bound marks) (inBounds : mark.InBounds text)
    (notRaw : rawPlaces [mark] = []) : Sound text bound (mark :: marks) := by
  have same : rawPlaces (mark :: marks) = rawPlaces marks := by
    rw [← List.singleton_append, rawPlaces, List.filterMap_append]
    exact congrArg (· ++ rawPlaces marks) notRaw
  refine ⟨List.forall_mem_cons.mpr ⟨inBounds, sound.inBounds⟩, ?_, ?_⟩
  · rw [same]
    exact sound.increasing
  · rw [same]
    exact sound.below

/-- Plain text is taken up further on than it was before. -/
theorem cons_raw {start place : Nat} (sound : Sound text place marks)
    (inBounds : (Mark.entered .raw start place).InBounds text) :
    Sound text (place + 1) (.entered .raw start place :: marks) where
  inBounds := List.forall_mem_cons.mpr ⟨inBounds, sound.inBounds⟩
  increasing := List.pairwise_cons.mpr ⟨sound.below, sound.increasing⟩
  below := List.forall_mem_cons.mpr
    ⟨Nat.lt_succ_self place, fun other member => Nat.lt_succ_of_lt (sound.below other member)⟩

end Sound

/-- A cursor between two characters: `pending` stands between its start and its place, and `rest`
after its place. -/
structure Stands (text : String) (bound : Nat) (c : Cursor) (pending rest : List Char) :
    Prop where
  ahead : Ahead text c.start (pending ++ rest)
  place : c.place = c.start + bytes pending
  sound : Sound text bound c.marks

/-- The same place, after more has been done. -/
def noted (c : Cursor) (marks : List Mark) : Cursor :=
  { c with marks := marks }

@[simp] theorem noted_noted (c : Cursor) (first second : List Mark) :
    (c.noted first).noted second = c.noted second := rfl

@[simp] theorem skip_noted (c : Cursor) (marks : List Mark) (count : Nat) :
    (c.noted marks).skip count = (c.skip count).noted marks := rfl

/-- The scan of characters that has found the same. -/
def scanned (c : Cursor) (pending : List Char) : Scan where
  offset := c.place
  opened := c.opened
  pending := pending.reverse
  tokens := c.tokens
  findings := c.findings

@[simp] theorem reverse_ofPending (pending : List Char) :
    (Token.ofPending pending).reverse = Token.ofPending pending := by
  unfold Token.ofPending
  split <;> rfl

theorem tokens_endText_scanned (c : Cursor) (pending : List Char) :
    (c.scanned pending).endText.tokens = Token.ofPending pending.reverse ++ c.tokens := by
  unfold Scan.endText Token.ofPending scanned
  split <;> rfl

namespace Stands

variable {bound : Nat} {pending : List Char}

theorem aheadPlace (stands : Stands text bound c pending rest) : Ahead text c.place rest := by
  rw [stands.place]
  exact stands.ahead.append

theorem inBounds (stands : Stands text bound c pending rest) :
    (c.start ≤ c.place ∧ c.place ≤ text.utf8ByteSize) ∧
      (IsEdge text c.start ∧ IsEdge text c.place) := by
  have size := stands.aheadPlace.add_bytes
  have place := stands.place
  exact ⟨⟨by omega, by omega⟩, stands.ahead.isEdge, stands.aheadPlace.isEdge⟩

theorem advance (part : List Char) (stands : Stands text bound c pending (part ++ rest)) :
    Stands text bound (c.skip (bytes part)) (pending ++ part) rest where
  ahead := by
    rw [List.append_assoc]
    exact stands.ahead
  place := by rw [place_skip, start_skip, stands.place, bytes_append, Nat.add_assoc]
  sound := stands.sound

theorem tail {d : Char} (stands : Stands text bound c pending (d :: rest)) :
    Stands text bound (c.skip d.utf8Size) (pending ++ [d]) rest :=
  stands.advance [d]

theorem mono (stands : Stands text bound c pending rest) {larger : Nat} (le : bound ≤ larger) :
    Stands text larger c pending rest :=
  ⟨stands.ahead, stands.place, stands.sound.mono le⟩

theorem enter (stands : Stands text bound c pending rest) {state : State} (notRaw : state ≠ .raw)
    (room : state = .name → 0 < c.start) : Stands text bound (c.enter state) pending rest := by
  refine ⟨stands.ahead, stands.place, stands.sound.cons ?_ ?_⟩
  · exact ⟨stands.inBounds.1, stands.inBounds.2, room⟩
  · cases state with
    | raw => exact absurd rfl notRaw
    | quoted quote | name => rfl

theorem enter_raw (stands : Stands text c.place c pending rest) :
    Stands text (c.place + 1) (c.enter .raw) pending rest :=
  ⟨stands.ahead, stands.place,
    stands.sound.cons_raw ⟨stands.inBounds.1, stands.inBounds.2, nofun⟩⟩

theorem noted (stands : Stands text bound c pending rest) {larger : Nat} {marks : List Mark}
    (sound : Sound text larger marks) : Stands text larger (c.noted marks) pending rest :=
  ⟨stands.ahead, stands.place, sound⟩

theorem cut_eq (stands : Stands text bound c pending rest) {part : List Char} {first : Nat}
    {after : List Char} (ahead : Ahead text first (part ++ after)) :
    ∃ marks, c.cut text first (first + bytes part) =
        .ok (String.ofList part, c.noted marks) ∧ Sound text bound marks := by
  refine ⟨.sliced c.start c.place first (first + bytes part) :: c.marks, ?_, ?_⟩
  · rw [cut, ahead.slice_eq]
    rfl
  · have size := ahead.append.add_bytes
    apply stands.sound.cons _ rfl
    exact ⟨stands.inBounds.1, stands.inBounds.2, ⟨by omega, by omega⟩, ahead.isEdge,
      ahead.append.isEdge⟩

/-- The pending text that stands before `part` becomes a token. -/
theorem flush_eq {part : List Char} (stands : Stands text bound c (pending ++ part) rest) :
    ∃ marks, c.flush text (c.start + bytes pending) =
        .ok { c with
          start := c.start + bytes pending
          tokens := Token.ofPending pending.reverse ++ c.tokens
          marks := marks } ∧ Sound text bound marks := by
  cases pending with
  | nil =>
    refine ⟨c.marks, ?_, stands.sound⟩
    rw [bytes_nil, Nat.add_zero, flush, if_neg (Nat.lt_irrefl c.start)]
    rfl
  | cons d pending =>
    have ahead := stands.ahead
    rw [List.append_assoc] at ahead
    obtain ⟨marks, taken, sound⟩ := stands.cut_eq ahead
    refine ⟨marks, ?_, sound⟩
    have nonempty : c.start < c.start + bytes (d :: pending) :=
      Nat.lt_add_of_pos_right (Nat.lt_of_lt_of_le d.utf8Size_pos (Nat.le_add_right _ _))
    rw [flush, if_pos nonempty, taken]
    simp [Except.map, Cursor.noted, Token.ofPending]

end Stands

theorem place_lt_place_openAt (c : Cursor) (opener : Opener) :
    c.place + 1 ≤ (c.openAt opener).place := by
  apply Nat.add_le_add_left
  cases opener <;> decide

theorem Stands.openAt {bound : Nat} {pending : List Char} {opener : Opener}
    (stands : Stands text bound c pending (opener.text ++ rest)) :
    Stands text bound (c.openAt opener) (pending ++ opener.text) rest :=
  ⟨(stands.advance opener.text).ahead, (stands.advance opener.text).place, stands.sound⟩

section Quoted

variable {quote : Quote}

theorem isAscii_mark (quote : Quote) : IsAscii quote.mark := by
  cases quote <;> rfl

/-- A character that stands for itself is passed over, whatever its bytes are. -/
theorem quoted_plain {d : Char} (ahead : Ahead text c.place (d :: rest)) (noMark : d ≠ quote.mark)
    (noBackslash : quote = .escapeString → d ≠ '\\') :
    c.quoted text quote = (c.skip d.utf8Size).quoted text quote := by
  have passed (count : Nat) (bounded : count ≤ d.utf8Size) :
      c.quoted text quote = (c.skip count).quoted text quote := by
    induction count with
    | zero => rw [skip_zero]
    | succ count inductionHypothesis =>
      obtain ⟨byte, member, found⟩ := ahead.byte?_of_lt bounded
      have here : (c.skip count).peek text = some byte := found
      have noEscape : ¬(byte = '\\'.toUInt8 ∧ quote = .escapeString) := by
        rintro ⟨rfl, escapes⟩
        exact noBackslash escapes (eq_of_mem_utf8EncodeChar rfl member)
      have noClose : byte ≠ quote.mark.toUInt8 := by
        rintro rfl
        exact noMark (eq_of_mem_utf8EncodeChar (isAscii_mark quote) member)
      rw [inductionHypothesis (Nat.le_of_succ_le bounded), quoted_of_some here, if_neg noEscape,
        if_neg noClose, skip_skip]
  exact passed d.utf8Size (Nat.le_refl _)

theorem quoted_mark (ahead : Ahead text c.place (quote.mark :: rest)) :
    c.quoted text quote =
      if rest.head? = some quote.mark then (c.skip 2).quoted text quote
      else .ok (some .raw, c.skip 1) := by
  have ascii := isAscii_mark quote
  have next : Ahead text (c.skip 1).place rest := ahead.tail_of_isAscii ascii
  have twice : (c.skip 1).peek text = some quote.mark.toUInt8 ↔ rest.head? = some quote.mark :=
    next.byte?_eq_some_iff ascii
  have noBackslash : quote.mark.toUInt8 ≠ '\\'.toUInt8 := by cases quote <;> decide
  rw [quoted_of_some (ahead.byte?_eq_some ascii), if_neg fun both => noBackslash both.1, if_pos rfl]
  simp only [twice]

variable {bound : Nat} {pending : List Char}

/-- A backslash takes the character after it along, if there is one. -/
theorem quoted_backslash (stands : Stands text bound c pending ('\\' :: rest)) :
    ∃ marks, c.quoted text .escapeString =
        ((c.skip (1 + rest.head?.elim 0 Char.utf8Size)).noted marks).quoted text .escapeString ∧
      Sound text bound marks := by
  have next : Stands text bound (c.skip 1) (pending ++ ['\\']) rest := stands.tail
  have size : c.place + 1 + bytes rest = text.utf8ByteSize := next.aheadPlace.add_bytes
  have toEnd : Ahead text (c.place + 1) (rest ++ []) := by
    rw [List.append_nil]
    exact next.aheadPlace
  obtain ⟨marks, taken, sound⟩ := next.cut_eq toEnd
  rw [size] at taken
  refine ⟨marks, ?_, sound⟩
  rw [quoted_of_some (stands.aheadPlace.byte?_eq_some rfl), if_pos ⟨rfl, rfl⟩, bind_of_eq_ok taken]
  dsimp only
  rw [skip_noted, skip_skip, String.toList_ofList]

theorem quoted_body {body : List Char} (valid : quote.Body body)
    (stands : Stands text bound c pending (body ++ rest)) :
    ∃ marks, c.quoted text quote = ((c.skip (bytes body)).noted marks).quoted text quote ∧
      Sound text bound marks := by
  induction valid generalizing c pending with
  | nil => exact ⟨c.marks, rfl, stands.sound⟩
  | @doubled body valid inductionHypothesis =>
    obtain ⟨marks, ran, sound⟩ := inductionHypothesis stands.tail.tail
    refine ⟨marks, ?_, sound⟩
    rw [isAscii_mark, skip_skip, skip_skip] at ran
    rw [quoted_mark stands.aheadPlace, if_pos (by rfl), ran, bytes_cons, bytes_cons, isAscii_mark,
      ← Nat.add_assoc]
  | @escaped d body escapes valid inductionHypothesis =>
    subst escapes
    obtain ⟨noted, passed, soundNoted⟩ := quoted_backslash stands
    obtain ⟨marks, ran, sound⟩ := inductionHypothesis (stands.tail.tail.noted soundNoted)
    refine ⟨marks, ?_, sound⟩
    rw [skip_skip, skip_noted, noted_noted, skip_skip] at ran
    rw [passed, bytes_cons, bytes_cons, ← Nat.add_assoc]
    exact ran
  | @plain d body noMark noBackslash valid inductionHypothesis =>
    obtain ⟨marks, ran, sound⟩ := inductionHypothesis stands.tail
    refine ⟨marks, ?_, sound⟩
    rw [quoted_plain stands.aheadPlace noMark noBackslash, ran, skip_skip, bytes_cons]

theorem quoted_openBody {body : List Char} (valid : quote.OpenBody body)
    (stands : Stands text bound c pending body) :
    ∃ marks, c.quoted text quote = ((c.skip (bytes body)).noted marks).quoted text quote ∧
      Sound text bound marks := by
  cases valid with
  | body valid =>
    rw [← List.append_nil body] at stands
    exact quoted_body valid stands
  | @backslash body escapes valid =>
    subst escapes
    obtain ⟨noted, passed, soundNoted⟩ := quoted_body valid stands
    have last := (stands.advance body).noted soundNoted
    obtain ⟨marks, ran, sound⟩ := quoted_backslash last
    refine ⟨marks, ?_, sound⟩
    rw [passed, ran, bytes_append]
    rfl

end Quoted

/-- The name at `start` is taken, and noted if it is empty. -/
theorem name_eq {bound : Nat} {word : List Char} (stands : Stands text bound c [] (word ++ rest))
    (room : 0 < c.start) (valid : ∀ d ∈ word, isNameChar d)
    (stops : ∀ d ∈ rest.head?, ¬isNameChar d) :
    ∃ marks, c.name text =
        .ok (some .raw, { c.skip (bytes word) with
          start := c.place + bytes word
          tokens := .placeholder (String.ofList word) :: c.tokens
          findings := ((Item.placeholder word).finding? (c.start - 1)).toList ++ c.findings
          marks := marks }) ∧ Sound text bound marks := by
  have noted : (c.skip (bytes word)).noteEmpty =
      .ok { c.skip (bytes word) with
        findings := ((Item.placeholder word).finding? (c.start - 1)).toList ++ c.findings } := by
    cases word with
    | nil =>
      have same : ¬c.place ≠ c.start := not_not.mpr stands.place
      rw [noteEmpty, bytes_nil, skip_zero, if_neg same, if_neg (Nat.ne_of_gt room)]
      rfl
    | cons d word =>
      have further : (c.skip (bytes (d :: word))).place ≠ c.start := by
        have positive := d.utf8Size_pos
        have place : c.place = c.start := stands.place
        rw [place_skip, bytes_cons]
        omega
      exact if_pos further
  have skipped := stands.advance word
  have named : Stands text bound
      { c.skip (bytes word) with
        findings := ((Item.placeholder word).finding? (c.start - 1)).toList ++ c.findings }
      word rest := ⟨skipped.ahead, skipped.place, skipped.sound⟩
  obtain ⟨marks, taken, sound⟩ := named.cut_eq named.ahead
  rw [← named.place] at taken
  refine ⟨marks, ?_, sound⟩
  rw [name, skipName_eq stands.aheadPlace valid stops, bind_of_eq_ok noted, bind_of_eq_ok taken]
  rfl

theorem follow_end {result : Except Panic Cursor} {final : Cursor} (ended : result = .ok final) :
    result.map (none, ·) >>= follow text = .ok final := by
  rw [ended]
  rfl

section Run

variable {bound : Nat} {pending : List Char}

theorem run_raw (stands : Stands text bound c pending rest) (bounded : bound ≤ c.place) :
    run text .raw c = (c.enter .raw).raw text >>= follow text ∧
      Stands text ((c.enter .raw).place + 1) (c.enter .raw) pending rest :=
  ⟨run_eq text .raw c, (stands.mono bounded).enter_raw⟩

/-- After a name comes plain text. -/
theorem run_name {word : List Char} (stands : Stands text bound c [] (word ++ rest))
    (bounded : bound ≤ c.place) (room : 0 < c.start) (valid : ∀ d ∈ word, isNameChar d)
    (stops : ∀ d ∈ rest.head?, ¬isNameChar d) :
    ∃ d : Cursor, run text .name c = d.raw text >>= follow text ∧
      Stands text (d.place + 1) d [] rest ∧ d.place = c.place + bytes word ∧
      d.tokens = .placeholder (String.ofList word) :: c.tokens ∧
      d.findings = ((Item.placeholder word).finding? (c.start - 1)).toList ++ c.findings := by
  have entered : Stands text bound (c.enter .name) [] (word ++ rest) :=
    stands.enter nofun fun _ => room
  obtain ⟨marks, named, sound⟩ := name_eq entered room valid stops
  have last : Stands text bound { c.skip (bytes word) with
      start := c.place + bytes word
      tokens := .placeholder (String.ofList word) :: c.tokens
      findings := ((Item.placeholder word).finding? (c.start - 1)).toList ++ c.findings
      marks := marks } [] rest :=
    ⟨(stands.advance word).aheadPlace, rfl, sound⟩
  obtain ⟨goesOn, next⟩ := run_raw last (Nat.le_add_right_of_le bounded)
  refine ⟨_, ?_, next, ?_, ?_, ?_⟩
  · rw [run_eq, step, bind_of_eq_ok named]
    exact goesOn
  all_goals rfl

/-- After quoted text comes plain text. -/
theorem run_quoted {quote : Quote} {body : List Char} (valid : quote.Body body)
    (stands : Stands text bound c pending (body ++ quote.mark :: rest)) (bounded : bound ≤ c.place)
    (single : rest.head? ≠ some quote.mark) :
    ∃ d : Cursor, run text (.quoted quote) c = d.raw text >>= follow text ∧
      Stands text (d.place + 1) d (pending ++ body ++ [quote.mark]) rest ∧
      d.place = c.place + bytes body + 1 ∧ d.tokens = c.tokens ∧ d.findings = c.findings := by
  have entered : Stands text bound (c.enter (.quoted quote)) pending _ := stands.enter nofun nofun
  obtain ⟨marks, ran, sound⟩ := quoted_body valid entered
  have closing := (entered.advance body).noted sound
  have closed := closing.tail
  rw [isAscii_mark] at closed
  obtain ⟨goesOn, next⟩ :=
    run_raw closed (show bound ≤ c.place + bytes body + 1 by omega)
  refine ⟨_, ?_, next, ?_, ?_, ?_⟩
  · rw [run_eq, step, ran, quoted_mark closing.aheadPlace, if_neg single]
    exact goesOn
  all_goals rfl

/-- Quoted text that is never closed is pending at the end. -/
theorem run_unclosed {quote : Quote} {body : List Char} (valid : quote.OpenBody body)
    (stands : Stands text bound c pending body) :
    ∃ final : Cursor, run text (.quoted quote) c = .ok final ∧ Sound text bound final.marks ∧
      final.tokens = Token.ofPending (pending ++ body).reverse ++ c.tokens ∧
      final.findings = .unterminated quote c.opened :: c.findings := by
  have entered : Stands text bound (c.enter (.quoted quote)) pending body :=
    stands.enter nofun nofun
  obtain ⟨marks, ran, sound⟩ := quoted_openBody valid entered
  rw [← List.append_nil body] at entered
  have last := (entered.advance body).noted sound
  have reported : Stands text bound
      { ((c.enter (.quoted quote)).skip (bytes body)).noted marks with
        findings := .unterminated quote c.opened :: c.findings } (pending ++ body ++ []) [] := by
    rw [List.append_nil]
    exact ⟨last.ahead, last.place, last.sound⟩
  obtain ⟨flushedMarks, flushed, soundFlushed⟩ := reported.flush_eq
  rw [← last.place] at flushed
  have ended := run_eq text (.quoted quote) c
  rw [step, ran, quoted_of_none last.aheadPlace.byte?_eq_none] at ended
  exact ⟨_, ended.trans (follow_end flushed), soundFlushed, rfl, rfl⟩

end Run

def reading (c : Cursor) : Reading :=
  ⟨c.tokens.reverse, c.findings.reverse⟩

/-- Whether a scan comes to its end with a reading, and has kept to the template all the way. -/
def Ends (text : String) (outcome : Except Panic Cursor) (reading : Reading) : Prop :=
  ∃ final bound, outcome = .ok final ∧ final.reading = reading ∧ Sound text bound final.marks

theorem before_scanned {pending : List Char} {item : Item} {d : Cursor}
    (tokens : d.tokens = c.tokens) (findings : d.findings = c.findings)
    (place : d.place = c.place + bytes item.text)
    (token : item.token = .text (String.ofList item.text))
    (noFinding : item.finding? c.place = none) (items : List Item) :
    (d.scanned (pending ++ item.text)).before items =
      (c.scanned pending).before (item :: items) := by
  have settled : (d.scanned (pending ++ item.text)).settled =
      { (c.scanned pending).settled.extended .text item.text with opened := d.opened } := by
    simp [scanned, Scan.settled, Scan.extended, tokens, findings, place]
  exact Scan.before_of_settled_eq settled token noFinding items

/-- Whether the scan, wherever it stands before the given items, ends as the scan of characters. -/
def Follows (text : String) (items : List Item) : Prop :=
  ∀ (c : Cursor) (pending : List Char),
    Stands text (c.place + 1) c pending (Item.textOf items) →
      Ends text (c.raw text >>= follow text) ((c.scanned pending).before items)

namespace Follows

variable {items : List Item}

theorem nil (text : String) : Follows text [] := by
  intro c pending stands
  have whole : Stands text (c.place + 1) c (pending ++ []) [] := by
    rw [List.append_nil]
    exact stands
  obtain ⟨marks, flushed, sound⟩ := whole.flush_eq
  rw [← stands.place] at flushed
  rw [raw_of_none stands.aheadPlace.byte?_eq_none]
  refine ⟨_, _, follow_end flushed, ?_, sound⟩
  have complete : (c.scanned pending).mode.EndsBefore none := trivial
  have finished : (c.scanned pending).finish = (c.scanned pending).endText := rfl
  rw [← Scan.reading_of_endsBefore complete, Scan.reading, finished, Scan.findings_endText,
    tokens_endText_scanned]
  rfl

theorem plain {d : Char} (follows : Follows text items)
    (fits : (Item.plain d).Fits (Item.textOf items).head?) :
    Follows text (.plain d :: items) := by
  intro c pending stands
  have next : Stands text _ (c.skip d.utf8Size) (pending ++ [d]) (Item.textOf items) := stands.tail
  have grows : ((c.skip d.utf8Size).scanned (pending ++ (Item.plain d).text)).before items =
      (c.scanned pending).before (.plain d :: items) := by
    apply before_scanned <;> rfl
  rw [raw_plain stands.aheadPlace fits, ← grows]
  apply follows _ _ (next.mono _)
  rw [place_skip]
  omega

theorem cast (follows : Follows text items) : Follows text (.cast :: items) := by
  intro c pending stands
  have next : Stands text _ (c.skip 2) (pending ++ [':', ':']) (Item.textOf items) :=
    stands.advance [':', ':']
  have grows : ((c.skip 2).scanned (pending ++ Item.cast.text)).before items =
      (c.scanned pending).before (.cast :: items) := by
    apply before_scanned <;> rfl
  rw [raw_colon stands.aheadPlace, if_pos (by rfl), ← grows]
  apply follows _ _ (next.mono _)
  rw [place_skip]
  omega

theorem placeholder {name : List Char} (follows : Follows text items)
    (fits : (Item.placeholder name).Fits (Item.textOf items).head?) :
    Follows text (.placeholder name :: items) := by
  intro c pending stands
  obtain ⟨valid, stops, notCast⟩ := fits
  have marker : (name ++ Item.textOf items).head? ≠ some ':' := by
    cases name with
    | nil => exact notCast rfl
    | cons d name =>
      intro colon
      obtain rfl := Option.some.inj colon
      exact absurd (valid _ List.mem_cons_self) (by decide)
  have next : Stands text _ (c.skip 1) (pending ++ [':']) (name ++ Item.textOf items) :=
    stands.tail
  obtain ⟨marks, flushed, sound⟩ := next.flush_eq
  rw [start_skip, ← stands.place] at flushed
  have ahead : Ahead text c.place (':' :: (name ++ Item.textOf items)) := stands.aheadPlace
  rw [raw_colon ahead, if_neg marker, flushed]
  have named : Stands text (c.place + 1)
      { c.skip 1 with
        start := c.place + 1
        tokens := Token.ofPending pending.reverse ++ c.tokens
        marks := marks } [] (name ++ Item.textOf items) :=
    ⟨next.aheadPlace, rfl, sound⟩
  obtain ⟨d, ran, goesOn, place, tokens, findings⟩ :=
    run_name named (Nat.le_refl _) (Nat.succ_pos _) valid stops
  have grows : (d.scanned []).before items =
      (c.scanned pending).before (.placeholder name :: items) := by
    have offset : d.place = c.place + bytes (Item.placeholder name).text := by
      rw [place, Item.text, bytes_cons, ← Nat.add_assoc]
      rfl
    apply Scan.before_of_settled_tokens_eq
    · exact tokens.trans (congrArg _ (tokens_endText_scanned c pending).symm)
    · rfl
    · exact findings
    · exact offset
  have ends := follows d [] goesOn
  rw [← ran, grows] at ends
  exact ends

theorem quoted {opener : Opener} {body : List Char} (follows : Follows text items)
    (fits : (Item.quoted opener body).Fits (Item.textOf items).head?) :
    Follows text (.quoted opener body :: items) := by
  intro c pending stands
  obtain ⟨valid, single⟩ := fits
  have parts : Item.textOf (.quoted opener body :: items) =
      opener.text ++ (body ++ opener.quote.mark :: Item.textOf items) := by
    simp [Item.text]
  rw [parts] at stands
  have within := stands.openAt
  obtain ⟨d, ran, goesOn, place, tokens, findings⟩ :=
    run_quoted valid within (place_lt_place_openAt c opener) single
  have grows : (d.scanned (pending ++ (Item.quoted opener body).text)).before items =
      (c.scanned pending).before (.quoted opener body :: items) := by
    have size : d.place = c.place + bytes (Item.quoted opener body).text := by
      rw [place, Item.text, bytes_append, bytes_append, bytes_cons, isAscii_mark]
      simp [Nat.add_assoc, openAt]
    apply before_scanned
    · exact tokens
    · exact findings
    · exact size
    · rfl
    · rfl
  have ends := follows d _ goesOn
  rw [← ran] at ends
  rw [← grows, raw_opener stands.aheadPlace, Item.text, ← List.append_assoc, ← List.append_assoc]
  exact ends

theorem unclosed {opener : Opener} {body : List Char} (valid : opener.quote.OpenBody body) :
    Follows text [.unclosed opener body] := by
  intro c pending stands
  have parts : Item.textOf [.unclosed opener body] = opener.text ++ body := by
    simp [Item.text]
  rw [parts] at stands
  obtain ⟨final, ran, sound, tokens, findings⟩ := run_unclosed valid stands.openAt
  rw [raw_opener stands.aheadPlace]
  refine ⟨final, _, ran, ?_, sound⟩
  rw [reading, tokens, findings, ← Scan.reading_endQuoted (c.scanned pending) opener body .text]
  simp [Scan.endQuoted, Scan.tokens_endText, Scan.extended, Scan.settled, scanned, openAt, skip]

end Follows

/-- Wherever the scan stands between two items, it reads the items to come. -/
theorem follows_of_allFit {items : List Item} (fit : Item.AllFit items none) :
    Follows text items := by
  induction items with
  | nil => exact .nil text
  | cons item items inductionHypothesis =>
    obtain ⟨fits, others⟩ := fit
    have rest := inductionHypothesis others
    have fitsText : item.Fits (Item.textOf items).head? := by
      rw [Item.head?_textOf]
      exact fits
    cases item with
    | quoted opener body => exact rest.quoted fitsText
    | unclosed opener body =>
      obtain rfl : items = [] := (Item.firstOf_eq_none_iff.mp fits.2).1
      exact .unclosed fits.1
    | cast => exact rest.cast
    | placeholder name => exact rest.placeholder fitsText
    | plain d => exact rest.plain fitsText

theorem ends_scan (text : String) : Ends text (scan text) (Reading.ofTemplate text) := by
  obtain ⟨items, reads⟩ := Item.exists_reads text.toList
  have start : Stands text 0 {} [] (Item.textOf items) := by
    refine ⟨?_, rfl, .nil text 0⟩
    rw [reads.text]
    exact .start text
  obtain ⟨goesOn, next⟩ := run_raw start (Nat.le_refl 0)
  have ends := follows_of_allFit reads.fit _ [] next
  rw [← goesOn] at ends
  rw [Reading.ofTemplate_of_reads reads]
  exact ends

end Cursor

end SqlTemplate
