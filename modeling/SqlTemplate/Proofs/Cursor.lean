import SqlTemplate.Proofs.Slices
import SqlTemplate.Reading

/-!
# Scanning bytes

A scan can also go from byte to byte, with five states and a single byte of lookahead, and take the
texts and names it finds as slices of the template. Places are only ever moved forward by one or
two bytes, except after a backslash, where a whole character is passed over. The scan stops at the
first slice that cannot be taken. It notes each state it enters and each slice it takes.
-/

namespace SqlTemplate

section Except

variable {ε α β : Type}

theorem exists_of_map_eq_ok {f : α → β} {result : Except ε α} {final : β}
    (ran : result.map f = .ok final) : ∃ value, result = .ok value ∧ f value = final := by
  cases result with
  | error problem => cases ran
  | ok value => exact ⟨value, rfl, Except.ok.inj ran⟩

theorem exists_of_bind_eq_ok {f : α → Except ε β} {result : Except ε α} {final : β}
    (ran : (result >>= f) = .ok final) : ∃ value, result = .ok value ∧ f value = .ok final := by
  cases result with
  | error problem => cases ran
  | ok value => exact ⟨value, rfl, ran⟩

theorem bind_of_eq_ok {result : Except ε α} {value : α} (ran : result = .ok value)
    (f : α → Except ε β) : (result >>= f) = f value := by
  rw [ran]
  rfl

end Except

namespace Cursor

inductive State where
  | raw
  | quoted (quote : Quote)
  | name
  deriving DecidableEq

/-- What the scan does, with the start of the pending text and the place it has come to. -/
inductive Mark where
  | entered (state : State) (start place : Nat)
  | sliced (start place first last : Nat)
  deriving DecidableEq

end Cursor

structure Cursor where
  /-- Where the text begins that belongs to no token yet. -/
  start : Nat := 0
  place : Nat := 0
  /-- Where the latest quoted text was opened. -/
  opened : Nat := 0
  /-- The tokens found, the latest first. -/
  tokens : List Token := []
  /-- The findings, the latest first. -/
  findings : List Finding := []
  /-- What the scan has done, the latest first. -/
  marks : List Cursor.Mark := []

namespace Cursor

def skip (c : Cursor) (count : Nat) : Cursor :=
  { c with place := c.place + count }

@[simp] theorem skip_zero (c : Cursor) : c.skip 0 = c := rfl

@[simp] theorem skip_skip (c : Cursor) (first second : Nat) :
    (c.skip first).skip second = c.skip (first + second) := by
  simp [skip, Nat.add_assoc]

@[simp] theorem place_skip (c : Cursor) (count : Nat) : (c.skip count).place = c.place + count :=
  rfl

@[simp] theorem start_skip (c : Cursor) (count : Nat) : (c.skip count).start = c.start := rfl

def enter (c : Cursor) (state : State) : Cursor :=
  { c with marks := .entered state c.start c.place :: c.marks }

/-- Whether a byte can be part of a name. -/
def isNameByte (byte : UInt8) : Bool :=
  isNameChar (Char.ofUInt8 byte)

section Steps

variable (text : String)

def peek (c : Cursor) : Option UInt8 :=
  Text.byte? text c.place

def cut (c : Cursor) (first last : Nat) : Except Panic (String × Cursor) :=
  (Text.slice text first last).map fun part =>
    (part, { c with marks := .sliced c.start c.place first last :: c.marks })

/-- Ends the pending text, if there is any. -/
def flush (c : Cursor) (stop : Nat) : Except Panic Cursor :=
  if c.start < stop then
    (c.cut text c.start stop).map fun (part, c) =>
      { c with start := stop, tokens := .text part :: c.tokens }
  else .ok { c with start := stop }

variable {text} in
theorem place_lt_of_peek {c : Cursor} {byte : UInt8} (found : c.peek text = some byte) :
    c.place < text.utf8ByteSize := by
  rw [← Text.length_utf8]
  exact (List.getElem?_eq_some_iff.mp found).1

variable {text} in
theorem eq_of_cut {c d : Cursor} {first last : Nat} {part : String}
    (taken : c.cut text first last = .ok (part, d)) :
    d = { c with marks := .sliced c.start c.place first last :: c.marks } := by
  unfold cut at taken
  cases slice : Text.slice text first last with
  | error panic => rw [slice] at taken; cases taken
  | ok content =>
    rw [slice] at taken
    exact (Prod.mk.inj (Except.ok.inj taken)).2.symm

/-- Goes on in plain text, up to a place where another state takes over. -/
def raw (c : Cursor) : Except Panic (Option State × Cursor) :=
  match _ : c.peek text with
  | none => (c.flush text c.place).map (none, ·)
  | some byte =>
    if (byte = 'e'.toUInt8 ∨ byte = 'E'.toUInt8) ∧ (c.skip 1).peek text = some '\''.toUInt8 then
      .ok (some (.quoted .escapeString), { c.skip 2 with opened := c.place })
    else if byte = '\''.toUInt8 then
      .ok (some (.quoted .string), { c.skip 1 with opened := c.place })
    else if byte = '"'.toUInt8 then
      .ok (some (.quoted .identifier), { c.skip 1 with opened := c.place })
    else if byte = ':'.toUInt8 ∧ (c.skip 1).peek text = some ':'.toUInt8 then raw (c.skip 2)
    else if byte = ':'.toUInt8 then
      ((c.skip 1).flush text c.place).map fun flushed =>
        (some .name, { flushed with start := flushed.place })
    else raw (c.skip 1)
termination_by text.utf8ByteSize - c.place
decreasing_by all_goals
  have inside := place_lt_of_peek ‹c.peek text = _›
  simp only [place_skip]
  omega

/-- Goes on in quoted text, up to the closing quote. -/
def quoted (quote : Quote) (c : Cursor) : Except Panic (Option State × Cursor) :=
  match _ : c.peek text with
  | none =>
    let noted := { c with findings := .unterminated quote c.opened :: c.findings }
    (noted.flush text c.place).map (none, ·)
  | some byte =>
    if byte = '\\'.toUInt8 ∧ quote = .escapeString then
      match _ : (c.skip 1).cut text (c.place + 1) text.utf8ByteSize with
      | .error panic => .error panic
      | .ok (ahead, noted) => quoted quote (noted.skip (ahead.toList.head?.elim 0 Char.utf8Size))
    else if byte = quote.mark.toUInt8 then
      if (c.skip 1).peek text = some quote.mark.toUInt8 then quoted quote (c.skip 2)
      else .ok (some .raw, c.skip 1)
    else quoted quote (c.skip 1)
termination_by text.utf8ByteSize - c.place
decreasing_by
  all_goals have inside := place_lt_of_peek ‹c.peek text = _›
  · have same := congrArg place (eq_of_cut ‹_›)
    simp only [place_skip] at same ⊢
    omega
  all_goals
    simp only [place_skip]
    omega

def skipName (c : Cursor) : Cursor :=
  match _ : c.peek text with
  | none => c
  | some byte => if isNameByte byte then skipName (c.skip 1) else c
termination_by text.utf8ByteSize - c.place
decreasing_by
  have inside := place_lt_of_peek ‹_›
  simp only [place_skip]
  omega

/-- Notes an empty name at `start`, at the place of the colon before it. -/
def noteEmpty (c : Cursor) : Except Panic Cursor :=
  if c.place ≠ c.start then .ok c
  else if c.start = 0 then .error .underflow
  else .ok { c with findings := .emptyName (c.start - 1) :: c.findings }

/-- Takes the name at `start`. -/
def name (c : Cursor) : Except Panic (Option State × Cursor) := do
  let named ← (c.skipName text).noteEmpty
  let (name, taken) ← named.cut text named.start named.place
  return (some .raw,
    { taken with start := taken.place, tokens := .placeholder name :: taken.tokens })

def step (state : State) (c : Cursor) : Except Panic (Option State × Cursor) :=
  match state with
  | .raw => c.raw text
  | .quoted quote => c.quoted text quote
  | .name => c.name text

theorem place_of_flush {c d : Cursor} {stop : Nat} (flushed : c.flush text stop = .ok d) :
    d.place = c.place := by
  unfold flush at flushed
  split at flushed
  · obtain ⟨⟨part, noted⟩, taken, rfl⟩ := exists_of_map_eq_ok flushed
    rw [eq_of_cut taken]
  · rw [← Except.ok.inj flushed]

theorem lt_place_of_raw {c d : Cursor} {state : State} (ran : c.raw text = .ok (some state, d)) :
    c.place < d.place ∧ c.place < text.utf8ByteSize := by
  fun_induction raw text c generalizing d with
  | case1 c ended =>
    obtain ⟨flushed, -, same⟩ := exists_of_map_eq_ok ran
    cases same
  | case2 c byte found | case3 c found | case4 c found =>
    cases ran
    exact ⟨Nat.lt_add_of_pos_right (by decide), place_lt_of_peek found⟩
  | case5 c byte found noOpener noApostrophe noDoubleQuote cast inductionHypothesis =>
    obtain ⟨forward, -⟩ := inductionHypothesis ran
    rw [place_skip] at forward
    exact ⟨by omega, place_lt_of_peek found⟩
  | case6 c found =>
    obtain ⟨flushed, stopped, same⟩ := exists_of_map_eq_ok ran
    have place := place_of_flush text stopped
    cases same
    refine ⟨?_, place_lt_of_peek found⟩
    dsimp only
    rw [place]
    exact Nat.lt_succ_self _
  | case7 c byte found noOpener noApostrophe noDoubleQuote noCast noColon
    inductionHypothesis =>
    obtain ⟨forward, -⟩ := inductionHypothesis ran
    exact ⟨Nat.lt_of_succ_lt forward, place_lt_of_peek found⟩

theorem lt_place_of_quoted {quote : Quote} {c d : Cursor} {state : State}
    (ran : c.quoted text quote = .ok (some state, d)) :
    c.place < d.place ∧ c.place < text.utf8ByteSize := by
  fun_induction quoted text quote c generalizing d with
  | case1 c ended =>
    obtain ⟨flushed, -, same⟩ := exists_of_map_eq_ok ran
    cases same
  | case2 => cases ran
  | case3 c byte found escapes ahead noted taken inductionHypothesis =>
    obtain ⟨forward, -⟩ := inductionHypothesis ran
    have place : noted.place = c.place + 1 := congrArg place (eq_of_cut taken)
    rw [place_skip, place] at forward
    exact ⟨by omega, place_lt_of_peek found⟩
  | case4 c doubled found noEscape inductionHypothesis =>
    obtain ⟨forward, -⟩ := inductionHypothesis ran
    rw [place_skip] at forward
    exact ⟨by omega, place_lt_of_peek found⟩
  | case5 c single found =>
    cases ran
    exact ⟨Nat.lt_succ_self _, place_lt_of_peek found⟩
  | case6 c byte found noEscape noMark inductionHypothesis =>
    obtain ⟨forward, -⟩ := inductionHypothesis ran
    exact ⟨Nat.lt_of_succ_lt forward, place_lt_of_peek found⟩

theorem le_place_skipName (c : Cursor) : c.place ≤ (c.skipName text).place := by
  fun_induction skipName text c with
  | case1 c ended => exact Nat.le_refl _
  | case2 c byte found inName inductionHypothesis => exact Nat.le_of_succ_le inductionHypothesis
  | case3 c byte found noName => exact Nat.le_refl _

theorem le_place_of_name {c d : Cursor} {state : State} (ran : c.name text = .ok (some state, d)) :
    c.place ≤ d.place ∧ state = .raw := by
  unfold name at ran
  obtain ⟨noted, named, taken⟩ := exists_of_bind_eq_ok ran
  obtain ⟨⟨part, after⟩, cut, same⟩ := exists_of_bind_eq_ok taken
  have place : noted.place = (c.skipName text).place := by
    unfold noteEmpty at named
    split at named
    · rw [Except.ok.inj named]
    split at named
    · cases named
    · rw [← Except.ok.inj named]
  have later : after.place = noted.place := by rw [eq_of_cut cut]
  cases same
  refine ⟨?_, rfl⟩
  dsimp only
  rw [later, place]
  exact le_place_skipName text c

/-- What is left to do at most. As a name may be empty, it counts by itself. -/
def remaining (state : State) (c : Cursor) : Nat :=
  2 * (text.utf8ByteSize - c.place) + if state = .name then 1 else 0

theorem remaining_of_step {state next : State} {c d : Cursor}
    (ran : c.step text state = .ok (some next, d)) :
    d.remaining text next < c.remaining text state := by
  unfold remaining
  cases state with
  | raw =>
    obtain ⟨forward, inside⟩ := lt_place_of_raw text ran
    split <;> omega
  | quoted quote =>
    obtain ⟨forward, inside⟩ := lt_place_of_quoted text ran
    split <;> omega
  | name =>
    obtain ⟨forward, rfl⟩ := le_place_of_name text ran
    rw [if_pos rfl, if_neg nofun]
    omega

/-- Goes on in a state until the template ends. -/
def run (state : State) (c : Cursor) : Except Panic Cursor :=
  match _ : (c.enter state).step text state with
  | .error panic => .error panic
  | .ok (none, final) => .ok final
  | .ok (some next, stopped) => run next stopped
termination_by c.remaining text state
decreasing_by
  have less := remaining_of_step text ‹_›
  exact less

end Steps

/-- Hands over to the next state, if there is one. -/
def follow (text : String) : Option State × Cursor → Except Panic Cursor
  | (none, final) => .ok final
  | (some next, stopped) => run text next stopped

/-- Scans a template from its start. -/
def scan (text : String) : Except Panic Cursor :=
  run text .raw {}

section Equations

variable {text : String} {c : Cursor} {byte : UInt8} {quote : Quote}

theorem raw_of_none (ended : c.peek text = none) :
    c.raw text = (c.flush text c.place).map (none, ·) := by
  rw [raw]
  split
  · rfl
  · next byte found => cases ended.symm.trans found

/-- What the next byte means in plain text. -/
theorem raw_of_some (found : c.peek text = some byte) :
    c.raw text =
      if (byte = 'e'.toUInt8 ∨ byte = 'E'.toUInt8) ∧ (c.skip 1).peek text = some '\''.toUInt8 then
        .ok (some (.quoted .escapeString), { c.skip 2 with opened := c.place })
      else if byte = '\''.toUInt8 then
        .ok (some (.quoted .string), { c.skip 1 with opened := c.place })
      else if byte = '"'.toUInt8 then
        .ok (some (.quoted .identifier), { c.skip 1 with opened := c.place })
      else if byte = ':'.toUInt8 ∧ (c.skip 1).peek text = some ':'.toUInt8 then
        (c.skip 2).raw text
      else if byte = ':'.toUInt8 then
        ((c.skip 1).flush text c.place).map fun flushed =>
          (some .name, { flushed with start := flushed.place })
      else (c.skip 1).raw text := by
  rw [raw]
  split
  · next ended => cases ended.symm.trans found
  · next other foundToo =>
    obtain rfl := Option.some.inj (foundToo.symm.trans found)
    rfl

theorem quoted_of_none (ended : c.peek text = none) :
    c.quoted text quote =
      ({ c with findings := .unterminated quote c.opened :: c.findings }.flush text c.place).map
        (none, ·) := by
  rw [quoted]
  split
  · rfl
  · next byte found => cases ended.symm.trans found

/-- What the next byte means in quoted text. -/
theorem quoted_of_some (found : c.peek text = some byte) :
    c.quoted text quote =
      if byte = '\\'.toUInt8 ∧ quote = .escapeString then do
        let (ahead, noted) ← (c.skip 1).cut text (c.place + 1) text.utf8ByteSize
        (noted.skip (ahead.toList.head?.elim 0 Char.utf8Size)).quoted text quote
      else if byte = quote.mark.toUInt8 then
        if (c.skip 1).peek text = some quote.mark.toUInt8 then (c.skip 2).quoted text quote
        else .ok (some .raw, c.skip 1)
      else (c.skip 1).quoted text quote := by
  rw [quoted]
  split
  · next ended => cases ended.symm.trans found
  · next other foundToo =>
    obtain rfl := Option.some.inj (foundToo.symm.trans found)
    split
    · split
      · next failed =>
        rw [failed]
        rfl
      · next taken =>
        rw [taken]
        rfl
    · rfl

theorem skipName_of_none (ended : c.peek text = none) : c.skipName text = c := by
  rw [skipName]
  split
  · rfl
  · next byte found => cases ended.symm.trans found

theorem skipName_of_some (found : c.peek text = some byte) :
    c.skipName text = if isNameByte byte then (c.skip 1).skipName text else c := by
  rw [skipName]
  split
  · next ended => cases ended.symm.trans found
  · next other foundToo =>
    obtain rfl := Option.some.inj (foundToo.symm.trans found)
    rfl

theorem run_eq (text : String) (state : State) (c : Cursor) :
    run text state c = (c.enter state).step text state >>= follow text := by
  rw [run]
  split
  · next panic failed =>
    rw [failed]
    rfl
  · next final ended =>
    rw [ended]
    rfl
  · next next stopped ran =>
    rw [ran]
    rfl

end Equations

end Cursor

end SqlTemplate
