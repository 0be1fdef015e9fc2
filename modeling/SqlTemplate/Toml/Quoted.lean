import SqlTemplate.Toml.Reader

/-!
# Strings

There are four forms of strings: in double quotes with escapes or in single quotes without, and
either on one line, between single marks, or on several lines, between triple marks. A string on
several lines may hold one or two marks in a row, also directly before the triple mark that ends
it.
-/

namespace SqlTemplate.Toml

structure StringForm where
  mark : Char
  escapes : Bool
  lines : Bool
  deriving DecidableEq

/-- Characters that may stand in comments, and in strings if they have no meaning there. -/
def isPlainChar (c : Char) : Bool :=
  c = '\t' || (0x20 ≤ c.toNat && c.toNat ≤ 0x7E) || 0x80 ≤ c.toNat

def isSpace (c : Char) : Bool :=
  c = ' ' || c = '\t'

inductive StringMode where
  | plain
  /-- After so many marks in a row, in a string on several lines. -/
  | marks (count : Nat)
  /-- After a backslash. -/
  | escape
  /-- In the number of a character, with so many digits to come. -/
  | code (missing number : Nat)
  /-- In the blank space that a backslash at the end of a line takes out. -/
  | fold (lineEnded : Bool)
  | closed
  | refused
  deriving DecidableEq

/-- A string read up to some place, its characters latest first. -/
structure StringScan where
  mode : StringMode := .plain
  chars : List Char := []

def escapedChar? : Char → Option Char
  | 'b' => some '\x08'
  | 't' => some '\t'
  | 'n' => some '\n'
  | 'f' => some '\x0c'
  | 'r' => some '\r'
  | '"' => some '"'
  | '\\' => some '\\'
  | _ => none

def hexDigit? (c : Char) : Option Nat :=
  if c.isDigit then some (c.toNat - '0'.toNat)
  else if 'a' ≤ c ∧ c ≤ 'f' then some (c.toNat - 'a'.toNat + 10)
  else if 'A' ≤ c ∧ c ≤ 'F' then some (c.toNat - 'A'.toNat + 10)
  else none

namespace StringForm

variable (form : StringForm)

def stepPlain (chars : List Char) (c : Char) : StringScan :=
  if c = form.mark then ⟨if form.lines then .marks 1 else .closed, chars⟩
  else if form.escapes ∧ c = '\\' then ⟨.escape, chars⟩
  else if isPlainChar c ∨ (form.lines ∧ c = '\n') then ⟨.plain, c :: chars⟩
  else ⟨.refused, chars⟩

def stepEscape (chars : List Char) (c : Char) : StringScan :=
  match escapedChar? c with
  | some meant => ⟨.plain, meant :: chars⟩
  | none =>
    if c = 'u' then ⟨.code 4 0, chars⟩
    else if c = 'U' then ⟨.code 8 0, chars⟩
    else if form.lines ∧ isSpace c then ⟨.fold false, chars⟩
    else if form.lines ∧ c = '\n' then ⟨.fold true, chars⟩
    else ⟨.refused, chars⟩

def stepCode (missing number : Nat) (chars : List Char) (c : Char) : StringScan :=
  match hexDigit? c with
  | none => ⟨.refused, chars⟩
  | some digit =>
    let number := 16 * number + digit
    if 1 < missing then ⟨.code (missing - 1) number, chars⟩
    else if number.isValidChar then ⟨.plain, Char.ofNat number :: chars⟩
    else ⟨.refused, chars⟩

/-- Reading stops after the mark that closes the string, and where the string is refused. -/
def step : StringScan → Char → Option StringScan
  | ⟨.plain, chars⟩, c => some (form.stepPlain chars c)
  | ⟨.marks count, chars⟩, c =>
    if c = form.mark then
      some (if count < 5 then ⟨.marks (count + 1), chars⟩ else ⟨.refused, chars⟩)
    else if count < 3 then some (form.stepPlain (List.replicate count form.mark ++ chars) c)
    else none
  | ⟨.escape, chars⟩, c => some (form.stepEscape chars c)
  | ⟨.code missing number, chars⟩, c => some (stepCode missing number chars c)
  | ⟨.fold lineEnded, chars⟩, c =>
    if isSpace c then some ⟨.fold lineEnded, chars⟩
    else if c = '\n' then some ⟨.fold true, chars⟩
    else if lineEnded then some (form.stepPlain chars c)
    else some ⟨.refused, chars⟩
  | ⟨.closed, _⟩, _ => none
  | ⟨.refused, _⟩, _ => none

/-- The string that has been read, if it was closed. -/
def content? : StringScan → Option String
  | ⟨.closed, chars⟩ => some (String.ofList chars.reverse)
  | ⟨.marks count, chars⟩ =>
    if 3 ≤ count then
      some (String.ofList (List.replicate (count - 3) form.mark ++ chars).reverse)
    else none
  | _ => none

/-- Reads what follows the opening marks. -/
def read : Reader String := do
  let scanned ← Reader.scan form.step {}
  Reader.ofOption (form.content? scanned)

end StringForm

/-- Reads a string that opens with one mark. -/
def lineString (mark : Char) : Reader String := do
  Reader.expect [mark]
  StringForm.read { mark, escapes := mark = '"', lines := false }

/-- Reads a string that opens with one mark or with three. A line end directly after three marks
does not belong to the string. -/
def anyString (mark : Char) : Reader String := do
  if [mark, mark, mark].isPrefixOf (← Reader.ahead) then
    Reader.skip 3
    if ['\n'].isPrefixOf (← Reader.ahead) then Reader.skip 1
    StringForm.read { mark, escapes := mark = '"', lines := true }
  else lineString mark

end SqlTemplate.Toml
