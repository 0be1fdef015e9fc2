import SqlTemplate.Finding
import SqlTemplate.Token

/-!
# Reading a template

A template is read one character at a time, without looking ahead. What a character means can
depend on the one after it, so the mode remembers what is still open: an `e` that a quote would
turn into the start of an escape string, a colon that a second colon would turn into a cast, a
quote that a second quote would turn into quoted text. Reading a concatenation is therefore
reading the first text and then going on with the second.
-/

namespace SqlTemplate

inductive Mode where
  | text
  /-- In text, after the letter `e` or `E`. -/
  | letterE
  /-- In text, after a colon whose meaning the next character decides. -/
  | colon
  /-- In the name of a placeholder. -/
  | name
  | inside (quote : Quote)
  /-- In an escape string, after a backslash. -/
  | escaped
  /-- After a quote that closes the quoted text unless it is written twice. -/
  | closing (quote : Quote)
  deriving DecidableEq

/-- The mode after `c` where no earlier character bears on it. -/
def Mode.start (c : Char) : Mode :=
  if c = 'e' ∨ c = 'E' then .letterE
  else if c = '\'' then .inside .string
  else if c = '"' then .inside .identifier
  else if c = ':' then .colon
  else .text

/-- The mode after `c` within quoted text. -/
def Mode.within (quote : Quote) (c : Char) : Mode :=
  if quote = .escapeString ∧ c = '\\' then .escaped
  else if c = quote.mark then .closing quote
  else .inside quote

/-- A template read up to some place: what has been found in it, and what has not been settled. -/
structure Scan where
  mode : Mode := .text
  /-- The number of bytes read. -/
  offset : Nat := 0
  /-- Where the latest quoted text was opened. -/
  opened : Nat := 0
  /-- The characters that belong to no token yet, the latest first. A colon is not among them
  while it may be a marker. -/
  pending : List Char := []
  /-- The tokens found, the latest first. -/
  tokens : List Token := []
  /-- The findings, the latest first. -/
  findings : List Finding := []

namespace Scan

def push (s : Scan) (mode : Mode) (c : Char) : Scan :=
  { s with mode := mode, pending := c :: s.pending }

def endText (s : Scan) : Scan :=
  if s.pending.isEmpty then s
  else { s with
    pending := []
    tokens := .text (String.ofList s.pending.reverse) :: s.tokens }

def endName (s : Scan) : Scan :=
  { s with
    mode := .text
    pending := []
    tokens := .placeholder (String.ofList s.pending.reverse) :: s.tokens }

/-- The colon just read is a marker without a name. -/
def endMarker (s : Scan) : Scan :=
  let t := s.endText
  { t with
    mode := .text
    tokens := .placeholder "" :: t.tokens
    findings := .emptyName (s.offset - 1) :: t.findings }

/-- The template ends within the quoted text opened last. -/
def endQuoted (s : Scan) (quote : Quote) : Scan :=
  let t := s.endText
  { t with findings := .unterminated quote s.opened :: t.findings }

/-- Takes up `c` where no earlier character bears on it. -/
def begin (s : Scan) (c : Char) : Scan :=
  match Mode.start c with
  | .colon => { s with mode := .colon }
  | .inside quote => { s.push (.inside quote) c with opened := s.offset }
  | mode => s.push mode c

/-- Takes up `c`, all but counting its bytes. -/
def take (s : Scan) (c : Char) : Scan :=
  match s.mode with
  | .text => s.begin c
  | .letterE =>
    if c = '\'' then { s.push (.inside .escapeString) c with opened := s.offset - 1 }
    else s.begin c
  | .colon =>
    if c = ':' then (s.push .text ':').push .text ':'
    else if isNameChar c then s.endText.push .name c
    else s.endMarker.begin c
  | .name => if isNameChar c then s.push .name c else s.endName.begin c
  | .inside quote => s.push (.within quote c) c
  | .escaped => s.push (.inside .escapeString) c
  | .closing quote => if c = quote.mark then s.push (.inside quote) c else s.begin c

def step (s : Scan) (c : Char) : Scan :=
  { s.take c with offset := s.offset + c.utf8Size }

/-- Settles what is open at the end of the template. -/
def finish (s : Scan) : Scan :=
  match s.mode with
  | .colon => s.endMarker
  | .name => s.endName
  | .inside quote => s.endQuoted quote
  | .escaped => s.endQuoted .escapeString
  | .text | .letterE | .closing _ => s.endText

def run (s : Scan) (text : List Char) : Scan :=
  text.foldl step s

@[simp] theorem run_nil (s : Scan) : s.run [] = s := rfl

@[simp] theorem run_cons (s : Scan) (c : Char) (text : List Char) :
    s.run (c :: text) = (s.step c).run text := rfl

@[simp] theorem offset_step (s : Scan) (c : Char) :
    (s.step c).offset = s.offset + c.utf8Size := rfl

theorem run_append (s : Scan) (first second : List Char) :
    s.run (first ++ second) = (s.run first).run second :=
  List.foldl_append

end Scan

structure Reading where
  tokens : List Token
  findings : List Finding
  deriving DecidableEq

def Reading.ofTemplate (template : String) : Reading :=
  let s := (Scan.run {} template.toList).finish
  ⟨s.tokens.reverse, s.findings.reverse⟩

end SqlTemplate
