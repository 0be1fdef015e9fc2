/-!
# Readers

A reader takes something from the start of a text and leaves a suffix of the text, or fails. That
the rest is a suffix is part of the type, so a reader can be repeated as often as a separator
follows what it has read.
-/

namespace SqlTemplate.Toml

/-- What is left of a text. -/
abbrev Rest (text : List Char) := { rest : List Char // rest <:+ text }

def Reader (α : Type) := (text : List Char) → Option (α × Rest text)

namespace Reader

variable {α σ : Type}

instance : Monad Reader where
  pure a text := some (a, ⟨text, List.suffix_rfl⟩)
  bind first next text :=
    match first text with
    | none => none
    | some (a, ⟨middle, middleSuffix⟩) =>
      match next a middle with
      | none => none
      | some (b, ⟨rest, restSuffix⟩) => some (b, ⟨rest, restSuffix.trans middleSuffix⟩)

def fail : Reader α := fun _ => none

def ofOption : Option α → Reader α
  | some a => pure a
  | none => fail

def require (holds : Bool) : Reader Unit :=
  if holds then pure () else fail

/-- The whole text, of which nothing is taken. -/
def ahead : Reader (List Char) := fun text => some (text, ⟨text, List.suffix_rfl⟩)

def takeWhile (p : Char → Bool) : Reader (List Char) := fun text =>
  some (text.takeWhile p, ⟨text.dropWhile p, List.dropWhile_suffix p⟩)

def skip (n : Nat) : Reader Unit := fun text =>
  some ((), ⟨text.drop n, List.drop_suffix n text⟩)

/-- Takes the given characters. -/
def expect (expected : List Char) : Reader Unit := do
  require (expected.isPrefixOf (← ahead))
  skip expected.length

def atEnd : Reader Unit := do
  require (← ahead).isEmpty

/-- Takes characters as long as `step` accepts them, each in the state left by those before. -/
def scanFrom (step : σ → Char → Option σ) {whole : List Char} (state : σ) :
    (text : List Char) → text <:+ whole → Option (σ × Rest whole)
  | [], suffix => some (state, ⟨[], suffix⟩)
  | c :: text, suffix =>
    match step state c with
    | none => some (state, ⟨c :: text, suffix⟩)
    | some next => scanFrom step next text ((List.suffix_cons c text).trans suffix)

def scan (step : σ → Char → Option σ) (start : σ) : Reader σ := fun text =>
  scanFrom step start text List.suffix_rfl

/-- Reads an item, and another one after each separator. The items read are given latest first. -/
def separatedFrom (item : Reader α) (separator : Char) {whole : List Char} (found : List α)
    (text : List Char) (suffix : text <:+ whole) : Option (List α × Rest whole) :=
  match item text with
  | none => none
  | some (a, ⟨[], restSuffix⟩) => some ((a :: found).reverse, ⟨[], restSuffix.trans suffix⟩)
  | some (a, ⟨c :: rest, restSuffix⟩) =>
    if c = separator then
      separatedFrom item separator (a :: found) rest
        ((List.suffix_cons c rest).trans (restSuffix.trans suffix))
    else some ((a :: found).reverse, ⟨c :: rest, restSuffix.trans suffix⟩)
termination_by text.length
decreasing_by exact restSuffix.length_le

/-- One item or more, with separators between them. -/
def separated (item : Reader α) (separator : Char) : Reader (List α) := fun text =>
  separatedFrom item separator [] text List.suffix_rfl

end Reader

end SqlTemplate.Toml
