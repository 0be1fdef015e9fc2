import SqlTemplate.Toml.Definition
import SqlTemplate.Toml.Quoted

/-!
# The form of settings

Settings are read line by line. A line is blank, assigns a value to a key, or is a header. Values
in brackets may be nested, and keys may have parts, but neither deeper than the limits below.
-/

namespace SqlTemplate.Toml

/-- The greatest number of parts of a key, and of brackets within each other. -/
def maxDepth : Nat := 79

def space : Reader Unit :=
  discard (Reader.takeWhile isSpace)

/-- A comment, if there is one, up to the end of the line. -/
def comment : Reader Unit := do
  if ['#'].isPrefixOf (← Reader.ahead) then discard (Reader.takeWhile isPlainChar)

inductive GapMode where
  | blank
  | comment
  | refused
  deriving DecidableEq

def GapMode.step : GapMode → Char → Option GapMode
  | .blank, c =>
    if isSpace c ∨ c = '\n' then some .blank
    else if c = '#' then some .comment
    else none
  | .comment, c =>
    if c = '\n' then some .blank
    else if isPlainChar c then some .comment
    else some .refused
  | .refused, _ => none

/-- Space, line ends and comments. -/
def gap : Reader Unit := do
  let mode ← Reader.scan GapMode.step .blank
  Reader.require (mode ≠ .refused)

def isBareKeyChar (c : Char) : Bool :=
  c.isAlphanum || c = '_' || c = '-'

def bareKey : Reader String := do
  let key ← Reader.takeWhile isBareKeyChar
  Reader.require (!key.isEmpty)
  return String.ofList key

def keyPart : Reader String := do
  match ← Reader.ahead with
  | '"' :: _ => lineString '"'
  | '\'' :: _ => lineString '\''
  | _ => bareKey

/-- The parts of a key, with the space around it. -/
def keyPath : Reader (List String) := do
  let path ← Reader.separated (do space; let key ← keyPart; space; return key) '.'
  Reader.require (path.length ≤ maxDepth)
  return path

/-- A word. A date and a time with one space between them are one word. -/
def wordValue : Reader Value := do
  let word ← Reader.takeWhile isWordChar
  let added ← match ← Reader.ahead with
    | ' ' :: c :: _ =>
      if isDate word && c.isDigit then do
        Reader.skip 1
        let time ← Reader.takeWhile isWordChar
        pure (' ' :: time)
      else pure []
    | _ => pure []
  Reader.ofOption (Value.ofWord? (word ++ added))

/-- A key, an equals sign, and a value. -/
def assignment (value : Reader Value) : Reader (List String × Value) := do
  let path ← keyPath
  Reader.expect ['=']
  space
  let v ← value
  space
  return (path, v)

/-- A place between two commas, which holds a value unless it is the last one. -/
def arrayPlace (value : Reader Value) : Reader (Option Value) := do
  gap
  match ← Reader.ahead with
  | ']' :: _ => return none
  | _ =>
    let v ← value
    gap
    return some v

/-- The values in square brackets. A comma may follow the last one. -/
def arrayValue (value : Reader Value) : Reader Value := do
  Reader.expect ['[']
  let places ← Reader.separated (arrayPlace value) ','
  Reader.expect [']']
  Reader.require (places.dropLast.all Option.isSome)
  return .array (places.filterMap id)

/-- The assignments in curly brackets. All of it stands on one line, and no comma follows the last
one. -/
def inlineTable (value : Reader Value) : Reader Value := do
  Reader.expect ['\x7b']
  space
  let assignments ← match ← Reader.ahead with
    | '\x7d' :: _ => pure []
    | _ => Reader.separated (assignment value) ','
  Reader.expect ['\x7d']
  Reader.ofOption ((assignAll {} assignments).bind tableValue?)

/-- A value that is not in brackets. -/
def plainValue : Reader Value := do
  match ← Reader.ahead with
  | '"' :: _ => return .string (← anyString '"')
  | '\'' :: _ => return .string (← anyString '\'')
  | _ => wordValue

/-- A value with at most the given number of brackets within each other. -/
def value : Nat → Reader Value
  | 0 => plainValue
  | depth + 1 => do
    match ← Reader.ahead with
    | '[' :: _ => arrayValue (value depth)
    | '\x7b' :: _ => inlineTable (value depth)
    | _ => plainValue

inductive Line where
  | blank
  | assignment (path : List String) (value : Value)
  | table (path : List String)
  | element (path : List String)

def line : Reader Line := do
  space
  let read ← match ← Reader.ahead with
    | [] | '\n' :: _ | '#' :: _ => pure .blank
    | '[' :: '[' :: _ =>
      Reader.skip 2
      let path ← keyPath
      Reader.expect [']', ']']
      pure (.element path)
    | '[' :: _ =>
      Reader.skip 1
      let path ← keyPath
      Reader.expect [']']
      pure (.table path)
    | _ =>
      let (path, v) ← assignment (value maxDepth)
      pure (.assignment path v)
  space
  comment
  return read

def lines : Reader (List Line) := do
  let lines ← Reader.separated line '\n'
  Reader.atEnd
  return lines

end SqlTemplate.Toml
