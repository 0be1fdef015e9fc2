import SqlTemplate.Toml.Value

/-!
# Words

A value that is neither a string nor in brackets is one word: a truth value, a number, a date or a
time. Digits may be grouped by single underscores between them.
-/

namespace SqlTemplate.Toml

def isWordChar (c : Char) : Bool :=
  c.isAlphanum || c = '_' || c = '+' || c = '-' || c = '.' || c = ':'

def digitValue (c : Char) : Nat :=
  if c.isDigit then c.toNat - '0'.toNat else c.toLower.toNat - 'a'.toNat + 10

def isDigitOf (radix : Nat) (c : Char) : Bool :=
  c.isAlphanum && digitValue c < radix

def numberOf (radix : Nat) (digits : List Char) : Nat :=
  digits.foldl (fun n c => radix * n + digitValue c) 0

/-- The digits of a group of digits, without the underscores. -/
def grouped? (radix : Nat) (word : List Char) : Option (List Char) :=
  let isDigit := isDigitOf radix
  if word.all (fun c => isDigit c || c = '_') && word.head?.any isDigit &&
      word.getLast?.any isDigit && (word.zip word.tail).all (fun p => isDigit p.1 || isDigit p.2)
  then some (word.filter isDigit)
  else none

/-- Decimal digits that start with a zero only if it is the only one. -/
def decimal? (word : List Char) : Option (List Char) :=
  match grouped? 10 word with
  | some ['0'] => some ['0']
  | some ('0' :: _) => none
  | other => other

/-- Whether a minus sign stands before a word, and the word without its sign. -/
def signed : List Char → Bool × List Char
  | '+' :: word => (false, word)
  | '-' :: word => (true, word)
  | word => (false, word)

def withSign (negative : Bool) (n : Nat) : Int :=
  if negative then -n else n

/-- Integers have 64 bits. -/
def inRange (n : Int) : Bool :=
  -0x8000000000000000 ≤ n && n < 0x8000000000000000

/-- The number that digits make, or a magnitude out of range if it is greater than that. -/
def magnitudeOf (radix : Nat) (digits : List Char) : Nat :=
  digits.foldl (fun n c => min (radix * n + digitValue c) 0x10000000000000000) 0

def unsigned? (radix : Nat) (word : List Char) : Option Int :=
  (grouped? radix word).map fun digits => Int.ofNat (magnitudeOf radix digits)

def integer? (word : List Char) : Option Int :=
  let n? := match word with
    | '0' :: 'x' :: digits => unsigned? 16 digits
    | '0' :: 'o' :: digits => unsigned? 8 digits
    | '0' :: 'b' :: digits => unsigned? 2 digits
    | _ =>
      let (negative, word) := signed word
      (decimal? word).map fun digits => withSign negative (magnitudeOf 10 digits)
  n?.filter inRange

/-- The number that the digits of an exponent make. Once they make 65536 or more, the digits that
are left do not count. -/
def exponentOf (digits : List Char) : Nat :=
  digits.foldl (fun n c => if n < 0x10000 then 10 * n + digitValue c else n) 0

example : exponentOf "655360".toList = 65536 := by decide +kernel

/-- The exponent after the letter that introduces it. -/
def exponent? (word : List Char) : Option Int :=
  let (negative, word) := signed word
  (grouped? 10 word).map fun digits => withSign negative (exponentOf digits)

/-- The number of digits that are read as they stand. A number halfway between two floating-point
numbers has fewer digits than that. -/
def maxDigits : Nat := 800

/-- The floating-point number nearest to the one that digits make, times a power of ten. Of the
digits behind the first `maxDigits`, it only matters whether any is not zero, since that says on
which side of a halfway number the number lies. -/
def nearest (negative : Bool) (digits : List Char) (exponent : Int) : Binary64 :=
  let digits := digits.dropWhile (· = '0')
  let left := digits.drop maxDigits
  if left.all (· = '0') then
    Binary64.ofDecimal negative (numberOf 10 (digits.take maxDigits)) (exponent + left.length)
  else
    Binary64.ofDecimal negative (10 * numberOf 10 (digits.take maxDigits) + 1)
      (exponent + left.length - 1)

/-- A number with a fraction, an exponent or both. One too great is refused; one too small, on the
negative side, is minus infinity. -/
def decimalFraction? (negative : Bool) (word : List Char) : Option Binary64 := do
  let (coefficient, power) := word.span (fun c => c ≠ 'e' && c ≠ 'E')
  let (whole, fraction) := coefficient.span (· ≠ '.')
  guard (!(power.isEmpty && fraction.isEmpty))
  let wholeDigits ← decimal? whole
  let fractionDigits ← if fraction.isEmpty then some [] else grouped? 10 fraction.tail
  let exponent ← if power.isEmpty then some 0 else exponent? power.tail
  let x := nearest negative (wholeDigits ++ fractionDigits) (exponent - fractionDigits.length)
  guard (x ≠ Binary64.infinity false)
  return x

def float? (word : List Char) : Option Binary64 :=
  let (negative, word) := signed word
  if word = "inf".toList then some (Binary64.infinity negative)
  else if word = "nan".toList then some Binary64.nan
  else decimalFraction? negative word

def boolean? (word : List Char) : Option Bool :=
  if word = "true".toList then some true
  else if word = "false".toList then some false
  else none

/-- A number of exactly the given decimal digits. -/
def fixed? (digits : List Char) : Option Nat :=
  if digits.all Char.isDigit then some (numberOf 10 digits) else none

/-- The date at the start of a word, and what follows it. -/
def date? : List Char → Option (Date × List Char)
  | y₁ :: y₂ :: y₃ :: y₄ :: '-' :: m₁ :: m₂ :: '-' :: d₁ :: d₂ :: rest => do
    let date : Date := ⟨← fixed? [y₁, y₂, y₃, y₄], ← fixed? [m₁, m₂], ← fixed? [d₁, d₂]⟩
    if date.isValid then some (date, rest) else none
  | _ => none

/-- The fraction of a second in nanoseconds, what is finer being cut off. -/
def nanoseconds (digits : List Char) : Nat :=
  numberOf 10 ((digits ++ List.replicate 9 '0').take 9)

/-- The fraction of a second at the start of a word, if there is one, and what follows it. -/
def fraction? : List Char → Option (Nat × List Char)
  | '.' :: rest =>
    let digits := rest.takeWhile Char.isDigit
    if digits.isEmpty then none else some (nanoseconds digits, rest.dropWhile Char.isDigit)
  | rest => some (0, rest)

/-- The time at the start of a word, and what follows it. -/
def time? : List Char → Option (Time × List Char)
  | h₁ :: h₂ :: ':' :: m₁ :: m₂ :: ':' :: s₁ :: s₂ :: rest => do
    let (nanosecond, rest) ← fraction? rest
    let time : Time :=
      ⟨← fixed? [h₁, h₂], ← fixed? [m₁, m₂], ← fixed? [s₁, s₂], nanosecond⟩
    if time.isValid then some (time, rest) else none
  | _ => none

/-- The offset that the rest of a word gives; `some none` if nothing is left. -/
def offset? : List Char → Option (Option Offset)
  | [] => some none
  | ['Z'] | ['z'] => some (some .utc)
  | [sign, h₁, h₂, ':', m₁, m₂] => do
    let hours ← fixed? [h₁, h₂]
    let minutes ← fixed? [m₁, m₂]
    guard (hours ≤ 23 && minutes ≤ 59 && (sign = '+' || sign = '-'))
    return some (.minutes (withSign (sign = '-') (60 * hours + minutes)))
  | _ => none

def isDateTimeSeparator (c : Char) : Bool :=
  c = 'T' || c = 't' || c = ' '

def moment? (word : List Char) : Option Moment :=
  match date? word with
  | some (date, []) => some (.date date)
  | some (date, separator :: rest) => do
    guard (isDateTimeSeparator separator)
    let (time, rest) ← time? rest
    return .both date time (← offset? rest)
  | none =>
    match time? word with
    | some (time, []) => some (.time time)
    | _ => none

/-- Whether a word is a date to which a time may be added after a space. -/
def isDate (word : List Char) : Bool :=
  match date? word with
  | some (_, []) => true
  | _ => false

def Value.ofWord? (word : List Char) : Option Value :=
  ((boolean? word).map .boolean)
    <|> ((integer? word).map .integer)
    <|> ((float? word).map .float)
    <|> ((moment? word).map .moment)

end SqlTemplate.Toml
