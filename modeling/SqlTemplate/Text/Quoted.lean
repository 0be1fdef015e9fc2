import SqlTemplate.Text.GraphemeExtend
import SqlTemplate.Text.Unprintable

/-!
# Quoted text

A text as it is shown inside a message: in double quotes, with a backslash before each quote and
backslash, short names for the commonest control characters, and the number of every other
character that has no shape of its own.
-/

namespace SqlTemplate.Text

def hex (n : Nat) : String :=
  String.ofList (Nat.toDigits 16 n)

def numbered (c : Char) : String :=
  "\\u\x7b" ++ hex c.toNat ++ "\x7d"

/-- The sound marks of halfwidth katakana, which extend a grapheme but have a shape and a place of
their own. -/
def isHalfwidthMark (c : Char) : Bool :=
  c = '\uff9e' || c = '\uff9f'

/-- The letters of Hangul that fill the place of an absent letter, and show nothing. -/
def isHangulFiller (c : Char) : Bool :=
  c = '\u115f' || c = '\u1160' || c = '\u3164' || c = '\uffa0'

/-- Whether a character can be told from its shape. -/
def hasShape (c : Char) : Bool :=
  isHalfwidthMark c || !(isGraphemeExtend c || isUnprintable c || isHangulFiller c)

def shown (c : Char) : String :=
  if c = '\x00' then "\\0"
  else if c = '\t' then "\\t"
  else if c = '\n' then "\\n"
  else if c = '\r' then "\\r"
  else if c = '"' then "\\\""
  else if c = '\\' then "\\\\"
  else if hasShape c then String.singleton c
  else numbered c

def quoted (text : String) : String :=
  "\"" ++ String.join (text.toList.map shown) ++ "\""

example : quoted "a\"b\\\n" = "\"a\\\"b\\\\\\n\"" := by decide +kernel

example : quoted "é\u0301\u200b" = "\"é\\u\x7b301\x7d\\u\x7b200b\x7d\"" := by decide +kernel

example : quoted "\uff9f\u3164" = "\"\uff9f\\u\x7b3164\x7d\"" := by decide +kernel

end SqlTemplate.Text
