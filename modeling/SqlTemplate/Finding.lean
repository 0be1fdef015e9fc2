/-!
# Findings

What is worth a remark about a template without being an error. An offset counts the bytes of the
UTF-8 encoding of the text before the place it names.
-/

namespace SqlTemplate

/-- The three ways in which SQL quotes text. Only the last one knows a backslash. -/
inductive Quote where
  | string
  | identifier
  | escapeString
  deriving DecidableEq

/-- The character that closes the quoted text. Written twice, it stands for itself. -/
def Quote.mark : Quote → Char
  | .string => '\''
  | .identifier => '"'
  | .escapeString => '\''

def Quote.label : Quote → String
  | .string => "string literal"
  | .identifier => "quoted identifier"
  | .escapeString => "escape string literal"

inductive Finding where
  /-- The template ends inside the quoted text opened at `offset`. -/
  | unterminated (quote : Quote) (offset : Nat)
  /-- No name follows the colon at `offset`. -/
  | emptyName (offset : Nat)
  deriving DecidableEq

def Finding.offset : Finding → Nat
  | .unterminated _ offset => offset
  | .emptyName offset => offset

def Finding.message : Finding → String
  | .unterminated quote offset =>
    "unterminated " ++ quote.label ++ " starting at byte " ++ toString offset
  | .emptyName offset =>
    "placeholder marker at byte " ++ toString offset ++ " has an empty name"

end SqlTemplate
