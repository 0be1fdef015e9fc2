/-!
# Tokens of a template

A template is SQL text with named placeholders in it. Its tokens are the runs of text and the
placeholders, in order; writing them out one after the other gives the template back.
-/

namespace SqlTemplate

inductive Token where
  | text (content : String)
  | placeholder (name : String)
  deriving DecidableEq

/-- How a token stands in a template. -/
def Token.render : Token → String
  | .text content => content
  | .placeholder name => ":" ++ name

def Token.renderAll (tokens : List Token) : String :=
  String.join (tokens.map render)

def Token.name? : Token → Option String
  | .text _ => none
  | .placeholder name => some name

/-- The characters of placeholder names. A name may start with a digit, and may be empty. -/
def isNameChar (c : Char) : Bool :=
  c.isAlphanum || c = '_'

end SqlTemplate
