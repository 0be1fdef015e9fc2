import SqlTemplate.Toml.Binary64
import SqlTemplate.Toml.Moment

/-!
# Values of settings

A table lists its entries in the order of their keys, each key once.
-/

namespace SqlTemplate.Toml

inductive Value where
  | string (text : String)
  | integer (n : Int)
  | float (x : Binary64)
  | boolean (b : Bool)
  | moment (m : Moment)
  | array (items : List Value)
  | table (entries : List (String × Value))

abbrev Table := List (String × Value)

end SqlTemplate.Toml
