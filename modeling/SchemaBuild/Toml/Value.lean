/-!
# TOML values

What a TOML document means. Numbers with a fraction and dates are kept only as far as a manifest
can use them: a float says nothing more than that it is one, and a date or time is its text.
-/

namespace SchemaBuild.Toml

inductive Value where
  | string (text : String)
  | integer (value : Int)
  | float
  | boolean (value : Bool)
  | moment (text : String)
  | array (items : List Value)
  | table (entries : List (String × Value))
  deriving Repr, Inhabited

abbrev Reader (α : Type) := List Char → Option (α × List Char)

end SchemaBuild.Toml
