/-!
The values of a TOML document.  Dates and times are kept by their text.
-/

namespace WordHunt

inductive Toml where
  | boolean (value : Bool)
  | integer (value : Int)
  | real (value : Float)
  | text (value : String)
  | moment (text : String)
  | array (items : List Toml)
  | table (members : List (String × Toml))

end WordHunt
