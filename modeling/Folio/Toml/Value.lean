/-!
# TOML values

What a TOML text says: a table of values by key. Dates and times are kept as they are written, in
their normal form.
-/

namespace Folio

/-- A TOML value. -/
inductive Toml where
  | text (value : String)
  | integer (value : Int)
  | real (value : Float)
  | bool (value : Bool)
  /-- A date, a time, or both. -/
  | moment (shown : String)
  | list (items : List Toml)
  | table (members : List (String × Toml))
  deriving Repr, Inhabited

namespace Toml

/-- How deep lists and tables in braces may be nested, and how many parts a key may have. -/
def maxNesting : Nat := 79

end Toml
end Folio
