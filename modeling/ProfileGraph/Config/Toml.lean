import ProfileGraph.Numeric.Binary64

/-! TOML values. A table may come into being in four ways, and the way decides what
may be added to it later on. -/
namespace ProfileGraph

/-- How a table came into being. -/
inductive TableOrigin where
  /-- Named by a header, or the outermost table. -/
  | header
  /-- Passed through by a header that names a table inside it. -/
  | passage
  /-- Passed through by a key with dots. -/
  | dotted
  /-- Written between braces. -/
  | braces
deriving DecidableEq, Repr

/-- A TOML value. -/
inductive Toml where
  | string (value : String)
  | bool (value : Bool)
  | integer (value : Int)
  | real (value : Binary64)
  /-- A date, a time or both, as written. -/
  | moment (text : String)
  | array (items : List Toml)
  | table (origin : TableOrigin) (entries : List (String × Toml))
  /-- Tables that headers between double brackets add one by one. -/
  | tables (items : List (List (String × Toml)))

namespace Toml

/-- The entries of a table. -/
abbrev Entries := List (String × Toml)

/-- The value of a key. -/
def value? (key : String) (entries : Entries) : Option Toml :=
  (entries.find? (·.1 == key)).map (·.2)

end Toml
end ProfileGraph
