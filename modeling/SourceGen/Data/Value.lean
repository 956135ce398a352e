import SourceGen.Decimal.Binary64

/-!
# Data values

What a manifest holds before it is known to be one: the values that data formats share. Tables are
lists of named entries in ascending order of their names.
-/

namespace SourceGen

/-- A value of a data format. A `numeral` stands for no number of the two kinds, and a `datetime` is
a date, a time or both; these are kept as written. -/
inductive Value where
  | null
  | boolean (value : Bool)
  | integer (value : Int)
  | float (value : Binary64)
  | numeral (written : String)
  | text (value : String)
  | datetime (written : String)
  | sequence (items : List Value)
  | table (entries : List (String × Value))
deriving Inhabited

namespace Value

mutual

/-- Whether every numeral in a value stands for a number. -/
def isExact : Value → Bool
  | numeral _ => false
  | sequence items => areExact items
  | table entries => areExactEntries entries
  | _ => true

/-- Whether every numeral in the items stands for a number. -/
def areExact : List Value → Bool
  | [] => true
  | item :: rest => item.isExact && areExact rest

/-- Whether every numeral in the entries stands for a number. -/
def areExactEntries : List (String × Value) → Bool
  | [] => true
  | (_, value) :: rest => value.isExact && areExactEntries rest

end

end Value

end SourceGen
