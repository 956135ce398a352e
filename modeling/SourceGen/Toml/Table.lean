import SourceGen.Data.Value
import SourceGen.Ordered.Sorted

/-!
# Tables under construction

A document builds its tables piece by piece, and what may still be added to a table depends on how
it came to be: by its own header, as a step on the way of another header, or by dotted keys. Values
are closed: nothing is added to an array or an inline table.
-/

namespace SourceGen.Toml

/-- How a table came to be: it has a header of its own, or is the document itself; a header of a
table below it passed through; or a dotted key did. -/
inductive Origin where
  | header
  | passed
  | dotted
deriving DecidableEq

/-- What a key of a table under construction names: a value, to which nothing is added; a table; or
the tables of repeated headers, newest first, of which only the newest grows. -/
inductive Node where
  | value (value : Value)
  | table (origin : Origin) (entries : List (String × Node))
  | tables (items : List (List (String × Node)))

/-- The entries of a table under construction, in ascending order of their keys. -/
abbrev Entries := List (String × Node)

/-- Changes the table at the end of a path. Tables on the way that are not there yet are made; a
step into repeated tables leads to the newest. On the way of a dotted key no table with a header of
its own may be entered. -/
def changeAt (byDots : Bool) (change : Origin → Entries → Option Entries) :
    (path : List String) → Origin → Entries → Option Entries
  | [], origin, entries => change origin entries
  | step :: path, _, entries =>
    match Sorted.get? step entries with
    | none =>
      let origin := if byDots then Origin.dotted else Origin.passed
      (changeAt byDots change path origin []).map fun child =>
        Sorted.insert step (.table origin child) entries
    | some (.table origin child) =>
      if byDots && origin = .header then none
      else
        (changeAt byDots change path origin child).map fun child =>
          Sorted.insert step (.table origin child) entries
    | some (.tables (newest :: older)) =>
      (changeAt byDots change path .header newest).map fun child =>
        Sorted.insert step (.tables (child :: older)) entries
    | some (.tables []) | some (.value _) => none

/-- Opens the table of a header under its last key. A table that another header passed through gets
its own header now; any other table or value has been defined already. -/
def openTable (key : String) (entries : Entries) : Option Entries :=
  match Sorted.get? key entries with
  | none => some (Sorted.insert key (.table .header []) entries)
  | some (.table .passed child) => some (Sorted.insert key (.table .header child) entries)
  | some _ => none

/-- Opens one more of the tables of a repeated header. -/
def openItem (key : String) (entries : Entries) : Option Entries :=
  match Sorted.get? key entries with
  | none => some (Sorted.insert key (.tables [[]]) entries)
  | some (.tables items) => some (Sorted.insert key (.tables ([] :: items)) entries)
  | some _ => none

/-- Gives a key its value. A key has one value only. -/
def setKey (key : String) (value : Value) (entries : Entries) : Option Entries :=
  match Sorted.get? key entries with
  | none => some (Sorted.insert key (.value value) entries)
  | some _ => none

/-- Gives a dotted key its value within a table: the table that takes the value is that table itself
or one that dotted keys have made. -/
def setPath (path : List String) (key : String) (value : Value) (entries : Entries) :
    Option Entries :=
  changeAt true
    (fun origin entries => if path = [] || origin = .dotted then setKey key value entries else none)
    path .header entries

/-! ## Finished tables -/

mutual

/-- The value of a finished node. -/
def Node.toValue : Node → Value
  | .value value => value
  | .table _ entries => .table (entriesToValues entries)
  | .tables items => .sequence (itemsToValues items).reverse

/-- The values of finished entries. -/
def entriesToValues : List (String × Node) → List (String × Value)
  | [] => []
  | (key, node) :: rest => (key, node.toValue) :: entriesToValues rest

/-- The values of repeated tables, newest first. -/
def itemsToValues : List (List (String × Node)) → List Value
  | [] => []
  | entries :: rest => .table (entriesToValues entries) :: itemsToValues rest

end

end SourceGen.Toml
