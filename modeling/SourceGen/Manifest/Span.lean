import SourceGen.Text.Split

/-!
# Places of quoted values

Messages about a manifest point at the text of a value. A value is looked for between double quotes
and between single quotes, and its places are listed in the order of the source.
-/

namespace SourceGen

/-- A stretch of a source text: the number of bytes before it, and the number of bytes it covers. -/
structure Span where
  offset : Nat
  length : Nat
deriving DecidableEq, Inhabited

namespace Span

/-- The places of `value` between two quotes of one kind, without the quotes. -/
def ofQuote (source value : List Char) (quote : Char) : List Span :=
  (Text.occurrences (quote :: value ++ [quote]) source).map fun offset =>
    ⟨offset + 1, Text.byteLength value⟩

/-- Inserts a place behind all that begin no later. -/
def insert (span : Span) : List Span → List Span
  | [] => [span]
  | other :: rest =>
    if span.offset < other.offset then span :: other :: rest else other :: insert span rest

/-- Every place of `value` between quotes of either kind, in the order of the source. -/
def ofValue (source value : String) : List Span :=
  (ofQuote source.toList value.toList '"' ++ ofQuote source.toList value.toList '\'').foldl
    (fun sorted span => insert span sorted) []

end Span

end SourceGen
