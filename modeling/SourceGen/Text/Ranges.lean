/-!
# Character ranges

A Unicode property is a set of code points, kept as a list of closed intervals. Membership is the
plain search through that list, so a property is decided by its table and nothing else.
-/

namespace SourceGen.Text

/-- Whether the code point of `c` lies in one of the closed intervals. -/
def inRanges (ranges : List (Nat × Nat)) (c : Char) : Bool :=
  ranges.any fun (first, last) => first ≤ c.toNat && c.toNat ≤ last

end SourceGen.Text
