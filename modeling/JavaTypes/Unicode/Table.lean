/-
**Character properties as tables of code point ranges.**

A property of characters is a list of closed ranges, in ascending order. `RangeTable.contains`
decides membership.
-/

namespace JavaTypes.Unicode

/-- Closed ranges of code points: each entry holds its first and its last member. -/
abbrev RangeTable := List (Nat × Nat)

namespace RangeTable

/-- Whether the character lies in some range of the table. -/
def contains (table : RangeTable) (c : Char) : Bool :=
  table.any fun range => range.1 ≤ c.toNat && c.toNat ≤ range.2

end RangeTable

end JavaTypes.Unicode
