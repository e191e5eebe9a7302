/-
Character properties as tables of code point ranges. A property of the
character database is a list of closed ranges in increasing order, and a
character has the property when some range covers its code point. The
tables themselves are one module each, named for the property; this file
only says how they are read.
-/

namespace ContractDocs.Text

/-- Closed ranges of code points, in increasing order. -/
abbrev Ranges := List (Nat × Nat)

namespace Ranges

/-- Some range of the table covers the code point of `c`. -/
def covers (table : Ranges) (c : Char) : Bool :=
  table.any fun range => range.1 ≤ c.toNat && c.toNat ≤ range.2

end Ranges

end ContractDocs.Text
