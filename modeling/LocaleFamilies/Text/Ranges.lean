/-! Sets of characters given by ranges of code points, as the Unicode standard lists them. -/
namespace LocaleFamilies.Text

abbrev Ranges := List (Nat × Nat)

namespace Ranges

def contains (ranges : Ranges) (c : Char) : Bool :=
  ranges.any fun range => range.1 ≤ c.toNat && c.toNat ≤ range.2

end Ranges

end LocaleFamilies.Text
