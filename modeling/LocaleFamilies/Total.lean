/-! Totals of counts. -/
namespace LocaleFamilies

def total (counts : List Nat) : Nat := counts.foldr (· + ·) 0

end LocaleFamilies
