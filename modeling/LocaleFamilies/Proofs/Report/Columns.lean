import LocaleFamilies.Proofs.Report.Wording
import LocaleFamilies.Report.Listing
import Mathlib.Data.List.Fold
import Mathlib.Data.List.MinMax
import Mathlib.Data.List.Nodup
import Mathlib.Order.Nat

/-! The lines of a listing as text. Codes and names are filled up to columns that none of them is wider
than, so the row of a locale is told by its start, and what follows is where its file is. -/
namespace LocaleFamilies.Report

namespace Listing

variable {registry : Registry} {code : Code}

/-- How the row of a locale starts. -/
def rowLabel (registry : Registry) (code : Code) : String :=
  "  " ++ codeCell registry code ++ "  " ++ nameCell registry code ++ "  "

/-- The locales of which a text can be the row, each with what the row tells. -/
def rows? (registry : Registry) (text : String) : List (Code × String) :=
  registry.codes.filterMap fun code => (after? (rowLabel registry code) text).map (code, ·)

end Listing

namespace ListingLine

open Listing

/-- What a row tells of the file of a locale. -/
def placeText (root : Path) : Option Path → String
  | some path => path.displayFrom root
  | none => "(missing)"

/-- What is read back from the text of a line. A row that codes without blanks fill is told from those of
other locales. -/
def Reads (root : Path) (registry : Registry) (text : String) : ListingLine → Prop
  | .collision entry => after? "warning: " text =
      some (entry.displaced.displayFrom root ++ " and " ++ entry.kept.displayFrom root ++
        " both map to '" ++ entry.locale ++ "' of " ++ entry.key.displayFrom root ++ "; using " ++
        entry.kept.displayFrom root)
  | heading key => text = key.displayFrom root
  | row code file =>
    (∃ padding padding', code.length + padding = codeWidth registry ∧
      Text.width (registry.nameOf code) + padding' = nameWidth registry ∧
      text = "  " ++ code ++ blanks padding ++ "  " ++ registry.nameOf code ++ blanks padding' ++ "  " ++
        placeText root file) ∧
    ((∀ code ∈ registry.codes, ' ' ∉ code.toList) → rows? registry text = [(code, placeText root file)])
  | totals count files =>
    counts? [" document " ++ families count ++ ", ", " file(s)."] text = some [count, files]

end ListingLine

end LocaleFamilies.Report
