import LocaleFamilies.Proofs.Family.Accounting
import LocaleFamilies.Proofs.Report.Columns
import LocaleFamilies.Proofs.Report.Outline
import LocaleFamilies.Report.Summary
import Mathlib.Data.List.Perm.Basic

/-! The listing of families as an audit of the files that were found. What it shows is read back from its
lines: every family has its part and every supported locale its row there, and a file is shown in the row
of its family and locale, unless a warning tells that another file has displaced it. -/
namespace LocaleFamilies

namespace SortedMap

universe u v w
variable {κ : Type u} {α : Type v} {β : Type w} [Ord κ] [Std.TransOrd κ] [Std.LawfulEqOrd κ]

end SortedMap

namespace Grouping

variable (registry : Registry) (paths : List Path)

end Grouping

namespace Report

namespace ListingLine

def heading? : ListingLine → Option Path
  | heading key => some key
  | _ => none

def collision? : ListingLine → Option Collision
  | collision entry => some entry
  | _ => none

end ListingLine

namespace Listing

def warnings (lines : List ListingLine) : List Collision := lines.filterMap ListingLine.collision?

section Reading

variable (listing : Listing)

end Reading

section Audit

variable (root : Path) (registry : Registry) (paths : List Path)

end Audit

section Writing

variable (listing : Listing)

end Writing

end Listing

end Report

end LocaleFamilies
