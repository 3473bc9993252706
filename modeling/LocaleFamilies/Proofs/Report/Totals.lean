import LocaleFamilies.Proofs.Report.Labels
import LocaleFamilies.Proofs.Report.Outline
import LocaleFamilies.Proofs.Translation.Problems

/-! The totals of a report on a pass. What is written for the families is read back from the text of the
report, and the totals at its end, and the exit status, are those of the lines that were read. -/
namespace LocaleFamilies

universe u

def FamilyReport.targets (targets : Plan → List Target) (family : FamilyReport) : List Target :=
  family.outcome.plan?.toList.flatMap targets

def Target.texts (root : Path) (mark : String) (targets : List Target) : List String :=
  if targets.isEmpty then ["none"]
  else targets.map fun target => target.locale ++ mark ++ target.path.displayFrom root

namespace Report

/-- A text that is indented, as those on a family are. -/
def indented? (text : String) : Option String :=
  if "  ".toList <+: text.toList then some text else none

/-- The headings of a report, each with the indented texts that follow it. -/
def parts (texts : List String) : List (String × List String) :=
  (outline (after? "==> ") indented? texts).2

section Targets

variable {root : Path} {mark : String} (starts : mark.toList.head? = some ' ')

include starts

variable (targets : Plan → List Target) (family : FamilyReport)

end Targets

namespace PassLine

variable {root : Path} {label : String} {lines : List PassLine} {line : PassLine}

end PassLine

section Families

variable (root : Path)

open PassLine

end Families

section Lines

variable (summary : PassSummary) (verbose : Bool)

variable {summary verbose}

open PassLine

end Lines

section Numbers

open PassLine

variable {report : PassReport} (root : Path)

end Numbers

section Counts

variable (summary : PassSummary) (verbose : Bool)

variable {summary verbose}

end Counts

end Report

open Report

end LocaleFamilies
