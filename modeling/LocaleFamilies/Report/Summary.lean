import LocaleFamilies.Report.Listing

/-! What a command leaves behind: its report, and the status that the process exits with. -/
namespace LocaleFamilies.Report

inductive Summary
  | pass (summary : PassSummary)
  | listing (listing : Listing)
  | made (file : Path)
  | overview

structure Result where
  summary : Summary
  errorCount : Nat
  exitOnErrors : Bool

inductive Status
  | success
  | failure
  | error
  deriving DecidableEq, Repr

def Status.code : Status → Nat
  | success => 0
  | failure => 1
  | error => 2

def usage : List String :=
  ["Usage: docfam [COMMAND]", "", "Commands:",
    "  sync      Create missing and update existing translations for affected document families",
    "  families  List document families and the locale files they contain",
    "  init      Initialize a new .i18nrc.json configuration file"]

namespace Summary

def lines (summary : Summary) (verbose color : Bool) : List String :=
  match summary with
  | .pass known => (passLines known verbose).map (·.text known.root color)
  | .listing known => known.written.map (·.text known.root known.registry color)
  | .made file =>
    [written color [.styled .green goodMark, " ", .styled .green ("Created " ++ file.display)]]
  | .overview => usage

/-- Whether a report is written to its end. -/
def isWhole : Summary → Bool
  | listing known => known.isWhole
  | _ => true

end Summary

namespace Result

def ofPass (summary : PassSummary) : Result := ⟨.pass summary, summary.report.problemCount, true⟩

def plain (summary : Summary) : Result := ⟨summary, 0, false⟩

def status (result : Result) : Status :=
  if result.exitOnErrors && result.errorCount > 0 then .failure else .success

/-- What the process exits with: the status, unless the report cannot be written to its end. -/
def exitCode (result : Result) : Nat :=
  if result.summary.isWhole then result.status.code else 101

/-- The written report, as far as it can be written. -/
def render (result : Result) (verbose color : Bool) : String :=
  String.join ((result.summary.lines verbose color).map (· ++ "\n"))

end Result

end LocaleFamilies.Report
