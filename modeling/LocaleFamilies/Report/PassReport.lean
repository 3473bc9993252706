import LocaleFamilies.Report.Style
import LocaleFamilies.Translation.Pass

/-! The written report on a pass. Every decision is shown, so that it can be seen why a locale was
created, brought up to date or left alone. The lines come first, as values; their wording follows. -/
namespace LocaleFamilies.Report

structure PassSummary where
  root : Path
  registry : Registry
  scanDirs : List Path
  changedCount : Nat
  report : PassReport

inductive PassLine
  | locales (codes : List Code) (defaultCode : Code)
  | scanning (directories : List Path)
  | placed (file : PlacedFile)
  | missing (directory : Path)
  | inaccessible (count : Nat)
  | collision (collision : Collision)
  | found (files families : Nat)
  | affected (changed families : Nat)
  | noneAffected
  | blank
  | heading (key : Path)
  | ambiguous (changed : List Code)
  | noFiles
  | source (source : Source) (strategy : Option Strategy)
  | noCreate
  | create (target : Target)
  | noUpdate
  | update (target : Target)
  | created (path : Path)
  | updated (locales : List Code)
  | warning (text : String)
  | failed (error : String)
  | done (created updated : Nat)
  | wouldDo (creates updates : Nat)
  | applyHint
  | nothingToDo
  | problems (count : Nat)
  deriving DecidableEq

def detailLines (summary : PassSummary) : List PassLine :=
  [.locales summary.registry.codes summary.registry.defaultCode, .scanning summary.scanDirs] ++
    summary.report.placed.map .placed

def planLines (plan : Plan) (strategy : Option Strategy) : List PassLine :=
  [.source plan.source strategy] ++
    (if plan.create.isEmpty then [.noCreate] else plan.create.map .create) ++
    (if plan.update.isEmpty then [.noUpdate] else plan.update.map .update)

def outcomeLines (strategy : Option Strategy) : Outcome → List PassLine
  | .ambiguous changed => [.ambiguous changed]
  | .empty => [.noFiles]
  | .planned plan => planLines plan strategy
  | .applied plan created updated warnings =>
    planLines plan strategy ++ created.map .created ++
      (if updated then [.updated plan.updateLocales] else []) ++ warnings.map .warning
  | .failed plan created error =>
    planLines plan strategy ++ created.map .created ++ [.failed error]

def familyLines (family : FamilyReport) : List PassLine :=
  [.blank, .heading family.key] ++ outcomeLines family.strategy family.outcome

def totalLines (report : PassReport) : List PassLine :=
  let problems := report.problemCount
  let creates := report.createCount
  let updates := report.updateCount
  let totals : List PassLine :=
    if report.applied then
      [.done (total (report.families.map (·.outcome.created.length)))
        (total (report.families.map (·.outcome.updated.length)))]
    else if creates + updates > 0 then [.wouldDo creates updates, .applyHint]
    else if problems = 0 then [.nothingToDo]
    else []
  [.blank] ++ totals ++ if problems > 0 then [.problems problems] else []

def passLines (summary : PassSummary) (verbose : Bool) : List PassLine :=
  let report := summary.report
  (if verbose then detailLines summary else []) ++ report.missing.map .missing ++
    (if report.inaccessible > 0 && !verbose then [.inaccessible report.inaccessible] else []) ++
    report.collisions.map .collision ++ [.found report.filesScanned report.familyCount] ++
    if report.fullScan then report.families.flatMap familyLines ++ totalLines report
    else
      [.affected summary.changedCount report.families.length] ++
        if report.families.isEmpty then [.noneAffected]
        else report.families.flatMap familyLines ++ totalLines report

def warningLabel : Piece := .styled .boldYellow "warning:"

def errorLabel : Piece := .styled .boldRed "error:"

def codeList (codes : List Code) : String := ", ".intercalate codes

def collisionPieces (root : Path) (collision : Collision) : List Piece :=
  let kept := collision.kept.displayFrom root
  [warningLabel, " ", collision.displaced.displayFrom root, " and ", kept, " both map to '",
    collision.locale, "' of ", collision.key.displayFrom root, "; using ", kept]

def families (count : Nat) : String := counted count "family" "families"

def PassLine.pieces (root : Path) : PassLine → List Piece
  | locales codes defaultCode =>
    [.styled .bold "Locales:", " ", codeList codes, " (default: ", defaultCode, ")"]
  | scanning directories =>
    [.styled .bold "Scanning:", " ", ", ".intercalate (directories.map (·.display))]
  | placed file =>
    ["  ", file.path.displayFrom root, " ", .styled .dimmed "->", " ",
      file.place.key.displayFrom root, " [", file.place.locale, ", ", file.place.form.name, "]"]
  | missing directory =>
    [warningLabel, " Scan directory does not exist: ", directory.displayFrom root]
  | inaccessible count =>
    [warningLabel, " ", toString count, " path(s) could not be accessed (use ",
      .styled .cyan "-v", " for details)"]
  | .collision entry => collisionPieces root entry
  | found files count =>
    ["Found ", toString files, " file(s) in ", toString count, " document ", families count, "."]
  | affected changed count =>
    [toString changed, " changed file(s) affect ", toString count, " ", families count, "."]
  | noneAffected =>
    [.styled .green goodMark, " ",
      .styled .green "No document family affected by the changes, nothing to translate."]
  | blank => []
  | heading key => [.styled .blue "==>", " ", .styled .bold (key.displayFrom root)]
  | ambiguous changed =>
    ["  ", errorLabel, " several non-default locales changed (", codeList changed,
      "); cannot choose a source of truth, family skipped"]
  | noFiles => ["  ", warningLabel, " family has no files, skipped"]
  | .source member strategy =>
    ["  source: ", .styled .cyan member.locale, " ", member.path.displayFrom root,
      .styled .dimmed ((strategy.map fun strategy => " (" ++ strategy.description ++ ")").getD "")]
  | noCreate => ["  create: ", .styled .dimmed "none"]
  | create target =>
    ["  create: ", .styled .cyan target.locale, " ", .styled .dimmed "->", " ",
      target.path.displayFrom root]
  | noUpdate => ["  update: ", .styled .dimmed "none"]
  | update target =>
    ["  update: ", .styled .cyan target.locale, " ", target.path.displayFrom root]
  | created path => ["  ", .styled .boldGreen "created", " ", path.displayFrom root]
  | updated codes => ["  ", .styled .boldGreen "updated", " ", codeList codes]
  | warning text => ["  ", warningLabel, " ", text]
  | failed error => ["  ", errorLabel, " translation failed: ", error]
  | done creates updates =>
    [.styled .boldGreen "Created", " ", toString creates, " file(s) and updated ",
      toString updates, " file(s)."]
  | wouldDo creates updates =>
    [.styled .boldYellow "Would create", " ", toString creates, " file(s) and update ",
      toString updates, " file(s)."]
  | applyHint => ["Run with ", .styled .cyan "--apply", " to translate."]
  | nothingToDo => [.styled .green goodMark, " ", .styled .green "Nothing to translate."]
  | problems count =>
    [.styled .red badMark, " ", toString count, " ", families count, " skipped or failed"]

def PassLine.text (root : Path) (color : Bool) (line : PassLine) : String :=
  written color (line.pieces root)

end LocaleFamilies.Report
