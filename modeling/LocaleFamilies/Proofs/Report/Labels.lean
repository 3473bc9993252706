import LocaleFamilies.Proofs.Report.Wording

/-! The lines of a report on a pass as text. Each line starts with the label of its kind, no label of one
kind goes on to that of another, and what follows the label tells the values of the line. -/
namespace LocaleFamilies.Report

namespace PassLine

inductive Zone
  | opening
  | idle
  | frame
  | family
  | total
  deriving DecidableEq

def zone : PassLine → Zone
  | locales _ _ | scanning _ | placed _ | missing _ | inaccessible _ | collision _ => .opening
  | found _ _ | affected _ _ => .opening
  | noneAffected => .idle
  | blank | heading _ => .frame
  | ambiguous _ | noFiles | source _ _ | noCreate | create _ | noUpdate | update _ => .family
  | created _ | updated _ | warning _ | failed _ => .family
  | done _ _ | wouldDo _ _ | applyHint | nothingToDo | problems _ => .total

def label : PassLine → String
  | locales _ _ => "Locales: "
  | scanning _ => "Scanning: "
  | placed _ => "  "
  | missing _ | inaccessible _ | collision _ => "warning: "
  | found _ _ => "Found "
  | affected _ _ | blank => ""
  | noneAffected => "✓ No document family affected by the changes, nothing to translate."
  | heading _ => "==> "
  | ambiguous _ | failed _ => "  error: "
  | noFiles | warning _ => "  warning: "
  | source _ _ => "  source: "
  | noCreate | create _ => "  create: "
  | noUpdate | update _ => "  update: "
  | created _ => "  created "
  | updated _ => "  updated "
  | done _ _ => "Created "
  | wouldDo _ _ => "Would create "
  | applyHint => "Run with "
  | nothingToDo => "✓ Nothing to translate."
  | problems _ => "✘ "

/-- What a line tells after its label, without styles. -/
def content (root : Path) : PassLine → String
  | locales codes defaultCode => codeList codes ++ " (default: " ++ defaultCode ++ ")"
  | scanning directories => ", ".intercalate (directories.map (·.display))
  | placed file =>
    file.path.displayFrom root ++ " " ++ "->" ++ " " ++ file.place.key.displayFrom root ++ " [" ++
      file.place.locale ++ ", " ++ file.place.form.name ++ "]"
  | missing directory => "Scan directory does not exist: " ++ directory.displayFrom root
  | inaccessible count =>
    toString count ++ " path(s) could not be accessed (use " ++ "-v" ++
      " for details)"
  | collision entry =>
    entry.displaced.displayFrom root ++ " and " ++ entry.kept.displayFrom root ++
      " both map to '" ++ entry.locale ++ "' of " ++ entry.key.displayFrom root ++ "; using " ++
      entry.kept.displayFrom root
  | found files count =>
    toString files ++ " file(s) in " ++ toString count ++ " document " ++ families count ++ "."
  | affected changed count =>
    toString changed ++ " changed file(s) affect " ++ toString count ++ " " ++ families count ++ "."
  | noneAffected | blank | nothingToDo => ""
  | heading key => key.displayFrom root
  | ambiguous changed =>
    "several non-default locales changed (" ++ codeList changed ++
      "); cannot choose a source of truth, family skipped"
  | noFiles => "family has no files, skipped"
  | source member strategy =>
    member.locale ++ " " ++ member.path.displayFrom root ++
      (strategy.map fun strategy => " (" ++ strategy.description ++ ")").getD ""
  | noCreate | noUpdate => "none"
  | create target => target.locale ++ " " ++ "->" ++ " " ++ target.path.displayFrom root
  | update target => target.locale ++ " " ++ target.path.displayFrom root
  | created path => path.displayFrom root
  | updated codes => codeList codes
  | warning text => text
  | failed error => "translation failed: " ++ error
  | done creates updates =>
    toString creates ++ " file(s) and updated " ++ toString updates ++ " file(s)."
  | wouldDo creates updates =>
    toString creates ++ " file(s) and update " ++ toString updates ++ " file(s)."
  | applyHint => "--apply to translate."
  | problems count => toString count ++ " " ++ families count ++ " skipped or failed"

def labels : List String :=
  ["Locales: ", "Scanning: ", "warning: ", "Found ",
    "✓ No document family affected by the changes, nothing to translate.", "==> ", "  error: ",
    "  warning: ", "  source: ", "  create: ", "  update: ", "  created ", "  updated ", "Created ",
    "Would create ", "Run with ", "✓ Nothing to translate.", "✘ "]

section Labels

variable {line : PassLine} {label : String}

end Labels

section Values

/-- The numbers of a line, each with the words after it. -/
def numbers : PassLine → List (Nat × String)
  | inaccessible count => [(count, " path(s) could not be accessed (use -v for details)")]
  | found files count => [(files, " file(s) in "), (count, " document " ++ families count ++ ".")]
  | affected changed count =>
    [(changed, " changed file(s) affect "), (count, " " ++ families count ++ ".")]
  | done creates updates => [(creates, " file(s) and updated "), (updates, " file(s).")]
  | wouldDo creates updates => [(creates, " file(s) and update "), (updates, " file(s).")]
  | problems count => [(count, " " ++ families count ++ " skipped or failed")]
  | _ => []

/-- The locale of a line on one file, the mark after it, and what is told after that. -/
def member? (root : Path) : PassLine → Option (Code × String × String)
  | source member strategy =>
    some (member.locale, " ", member.path.displayFrom root ++
      (strategy.map fun strategy => " (" ++ strategy.description ++ ")").getD "")
  | create target => some (target.locale, " -> ", target.path.displayFrom root)
  | update target => some (target.locale, " ", target.path.displayFrom root)
  | _ => none

/-- What is read back from the text of a line. A code ends at the first blank or, in a list, at the first
comma. -/
structure Reads (root : Path) (line : PassLine) (text : String) : Prop where
  label : after? line.label text = some (line.content root)
  kind : ∀ label ∈ labels, label.toList.head? ≠ some ' ' → label ≠ line.label →
    after? label text = none
  numbers : line.numbers ≠ [] →
    counts? (line.numbers.map (·.2)) (line.content root) = some (line.numbers.map (·.1))
  member : ∀ code mark told, line.member? root = some (code, mark, told) → ' ' ∉ code.toList →
    target? mark (line.content root) = some (code, told)
  codes : ∀ codes, line = updated codes → codes ≠ [] → (∀ code ∈ codes, ',' ∉ code.toList) →
    listedCodes (line.content root) = codes

end Values

end PassLine

end LocaleFamilies.Report
