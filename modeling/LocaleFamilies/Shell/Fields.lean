import LocaleFamilies.Shell.Octets

/-! Fields. What a word of a script amounts to is cut into fields at separators, where only the
stretches that came in for parameters and scripts are cut. Blank separators count as one if they stand
together, and with another separator between them. -/
namespace LocaleFamilies.Shell

inductive Cell
  | char (value : Char) (active : Bool)
  /-- Quotes, which keep a field that would be empty. -/
  | mark
  /-- The boundary between two arguments. -/
  | next
  deriving DecidableEq, Repr

inductive Cutting
  | whole
  | atSeparators
  | atBoundaries
  deriving DecidableEq, Repr

structure Stretch where
  cutting : Cutting
  cells : List Cell

namespace Fields

/-- The state of a cutting: the fields found, the field at hand and its end without trailing blanks if
it is the last one, each in reverse order, and what came just before. -/
structure Work where
  found : List (List Cell)
  field : List Cell
  blank : Bool
  limit : Option Nat
  /-- The last field up to the separators that stand at its end. -/
  trimmed : Option (List Cell)
  bounded : Bool

def Work.finish (work : Work) : Work :=
  { work with found := work.field.reverse :: work.found, field := [] }

inductive Separator
  | none
  | blank
  | other
  deriving DecidableEq

def separator (separators : Octets) : Cell → Separator
  | .char c _ =>
    if !separators.contains c then .none else if Octets.isBlank c then .blank else .other
  | .mark => .none
  | .next => .blank

def Work.addLast (work : Work) (cell : Cell) (kind : Separator) : Work :=
  if kind == .blank then
    { work with field := cell :: work.field, trimmed := some (work.trimmed.getD work.field) }
  else
    { work with
      field := cell :: work.field
      trimmed := if kind == .other && work.blank then work.trimmed else none
      blank := false }

/-- Works off a cell of a stretch that is cut at separators; whether the stretch follows one that is
cut at boundaries makes a difference to blanks. -/
def Work.step (separators : Octets) (afterBounded : Bool) (work : Work) (cell : Cell) : Work :=
  let kind := separator separators cell
  if work.limit == some 0 then work.addLast cell kind
  else if work.blank && kind == .blank then work
  else if work.blank && kind == .other then { work with blank := false }
  else if kind == .none then { work with field := cell :: work.field, blank := false }
  else
    let blank := if afterBounded then work.blank else kind == .blank
    if work.field.isEmpty && blank then { work with blank := false }
    else
      let work := { work with blank := blank, limit := work.limit.map (· - 1) }
      if work.limit == some 0 then
        { work with field := cell :: work.field, trimmed := some work.field }
      else work.finish

def Work.take (separators : Octets) (work : Work) (stretch : Stretch) : Work :=
  match stretch.cutting with
  | .whole => { work with field := stretch.cells.reverse ++ work.field }
  | .atSeparators =>
    let start := { work with blank := false, bounded := false }
    stretch.cells.foldl (Work.step separators work.bounded) start
  | .atBoundaries =>
    stretch.cells.foldl (fun work cell =>
        if cell == .next then work.finish else { work with field := cell :: work.field })
      { work with blank := false, bounded := true }

def cut (separators : Octets) (limit : Option Nat) (stretches : List Stretch) : List (List Cell) :=
  let work := stretches.foldl (Work.take separators) ⟨[], [], false, limit, none, false⟩
  let last := work.trimmed.getD work.field
  let fields := if work.bounded || !last.isEmpty then last.reverse :: work.found else work.found
  fields.reverse

def text (cells : List Cell) : Octets :=
  cells.filterMap fun cell =>
    match cell with
    | .char c _ => some c
    | _ => none

def marked (cells : List Cell) : List (Char × Bool) :=
  cells.filterMap fun cell =>
    match cell with
    | .char c active => some (c, active)
    | _ => none

end Fields

end LocaleFamilies.Shell
