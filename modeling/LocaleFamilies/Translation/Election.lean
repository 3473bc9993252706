import LocaleFamilies.ChangeList

/-! Election of the source of truth: the member of a family that the others are translated from.
An edit of the default locale always wins, a single edit of another locale wins next, several such
edits leave the intent open, and without edits the default locale or the first member is used. -/
namespace LocaleFamilies

structure Source where
  locale : Code
  path : Path
  deriving DecidableEq

inductive Strategy
  | changedDefault
  | singleChange
  | unchangedDefault
  | firstAvailable
  deriving DecidableEq, Repr

def Strategy.description : Strategy → String
  | changedDefault => "default locale file changed"
  | singleChange => "only changed file in family"
  | unchangedDefault => "no changes, using default locale"
  | firstAvailable => "no changes and no default locale file, using first member"

inductive Election
  | elected (source : Source) (strategy : Strategy)
  /-- Several members changed, none of them in the default locale. -/
  | ambiguous (changed : List Code)
  /-- There are no members. -/
  | empty
  deriving DecidableEq

namespace Election

def source? : Election → Option Source
  | elected source _ => some source
  | _ => none

def withoutChanges (family : Family) (defaultCode : Code) : Election :=
  match family.get? defaultCode with
  | some path => .elected ⟨defaultCode, path⟩ .unchangedDefault
  | none =>
    match family.members.entries with
    | (locale, path) :: _ => .elected ⟨locale, path⟩ .firstAvailable
    | [] => .empty

def hold (family : Family) (defaultCode : Code) (changes : ChangeList) : Election :=
  let changed := family.members.entries.filter fun member => changes.contains member.2
  match changed.find? fun member => member.1 == defaultCode with
  | some (locale, path) => .elected ⟨locale, path⟩ .changedDefault
  | none =>
    match changed with
    | [] => withoutChanges family defaultCode
    | [(locale, path)] => .elected ⟨locale, path⟩ .singleChange
    | several => .ambiguous (several.map (·.1))

end Election

end LocaleFamilies
