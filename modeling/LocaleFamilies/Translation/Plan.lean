import LocaleFamilies.Translation.Election
import LocaleFamilies.Family.Placement

/-! Translation plans: for one family and its source, the supported locales to be created with the
paths they get, and the members to be brought up to date. -/
namespace LocaleFamilies

structure Target where
  locale : Code
  path : Path
  deriving DecidableEq

structure Plan where
  key : Path
  source : Source
  create : List Target
  update : List Target
  deriving DecidableEq

namespace Plan

def isNoop (plan : Plan) : Bool := plan.create.isEmpty && plan.update.isEmpty

def createLocales (plan : Plan) : List Code := plan.create.map (·.locale)

def updateLocales (plan : Plan) : List Code := plan.update.map (·.locale)

def createPath? (plan : Plan) (locale : Code) : Option Path :=
  (plan.create.find? fun target => target.locale == locale).map (·.path)

def isBare (registry : Registry) (source : Path) : Bool :=
  (source.stem?.bind registry.code?).isSome

/-- The ending that a source gives to the names made from it. -/
def ending (source : Path) : Bytes :=
  match source.extension? with
  | some extension => Bytes.dot :: extension
  | none => []

/-- The path of a new locale variant. Beside a source named after its locale the new file is named
after its own, in the directory that the key names. Otherwise the locale is a marker after the key,
which the default locale goes without. -/
def destination (registry : Registry) (key source : Path) (locale : Code) : Path :=
  if isBare registry source then key.join ⟨Bytes.ofText locale ++ ending source⟩
  else if locale = registry.defaultCode then ⟨key.spelling ++ ending source⟩
  else ⟨key.spelling ++ Bytes.dot :: Bytes.ofText locale ++ ending source⟩

/-- The plan for a family: each supported locale is created if it is missing, left alone if it is the
source, and updated otherwise. -/
def make (registry : Registry) (family : Family) (source : Source) : Plan where
  key := family.key
  source := source
  create := registry.codes.filterMap fun locale =>
    match family.get? locale with
    | none => some ⟨locale, destination registry family.key source.path locale⟩
    | some _ => none
  update := registry.codes.filterMap fun locale =>
    match family.get? locale with
    | none => none
    | some path => if locale = source.locale then none else some ⟨locale, path⟩

end Plan

end LocaleFamilies
