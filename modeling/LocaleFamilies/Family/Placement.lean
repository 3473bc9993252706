import LocaleFamilies.Locale.Registry
import LocaleFamilies.Path.Parts
import LocaleFamilies.Path.Join

/-! The place of a file: the family it belongs to and the locale it is written in, read off its path
alone. `docs/index.zh.mdx` carries a locale marker before its extension, `messages/zh.json` is named
after its locale, and any other name belongs to the default locale. The first reading that fits
counts, and a stem that happens to end in a code is always read as marked. -/
namespace LocaleFamilies

inductive Form
  /-- `name.zh.md` -/
  | dotted
  /-- `zh.md` -/
  | bare
  /-- `name.md`, in the default locale -/
  | unmarked
  deriving DecidableEq, Repr

def Form.name : Form → String
  | dotted => "dotted"
  | bare => "bare"
  | unmarked => "default"

structure Placement where
  key : Path
  locale : Code
  form : Form
  deriving DecidableEq

namespace Registry

def code? (registry : Registry) (bytes : Bytes) : Option Code :=
  (Bytes.text? bytes).filter registry.supports

/-- The marker at the end of a stem, with what stands before it. The stem is cut as a path of its
own, so a stem that is all dots has no marker. -/
def marker? (registry : Registry) (stem : Bytes) : Option (Bytes × Code) :=
  let alone : Path := ⟨stem⟩
  match alone.extension?.bind registry.code?, alone.stem? with
  | some code, some before => some (before, code)
  | _, _ => none

def place (registry : Registry) (path : Path) : Placement :=
  let directory := path.parent?.getD .empty
  let stem := path.stem?.getD []
  match registry.marker? stem with
  | some (before, code) => ⟨directory.join ⟨before⟩, code, .dotted⟩
  | none =>
    match registry.code? stem with
    | some code => ⟨directory, code, .bare⟩
    | none => ⟨directory.join ⟨stem⟩, registry.defaultCode, .unmarked⟩

end Registry

end LocaleFamilies
