import LocaleFamilies.SortedMap

/-! The locales of a project: their codes with display names, and the default one. -/
namespace LocaleFamilies

abbrev Code := String

/-- Supported locales with their display names. The default is one of them. -/
structure Registry where
  defaultCode : Code
  names : SortedMap Code String
  default_supported : names.contains defaultCode = true

namespace Registry

inductive Error
  | noLocales
  | unknownDefault (code : Code) (supported : List Code)
  deriving DecidableEq

def Error.message : Error → String
  | .noLocales => "No supported locales declared"
  | .unknownDefault code supported =>
    "Default locale '" ++ code ++ "' is not one of the supported locales (" ++
      ", ".intercalate supported ++ ")"

/-- The registry of some locales; none are refused, and so is a default that is not among them. -/
def of (defaultCode : Code) (names : SortedMap Code String) : Except Error Registry :=
  if names.isEmpty then .error .noLocales
  else if supported : names.contains defaultCode = true then .ok ⟨defaultCode, names, supported⟩
  else .error (.unknownDefault defaultCode names.keys)

def supports (registry : Registry) (code : Code) : Bool := registry.names.contains code

def codes (registry : Registry) : List Code := registry.names.keys

def name? (registry : Registry) (code : Code) : Option String := registry.names.get? code

/-- The display name of a code, or the code itself when it is not supported. -/
def nameOf (registry : Registry) (code : Code) : String := (registry.name? code).getD code

theorem nameOf_of_name? {registry : Registry} {code : Code} {name : String}
    (named : registry.name? code = some name) : registry.nameOf code = name := by
  rw [nameOf, named, Option.getD_some]

theorem nameOf_of_not_supported {registry : Registry} {code : Code}
    (other : code ∉ registry.codes) : registry.nameOf code = code := by
  cases named : registry.name? code with
  | none => rw [nameOf, named, Option.getD_none]
  | some name => exact absurd ((SortedMap.mem_keys_iff registry.names code).mpr ⟨name, named⟩) other

end Registry

end LocaleFamilies
