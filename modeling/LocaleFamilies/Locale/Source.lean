import LocaleFamilies.Locale.Declarations
import LocaleFamilies.FileTree.Access

/-! Where the locales of a project are declared: in its configuration, or in a script module. -/
namespace LocaleFamilies

inductive LocaleSource
  | inline (defaultCode : Option Code) (names : Option (SortedMap Code String))
  | script (path : Path)
  deriving DecidableEq

namespace LocaleSource

def description : LocaleSource → String
  | inline _ _ => "inline config"
  | script path => path.display

inductive Error
  | noDefault
  | noNames
  | noRegistry (cause : Registry.Error)
  | unreadable (path : Path) (cause : Fault)
  | undeclared (path : Path) (cause : Declarations.Error)
  deriving DecidableEq

def Error.message : Error → String
  | .noDefault => "Config is missing 'defaultLocale'"
  | .noNames => "Config is missing 'locales'"
  | .noRegistry cause => cause.message
  | .unreadable path cause => "Locale source not found: " ++ path.display ++ ": " ++ cause.message
  | .undeclared path cause =>
    "Failed to read locales from " ++ path.display ++ ": " ++ cause.message

def load (tree : FileTree) (directory : Location) : LocaleSource → Except Error Registry
  | inline none _ => .error .noDefault
  | inline (some _) none => .error .noNames
  | inline (some defaultCode) (some names) =>
    (Registry.of defaultCode names).mapError .noRegistry
  | script path => do
    let content ← (tree.readText directory path).mapError (.unreadable path)
    (Declarations.read content).mapError (.undeclared path)

end LocaleSource

end LocaleFamilies
