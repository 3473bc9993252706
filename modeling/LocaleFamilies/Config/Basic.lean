import LocaleFamilies.Glob
import LocaleFamilies.Locale.Source
import LocaleFamilies.Path.Join

/-! The configuration of a project, the rules for its values, and the locales that it declares. -/
namespace LocaleFamilies

structure Command where
  program : String
  arguments : List String
  deriving DecidableEq, Repr

structure Config where
  defaultLocale : Option Code
  locales : Option (SortedMap Code String)
  /-- A script module to read locales from if none are declared here. -/
  localeSource : Option String
  scanDirs : List String
  extensions : List String
  ignores : List String
  backend : Option Command
  deriving DecidableEq

namespace Config

def fileName : String := ".i18nrc.json"

def standardScanDirs : List String := ["content/docs", "messages"]

def standardExtensions : List String := ["md", "mdx", "json"]

def initial : Config where
  defaultLocale := some "en"
  locales := some (.ofList [("en", "English")])
  localeSource := none
  scanDirs := standardScanDirs
  extensions := standardExtensions
  ignores := []
  backend := none

inductive Invalid
  | ignorePattern (pattern : String) (cause : Glob.Error)
  | noScanDirs
  | badExtension (extension : String)
  deriving DecidableEq

def Invalid.message : Invalid → String
  | .ignorePattern pattern cause =>
    "Invalid glob pattern in 'ignores': \"" ++ pattern ++ "\": " ++ cause.message
  | .noScanDirs => "'scanDirs' must list at least one directory"
  | .badExtension extension =>
    "Invalid extension in 'extensions': \"" ++ extension ++
      "\" (use e.g. \"mdx\", without the dot)"

def checkIgnore (entry : String) : Except Invalid Unit :=
  if Glob.hasWildcard entry then
    match Glob.read entry with
    | .ok _ => .ok ()
    | .error cause => .error (.ignorePattern entry cause)
  else .ok ()

def isExtension (extension : String) : Bool :=
  match extension.toList with
  | [] => false
  | first :: _ => first != '.'

def validate (config : Config) : Except Invalid Unit := do
  config.ignores.forM checkIgnore
  if config.scanDirs.isEmpty then throw .noScanDirs
  match config.extensions.find? fun extension => !isExtension extension with
  | some extension => throw (.badExtension extension)
  | none => return ()

inductive LocaleError
  | notConfigured
  | notLoaded (source : LocaleSource) (cause : LocaleSource.Error)
  deriving DecidableEq

def LocaleError.message : LocaleError → String
  | .notConfigured =>
    "No locales configured: set 'defaultLocale' and 'locales', or 'localeSource' in " ++ fileName
  | .notLoaded source cause =>
    "Failed to load locales from " ++ source.description ++ ": " ++ cause.message

/-- Where the locales are declared. What the configuration declares itself wins. -/
def source (config : Config) (root : Path) : Except LocaleError LocaleSource :=
  if config.defaultLocale.isSome || config.locales.isSome then
    .ok (.inline config.defaultLocale config.locales)
  else
    match config.localeSource with
    | some path => .ok (.script (root.join (.ofText path)))
    | none => .error .notConfigured

def registry (config : Config) (tree : FileTree) (directory : Location) (root : Path) :
    Except LocaleError Registry := do
  let source ← config.source root
  (source.load tree directory).mapError (.notLoaded source)

end Config

end LocaleFamilies
