import LocaleFamilies.ChangeList
import LocaleFamilies.Config.Search
import LocaleFamilies.Scan

/-! The inputs of a pass over the documents of a project. They come from the configuration, save for
what the options of a command replace. -/
namespace LocaleFamilies

structure Project where
  /-- The directory of the configuration; what it names is below. -/
  root : Path
  registry : Registry
  selection : Selection
  changes : ChangeList
  backend : Option Command
  verbose : Bool

namespace Project

structure Options where
  start : Option Path
  /-- The directories to scan; without any the configured ones are. -/
  scanDirs : List String
  verbose : Bool
  deriving DecidableEq

inductive Error
  | badStart (start : Path) (cause : Fault)
  | config (cause : Config.LoadError)
  | locales (cause : Config.LocaleError)
  deriving DecidableEq

def Error.message : Error → String
  | .badStart start cause =>
    "Invalid root directory: " ++ start.display ++ ": " ++ cause.message
  | .config cause => cause.message
  | .locales cause => cause.message

def ofConfig (tree : FileTree) (directory : Location) (root : Path) (config : Config)
    (changed : Option String) (verbose : Bool) : Except Error Project := do
  let registry ← (config.registry tree directory root).mapError .locales
  return {
    root := root
    registry := registry
    selection := ⟨config.scanDirs.map .ofText, config.extensions, config.ignores⟩
    changes :=
      match changed with
      | some raw => .parse raw root
      | none => .fullScan
    backend := config.backend
    verbose := verbose }

def load (tree : FileTree) (directory : Location) (options : Options)
    (changed : Option String) : Except Error Project := do
  let start := options.start.getD (.ofText ".")
  let start ← (tree.canonical directory start).mapError (.badStart start)
  let (root, config) ← (Config.load tree directory start).mapError .config
  let config :=
    if options.scanDirs.isEmpty then config else { config with scanDirs := options.scanDirs }
  ofConfig tree directory root config changed options.verbose

end Project

end LocaleFamilies
