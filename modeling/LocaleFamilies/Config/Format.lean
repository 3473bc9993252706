import LocaleFamilies.Config.Basic
import LocaleFamilies.Json.Decoding
import LocaleFamilies.Json.Written

/-! The written form of configurations. Absent fields are not written, and fields that have a
standard value may be left out of what is read. -/
namespace LocaleFamilies

open Json

namespace Command

def value (command : Command) : Value :=
  .object [("command", .string command.program),
    ("args", .list (command.arguments.map .string))]

structure Draft where
  program : Option String
  arguments : Option (List String)

def shape : Shape Draft Command where
  name := "struct BackendConfig"
  fields := ["command", "args"]
  start := ⟨none, none⟩
  take draft name reading :=
    match name with
    | "command" => do
      return { draft with program := ← once name draft.program text reading }
    | "args" => do
      return { draft with arguments := ← once name draft.arguments (list text) reading }
    | _ => skipped draft reading
  finish missing draft :=
    match draft.program with
    | some program => .ok ⟨program, draft.arguments.getD []⟩
    | none => .error (missing "command")

end Command

namespace Config

def field {α : Type} (name : String) (write : α → Value) : Option α → List (String × Value)
  | some a => [(name, write a)]
  | none => []

def texts (list : List String) : Value := .list (list.map .string)

def value (config : Config) : Value :=
  .object <|
    field "defaultLocale" .string config.defaultLocale ++
    field "locales" (fun names => .object (names.entries.map fun entry => (entry.1, .string entry.2)))
      config.locales ++
    field "localeSource" .string config.localeSource ++
    [("scanDirs", texts config.scanDirs), ("extensions", texts config.extensions),
      ("ignores", texts config.ignores)] ++
    field "backend" Command.value config.backend

def render (config : Config) : String := Json.render .pretty config.value

structure Draft where
  defaultLocale : Option (Option Code)
  locales : Option (Option (SortedMap Code String))
  localeSource : Option (Option String)
  scanDirs : Option (List String)
  extensions : Option (List String)
  ignores : Option (List String)
  backend : Option (Option Command)

/-- Names by their codes. Of several with one code the last counts. -/
def names (reading : Reading) : Except Problem (SortedMap Code String) :=
  SortedMap.ofList <$> entries text reading

def shape : Shape Draft Config where
  name := "struct Config"
  fields := ["defaultLocale", "locales", "localeSource", "scanDirs", "extensions", "ignores",
    "backend"]
  start := ⟨none, none, none, none, none, none, none⟩
  take draft name reading :=
    match name with
    | "defaultLocale" => do
      return { draft with
        defaultLocale := ← once name draft.defaultLocale (optional text) reading }
    | "locales" => do
      return { draft with locales := ← once name draft.locales (optional names) reading }
    | "localeSource" => do
      return { draft with localeSource := ← once name draft.localeSource (optional text) reading }
    | "scanDirs" => do
      return { draft with scanDirs := ← once name draft.scanDirs (list text) reading }
    | "extensions" => do
      return { draft with extensions := ← once name draft.extensions (list text) reading }
    | "ignores" => do
      return { draft with ignores := ← once name draft.ignores (list text) reading }
    | "backend" => do
      return { draft with
        backend := ← once name draft.backend (optional Command.shape.decode) reading }
    | _ => skipped draft reading
  finish _ draft := .ok {
    defaultLocale := draft.defaultLocale.getD none
    locales := draft.locales.getD none
    localeSource := draft.localeSource.getD none
    scanDirs := draft.scanDirs.getD standardScanDirs
    extensions := draft.extensions.getD standardExtensions
    ignores := draft.ignores.getD []
    backend := draft.backend.getD none }

def read (text : String) : Except Problem Config := decode shape.decode text.toList

end Config

end LocaleFamilies
