import LocaleFamilies.Json.Decoding
import LocaleFamilies.Json.Written
import LocaleFamilies.Locale.Registry
import LocaleFamilies.Path.Basic

/-! Requests to a translation backend, and their written form. A request can be written if all of its
paths are text. -/
namespace LocaleFamilies

inductive Mode
  | create
  | update
  deriving DecidableEq, Repr

/-- A request for one family. The source file comes first; when files are to be updated they follow
in the order of their locales. -/
structure Request where
  mode : Mode
  files : List Path
  sourceLocale : Code
  sourceName : String
  targetLocales : List Code
  targetNames : List String
  deriving DecidableEq

def Mode.name : Mode → String
  | create => "create"
  | update => "update"

namespace Request

open Json

def value? (request : Request) : Option Value := do
  let files ← request.files.mapM fun path => Bytes.text? path.spelling
  let texts (list : List String) : Value := .list (list.map .string)
  return .object [("mode", .string request.mode.name), ("files", texts files),
    ("sourceLocale", .string request.sourceLocale),
    ("sourceLocaleName", .string request.sourceName),
    ("targetLocales", texts request.targetLocales),
    ("targetLocaleNames", texts request.targetNames)]

def render? (request : Request) : Option String := request.value?.map (Json.render .compact)

def modeOf (name : String) : Except Problem Mode :=
  match name with
  | "create" => .ok .create
  | "update" => .ok .update
  | _ => .error (.unknownVariant name ["create", "update"])

/-- A mode, written as its name or as an object with nothing under its name. -/
def readMode : Reading → Except Problem Mode
  | .string (some name) => modeOf name
  | .object ((name, content) :: rest) closed => do
    let mode ← modeOf (← key name)
    match content with
    | .null => if closed && rest.isEmpty then return mode else throw .malformed
    | reading => mismatch "unit" reading
  | _ => .error .malformed

def readPath : Reading → Except Problem Path
  | .string (some spelling) => .ok (.ofText spelling)
  | reading => mismatch "path string" reading

structure Draft where
  mode : Option Mode
  files : Option (List Path)
  sourceLocale : Option Code
  sourceName : Option String
  targetLocales : Option (List Code)
  targetNames : Option (List String)

def required {α : Type} (missing : String → Problem) (name : String) : Option α → Except Problem α
  | some value => .ok value
  | none => .error (missing name)

def shape : Shape Draft Request where
  name := "struct TranslationRequest"
  fields := ["mode", "files", "sourceLocale", "sourceLocaleName", "targetLocales",
    "targetLocaleNames"]
  start := ⟨none, none, none, none, none, none⟩
  take draft name reading :=
    match name with
    | "mode" => do
      return { draft with mode := ← once name draft.mode readMode reading }
    | "files" => do
      return { draft with files := ← once name draft.files (list readPath) reading }
    | "sourceLocale" => do
      return { draft with sourceLocale := ← once name draft.sourceLocale text reading }
    | "sourceLocaleName" => do
      return { draft with sourceName := ← once name draft.sourceName text reading }
    | "targetLocales" => do
      return { draft with targetLocales := ← once name draft.targetLocales (list text) reading }
    | "targetLocaleNames" => do
      return { draft with targetNames := ← once name draft.targetNames (list text) reading }
    | _ => skipped draft reading
  finish missing draft := do
    let mode ← required missing "mode" draft.mode
    let files ← required missing "files" draft.files
    let sourceLocale ← required missing "sourceLocale" draft.sourceLocale
    let sourceName ← required missing "sourceLocaleName" draft.sourceName
    let targetLocales ← required missing "targetLocales" draft.targetLocales
    let targetNames ← required missing "targetLocaleNames" draft.targetNames
    return ⟨mode, files, sourceLocale, sourceName, targetLocales, targetNames⟩

def read (text : String) : Except Problem Request := decode shape.decode text.toList

end Request

end LocaleFamilies
