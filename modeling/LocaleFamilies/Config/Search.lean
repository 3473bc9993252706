import LocaleFamilies.Config.Format

/-! Finding the configuration of a project. It is looked for in a directory and those above it, but
not above the top of a repository. -/
namespace LocaleFamilies.Config

/-- The nearest configuration file of some directories, each of which lies in the next one. -/
def nearest? (tree : FileTree) (directory : Location) : List Path → Option Path
  | [] => none
  | path :: above =>
    let file := path.join (.ofText fileName)
    if tree.hasEntry directory file then some file
    else if tree.hasEntry directory (path.join (.ofText ".git")) then none
    else nearest? tree directory above

def find? (tree : FileTree) (directory : Location) (start : Path) : Option Path :=
  nearest? tree directory start.ancestors

inductive LoadError
  | notFound (start : Path)
  | unreadable (file : Path) (cause : Fault)
  | unparsable (file : Path) (cause : Json.Problem)
  | invalid (cause : Invalid)
  deriving DecidableEq

def LoadError.message : LoadError → String
  | .notFound start =>
    fileName ++ " not found in " ++ start.display ++
      " or any parent directory (run `docfam init` to create one)"
  | .unreadable file cause =>
    "Failed to read config file: " ++ Text.quotedBytes file.spelling ++ ": " ++ cause.message
  | .unparsable file cause =>
    "Failed to parse config file: " ++ Text.quotedBytes file.spelling ++ ": " ++ cause.message
  | .invalid cause => cause.message

def load (tree : FileTree) (directory : Location) (start : Path) :
    Except LoadError (Path × Config) := do
  match find? tree directory start with
  | none => throw (.notFound start)
  | some file =>
    let content ← (tree.readText directory file).mapError (.unreadable file)
    let config ← (read content).mapError (.unparsable file)
    config.validate.mapError .invalid
    return (file.parent?.getD start, config)

end LocaleFamilies.Config
