import LocaleFamilies.Config.Format
import LocaleFamilies.Ending
import LocaleFamilies.Translation.Backend
import LocaleFamilies.Workspace

/-! Translation by a program. The program is started for each request and reads it from its input.
For new content it writes an object with the content by locale; otherwise its output is ignored. It
fails by ending with another status than zero. How programs are started is a parameter. -/
namespace LocaleFamilies

abbrev Launcher := Path → Command → Bytes → Workspace → Workspace × Except Fault (Bytes × Ending)

namespace Program

inductive Error
  | unwritable
  | notStarted (program : String) (cause : Fault)
  | unsuccessful (program : String) (ending : Ending)
  | unreadable (program : String) (cause : Json.Problem)
  deriving DecidableEq

def Error.message : Error → String
  | .unwritable =>
    "Failed to encode backend request: path contains invalid UTF-8 characters"
  | .notStarted program cause =>
    "Failed to start translation backend '" ++ program ++ "': " ++ cause.message
  | .unsuccessful program ending =>
    "Translation backend '" ++ program ++ "' exited with " ++ ending.description
  | .unreadable program cause =>
    "Translation backend '" ++ program ++ "' returned invalid JSON for creation request: " ++
      cause.message

def ask (launch : Launcher) (directory : Path) (command : Command) (request : Request)
    (workspace : Workspace) : Workspace × Except Error Bytes :=
  match request.render? with
  | none => (workspace, .error .unwritable)
  | some text =>
    match launch directory command (Bytes.ofText text) workspace with
    | (workspace, .error fault) => (workspace, .error (.notStarted command.program fault))
    | (workspace, .ok (output, ending)) =>
      (workspace,
        if ending = .exited 0 then .ok output
        else .error (.unsuccessful command.program ending))

def content (program : String) (output : Bytes) : Except Error Content :=
  (Json.decode Config.names (Json.characters output)).mapError (.unreadable program)

def backend (launch : Launcher) (directory : Path) (command : Command) : Backend Workspace where
  name := command.program
  create request workspace :=
    let (workspace, result) := ask launch directory command request workspace
    (workspace, (result.bind (content command.program)).mapError (·.message))
  update request workspace :=
    let (workspace, result) := ask launch directory command request workspace
    (workspace, (result.map fun _ => ()).mapError (·.message))

end Program

end LocaleFamilies
