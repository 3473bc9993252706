import LocaleFamilies.CommandLine.Run
import LocaleFamilies.Shell.Run

/-! The command as a program. The files that a run can be about are read into a file tree beside what
every machine brings along, the command is carried out on the tree, and what has changed is written
back. -/
namespace LocaleFamilies.CommandLine

def locate (path : String) : Location :=
  (Path.ofText path).components.filterMap fun component =>
    match component with
    | .name bytes => some bytes
    | _ => none

def nativeName (location : Location) : String := (FileTree.pathTo location).display

def ground (tree : FileTree) (location : Location) : FileTree :=
  (tree.makeDirectories [] (FileTree.pathTo location)).1

/-- Reads an entry into a tree, a directory with all that it holds. What cannot be read is left out. A
file that names the program which carries it out can be run. -/
partial def readEntry (tree : FileTree) (location : Location) : IO FileTree := do
  try
    let entry : IO.FS.DirEntry := ⟨nativeName location, ""⟩
    match (← entry.root.symlinkMetadata).type with
    | .dir =>
      let mut tree := ground tree location
      for inner in ← entry.root.readDir do
        tree ← readEntry tree (location ++ [Bytes.ofText inner.fileName])
      return tree
    | .file =>
      let content ← IO.FS.readBinFile entry.root
      let content := content.data.toList
      let runnable := (Shell.scriptMark? (Shell.Octets.ofBytes content)).isSome
      return (ground tree location.dropLast).put location (.file content runnable)
    | .symlink =>
      let target ← IO.FS.realPath entry.root
      return (ground tree location.dropLast).put location (.link (.ofText target.toString))
    | .other => return tree
  catch _ => return tree

/-- Reads the files that decide where a project is: the configurations of a directory and those
above it, and the marks of repositories. -/
def readMarks (tree : FileTree) (location : Location) : IO FileTree := do
  let mut tree := ground tree location
  for count in List.range (location.length + 1) do
    let directory := location.take count
    tree ← readEntry tree (directory ++ [Bytes.ofText Config.fileName])
    let mark : IO.FS.DirEntry := ⟨nativeName (directory ++ [Bytes.ofText ".git"]), ""⟩
    if ← mark.root.pathExists then
      tree := tree.put (directory ++ [Bytes.ofText ".git"]) .directory
  return tree

def readTree (current : Location) (invocation : Invocation) : IO FileTree := do
  let start : String := match invocation with
    | .sync options _ _ => (options.start.map (·.display)).getD "."
    | .families options => (options.start.map (·.display)).getD "."
    | _ => "."
  let start ← try pure (locate (← IO.FS.realPath start).toString) catch _ => pure current
  let tree ← readMarks (← readMarks Shell.furnished current) start
  match Config.find? tree [] (FileTree.pathTo start) with
  | some file => readEntry tree (locate (file.parent?.getD file).display)
  | none => return tree

def writeBack (before after : FileTree) : IO Unit := do
  for (location, _) in before.entries.entries do
    if (after.get? location).isNone && (after.get? location.dropLast).isSome then
      let entry : IO.FS.DirEntry := ⟨nativeName location, ""⟩
      if ← entry.root.isDir then IO.FS.removeDirAll entry.root else IO.FS.removeFile entry.root
  for (location, entry) in after.entries.entries do
    if before.get? location != some entry then
      match entry with
      | .directory => IO.FS.createDirAll (nativeName location)
      | .file content _ => IO.FS.writeBinFile (nativeName location) ⟨content.toArray⟩
      | _ => pure ()

def serve (arguments : List String) : IO UInt32 := do
  let environment ← IO.getEnv "I18N_CHANGED_FILES"
  let errors ← IO.getStderr
  match read (environment.map Bytes.ofText) (arguments.map Bytes.ofText) with
  | .error stop =>
    for line in Report.usage do
      if stop.code = 0 then IO.println line else errors.putStrLn line
    return stop.code.toUInt32
  | .ok invocation =>
    let current := locate (← IO.currentDir).toString
    let tree ← readTree current invocation
    let after := run Shell.launch invocation ⟨tree, current, []⟩
    writeBack tree after.workspace.tree
    errors.write ⟨after.workspace.errorOutput.toArray⟩
    match after.result with
    | .ok result =>
      let output ← IO.getStdout
      IO.print (result.render invocation.isVerbose (← output.isTty))
      return result.exitCode.toUInt32
    | .error error =>
      errors.putStrLn ("Error: " ++ error.message)
      return Report.Status.error.code.toUInt32

end LocaleFamilies.CommandLine

def main (arguments : List String) : IO UInt32 := LocaleFamilies.CommandLine.serve arguments
