import LocaleFamilies.FileTree.Access
import LocaleFamilies.Translation.Backend

/-! A workspace: a file tree with the directory that relative paths are read from, and what has been
written to the error output. -/
namespace LocaleFamilies

structure Workspace where
  tree : FileTree
  directory : Location
  errorOutput : Bytes

namespace Workspace

def complain (workspace : Workspace) (text : Bytes) : Workspace :=
  { workspace with errorOutput := workspace.errorOutput ++ text }

def warn (workspace : Workspace) (warning : String) : Workspace :=
  workspace.complain (Bytes.ofText ("warning: " ++ warning ++ "\n"))

/-- Takes over a changed tree, if the change was possible. -/
def adopt (workspace : Workspace) : Except Fault FileTree → Workspace × Except Fault Unit
  | .ok tree => ({ workspace with tree := tree }, .ok ())
  | .error fault => (workspace, .error fault)

def storage : Storage Workspace where
  makeDirectories path workspace :=
    let (tree, result) := workspace.tree.makeDirectories workspace.directory path
    ({ workspace with tree := tree }, result)
  write path content workspace :=
    workspace.adopt (workspace.tree.write workspace.directory path (Bytes.ofText content))

end Workspace

end LocaleFamilies
