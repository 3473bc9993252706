import LocaleFamilies.Shell.Interpreter
import LocaleFamilies.Shell.Utility.Awk
import LocaleFamilies.Shell.Utility.Columns
import LocaleFamilies.Shell.Utility.Grep
import LocaleFamilies.Shell.Utility.Listing
import LocaleFamilies.Shell.Utility.Naming
import LocaleFamilies.Shell.Utility.Sed
import LocaleFamilies.Shell.Utility.Telling
import LocaleFamilies.Shell.Utility.Viewing

/-! The machine on which programs run: the files that it brings along, and its programs. -/
namespace LocaleFamilies.Shell

def programs : List (String × Program) :=
  [("sh", interpreter), ("dash", interpreter), ("true", silentProgram 0), ("false", silentProgram 1),
    ("echo", echoProgram), ("printf", printfProgram), ("test", testProgram false),
    ("[", testProgram true), ("pwd", pwdProgram), ("seq", seqProgram), ("sleep", silentProgram 0),
    ("cat", catProgram), ("tee", teeProgram), ("head", partProgram true), ("tail", partProgram false),
    ("wc", wcProgram), ("cut", cutProgram), ("tr", Exchange.program), ("basename", basenameProgram),
    ("dirname", dirnameProgram), ("readlink", readlinkProgram), ("mkdir", mkdirProgram),
    ("rmdir", rmdirProgram), ("rm", rmProgram), ("touch", touchProgram), ("chmod", chmodProgram),
    ("cp", cpProgram), ("mv", mvProgram), ("ln", lnProgram), ("ls", lsProgram),
    ("grep", Grep.program none), ("egrep", Grep.program (some 'E')), ("fgrep", Grep.program (some 'F')),
    ("sed", Sed.program), ("awk", Awk.program), ("mawk", Awk.program)]

def furniture : List (String × Entry) :=
  [("usr", .directory), ("usr/bin", .directory), ("usr/sbin", .directory), ("usr/local", .directory),
    ("usr/local/bin", .directory), ("usr/local/sbin", .directory), ("usr/lib", .directory),
    ("usr/share", .directory), ("bin", .link (.ofText "usr/bin")), ("sbin", .link (.ofText "usr/sbin")),
    ("lib", .link (.ofText "usr/lib")), ("dev", .directory), ("dev/null", .sink), ("etc", .directory),
    ("home", .directory), ("opt", .directory), ("proc", .directory), ("root", .directory),
    ("run", .directory), ("tmp", .directory), ("var", .directory), ("var/tmp", .directory)]

def locationOf (name : String) : Location := (name.splitOn "/").map Bytes.ofText

def furnished : FileTree :=
  let tree := furniture.foldl (fun tree (name, entry) => tree.put (locationOf name) entry) .empty
  programs.foldl (fun tree (name, _) =>
    tree.put (locationOf "usr/bin" ++ [Bytes.ofText name]) (.program name)) tree

end LocaleFamilies.Shell
