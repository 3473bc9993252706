import LocaleFamilies.Shell.Utility.Filing

/-! The program that lists the files in directories, one in a line. -/
namespace LocaleFamilies.Shell

def arranged {α : Type} (invocation : Invocation) (entries : List (Octets × α)) : List (Octets × α) :=
  let sorted := entries.mergeSort fun a b => !Octets.less b.1 a.1
  if invocation.has 'r' then sorted.reverse else sorted

def listed (invocation : Invocation) (tree : FileTree) (location : Location) : List Octets :=
  let visible := ((namesIn tree location).map Octets.ofBytes).filter fun name =>
    invocation.hasAny "aA" || name.head? != some '.'
  let dots : List Octets := if invocation.has 'a' then [['.'], ['.', '.']] else []
  (arranged invocation ((dots ++ visible).map fun name => (name, ()))).map (·.1)

def lsProgram : Program := program "aAdr1" 2 fun invocation => do
  let names := if invocation.operands.isEmpty then [['.']] else invocation.operands
  let mut status := 0
  let mut files : List (Octets × Location) := []
  let mut directories : List (Octets × Location) := []
  for name in names do
    match ← entryOf (!invocation.has 'd') name with
    | .error fault =>
      invocation.complain (about "cannot access" name (faultText fault))
      status := 2
    | .ok (location, entry) =>
      if entry == .directory && !invocation.has 'd' then directories := (name, location) :: directories
      else files := (name, location) :: files
  print (Octets.ofLines ((arranged invocation files).map (·.1)))
  let mut first := files.isEmpty
  for (name, location) in arranged invocation directories do
    if names.length > 1 then print ((if first then [] else ['\n']) ++ name ++ [':', '\n'])
    print (Octets.ofLines (listed invocation (← get).tree location))
    first := false
  return status

end LocaleFamilies.Shell
