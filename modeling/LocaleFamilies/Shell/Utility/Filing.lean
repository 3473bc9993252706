import LocaleFamilies.Shell.Modes
import LocaleFamilies.Shell.Utility.Basic

/-! The programs that change which files there are. -/
namespace LocaleFamilies.Shell

def entryOf (follow : Bool) (name : Octets) : Task (Except Fault (Location × Entry)) := do
  let process ← get
  return process.tree.entryAt process.directory follow name.path

def lookUp (follow : Bool) (name : Octets) : Task (Except Fault FileTree.Place) := do
  let process ← get
  return process.tree.lookup process.directory follow name.path

def changeTree (change : FileTree → FileTree) : Task Unit := modify fun process =>
  process.withTree (change process.tree)

def subtree (tree : FileTree) (location : Location) : List (Location × Entry) :=
  tree.entries.entries.filterMap fun (other, entry) =>
    if location.isPrefixOf other then some (other.drop location.length, entry) else none

def entriesFrom (whole : Bool) (location : Location) (entry : Entry) : Task (List (Location × Entry)) := do
  let process ← get
  return if whole then subtree process.tree location else [([], entry)]

def namesIn (tree : FileTree) (location : Location) : List Bytes :=
  (subtree tree location).filterMap fun (way, _) =>
    match way with
    | [name] => some name
    | _ => none

def isDirectory (name : Octets) : Task Bool := do
  let process ← get
  return process.tree.hasDirectory process.directory name.path

namespace Invocation

def fail (invocation : Invocation) (message : Octets) : Task Bool := do
  invocation.complain message
  return false

def each (invocation : Invocation) (names : List Octets) (work : Octets → Task Bool) : Task Nat := do
  if names.isEmpty then return ← invocation.refuse "missing operand".toList 1
  names.foldlM (fun status name => return if ← work name then status else 1) 0

end Invocation

def about (lead : String) (name : Octets) (reason : String) : Octets :=
  lead.toList ++ ' ' :: quotedName name ++ ": ".toList ++ reason.toList

def makeDirectory (name : Octets) : Task (Option Fault) := do
  let process ← get
  match process.tree.makeDirectory process.directory name.path with
  | .ok tree =>
    set (process.withTree tree)
    return none
  | .error fault => return some fault

def makeAll : Nat → Octets → Task (Option (Octets × Fault))
  | 0, name => return some (name, .notFound)
  | fuel + 1, name => do
    if ← isDirectory name then return none
    match ← makeDirectory name with
    | none => return none
    | some .notFound =>
      let above := directoryName name
      if name.isEmpty || above == ['.'] || above == ['/'] then return some (name, .notFound)
      match ← makeAll fuel above with
      | some problem => return some problem
      | none =>
        if ← isDirectory name then return none
        return (← makeDirectory name).map fun fault => (name, fault)
    | some fault => return some (name, fault)

def mkdirProgram : Program := program "m:p" 1 fun invocation =>
  invocation.each invocation.operands fun name => do
    let problem ← if invocation.has 'p' then makeAll (name.length + 1) name
      else Option.map (fun fault => (name, fault)) <$> makeDirectory name
    match problem with
    | none => return true
    | some (place, fault) =>
      invocation.fail (about "cannot create directory" place (faultText fault))

def rmdirProgram : Program := program "" 1 fun invocation =>
  invocation.each invocation.operands fun name => do
    let fail (reason : String) : Task Bool := invocation.fail (about "failed to remove" name reason)
    match ← entryOf false name with
    | .error fault => fail (faultText fault)
    | .ok (location, .directory) =>
      if location.isEmpty || !(namesIn (← get).tree location).isEmpty then fail "Directory not empty"
      else
        changeTree fun tree => tree.erase location
        return true
    | .ok _ => fail "Not a directory"

def rmProgram : Program := program "dfrR" 1 fun invocation => do
  let recursive := invocation.hasAny "rR"
  let forced := invocation.has 'f'
  if forced && invocation.operands.isEmpty then return 0
  invocation.each invocation.operands fun name => do
    let fail (reason : String) : Task Bool := invocation.fail (about "cannot remove" name reason)
    match ← entryOf false name with
    | .error fault => if forced && isAbsence fault then return true else fail (faultText fault)
    | .ok (location, entry) =>
      let isFull := !(namesIn (← get).tree location).isEmpty
      if entry == .directory then
        if !recursive && !invocation.has 'd' then return ← fail "Is a directory"
        if [['.'], ['.', '.']].contains (baseName name) then
          return ← invocation.fail
            ("refusing to remove '.' or '..' directory: skipping ".toList ++ quotedName name)
        if location.isEmpty then
          let _ ← invocation.fail "it is dangerous to operate recursively on '/'".toList
          return ← invocation.fail "use --no-preserve-root to override this failsafe".toList
        if !recursive && isFull then return ← fail "Directory not empty"
      else if name.getLast? == some '/' then return ← fail "Not a directory"
      changeTree fun tree => tree.erase location
      return true

def touchProgram : Program := program "acm" 1 fun invocation => do
  if invocation.operands.isEmpty then return ← invocation.refuse "missing file operand".toList 1
  invocation.each invocation.operands fun name => do
    match ← lookUp true name with
    | .ok (.occupied _ entry) =>
      if name.getLast? == some '/' && !(entry == .directory) then
        invocation.fail (about "setting times of" name "Not a directory")
      else return true
    | .ok (.vacant location slashed) =>
      if invocation.has 'c' then return true
      else if slashed then invocation.fail (about "setting times of" name "No such file or directory")
      else
        changeTree fun tree => tree.put location (.file [] false)
        return true
    | .error fault =>
      if invocation.has 'c' && isAbsence fault then return true
      else invocation.fail (about "cannot touch" name (faultText fault))

/-- The program that says who may do what with files. A file keeps whether it may be run. -/
def chmodProgram : Program := fun starter name words => do
  -- A mode may take rights away, and is no option then.
  let isMode (word : Octets) : Bool :=
    match word with
    | '-' :: c :: _ => "rwxX".toList.contains c
    | _ => false
  let words := match words.find? isMode with
    | some mode => "--".toList :: mode :: words.filter (· != mode)
    | none => words
  program "R" 1 (fun invocation => do
    match invocation.operands with
    | [] => invocation.refuse "missing operand".toList 1
    | [mode] => invocation.refuse ("missing operand after ".toList ++ quotedName mode) 1
    | mode :: names =>
      let mask := (← get).mask
      if (modeOf mask mode 0).isNone then
        return ← invocation.refuse ("invalid mode: ".toList ++ quotedName mode) 1
      invocation.each names fun name => do
        match ← entryOf true name with
        | .error fault => invocation.fail (about "cannot access" name (faultText fault))
        | .ok (location, entry) =>
          for (way, entry) in ← entriesFrom (invocation.has 'R') location entry do
            match entry with
            | .file content runnable =>
              let after := (modeOf mask mode (if runnable then 0o755 else 0o644)).getD 0
              changeTree fun tree => tree.put (location ++ way) (.file content (after &&& 0o111 != 0))
            | _ => pure ()
          return true) starter name words

/-- Does something for each file of a call and its new name: the last word, or below it if it is a
directory. A single word may stand for the file of its name in the directory at hand. -/
def eachTarget (invocation : Invocation) (single : Bool) (work : Octets → Octets → Task Bool) :
    Task Nat := do
  match invocation.operands.reverse with
  | [] => invocation.refuse "missing file operand".toList 1
  | [name] =>
    if single then invocation.each [name] fun name => work name (below ['.'] (baseName name))
    else invocation.refuse ("missing destination file operand after ".toList ++ quotedName name) 1
  | last :: rest =>
    if ← isDirectory last then
      invocation.each rest.reverse fun name => work name (below last (baseName name))
    else
      match rest with
      | [name] => invocation.each [name] fun name => work name last
      | _ =>
        let reason := match ← entryOf true last with
          | .ok _ => "Not a directory"
          | .error fault => faultText fault
        invocation.complain (about "target" last reason)
        return 1

def plant (location : Location) (entries : List (Location × Entry)) : Task Unit :=
  changeTree fun tree => entries.foldl (fun tree (way, entry) => tree.put (location ++ way) entry) tree

def pairing (lead : String) (source : Octets) (middle : String) (target : Octets) (reason : String) :
    Octets :=
  lead.toList ++ quotedName source ++ middle.toList ++ quotedName target ++ reason.toList

def clash? (source target : Octets) (entry other : Entry) : Option Octets :=
  if entry == .directory && other != .directory then
    some (pairing "cannot overwrite non-directory " target " with directory " source "")
  else if entry != .directory && other == .directory then
    some ("cannot overwrite directory ".toList ++ quotedName target ++ " with non-directory".toList)
  else none

def copyOne (invocation : Invocation) (source target : Octets) : Task Bool := do
  let recursive := invocation.hasAny "rRa"
  match ← entryOf (!(recursive || invocation.hasAny "Pd")) source with
  | .error fault => invocation.fail (about "cannot stat" source (faultText fault))
  | .ok (here, entry) =>
    let isWhole := entry == .directory
    if isWhole && !recursive then
      return ← invocation.fail ("-r not specified; omitting directory ".toList ++ quotedName source)
    let kind := if isWhole then "directory" else "regular file"
    match ← lookUp true target with
    | .error fault => invocation.fail (about ("cannot create " ++ kind) target (faultText fault))
    | .ok (.vacant there slashed) =>
      if isWhole && here.isPrefixOf there then
        invocation.fail (pairing "cannot copy a directory, " source ", into itself, " target "")
      else if slashed && !isWhole then
        invocation.fail (about "cannot create regular file" target "Not a directory")
      else
        plant there (← entriesFrom isWhole here entry)
        return true
    | .ok (.occupied there other) =>
      match clash? source target entry other with
      | some message => invocation.fail message
      | none =>
        if here == there then
          invocation.fail (pairing "" source " and " target " are the same file")
        else if isWhole && here.isPrefixOf there then
          invocation.fail (pairing "cannot copy a directory, " source ", into itself, " target "")
        else if invocation.has 'n' then return true
        else
          -- A file that is there keeps whether it may be run.
          for (way, entry) in ← entriesFrom isWhole here entry do
            let entry := match entry, (← get).tree.get? (there ++ way) with
              | .file content _, some (.file _ runnable) => .file content runnable
              | entry, _ => entry
            changeTree fun tree => tree.put (there ++ way) entry
          return true

def cpProgram : Program := program "adfnpPrR" 1 fun invocation =>
  eachTarget invocation false (copyOne invocation)

def moveOne (invocation : Invocation) (source target : Octets) : Task Bool := do
  let fail (middle : String) (reason : String) : Task Bool :=
    invocation.fail (pairing "cannot move " source middle target reason)
  let move (here there : Location) : Task Bool := do
    let entries := subtree (← get).tree here
    changeTree fun tree => (tree.erase there).erase here
    plant there entries
    return true
  match ← entryOf false source with
  | .error fault => invocation.fail (about "cannot stat" source (faultText fault))
  | .ok (here, entry) =>
    match ← lookUp false target with
    | .error fault => fail " to " (": " ++ faultText fault)
    | .ok (.vacant there slashed) =>
      if entry == .directory && here.isPrefixOf there then fail " to a subdirectory of itself, " ""
      else if slashed && entry != .directory then fail " to " ": Not a directory"
      else move here there
    | .ok (.occupied there other) =>
      match clash? source target entry other with
      | some message => invocation.fail message
      | none =>
        if here == there then invocation.fail (pairing "" source " and " target " are the same file")
        else if entry == .directory && here.isPrefixOf there then fail " to a subdirectory of itself, " ""
        else if entry == .directory && !(namesIn (← get).tree there).isEmpty then
          invocation.fail (about "cannot overwrite" target "Directory not empty")
        else if invocation.has 'n' then return true
        else move here there

def mvProgram : Program := program "fn" 1 fun invocation =>
  eachTarget invocation false (moveOne invocation)

/-- Makes a link; whether that was possible is returned. A link that is not symbolic is a copy. -/
def linkOne (invocation : Invocation) (source target : Octets) : Task Bool := do
  let symbolic := invocation.has 's'
  let lead := if symbolic then "failed to create symbolic link" else "failed to create hard link"
  match ← (if symbolic then return .ok (([] : Location), Entry.link ⟨source.toBytes⟩)
      else entryOf false source : Task (Except Fault (Location × Entry))) with
  | .error fault => invocation.fail (about "failed to access" source (faultText fault))
  | .ok (_, .directory) =>
    invocation.fail (quotedName source ++ ": hard link not allowed for directory".toList)
  | .ok (here, entry) =>
    match ← lookUp false target with
    | .error fault => invocation.fail (about lead target (faultText fault))
    | .ok (.vacant there _) =>
      changeTree fun tree => tree.put there entry
      return true
    | .ok (.occupied there other) =>
      if !invocation.has 'f' || other == .directory then invocation.fail (about lead target "File exists")
      else if !symbolic && here == there then
        invocation.fail (pairing "" source " and " target " are the same file")
      else
        changeTree fun tree => (tree.erase there).put there entry
        return true

def lnProgram : Program := program "fns" 1 fun invocation =>
  eachTarget invocation true (linkOne invocation)

end LocaleFamilies.Shell
