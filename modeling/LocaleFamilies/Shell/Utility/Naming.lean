import LocaleFamilies.Shell.Utility.Basic

/-! The programs about names of files: parts of paths, and where links lead. -/
namespace LocaleFamilies.Shell

/-- A name without an ending that it has, unless that is all of it. -/
def withoutEnding (name ending : Octets) : Octets :=
  if name != ending && ending.isSuffixOf name then name.take (name.length - ending.length) else name

def basenameProgram : Program := program "as:" 1 fun invocation => do
  let isMany := invocation.hasAny "as"
  match invocation.operands, isMany with
  | [], _ => invocation.refuse "missing operand".toList 1
  | _ :: _ :: extra :: _, false => invocation.refuse ("extra operand ".toList ++ quotedName extra) 1
  | names, _ =>
    let ending := if isMany then (invocation.text? 's').getD [] else names.getD 1 []
    let names := if isMany then names else names.take 1
    print (Octets.ofLines (names.map fun name => withoutEnding (baseName name) ending))
    return 0

def dirnameProgram : Program := program "" 1 fun invocation => do
  if invocation.operands.isEmpty then return ← invocation.refuse "missing operand".toList 1
  print (Octets.ofLines (invocation.operands.map directoryName))
  return 0

def readlinkProgram : Program := program "fn" 1 fun invocation => do
  if invocation.operands.isEmpty then return ← invocation.refuse "missing operand".toList 1
  let ending : Octets := if invocation.has 'n' then [] else ['\n']
  invocation.operands.foldlM (fun status name => do
    let process ← get
    let found? : Option Bytes :=
      if invocation.has 'f' then
        match process.tree.lookup process.directory true name.path with
        | .ok (.occupied location _) | .ok (.vacant location _) =>
          some (FileTree.pathTo location).spelling
        | .error _ => none
      else
        match process.tree.entryAt process.directory false name.path with
        | .ok (_, .link target) => some target.spelling
        | _ => none
    match found? with
    | some path =>
      print (Octets.ofBytes path ++ ending)
      return status
    | none => return 1) 0

end LocaleFamilies.Shell
