import LocaleFamilies.Path.Parts

/-! Paths seen from a base directory. What is left of a path after the components of its base keeps
its own spelling, without fillers at either end. -/
namespace LocaleFamilies.Path

def startsWith (path base : Path) : Bool := base.components.isPrefixOf path.components

/-- Stretches without the first few that count, nor the fillers among and after those. -/
def dropCounting : Nat → List Bytes → List Bytes
  | _, [] => []
  | 0, part :: rest => if isFiller part then dropCounting 0 rest else part :: rest
  | count + 1, part :: rest =>
    if isFiller part then dropCounting (count + 1) rest else dropCounting count rest

def dropComponents (path : Path) : Nat → Path
  | 0 => Anatomy.toPath ⟨path.anatomy.lead, trimEnd path.anatomy.body⟩
  | count + 1 =>
    let counting := if path.anatomy.lead = .bare then count + 1 else count
    Anatomy.toPath ⟨.bare, trimEnd (dropCounting counting path.anatomy.body)⟩

def relativeTo? (path base : Path) : Option Path :=
  if path.startsWith base then some (path.dropComponents base.components.length) else none

/-- The text of a path below a base, or of the whole path when it lies elsewhere. -/
def displayFrom (path base : Path) : String := ((path.relativeTo? base).getD path).display

end LocaleFamilies.Path
