import LocaleFamilies.Path.Basic

/-! The lexical normal form of a path. A step to the parent cancels the name before it, stays at the
root, and is kept where nothing can be cancelled; a current directory counts for nothing. The file
tree is not consulted, so the normal form of a path that names no file exists too. -/
namespace LocaleFamilies.Path

/-- One more component onto a normal sequence, which is held last component first. -/
def settle (done : List Component) : Component → List Component
  | .current => done
  | .parent =>
    match done with
    | .name _ :: before => before
    | .root :: _ => done
    | _ => .parent :: done
  | component => component :: done

def normalComponents (components : List Component) : List Component :=
  (components.foldl settle []).reverse

def normalize (path : Path) : Path := ofComponents (normalComponents path.components)

end LocaleFamilies.Path
