import LocaleFamilies.Shell.Arithmetic
import LocaleFamilies.Shell.Fields
import LocaleFamilies.Shell.State

/-! What words amount to. Parameters, expressions and the output of scripts are put in for what follows
a dollar sign; the outcome is cut into fields, and fields with patterns in them become the names of the
files that the patterns stand for. -/
namespace LocaleFamilies.Shell

abbrev Capture := Command → Run Octets

structure Manner where
  /-- Whether fields are wanted, and not one text. -/
  fields : Bool
  /-- Whether a home directory may also be named after a colon. -/
  colons : Bool
  /-- Whether plain characters are cut at separators. -/
  cut : Bool

def optionLetters : List Char := "pubaCEVvxsnmIfe".toList

def joined (separator : List Cell) (quoted : Bool) (texts : List Octets) : List Cell :=
  match texts with
  | [] => []
  | first :: rest =>
    let cells (text : Octets) : List Cell := text.map fun c => .char c !quoted
    rest.foldl (fun found text => found ++ separator ++ cells text) (cells first)

def State.allArguments (state : State) (manner : Manner) (quoted each : Bool) : List Cell :=
  let isSet := (state.value? "IFS".toList).isSome
  let separator : List Cell :=
    if manner.fields && (each && quoted || !quoted && isSet) then [.next]
    else if isSet then (state.separators.head?.map fun c => Cell.char c !quoted).toList
    else [.char ' ' !quoted]
  joined separator quoted state.arguments

def State.parameter? (state : State) (manner : Manner) (quoted : Bool) (name : Octets) :
    Option (List Cell) :=
  let cells (text : Octets) : List Cell := text.map fun c => .char c !quoted
  match String.ofList name with
  | "$" => some (cells (Octets.ofNat state.rootId))
  | "?" => some (cells (Octets.ofNat state.status))
  | "#" => some (cells (Octets.ofNat state.arguments.length))
  | "!" => state.lastJob.map fun id => cells (Octets.ofNat id)
  | "-" => some (cells (optionLetters.filter state.options.contains))
  | "@" => some (state.allArguments manner quoted true)
  | "*" => some (state.allArguments manner quoted false)
  | _ =>
    match Octets.nat? name with
    | some 0 => some (cells state.name)
    | some (number + 1) => (state.arguments[number]?).map cells
    | none => (state.value? name).map cells

/-- The home directory at the front of a word, after the sign for it, and how many characters name
it. -/
def homeAt? (state : State) (colons : Bool) (rest : Word) : Option (Octets × Nat) :=
  let name := rest.takeWhile fun piece =>
    match piece with
    | .plain c => c != '/' && !(colons && c == ':')
    | _ => false
  let ends := match rest.drop name.length with
    | [] => true
    | .plain _ :: _ => true
    | _ => false
  let home := match (plain? name).map String.ofList with
    | some "" => state.value? "HOME".toList
    | some "root" => some "/root".toList
    | _ => none
  if ends then (home.filter (!·.isEmpty)).map fun home => (home, name.length) else none

def valueStretch (state : State) (quoted : Bool) (name : Octets) (cells : List Cell) :
    Stretch :=
  if !quoted then ⟨.atSeparators, cells⟩
  else if name == ['@'] && !state.arguments.isEmpty then ⟨.atBoundaries, cells⟩
  else ⟨.whole, cells⟩

def stretchesText (stretches : List Stretch) : Octets :=
  stretches.flatMap fun stretch => Fields.text stretch.cells

def withoutLineEnds (text : Octets) : Octets := (text.reverse.dropWhile (· == '\n')).reverse

def calculate (expression : Octets) : Run Int64 := do
  let state ← get
  match Arithmetic.evaluate (fun name => (state.value? name).getD []) expression with
  | .error problem => fail (problem.message expression)
  | .ok (value, assigned) =>
    assigned.forM fun (name, value) => setVariable name (Octets.ofInt value.toInt)
    return value

mutual
/-- The stretches of a word, after those found so far, which are in reverse order. So many characters
at its front are passed over; at its start, a home directory may be named. -/
def stretches (capture : Capture) (manner : Manner) :
    Nat → Bool → List Stretch → List Piece → Run (List Stretch)
  | _, _, found, [] => return found.reverse
  | skipped + 1, _, found, _ :: rest => stretches capture manner skipped false found rest
  | 0, start, found, piece :: rest => do
    let home? ← (do
      let state ← get
      match piece with
      | .plain '~' => return if start then homeAt? state manner.colons rest else none
      | _ => return none : Run (Option (Octets × Nat)))
    match home? with
    | some (home, count) =>
      let cells := home.map fun c => Cell.char c false
      stretches capture manner count false (⟨.whole, cells⟩ :: found) rest
    | none =>
      let inner ← pieceStretches capture manner piece
      let goesOn := match piece with
        | .plain ':' => manner.colons
        | _ => false
      stretches capture manner 0 goesOn (inner.reverse ++ found) rest

def pieceStretches (capture : Capture) (manner : Manner) : Piece → Run (List Stretch)
  | .plain c =>
    return [⟨if manner.cut then .atSeparators else .whole, [.char c true]⟩]
  | .literal c => return [⟨.whole, [.char c false]⟩]
  | .quotes => return [⟨.whole, [.mark]⟩]
  | .parameter quoted name use => do
    let state ← get
    let value? := state.parameter? manner quoted name
    used capture manner quoted name (value?.filter fun _ => !(use matches .bad)) use
  | .output quoted script => do
    let output ← capture script
    let text := withoutLineEnds (output.filter (·.toNat != 0))
    return [⟨if quoted then .whole else .atSeparators, text.map fun c => .char c !quoted⟩]
  | .arithmetic quoted expression => do
    let inner ← stretches capture ⟨false, false, false⟩ 0 false [] expression
    let value ← calculate (stretchesText inner)
    let text := Octets.ofInt value.toInt
    return [⟨if quoted then .whole else .atSeparators, text.map fun c => .char c !quoted⟩]

def used (capture : Capture) (manner : Manner) (quoted : Bool) (name : Octets)
    (value? : Option (List Cell)) : Use → Run (List Stretch)
  | .bad => fail "Bad substitution".toList
  | .value => do
    let state ← get
    match value? with
    | some cells => return [valueStretch state quoted name cells]
    | none =>
      if state.has 'u' then fail (name ++ ": parameter not set".toList)
      return []
  | .size => do
    let state ← get
    if value?.isNone && state.has 'u' then fail (name ++ ": parameter not set".toList)
    let size := (value?.getD []).countP (· != .mark)
    return [valueStretch state quoted name
      ((Octets.ofNat size).map fun c => .char c !quoted)]
  | .orElse orEmpty word => do
    match value?.filter fun cells => !(orEmpty && cells.isEmpty) with
    | some cells => return [valueStretch (← get) quoted name cells]
    | none => stretches capture { manner with cut := manner.fields && !quoted } 0 true [] word
  | .instead orEmpty word => do
    match value?.filter fun cells => !(orEmpty && cells.isEmpty) with
    | some _ => stretches capture { manner with cut := manner.fields && !quoted } 0 true [] word
    | none => return []
  | .orAssign orEmpty word => do
    match value?.filter fun cells => !(orEmpty && cells.isEmpty) with
    | some cells => return [valueStretch (← get) quoted name cells]
    | none =>
      let inner ← stretches capture ⟨false, manner.colons, false⟩ 0 true [] word
      if !Octets.isName name then fail (name ++ ": bad variable name".toList)
      setVariable name (stretchesText inner)
      let state ← get
      return [valueStretch state quoted name ((state.parameter? manner quoted name).getD [])]
  | .orFail orEmpty word => do
    match value?.filter fun cells => !(orEmpty && cells.isEmpty) with
    | some cells => return [valueStretch (← get) quoted name cells]
    | none =>
      let inner ← stretches capture ⟨false, manner.colons, false⟩ 0 true [] word
      let message := if word.isEmpty then
        "parameter not set".toList ++ (if orEmpty then " or null".toList else [])
        else stretchesText inner
      fail (name ++ ": ".toList ++ message)
  | .without atEnd longest pattern => do
    let state ← get
    if value?.isNone && state.has 'u' then fail (name ++ ": parameter not set".toList)
    let inner ← stretches capture ⟨false, manner.colons, false⟩ 0 true [] pattern
    let pattern := Pattern.read (inner.flatMap fun stretch => Fields.marked stretch.cells)
    let text := Fields.text (value?.getD [])
    let left := if atEnd then Pattern.withoutEnd pattern longest text
      else Pattern.withoutFront pattern longest text
    return if value?.isNone then []
      else [valueStretch state quoted name (left.map fun c => .char c !quoted)]
end

def entriesIn (tree : FileTree) (location : Location) : List (Bytes × Entry) :=
  tree.entries.entries.filterMap fun (other, entry) =>
    if other.length == location.length + 1 && location.isPrefixOf other then
      other.getLast?.map fun name => (name, entry)
    else none

def slashed (text : Marked) : List Marked := pieces (fun c => c.1 == '/') text

def isPattern : Marked → Bool
  | [] => false
  | (c, active) :: rest =>
    active && (c == '*' || c == '?' || (c == '[' && rest.tail.any fun c => c.1 == ']')) ||
      isPattern rest

def pathsBelow (process : Process) : Octets → List Marked → Bool → List Octets
  | path, [], found =>
    if found && (process.tree.entryAt process.directory false path.path).isOk then [path] else []
  | path, part :: rest, found =>
    let goOn (name : Octets) (found : Bool) : List Octets :=
      pathsBelow process (path ++ name ++ (if rest.isEmpty then [] else ['/'])) rest found
    if !isPattern part then goOn (part.map (·.1)) found
    else
      let directory : Octets := if path.isEmpty then ['.'] else path
      match process.tree.entryAt process.directory true directory.path with
      | .ok (location, .directory) =>
        let pattern := Pattern.read part
        let names := ['.'] :: ['.', '.'] ::
          (entriesIn process.tree location).map fun entry => Octets.ofBytes entry.1
        let isHidden := (part.head?.map fun c => c.1 == '.').getD false
        names.flatMap fun name =>
          if (isHidden || name.head? != some '.') && Pattern.accepts pattern name then goOn name true
          else []
      | _ => []

def paths (process : Process) (pattern : Marked) : List Octets :=
  let parts := slashed pattern
  if !parts.any isPattern then []
  else (pathsBelow process [] parts false).mergeSort fun first second => !Octets.less second first

def expand (capture : Capture) (word : Word) : Run (List Octets) := do
  let stretches ← stretches capture ⟨true, false, false⟩ 0 true [] word
  let state ← get
  let fields := Fields.cut state.separators none stretches
  return fields.flatMap fun field =>
    let text := Fields.text field
    if state.has 'f' then [text]
    else
      match paths state.process (Fields.marked field) with
      | [] => [text]
      | found => found

def expandText (capture : Capture) (colons : Bool) (word : Word) : Run Octets := do
  return stretchesText (← stretches capture ⟨false, colons, false⟩ 0 true [] word)

def expandAssignment (capture : Capture) (name : Octets) (word : Word) : Run Octets := do
  return name ++ '=' :: (← expandText capture true word)

def expandPattern (capture : Capture) (word : Word) : Run (List Atom) := do
  let stretches ← stretches capture ⟨false, false, false⟩ 0 true [] word
  return Pattern.read (stretches.flatMap fun stretch => Fields.marked stretch.cells)

end LocaleFamilies.Shell
