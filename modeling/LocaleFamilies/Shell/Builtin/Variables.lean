import LocaleFamilies.Shell.Builtin.Basic

/-! The builtin commands about variables, arguments and options. -/
namespace LocaleFamilies.Shell

def cutAssignment (word : Octets) : Octets × Option Octets :=
  let name := word.takeWhile (· != '=')
  (name, if name.length == word.length then none else some (word.drop (name.length + 1)))

def variableName (name : Octets) : Run Octets := do
  if Octets.isName name then return name
  else fail (name ++ ": bad variable name".toList)

def mark (fixed : Bool) (name : Octets) (value : Option Octets) : Run Unit := do
  let name ← variableName name
  let old := ((← get).slot? name).getD ⟨none, false, false⟩
  if value.isSome && old.fixed then fail (name ++ ": is read only".toList)
  modify fun state =>
    state.withVariable name (some
      ⟨if value.isSome then value else old.value, old.exported || !fixed || (state.has 'a' &&
        value.isSome), old.fixed || fixed⟩)

def runMark (fixed : Bool) : Work := fun call => do
  let (_, words) ← call.options "p"
  for word in words do
    let (name, value) := cutAssignment word
    mark fixed name value
  return 0

def runLocal : Work := fun call => do
  if (← get).hidden.isEmpty then fail "not in a function".toList
  for word in call.arguments do
    let (name, value) := cutAssignment word
    if name == ['-'] then pure ()
    else
      let name ← variableName name
      hideVariable name
      match value with
      | some value => setVariable name value
      | none => pure ()
  return 0

def runUnset : Work := fun call => do
  let (options, words) ← call.options "vf"
  let isFunction := options.getLast?.map (·.1) == some 'f'
  for word in words do
    if isFunction then
      modify fun state => { state with functions := state.functions.filter (·.1 != word) }
    else
      let name ← variableName word
      assign name none false
      modify fun state => state.withVariable name none
  return 0

def optionNames : List (String × Char) :=
  [("errexit", 'e'), ("noglob", 'f'), ("ignoreeof", 'I'), ("interactive", 'i'), ("monitor", 'm'),
    ("noexec", 'n'), ("stdin", 's'), ("xtrace", 'x'), ("verbose", 'v'), ("vi", 'V'), ("emacs", 'E'),
    ("noclobber", 'C'), ("allexport", 'a'), ("notify", 'b'), ("nounset", 'u'),
    ("privileged", 'p'), ("nolog", '<'), ("debug", '>')]

def switch (letter : Char) (on : Bool) : Run Unit := modify fun state =>
  let others := state.options.filter (· != letter)
  { state with options := if on then letter :: others else others }

structure Asked where
  words : List Octets
  given : Bool
  script : Bool

/-- Sets the options of a cluster of letters; the words after it are returned, and whether a script is
announced. -/
def setCluster (starting on : Bool) : List Char → List Octets → Bool → Run (List Octets × Bool)
  | [], words, script => return (words, script)
  | letter :: cluster, words, script => do
    if letter == 'c' && starting then setCluster starting on cluster words true
    else if letter == 'l' && starting then setCluster starting on cluster words script
    else if letter == 'o' then
      match words with
      | [] => setCluster starting on cluster [] script
      | name :: rest =>
        match optionNames.find? (·.1 == String.ofList name) with
        | some (_, letter) =>
          switch letter on
          setCluster starting on cluster rest script
        | none => fail ("Illegal option -o ".toList ++ name)
    else
      if !optionLetters.contains letter then fail ("Illegal option -".toList ++ [letter])
      switch letter on
      setCluster starting on cluster words script

/-- Sets the options at the front of some words, those of a shell that is starting or of one that is at
work. -/
def setOptions (starting : Bool) : Nat → Bool → List Octets → Run Asked
  | 0, script, words => return ⟨words, false, script⟩
  | _, script, [] => return ⟨[], false, script⟩
  | fuel + 1, script, word :: rest => do
    match word with
    | ['-', '-'] => return ⟨rest, true, script⟩
    | ['-'] => do
      if !starting then
        switch 'x' false
        switch 'v' false
      return ⟨rest, !rest.isEmpty, script⟩
    | sign :: cluster =>
      if sign != '-' && sign != '+' then return ⟨word :: rest, true, script⟩
      let (rest, script) ← setCluster starting (sign == '-') cluster rest script
      setOptions starting fuel script rest
    | [] => return ⟨word :: rest, true, script⟩

def runSet : Work := fun call => do
  let asked ← setOptions false (call.arguments.length + 1) false call.arguments
  if asked.given || !asked.words.isEmpty then
    modify fun state => { state with arguments := asked.words }
  return 0

def runShift : Work := fun call => do
  let count ← match call.arguments with
    | [] => pure 1
    | word :: _ => numberIn word
  let state ← get
  if count > state.arguments.length then fail "can't shift that many".toList
  set { state with arguments := state.arguments.drop count }
  return 0

/-- How many characters a line to be read has, where a backslash may keep its end from counting. -/
def lineLength (raw : Bool) : Nat → Octets → Nat
  | count, [] => count
  | count, '\n' :: _ => count + 1
  | count, '\\' :: c :: rest =>
    if raw then
      if c == '\n' then count + 2 else lineLength raw (count + 1) (c :: rest)
    else lineLength raw (count + 2) rest
  | count, _ :: rest => lineLength raw (count + 1) rest

/-- The stretches of a line that has been read, after what is found so far, which is in reverse order:
a character after a backslash separates nothing. Whether the line has an end is returned. -/
def lineStretches (raw : Bool) : List Cell → List Stretch → Octets → List Stretch × Bool
  | cells, found, [] => ((⟨.atSeparators, cells.reverse⟩ :: found).reverse, false)
  | cells, found, '\n' :: _ => ((⟨.atSeparators, cells.reverse⟩ :: found).reverse, true)
  | cells, found, '\\' :: c :: rest =>
    if raw then
      if c == '\n' then
        ((⟨.atSeparators, (Cell.char '\\' false :: cells).reverse⟩ :: found).reverse, true)
      else lineStretches raw (.char '\\' false :: cells) found (c :: rest)
    else
      let before : Stretch := ⟨.atSeparators, cells.reverse⟩
      if c == '\n' then lineStretches raw [] (before :: found) rest
      else lineStretches raw [] (⟨.whole, [.char c false]⟩ :: before :: found) rest
  | cells, found, ['\\'] =>
    let cells := if raw then .char '\\' false :: cells else cells
    ((⟨.atSeparators, cells.reverse⟩ :: found).reverse, false)
  | cells, found, c :: rest => lineStretches raw (.char c false :: cells) found rest

def runRead : Work := fun call => do
  let (options, names) ← call.options "p:r"
  let raw := options.any (·.1 == 'r')
  if names.isEmpty then fail "arg count".toList
  let text ← match ← act (readSome 0 (lineLength raw 0)) with
    | .ok text => pure (text.filter (·.toNat != 0))
    | .error _ => pure []
  let (stretches, isWhole) := lineStretches raw [] [] text
  let fields := Fields.cut (← get).separators (some names.length) stretches
  for (name, index) in names.zipIdx do
    setVariable (← variableName name) ((fields[index]?.map Fields.text).getD [])
  return if isWhole then 0 else 1

end LocaleFamilies.Shell
