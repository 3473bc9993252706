import LocaleFamilies.Shell.Utility.Basic

/-! The programs that show files: whole, from the front or from the back, and how much is in them. -/
namespace LocaleFamilies.Shell

def catProgram : Program := program "u" 1 fun invocation =>
  invocation.inputs.foldlM (fun status name => do
    if ← isOutput name then
      invocation.complain (leadName name ++ ": input file is output file".toList)
      return 1
    match ← readFile name with
    | .ok text =>
      print text
      return status
    | .error fault =>
      invocation.blame "" (leadName name) fault
      return 1) 0

def teeProgram : Program := program "ai" 1 fun invocation => do
  let mut channels : List Nat := []
  let mut status := 0
  for name in invocation.operands do
    match ← openFile (if invocation.has 'a' then .atEnd else .output) name with
    | .ok number => channels := channels ++ [number]
    | .error fault =>
      invocation.blame "" (leadName name) fault
      status := 1
  match ← readAll 0 with
  | .ok text =>
    print text
    for number in channels do writeTo number text
    return status
  | .error fault =>
    invocation.blame "" "read error".toList fault
    return 1

/-- What part of a file is wanted: how much, in characters or in lines, and whether that is counted from
the other end. -/
structure Extract where
  count : Nat
  inLines : Bool
  otherEnd : Bool

def firstLines : Nat → Octets → Octets → Octets
  | 0, _, found => found.reverse
  | _, [], found => found.reverse
  | count + 1, c :: rest, found =>
    if c == '\n' then firstLines count rest (c :: found)
    else firstLines (count + 1) rest (c :: found)

/-- How many lines there are; a last one without end is one, too. -/
def lineCount (text : Octets) : Nat := (Octets.wholeLines text).length

def Extract.front (portion : Extract) (text : Octets) : Octets :=
  let total := if portion.inLines then lineCount text else text.length
  let count := if portion.otherEnd then total - portion.count else portion.count
  if portion.inLines then firstLines count text [] else text.take count

def Extract.back (portion : Extract) (text : Octets) : Octets :=
  let total := if portion.inLines then lineCount text else text.length
  let skipped := if portion.otherEnd then portion.count - 1 else total - portion.count
  text.drop (if portion.inLines then (firstLines skipped text []).length else skipped)

/-- How much of the input the program that shows the front of files takes: pipes are read in blocks. -/
def Extract.taken (portion : Extract) (text : Octets) (isPipe : Bool) : Nat :=
  let length := (portion.front text).length
  if portion.otherEnd then text.length
  else if isPipe && portion.inLines then (if portion.count == 0 then 0 else (length + 8191) / 8192 * 8192)
  else length

def showParts (invocation : Invocation) (isFront : Bool) (portion : Extract) : Task Nat := do
  let named := invocation.has 'v' || invocation.inputs.length > 1 && !invocation.has 'q'
  let mut first := true
  let mut status := 0
  for name in invocation.inputs do
    let content ← (do
      if name == ['-'] && isFront then
        let isPipe := (← channelAt 0) matches some (.pipe _ _)
        let process ← get
        match ← readAll 0 with
        | .ok text =>
          set process
          let _ ← readSome 0 fun _ => portion.taken text isPipe
          return .ok text
        | .error fault => return .error fault
      else readFile name : Task (Read Octets))
    match content with
    | .ok text =>
      if named then
        print ((if first then [] else ['\n']) ++ "==> ".toList ++
          (if name == ['-'] then "standard input".toList else name) ++ " <==\n".toList)
      print (if isFront then portion.front text else portion.back text)
      first := false
    | .error fault =>
      invocation.blame "cannot open " (quotedName name ++ " for reading".toList) fault
      status := 1
  return status

def partProgram (isFront : Bool) : Program := fun starter name words => do
  -- A number of lines may stand as an option of its own.
  let words := match words with
    | ('-' :: digit :: more) :: rest =>
      if (digit :: more).all Char.isDigit then "-n".toList :: (digit :: more) :: rest else words
    | words => words
  program "c:n:qv" 1 (fun invocation => do
    let inLines := invocation.lastOf "cn" != some 'c'
    let text := ((invocation.lastOf "cn").bind invocation.text?).getD "10".toList
    let (otherEnd, digits) := match text with
      | '-' :: digits => (isFront, digits)
      | '+' :: digits => (!isFront, digits)
      | digits => (false, digits)
    match Octets.nat? digits with
    | some count => showParts invocation isFront ⟨count, inLines, otherEnd⟩
    | none =>
      invocation.complain ("invalid number of ".toList ++
        (if inLines then "lines" else "bytes").toList ++ ": ".toList ++ quotedName digits)
      return 1) starter name words

structure Tally where
  lines : Nat
  words : Nat
  size : Nat

def Tally.of (text : Octets) : Tally :=
  let isSpace (c : Char) : Bool := c == ' ' || (0x09 ≤ c.toNat && c.toNat ≤ 0x0d)
  ⟨text.count '\n', ((pieces isSpace text).filter (!·.isEmpty)).length, text.length⟩

def Tally.add (first second : Tally) : Tally :=
  ⟨first.lines + second.lines, first.words + second.words, first.size + second.size⟩

/-- The size of a file as it shows before the file is read, none of what is no file. -/
def sizeHint (name : Octets) : Task (Option Nat) := do
  let process ← get
  if name == ['-'] then
    match ← channelAt 0 with
    | some (.file location _ _) => return some (contentAt process.tree location).length
    | _ => return none
  else
    match process.tree.entryAt process.directory true name.path with
    | .ok (_, .file content _) => return some content.length
    | .ok _ => return none
    | .error _ => return some 0

def wcProgram : Program := program "clmw" 1 fun invocation => do
  let kinds := "lwmc".toList.filter fun letter =>
    invocation.has letter || invocation.options.isEmpty && letter != 'm'
  let names := invocation.inputs
  let hints ← names.mapM sizeHint
  let width := if names.length == 1 && kinds.length == 1 then 1
    else
      let digits := (Octets.ofNat (hints.foldl (fun total hint => total + hint.getD 0) 0)).length
      if hints.any Option.isNone then max 7 digits else digits
  let row (found : Tally) (name : Octets) : Octets :=
    let numbers := kinds.map fun kind =>
      Layout.padded ⟨[], width, none⟩ (Octets.ofNat (match kind with
        | 'l' => found.lines
        | 'w' => found.words
        | _ => found.size))
    (numbers.intersperse [' ']).flatten ++ (if name.isEmpty then [] else ' ' :: name) ++ ['\n']
  let mut status := 0
  let mut total : Tally := ⟨0, 0, 0⟩
  for name in names do
    let shown := if invocation.operands.isEmpty then [] else leadName name
    match ← readFile name with
    | .ok text =>
      print (row (Tally.of text) shown)
      total := total.add (Tally.of text)
    | .error fault =>
      invocation.blame "" shown fault
      status := 1
  if names.length > 1 then print (row total "total".toList)
  return status

end LocaleFamilies.Shell
