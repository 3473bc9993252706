import LocaleFamilies.Shell.Syntax

/-! Reading the words of scripts. Quotes and backslashes keep characters from having a meaning, and
after a dollar sign stands a parameter, an expression or a script. A backslash at the end of a line
joins it with the next one wherever it is not quoted itself. -/
namespace LocaleFamilies.Shell

structure Mistake where
  line : Nat
  message : String
  deriving DecidableEq, Repr

inductive Arrow
  | file (stream : Nat) (opening : Opening)
  | copy (stream : Nat)
  | document (stream : Nat) (indented : Bool)

inductive Token
  | ended
  | newline
  | arrow (arrow : Arrow)
  | word (word : Word)
  /-- A sign between commands, or a reserved word. -/
  | sign (text : String)

/-- A text in a script that a redirection is waiting for: its number, the line that ends it, whether
its characters all stand for themselves, and whether its lines may be indented. -/
structure Awaited where
  number : Nat
  ending : Octets
  literal : Bool
  indented : Bool

structure Reader where
  text : Octets
  line : Nat
  /-- The token that was read last, if it is to be read again. -/
  again : Option Token
  awaited : List Awaited
  documents : List (Nat × Word)
  count : Nat

abbrev Parse := StateT Reader (Except Mistake)

def refuse {α : Type} (message : String) : Parse α := do
  throw ⟨(← get).line, message⟩

/-- A text without joined lines at its front, and how many line ends went. -/
def spliced : Octets → Octets × Nat
  | '\\' :: '\n' :: rest =>
    let (text, count) := spliced rest
    (text, count + 1)
  | text => (text, 0)

def splice : Parse Unit := modify fun reader =>
  let (text, count) := spliced reader.text
  { reader with text := text, line := reader.line + count }

def peek : Parse (Option Char) := do
  splice
  return (← get).text.head?

def skip (count : Nat) : Parse Unit := modify fun reader =>
  { reader with text := reader.text.drop count }

def endLine : Parse Unit := modify fun reader => { reader with line := reader.line + 1 }

def accept (c : Char) : Parse Bool := do
  if (← peek) == some c then
    skip 1
    return true
  else return false

/-- The characters up to a given one, which is passed over; none if it does not come. -/
def upTo? (c : Char) : Parse (Option Octets) := do
  let text := (← get).text
  let inside := text.takeWhile (· != c)
  if inside.length == text.length then return none
  modify fun reader =>
    { reader with
      text := text.drop (inside.length + 1)
      line := reader.line + inside.count '\n' }
  return some inside

def gather (test : Char → Bool) : Nat → Octets → Parse Octets
  | 0, found => return found.reverse
  | fuel + 1, found => do
    match ← peek with
    | some c =>
      if test c then
        skip 1
        gather test fuel (c :: found)
      else return found.reverse
    | none => return found.reverse

/-- A bound for the steps that reading what is left can take. -/
def budget : Parse Nat := do return (← get).text.length + 2

def isAccent (c : Char) : Bool := c == Char.ofNat 0x60

def endsWord (c : Char) : Bool := " \t\n;&|<>()".toList.contains c

def isSpecial (c : Char) : Bool := "?$!#-@*".toList.contains c || c.isDigit

/-- The text between grave accents, the first of which has been read: the accents, backslashes and
dollar signs in it, and in quotes the double quotes, have lost the backslashes before them. -/
def accented (quoted : Bool) : Nat → Octets → Parse Octets
  | 0, _ => refuse "EOF in backquote substitution"
  | fuel + 1, found => do
    match (← get).text with
    | [] => refuse "EOF in backquote substitution"
    | '\\' :: '\n' :: _ =>
      skip 2
      endLine
      accented quoted fuel found
    | '\\' :: c :: _ =>
      skip 2
      if c == '\\' || c == '$' || isAccent c || (quoted && c == '"') then
        accented quoted fuel (c :: found)
      else accented quoted fuel (c :: '\\' :: found)
    | c :: _ =>
      skip 1
      if isAccent c then return found.reverse
      if c == '\n' then endLine
      accented quoted fuel (c :: found)

inductive Zone
  | bare
  /-- The line that ends a text in the script, where nothing is put in for dollar signs. -/
  | mark
  | braced
  | quoted
  | quotedBraced
  | document
  | documentBraced
  /-- In an expression, with so many open parentheses. -/
  | expression (depth : Nat)
  deriving DecidableEq

namespace Zone

def isQuoted : Zone → Bool
  | bare | mark | braced => false
  | _ => true

def isBraced : Zone → Bool
  | braced | quotedBraced | documentBraced => true
  | _ => false

def inBraces : Zone → Zone
  | bare | mark | braced => braced
  | document | documentBraced => documentBraced
  | _ => quotedBraced

def complaint? : Zone → Option String
  | bare | mark | document => none
  | braced | documentBraced => some "Missing '\x7d'"
  | quoted | quotedBraced => some "Unterminated quoted string"
  | expression _ => some "Missing '))'"

end Zone

/-- What a backslash before a character stands for in some zone. -/
def escaped (zone : Zone) (c : Char) : Word :=
  let isTaken := c == '\\' || c == '$' || isAccent c ||
    (c == '"' && zone != .document) || (c == '}' && zone.isBraced)
  if !zone.isQuoted || isTaken then [.literal c] else [.literal '\\', .literal c]

def isAllArguments : Word → Bool
  | [.parameter _ ['@'] .value] => true
  | _ => false

mutual
/-- The rest of a word in some zone, after the parts already read, which are given in reverse order.
How a script in parentheses is read is a parameter. -/
def stretch (script : Bool → Parse Command) : Nat → Zone → Word → Parse Word
  | 0, _, _ => refuse "Word too deep"
  | fuel + 1, zone, found => do
    let quoted := zone.isQuoted
    let goOn (piece : Piece) : Parse Word := do
      skip 1
      stretch script fuel zone (piece :: found)
    match ← peek with
    | none =>
      match zone.complaint? with
      | some message => refuse message
      | none => return found.reverse
    | some c =>
      if c == '\n' then
        if zone == .bare || zone == .mark then return found.reverse
        endLine
        goOn (if quoted then .literal c else .plain c)
      else if c == '\\' then
        skip 1
        match (← get).text with
        | [] => stretch script fuel zone (.literal '\\' :: found)
        | next :: _ =>
          skip 1
          if next == '\n' then endLine
          stretch script fuel zone ((escaped zone next).reverse ++ found)
      else if c == '\'' && !quoted then
        skip 1
        match ← upTo? '\'' with
        | some inside =>
          stretch script fuel zone ((inside.map Piece.literal).reverse ++ .quotes :: found)
        | none =>
          let reader ← get
          set { reader with text := [], line := reader.line + reader.text.count '\n' }
          refuse "Unterminated quoted string"
      else if c == '"' && zone matches .expression _ then
        skip 1
        stretch script fuel zone found
      else if c == '"' && zone != .document then
        skip 1
        if zone == .quoted then return found.reverse
        let inside ← stretch script fuel .quoted []
        let marks : Word := if isAllArguments inside then [] else [.quotes]
        stretch script fuel zone (inside.reverse ++ marks ++ found)
      else if c == '}' && zone.isBraced then
        skip 1
        return found.reverse
      else if c == '$' && zone != .mark then
        skip 1
        let piece ← dollar script fuel zone
        stretch script fuel zone (piece :: found)
      else if isAccent c && zone != .mark then
        skip 1
        let text ← accented quoted (← budget) []
        let outer ← get
        set { outer with text := text, line := 1, again := none, awaited := [] }
        let inner ← script false
        modify fun reader =>
          { reader with
            text := outer.text
            line := outer.line
            again := none
            awaited := outer.awaited }
        stretch script fuel zone (.output quoted inner :: found)
      else if endsWord c && (zone == .bare || zone == .mark) then return found.reverse
      else
        match zone with
        | .expression depth =>
          if c == '(' then
            skip 1
            stretch script fuel (.expression (depth + 1)) (.literal c :: found)
          else if c == ')' then
            skip 1
            if depth > 0 then stretch script fuel (.expression (depth - 1)) (.literal c :: found)
            else if ← accept ')' then return found.reverse
            else stretch script fuel zone (.literal c :: found)
          else goOn (.literal c)
        | _ => goOn (if quoted then .literal c else .plain c)

def dollar (script : Bool → Parse Command) : Nat → Zone → Parse Piece
  | 0, _ => refuse "Word too deep"
  | fuel + 1, zone => do
    let quoted := zone.isQuoted
    match ← peek with
    | some '(' =>
      skip 1
      if ← accept '(' then
        return .arithmetic quoted (← stretch script fuel (.expression 0) [])
      else
        let outer ← get
        set { outer with again := none, awaited := [] }
        let inner ← script true
        modify fun reader => { reader with again := none, awaited := outer.awaited }
        return .output quoted inner
    | some '{' =>
      skip 1
      braces script fuel zone
    | some c =>
      if Octets.startsName c then
        return .parameter quoted (← gather Octets.isInName (← budget) []) .value
      else if isSpecial c then
        skip 1
        return .parameter quoted [c] .value
      else return if quoted then .literal '$' else .plain '$'
    | none => return if quoted then .literal '$' else .plain '$'

def braces (script : Bool → Parse Command) : Nat → Zone → Parse Piece
  | 0, _ => refuse "Word too deep"
  | fuel + 1, zone => do
    let quoted := zone.isQuoted
    let bad : Parse Piece := do
      let _ ← stretch script fuel zone.inBraces []
      return .parameter quoted [] .bad
    let name (c : Char) : Parse Octets := do
      if Octets.startsName c then gather Octets.isInName (← budget) []
      else if c.isDigit then gather Char.isDigit (← budget) []
      else
        skip 1
        return [c]
    match ← peek with
    | none => refuse (zone.inBraces.complaint?.getD "")
    | some c =>
      if !(Octets.startsName c || isSpecial c) then bad
      else
        let before ← get
        skip 1
        let next ← peek
        let second := next.getD '}'
        let isSize ← (do
          if c != '#' || next.isNone then return false
          else if Octets.startsName second || second.isDigit then return true
          else if isSpecial second then
            skip 1
            return (← peek) == some '}'
          else return false : Parse Bool)
        set before
        if isSize then
          skip 1
          let _ ← peek
          let sized ← name second
          if ← accept '}' then return .parameter quoted sized .size
          else bad
        else
          let name ← name c
          match ← peek with
          | some '}' =>
            skip 1
            return .parameter quoted name .value
          | some '%' =>
            skip 1
            let longest ← accept '%'
            return .parameter quoted name (.without true longest (← stretch script fuel .braced []))
          | some '#' =>
            skip 1
            let longest ← accept '#'
            return .parameter quoted name (.without false longest (← stretch script fuel .braced []))
          | none => refuse (zone.inBraces.complaint?.getD "")
          | some _ =>
            let orEmpty ← accept ':'
            let mark ← peek
            let use? : Option (Word → Use) :=
              match mark with
              | some '-' => some (.orElse orEmpty)
              | some '=' => some (.orAssign orEmpty)
              | some '?' => some (.orFail orEmpty)
              | some '+' => some (.instead orEmpty)
              | _ => none
            match use? with
            | some use =>
              skip 1
              return .parameter quoted name (use (← stretch script fuel zone.inBraces []))
            | none => bad
end

def readWord (script : Bool → Parse Command) (zone : Zone) : Parse Word := do
  stretch script (2 * (← budget)) zone []

def documentLines (ending : Octets) (indented : Bool) : Nat → Octets → List Octets →
    List Octets × Octets
  | 0, text, found => (found.reverse, text)
  | _, [], found => (found.reverse, [])
  | fuel + 1, text, found =>
    let line := text.takeWhile (· != '\n')
    let rest := text.drop line.length
    let line := if indented then line.dropWhile (· == '\t') else line
    if line == ending then (found.reverse, rest.drop 1)
    else documentLines ending indented fuel (rest.drop 1) ((line ++ rest.take 1) :: found)

def readDocument (script : Bool → Parse Command) (awaited : Awaited) : Parse Unit := do
  let reader ← get
  let (lines, rest) := documentLines awaited.ending awaited.indented (← budget) reader.text []
  let text := lines.flatten
  let after := reader.line + lines.length + 1
  let word ← if awaited.literal then pure (text.map Piece.literal)
    else do
      set { reader with text := text, again := none, awaited := [] }
      readWord script .document
  modify fun inner =>
    { inner with
      text := rest
      line := after
      again := reader.again
      awaited := reader.awaited
      documents := (awaited.number, word) :: inner.documents }

def readDocuments (script : Bool → Parse Command) : Parse Unit := do
  let awaited := (← get).awaited
  modify fun reader => { reader with awaited := [] }
  awaited.forM (readDocument script)

end LocaleFamilies.Shell
