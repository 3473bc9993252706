import LocaleFamilies.Shell.Words

/-! Reading scripts. A script is read and carried out line by line, where a line goes on until the
commands begun in it are complete; what is wrong further down comes out only when it is reached. -/
namespace LocaleFamilies.Shell

def reservedWords : List String :=
  ["!", "case", "do", "done", "elif", "else", "esac", "fi", "for", "if", "in", "then", "until",
    "while", "\x7b", "\x7d"]

def listEnds : List String :=
  [")", ";;", "do", "done", "elif", "else", "esac", "fi", "then", "\x7d"]

/-- The builtin commands that are special: nothing may take their names. -/
def specialNames : List String :=
  [".", ":", "break", "continue", "eval", "exec", "exit", "export", "local", "readonly", "return",
    "set", "shift", "times", "trap", "unset"]

def Token.name : Token → String
  | .ended => "end of file"
  | .newline => "newline"
  | .arrow _ => "redirection"
  | .word _ => "word"
  | .sign text => "\"" ++ text ++ "\""

def Token.isSign (token : Token) (text : String) : Bool :=
  match token with
  | .sign other => other == text
  | _ => false

def unexpected {α : Type} (token : Token) (expected : Option String) : Parse α :=
  refuse <| token.name ++ " unexpected" ++
    match expected with
    | some sign => " (expecting \"" ++ sign ++ "\")"
    | none => ""

/-- The next characters without blanks, comments and joined lines before them, and how many lines
ended there. -/
def afterBlanks : Octets → Octets × Nat
  | ' ' :: rest => afterBlanks rest
  | '\t' :: rest => afterBlanks rest
  | '\\' :: '\n' :: rest =>
    let (text, count) := afterBlanks rest
    (text, count + 1)
  | '#' :: rest => (rest.dropWhile (· != '\n'), 0)
  | text => (text, 0)

def stream? : Octets → Option (Option Nat × Octets)
  | '<' :: rest => some (none, '<' :: rest)
  | '>' :: rest => some (none, '>' :: rest)
  | digit :: '<' :: rest => if digit.isDigit then some (some (digit.toNat - 48), '<' :: rest) else none
  | digit :: '>' :: rest => if digit.isDigit then some (some (digit.toNat - 48), '>' :: rest) else none
  | _ => none

def readArrow (stream : Option Nat) : Parse Arrow := do
  if ← accept '>' then
    let stream := stream.getD 1
    if ← accept '>' then return .file stream .atEnd
    else if ← accept '|' then return .file stream .forced
    else if ← accept '&' then return .copy stream
    else return .file stream .output
  else
    skip 1
    let stream := stream.getD 0
    if ← accept '<' then return .document stream (← accept '-')
    else if ← accept '&' then return .copy stream
    else if ← accept '>' then return .file stream .both
    else return .file stream .input

/-- The next token, whatever it means. The line that ends a text in the script is a word of its own
kind. -/
def nextToken (script : Bool → Parse Command) (zone : Zone) : Parse Token := do
  if let some token := (← get).again then
    modify fun reader => { reader with again := none }
    return token
  modify fun reader =>
    let (text, count) := afterBlanks reader.text
    { reader with text := text, line := reader.line + count }
  let doubled (c : Char) : Parse Token := do
    skip 1
    let text := String.singleton c
    return .sign (if ← accept c then text ++ text else text)
  match (← get).text with
  | [] => return .ended
  | '\n' :: _ =>
    skip 1
    endLine
    return .newline
  | '&' :: _ => doubled '&'
  | '|' :: _ => doubled '|'
  | ';' :: _ => doubled ';'
  | '(' :: _ =>
    skip 1
    return .sign "("
  | ')' :: _ =>
    skip 1
    return .sign ")"
  | text =>
    match stream? text with
    | some (stream, rest) =>
      modify fun reader => { reader with text := rest }
      return .arrow (← readArrow stream)
    | none => return .word (← readWord script zone)

def putBack (token : Token) : Parse Unit := modify fun reader => { reader with again := some token }

structure Wanted where
  pastLines : Bool
  reserved : Bool

def Wanted.start : Wanted := ⟨true, true⟩

def pastLines (script : Bool → Parse Command) : Nat → Parse Token
  | 0 => return .ended
  | fuel + 1 => do
    match ← nextToken script .bare with
    | .newline =>
      readDocuments script
      pastLines script fuel
    | token => return token

def readToken (script : Bool → Parse Command) (wanted : Wanted) : Parse Token := do
  let token ← if wanted.pastLines then pastLines script (← budget) else nextToken script .bare
  match token with
  | .word word =>
    match plain? word with
    | none => return token
    | some plain =>
      let text := String.ofList plain
      return if wanted.reserved && reservedWords.contains text then .sign text else token
  | token => return token

inductive Extent
  /-- To the end of the line on which it is complete. -/
  | line
  /-- To a sign that closes a command around it. -/
  | body
  /-- The same, but it may hold nothing. -/
  | enclosed
  | single
  deriving DecidableEq

abbrev Found := Option Command

def inOrder : List Command → Found
  | [] => none
  | [command] => some command
  | commands => some (.sequence commands)

abbrev Inner := Extent → Parse Found

def Inner.script (inner : Inner) (closed : Bool) : Parse Command := do
  let found ← inner .enclosed
  if closed then
    let again := (← get).again
    let token ← match again with
      | some token => do
        modify fun reader => { reader with again := none }
        pure token
      | none => pure .ended
    if !token.isSign ")" then unexpected token ")"
  return found.getD (.sequence [])

def Inner.token (inner : Inner) (wanted : Wanted) : Parse Token := do
  readToken inner.script wanted

def Inner.raw (inner : Inner) : Parse Token := inner.token ⟨false, false⟩

def Inner.expect (inner : Inner) (wanted : Wanted) (sign : String) : Parse Unit := do
  let token ← inner.token wanted
  if !token.isSign sign then unexpected token sign

def Inner.redirection (inner : Inner) (arrow : Arrow) : Parse Redirection := do
  match arrow with
  | .document stream indented =>
    match ← nextToken inner.script .mark with
    | .word word =>
      let ending := word.filterMap fun piece =>
        match piece with
        | .plain c => some c
        | .literal c => some c
        | _ => none
      let number := (← get).count
      modify fun reader =>
        { reader with
          count := number + 1
          awaited := reader.awaited ++ [⟨number, ending, (plain? word).isNone, indented⟩] }
      return .document stream number
    | token => unexpected token none
  | .file stream opening =>
    match ← inner.raw with
    | .word word => return .file stream opening word
    | token => unexpected token none
  | .copy stream =>
    match ← inner.raw with
    | .word word => return .copy stream word
    | token => unexpected token none

def Inner.redirections (inner : Inner) : Nat → List Redirection → Parse (List Redirection)
  | 0, found => return found.reverse
  | fuel + 1, found => do
    match ← inner.token ⟨false, true⟩ with
    | .arrow arrow => inner.redirections fuel ((← inner.redirection arrow) :: found)
    | token =>
      putBack token
      return found.reverse

structure Draft where
  assignments : List (Octets × Word)
  words : List Word
  redirections : List Redirection

def Inner.simple (inner : Inner) (line : Nat) : Nat → Draft → Parse Command
  | 0, _ => refuse "Command too long"
  | fuel + 1, draft => do
    let finish (token : Token) : Parse Command := do
      putBack token
      return .simple line draft.assignments.reverse draft.words.reverse draft.redirections.reverse
    match ← inner.token ⟨false, false⟩ with
    | .word word =>
      match (if draft.words.isEmpty then assigned? word else none) with
      | some assignment =>
        inner.simple line fuel { draft with assignments := assignment :: draft.assignments }
      | none => inner.simple line fuel { draft with words := word :: draft.words }
    | .arrow arrow =>
      let redirection ← inner.redirection arrow
      inner.simple line fuel { draft with redirections := redirection :: draft.redirections }
    | .sign "(" =>
      match draft with
      | ⟨[], [word], []⟩ =>
        let token ← inner.raw
        if !token.isSign ")" then unexpected token ")"
        let name := (plain? word).getD []
        if !Octets.isName name || specialNames.contains (String.ofList name) then
          refuse "Bad function name"
        let token ← inner.token .start
        putBack token
        match ← inner .single with
        | some body => return .define name body
        | none => refuse "Bad function name"
      | _ => finish (.sign "(")
    | token => finish token

def Inner.words (inner : Inner) : Nat → List Word → Parse (List Word × Token)
  | 0, found => return (found.reverse, .ended)
  | fuel + 1, found => do
    match ← inner.raw with
    | .word word => inner.words fuel (word :: found)
    | token => return (found.reverse, token)

def Inner.body (inner : Inner) : Parse Command := do
  return (← inner .body).getD (.sequence [])

def Inner.each (inner : Inner) (line : Nat) : Parse Command := do
  match ← inner.raw with
  | .word word =>
    let name := (plain? word).getD []
    if !Octets.isName name then refuse "Bad for loop variable"
    let token ← inner.token .start
    let words ← (do
      if token.isSign "in" then
        let (words, last) ← inner.words (← budget) []
        match last with
        | .newline =>
          readDocuments inner.script
          return words
        | .sign ";" => return words
        | last => unexpected last none
      else
        if !token.isSign ";" then putBack token
        return [[.parameter true ['@'] .value]] : Parse (List Word))
    inner.expect .start "do"
    let body ← inner.body
    inner.expect ⟨false, true⟩ "done"
    return .each line name words body
  | _ => refuse "Bad for loop variable"

def Inner.patterns (inner : Inner) : Nat → List Word → Parse (List Word)
  | 0, found => return found.reverse
  | fuel + 1, found => do
    let token ← inner.raw
    if token.isSign "|" then
      match ← inner.raw with
      | .word word => inner.patterns fuel (word :: found)
      | .sign text => inner.patterns fuel (Word.ofPlain text.toList :: found)
      | _ => inner.patterns fuel found
    else if token.isSign ")" then return found.reverse
    else unexpected token ")"

def Inner.branches (inner : Inner) : Nat → List (List Word × Found) →
    Parse (List (List Word × Found))
  | 0, found => return found.reverse
  | fuel + 1, found => do
    let token ← inner.token ⟨true, true⟩
    if token.isSign "esac" then return found.reverse
    let token ← if token.isSign "(" then inner.raw else pure token
    let first : Word := match token with
      | .word word => word
      | .sign text => Word.ofPlain text.toList
      | _ => []
    let patterns ← inner.patterns (← budget) [first]
    let body ← inner .enclosed
    let found := (patterns, body) :: found
    let token ← inner.token ⟨true, true⟩
    if token.isSign "esac" then return found.reverse
    else if token.isSign ";;" then inner.branches fuel found
    else unexpected token ";;"

def Inner.choice (inner : Inner) : Nat → Parse Command
  | 0 => refuse "Command too long"
  | fuel + 1 => do
    let condition ← inner.body
    inner.expect ⟨false, true⟩ "then"
    let yes ← inner.body
    let token ← inner.token ⟨false, true⟩
    if token.isSign "elif" then return .choose condition yes (some (← inner.choice fuel))
    else if token.isSign "else" then
      let no ← inner.body
      inner.expect ⟨false, true⟩ "fi"
      return .choose condition yes (some no)
    else if token.isSign "fi" then return .choose condition yes none
    else unexpected token "fi"

def Inner.command (inner : Inner) (wanted : Wanted) : Parse Command := do
  let token ← inner.token wanted
  let line := (← get).line
  let redirected (command : Command) (isolated : Bool) : Parse Command := do
    let redirections ← inner.redirections (← budget) []
    return if isolated then .isolated line command redirections
      else if redirections.isEmpty then command
      else .redirected line command redirections
  match token with
  | .word _ | .arrow _ =>
    putBack token
    inner.simple line (← budget) ⟨[], [], []⟩
  | .sign "if" => redirected (← inner.choice (← budget)) false
  | .sign "while" =>
    let condition ← inner.body
    inner.expect ⟨false, true⟩ "do"
    let body ← inner.body
    inner.expect ⟨false, true⟩ "done"
    redirected (.loop true condition body) false
  | .sign "until" =>
    let condition ← inner.body
    inner.expect ⟨false, true⟩ "do"
    let body ← inner.body
    inner.expect ⟨false, true⟩ "done"
    redirected (.loop false condition body) false
  | .sign "for" => redirected (← inner.each line) false
  | .sign "case" =>
    match ← inner.raw with
    | .word word =>
      inner.expect .start "in"
      redirected (.cases line word (← inner.branches (← budget) [])) false
    | token => unexpected token none
  | .sign "(" =>
    let body ← inner.body
    inner.expect ⟨false, true⟩ ")"
    redirected body true
  | .sign "\x7b" =>
    let body ← inner.body
    inner.expect ⟨false, true⟩ "\x7d"
    redirected body false
  | token => unexpected token none

def Inner.pipe (inner : Inner) : Nat → List Command → Parse (List Command)
  | 0, found => return found.reverse
  | fuel + 1, found => do
    let token ← inner.raw
    if token.isSign "|" then inner.pipe fuel ((← inner.command .start) :: found)
    else
      putBack token
      return found.reverse

def Inner.pipeline (inner : Inner) (wanted : Wanted) : Parse Command := do
  let token ← inner.token wanted
  let negated := token.isSign "!"
  if !negated then putBack token
  let first ← inner.command ⟨false, negated⟩
  let commands ← inner.pipe (← budget) [first]
  let command : Command := match commands with
    | [command] => command
    | commands => .piped commands
  return if negated then .negated command else command

def Inner.conditional (inner : Inner) : Nat → Command → Parse Command
  | 0, found => return found
  | fuel + 1, found => do
    let token ← inner.raw
    if token.isSign "&&" then
      inner.conditional fuel (.both found (← inner.pipeline .start))
    else if token.isSign "||" then
      inner.conditional fuel (.either found (← inner.pipeline .start))
    else
      putBack token
      return found

def Inner.list (inner : Inner) (extent : Extent) : Nat → List Command → Parse Found
  | 0, found => return inOrder found.reverse
  | fuel + 1, found => do
    let token ← inner.token ⟨extent != .line, true⟩
    match token with
    | .newline =>
      readDocuments inner.script
      return inOrder found.reverse
    | .ended =>
      readDocuments inner.script
      putBack .ended
      return inOrder found.reverse
    | token =>
      putBack token
      let isEnd := match token with
        | .sign text => listEnds.contains text
        | _ => false
      if isEnd && extent != .line && !(extent == .body && found.isEmpty) then
        return inOrder found.reverse
      let first ← inner.pipeline ⟨false, false⟩
      let command ← inner.conditional (← budget) first
      match ← inner.raw with
      | .sign "&" => inner.list extent fuel (.background command :: found)
      | .sign ";" => inner.list extent fuel (command :: found)
      | .newline =>
        putBack .newline
        inner.list extent fuel (command :: found)
      | .ended =>
        readDocuments inner.script
        putBack .ended
        return inOrder (command :: found).reverse
      | token =>
        if extent == .line then unexpected token none
        putBack token
        return inOrder (command :: found).reverse

def commands : Nat → Inner
  | 0, _ => refuse "Script too deep"
  | depth + 1, extent => do
    let inner : Inner := commands depth
    match extent with
    | .single => some <$> inner.command ⟨false, true⟩
    | extent => inner.list extent (← budget) []

def nestingLimit : Nat := 400

inductive Portion
  | command (command : Found)
  | ended

def nextPortion : Parse Portion := do
  modify fun reader => { reader with again := none, awaited := [] }
  let found ← commands nestingLimit .line
  match found, (← get).again with
  | none, some .ended => return .ended
  | found, _ => return .command found

def Reader.start (text : Octets) (count : Nat) : Reader := ⟨text, 1, none, [], [], count⟩

end LocaleFamilies.Shell
