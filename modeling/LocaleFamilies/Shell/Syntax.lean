import LocaleFamilies.Shell.Octets

/-! The form of scripts: commands with words and redirections, joined by pipes and lists, and the
commands that choose, repeat, group and define others. -/
namespace LocaleFamilies.Shell

inductive Opening
  | input
  | output
  /-- Output to a file that must not be there yet if overwriting is ruled out. -/
  | forced
  | atEnd
  | both
  deriving DecidableEq, Repr

mutual
inductive Piece
  | plain (value : Char)
  | literal (value : Char)
  /-- Quotes, which keep a word that would be empty. -/
  | quotes
  | parameter (quoted : Bool) (name : Octets) (use : Use)
  | output (quoted : Bool) (script : Command)
  | arithmetic (quoted : Bool) (expression : List Piece)

inductive Use
  | value
  | size
  /-- A word instead of a value that is not set, or that is empty if that counts as well. -/
  | orElse (orEmpty : Bool) (word : List Piece)
  | orAssign (orEmpty : Bool) (word : List Piece)
  | orFail (orEmpty : Bool) (word : List Piece)
  | instead (orEmpty : Bool) (word : List Piece)
  /-- The value without what a pattern stands for, at its front or at its end. -/
  | without (atEnd longest : Bool) (pattern : List Piece)
  | bad

inductive Redirection
  | file (stream : Nat) (opening : Opening) (target : List Piece)
  | copy (stream : Nat) (source : List Piece)
  | document (stream number : Nat)

inductive Command
  | simple (line : Nat) (assignments : List (Octets × List Piece)) (words : List (List Piece))
      (redirections : List Redirection)
  | redirected (line : Nat) (command : Command) (redirections : List Redirection)
  /-- Commands that leave the variables and the directory around them alone. -/
  | isolated (line : Nat) (command : Command) (redirections : List Redirection)
  | background (command : Command)
  | piped (commands : List Command)
  | negated (command : Command)
  | both (first second : Command)
  | either (first second : Command)
  | sequence (commands : List Command)
  | choose (condition yes : Command) (no : Option Command)
  /-- A body repeated as long as a condition holds, or as long as it does not hold. -/
  | loop (wanted : Bool) (condition body : Command)
  | each (line : Nat) (name : Octets) (words : List (List Piece)) (body : Command)
  | cases (line : Nat) (word : List Piece) (branches : List (List (List Piece) × Option Command))
  | define (name : Octets) (body : Command)
end

abbrev Word := List Piece

def plain? (word : Word) : Option Octets :=
  word.mapM fun piece =>
    match piece with
    | .plain c => some c
    | _ => none

def Word.ofPlain (text : Octets) : Word := text.map .plain

def assigned? (word : Word) : Option (Octets × Word) :=
  let name := word.takeWhile fun piece =>
    match piece with
    | .plain c => Octets.isInName c
    | _ => false
  match plain? name, word.drop name.length with
  | some (first :: rest), .plain '=' :: value =>
    if Octets.startsName first then some (first :: rest, value) else none
  | _, _ => none

end LocaleFamilies.Shell
