import LocaleFamilies.Shell.Performing

/-! The commands that a shell carries out itself. -/
namespace LocaleFamilies.Shell

/-- What a builtin command is given: how commands are carried out, whether its status is looked at, the
name it is called by, and its arguments. -/
structure Call where
  evaluate : Evaluator
  tested : Bool
  name : Octets
  arguments : List Octets

abbrev Work := Call → Run Nat

/-- The options at the front of some words, after those found so far, which are in reverse order, and
the other words. In the letters of the options a colon stands after one that takes a text. -/
def optionsIn (letters : List Char) : Nat → List (Char × Octets) → Octets → List Octets →
    Run (List (Char × Octets) × List Octets)
  | 0, found, _, words => return (found.reverse, words)
  | fuel + 1, found, [], words => do
    match words with
    | ['-', '-'] :: rest => return (found.reverse, rest)
    | ('-' :: c :: cluster) :: rest => optionsIn letters fuel found (c :: cluster) rest
    | words => return (found.reverse, words)
  | fuel + 1, found, c :: cluster, words => do
    match if c == ':' then [] else letters.dropWhile (· != c) with
    | [] => fail ("Illegal option -".toList ++ [c])
    | _ :: ':' :: _ =>
      match cluster, words with
      | [], [] => fail ("No arg for -".toList ++ [c] ++ " option".toList)
      | [], word :: words => optionsIn letters fuel ((c, word) :: found) [] words
      | cluster, words => optionsIn letters fuel ((c, cluster) :: found) [] words
    | _ => optionsIn letters fuel ((c, []) :: found) cluster words

def Call.options (call : Call) (letters : String) : Run (List (Char × Octets) × List Octets) :=
  optionsIn letters.toList (call.arguments.flatten.length + call.arguments.length + 1) [] []
    call.arguments

def numberIn (word : Octets) : Run Nat := do
  match Octets.nat? word with
  | some value =>
    if value > 2147483647 then fail ("Illegal number: ".toList ++ word) else return value
  | none => fail ("Illegal number: ".toList ++ word)

end LocaleFamilies.Shell
