import LocaleFamilies.Shell.Octets

/-! Patterns of file names and texts. A question mark stands for a character, an asterisk for any
text, and brackets for one of several characters. -/
namespace LocaleFamilies.Shell

def classes : List (String × (Char → Bool)) :=
  let isSpace (c : Char) : Bool := c == ' ' || (0x09 ≤ c.toNat && c.toNat ≤ 0x0d)
  let isGraphic (c : Char) : Bool := 0x21 ≤ c.toNat && c.toNat ≤ 0x7e
  [("alnum", Char.isAlphanum), ("alpha", Char.isAlpha), ("blank", fun c => c == ' ' || c == '\t'),
    ("cntrl", fun c => c.toNat < 0x20 || c.toNat == 0x7f), ("digit", Char.isDigit),
    ("graph", isGraphic), ("lower", Char.isLower), ("print", fun c => isGraphic c || c == ' '),
    ("punct", fun c => isGraphic c && !c.isAlphanum), ("space", isSpace), ("upper", Char.isUpper),
    ("xdigit", fun c => c.isDigit || ('a' ≤ c && c ≤ 'f') || ('A' ≤ c && c ≤ 'F'))]

def class? (name : Octets) : Option (Char → Bool) :=
  (classes.find? (·.1 == String.ofList name)).map (·.2)

inductive Choice
  | among (first last : Char)
  | kind (test : Char → Bool)

def Choice.admits (c : Char) : Choice → Bool
  | .among first last => first ≤ c && c ≤ last
  | .kind test => test c

inductive Atom
  | exact (value : Char)
  | any
  | all
  | oneOf (negated : Bool) (choices : List Choice)

def Atom.admits (c : Char) : Atom → Bool
  | .exact value => value == c
  | .any => true
  | .all => false
  | .oneOf negated choices => choices.any (·.admits c) != negated

/-- A text whose characters may each stand for themselves. -/
abbrev Marked := List (Char × Bool)

namespace Pattern

def className? (text : Marked) : Option ((Char → Bool) × Marked) :=
  match text with
  | (':', true) :: rest =>
    let name := rest.takeWhile fun c => c.1.isAlpha
    match rest.drop name.length with
    | (':', _) :: (']', _) :: rest =>
      (class? (name.map (·.1))).map fun test => (test, rest)
    | _ => none
  | _ => none

def choices : Nat → Marked → List Choice → Option (List Choice × Marked)
  | 0, _, _ => none
  | _, [], _ => none
  | fuel + 1, (c, active) :: rest, found =>
    let goOn (rest : Marked) (choice : Choice) : Option (List Choice × Marked) :=
      match rest with
      | (']', true) :: rest => some (choice :: found, rest)
      | rest => choices fuel rest (choice :: found)
    match (if c == '[' && active then className? rest else none) with
    | some (test, rest) => goOn rest (.kind test)
    | none =>
      match rest with
      | ('-', true) :: (']', true) :: _ => goOn rest (.among c c)
      | ('-', true) :: (last, _) :: rest => goOn rest (.among c last)
      | rest => goOn rest (.among c c)

/-- The pattern that a text is. Brackets without an end stand for themselves. -/
def ofMarked : Nat → Marked → List Atom
  | 0, _ => []
  | _, [] => []
  | fuel + 1, (c, active) :: rest =>
    if !active then .exact c :: ofMarked fuel rest
    else if c == '*' then .all :: ofMarked fuel rest
    else if c == '?' then .any :: ofMarked fuel rest
    else if c == '[' then
      let (negated, inside) := match rest with
        | ('!', true) :: inside => (true, inside)
        | inside => (false, inside)
      match choices (inside.length + 1) inside [] with
      | some (choices, rest) => .oneOf negated choices :: ofMarked fuel rest
      | none => .exact c :: ofMarked fuel rest
    else .exact c :: ofMarked fuel rest

def fromHere (tests : List Bool) : List Bool :=
  tests.foldr (fun test later => (test || later.headD false) :: later) []

/-- Whether a pattern stands for the whole of a text, for the text after its first character, and so
on down to the empty text. -/
def outcomes (text : Octets) : List Atom → List Bool
  | [] => text.map (fun _ => false) ++ [true]
  | .all :: rest => fromHere (outcomes text rest)
  | atom :: rest =>
    List.zipWith (fun c later => atom.admits c && later) text (outcomes text rest).tail ++ [false]

def read (text : Marked) : List Atom := ofMarked (text.length + 1) text

def accepts (pattern : List Atom) (text : Octets) : Bool := (outcomes text pattern).headD false

def withoutEnd (pattern : List Atom) (longest : Bool) (text : Octets) : Octets :=
  let places := (outcomes text pattern).zipIdx.filter (·.1)
  match (if longest then places.head? else places.getLast?) with
  | some (_, place) => text.take place
  | none => text

def withoutFront (pattern : List Atom) (longest : Bool) (text : Octets) : Octets :=
  (withoutEnd pattern.reverse longest text.reverse).reverse

end Pattern

end LocaleFamilies.Shell
