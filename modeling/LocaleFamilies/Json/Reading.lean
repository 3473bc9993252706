import LocaleFamilies.Bytes
import LocaleFamilies.Json.Numeral

/-! What is read from the text of a document. A text that breaks off or goes wrong somewhere still
has a reading up to that place, so a reader of values that meets a wrong value before the fault can
name the wrong value. -/
namespace LocaleFamilies.Json

inductive Reading
  /-- No value can be read here. -/
  | broken
  | null
  | truth (value : Bool)
  | number (numeral : Numeral)
  /-- A string; none if it names half of a character that takes two units. -/
  | string (text : Option String)
  /-- The items, and whether the list goes on well to its end. -/
  | list (items : List Reading) (closed : Bool)
  /-- The fields, and whether the object goes on well to its end. A key need not be a string, but
  then nothing follows it. -/
  | object (fields : List (Reading × Reading)) (closed : Bool)
  deriving Inhabited

def isSpace (c : Char) : Bool := c == ' ' || c == '\n' || c == '\t' || c == '\r'

def skip (text : List Char) : List Char := text.dropWhile isSpace

/-- A part of a string: a character, or a unit that is half of one. -/
inductive Glyph
  | whole (value : Char)
  | half (unit : Nat)
  deriving DecidableEq, Repr

def unit? (digits : List Char) : Option Nat :=
  digits.foldlM (fun n c =>
    if c.isDigit then some (n * 16 + (c.toNat - '0'.toNat))
    else if 'a' ≤ c ∧ c ≤ 'f' then some (n * 16 + (c.toNat - 'a'.toNat + 10))
    else if 'A' ≤ c ∧ c ≤ 'F' then some (n * 16 + (c.toNat - 'A'.toNat + 10))
    else none) 0

def Glyph.ofUnit (unit : Nat) : Glyph :=
  if 0xd800 ≤ unit ∧ unit < 0xe000 then .half unit else .whole (Char.ofNat unit)

def shortEscape? : Char → Option Char
  | '"' => some '"'
  | '\\' => some '\\'
  | '/' => some '/'
  | 'b' => some '\x08'
  | 'f' => some '\x0c'
  | 'n' => some '\n'
  | 'r' => some '\r'
  | 't' => some '\t'
  | _ => none

def glyphs? : List Char → Option (List Glyph × List Char)
  | [] => none
  | '"' :: rest => some ([], rest)
  | '\\' :: 'u' :: a :: b :: c :: d :: rest =>
    match unit? [a, b, c, d], glyphs? rest with
    | some unit, some (glyphs, rest) => some (.ofUnit unit :: glyphs, rest)
    | _, _ => none
  | '\\' :: c :: rest =>
    match shortEscape? c, glyphs? rest with
    | some value, some (glyphs, rest) => some (.whole value :: glyphs, rest)
    | _, _ => none
  | c :: rest =>
    if c = '\\' ∨ c.toNat < 0x20 then none
    else (glyphs? rest).map fun (glyphs, rest) => (.whole c :: glyphs, rest)

/-- The characters of glyphs. Two halves in the right order make one. -/
def characters? : List Glyph → Option (List Char)
  | [] => some []
  | .whole c :: rest => (characters? rest).map (c :: ·)
  | .half high :: .half low :: rest =>
    if high < 0xdc00 ∧ 0xdc00 ≤ low then
      (characters? rest).map (Char.ofNat (0x10000 + (high - 0xd800) * 0x400 + (low - 0xdc00)) :: ·)
    else none
  | .half _ :: _ => none

def textOf (glyphs : List Glyph) : Option String := (characters? glyphs).map String.ofList

/-- The whole part of a numeral, which has no leading zeros. -/
def whole? (text : List Char) : Option (List Char × List Char) :=
  match text.takeWhile Char.isDigit with
  | [] => none
  | '0' :: _ :: _ => none
  | digits => some (digits, text.dropWhile Char.isDigit)

def fraction? : List Char → Option (List Char × List Char)
  | '.' :: rest =>
    let digits := rest.takeWhile Char.isDigit
    if digits.isEmpty then none else some (digits, rest.dropWhile Char.isDigit)
  | text => some ([], text)

def exponentSign : List Char → Bool × List Char
  | '-' :: rest => (true, rest)
  | '+' :: rest => (false, rest)
  | text => (false, text)

def scale? (text : List Char) : Option (Option (Bool × List Char) × List Char) :=
  match text with
  | c :: rest =>
    if c = 'e' ∨ c = 'E' then
      let (negative, rest) := exponentSign rest
      let digits := rest.takeWhile Char.isDigit
      if digits.isEmpty then none
      else some (some (negative, digits), rest.dropWhile Char.isDigit)
    else some (none, text)
  | [] => some (none, text)

def numeral? (negative : Bool) (text : List Char) : Option (Numeral × List Char) := do
  let (whole, text) ← whole? text
  let (fraction, text) ← fraction? text
  let (scale, text) ← scale? text
  return (⟨negative, whole, fraction, scale⟩, text)

def word (spelling : List Char) (value : Reading) (text : List Char) : Reading × List Char :=
  if spelling.isPrefixOf text then (value, text.drop spelling.length) else (.broken, [])

/-- Items with commas between them up to a closing character, whether they go on well to it, and what
follows. Where they do not, nothing follows. -/
def series {α : Type} (close : Char) (item : List Char → α × List Char) :
    Nat → List Char → List α × Bool × List Char
  | 0, _ => ([], false, [])
  | bound + 1, text =>
    let (first, rest) := item text
    match skip rest with
    | ',' :: rest =>
      let (others, closed, rest) := series close item bound rest
      (first :: others, closed, rest)
    | c :: rest => if c = close then ([first], true, rest) else ([first], false, [])
    | [] => ([first], false, [])

def enclosed {α : Type} (close : Char) (item : List Char → α × List Char) (text : List Char) :
    List α × Bool × List Char :=
  match skip text with
  | [] => ([], false, [])
  | c :: rest => if c = close then ([], true, rest) else series close item text.length (c :: rest)

def member (value : List Char → Reading × List Char) (text : List Char) :
    (Reading × Reading) × List Char :=
  match value text with
  | (.string key, rest) =>
    match skip rest with
    | ':' :: rest =>
      let (content, rest) := value rest
      ((.string key, content), rest)
    | _ => ((.string key, .broken), [])
  | (key, _) => ((key, .broken), [])

/-- The value at the front of a text, and what follows. Values are nested at most as deep as given. -/
def value : Nat → List Char → Reading × List Char
  | 0, _ => (.broken, [])
  | depth + 1, text =>
    match skip text with
    | '"' :: rest =>
      match glyphs? rest with
      | some (glyphs, rest) => (.string (textOf glyphs), rest)
      | none => (.broken, [])
    | '[' :: rest =>
      let (items, closed, rest) := enclosed ']' (value depth) rest
      (.list items closed, rest)
    | '{' :: rest =>
      let (fields, closed, rest) := enclosed '}' (member (value depth)) rest
      (.object fields closed, rest)
    | 'n' :: rest => word ['u', 'l', 'l'] .null rest
    | 't' :: rest => word ['r', 'u', 'e'] (.truth true) rest
    | 'f' :: rest => word ['a', 'l', 's', 'e'] (.truth false) rest
    | '-' :: rest =>
      match numeral? true rest with
      | some (numeral, rest) => (.number numeral, rest)
      | none => (.broken, [])
    | text =>
      match numeral? false text with
      | some (numeral, rest) => (.number numeral, rest)
      | none => (.broken, [])

/-- A whole document: the reading of its value, and whether nothing but spaces follows. -/
structure Document where
  root : Reading
  ended : Bool

def Document.read (text : List Char) : Document :=
  let (root, rest) := value (text.length + 1) text
  ⟨root, (skip rest).isEmpty⟩

/-- The characters of bytes as far as they are text. What is no text ends in a character that no
document can have at any place. -/
def characters (bytes : Bytes) : List Char :=
  (Bytes.pieces bytes).flatMap fun piece =>
    match piece with
    | .char value => [value]
    | .broken _ => ['\x00']

end LocaleFamilies.Json
