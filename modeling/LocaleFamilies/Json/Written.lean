import LocaleFamilies.Separated

/-! Documents to be written, and their two layouts: in one line, and with a line for each part. -/
namespace LocaleFamilies.Json

inductive Value
  | string (text : String)
  | list (items : List Value)
  | object (fields : List (String × Value))

structure Layout where
  gap : Nat → List Char
  colon : List Char

namespace Layout

def compact : Layout := ⟨fun _ => [], [':']⟩

def pretty : Layout := ⟨fun depth => '\n' :: List.replicate (2 * depth) ' ', [':', ' ']⟩

end Layout

def escaped (c : Char) : List Char :=
  match c with
  | '"' => ['\\', '"']
  | '\\' => ['\\', '\\']
  | '\x08' => ['\\', 'b']
  | '\x0c' => ['\\', 'f']
  | '\n' => ['\\', 'n']
  | '\r' => ['\\', 'r']
  | '\t' => ['\\', 't']
  | c =>
    if c.toNat < 0x20 then
      ['\\', 'u', '0', '0', Nat.digitChar (c.toNat / 16), Nat.digitChar (c.toNat % 16)]
    else [c]

def quotation (text : String) : List Char := '"' :: text.toList.flatMap escaped ++ ['"']

/-- The parts of a value between brackets. Without parts nothing stands between them. -/
def bracketed (layout : Layout) (depth : Nat) (opening closing : Char) (parts : List (List Char)) :
    List Char :=
  if parts.isEmpty then [opening, closing]
  else
    opening :: Separated.join ',' (parts.map fun part => layout.gap (depth + 1) ++ part) ++
      layout.gap depth ++ [closing]

mutual
def written (layout : Layout) (depth : Nat) : Value → List Char
  | .string text => quotation text
  | .list items => bracketed layout depth '[' ']' (writtenItems layout (depth + 1) items)
  | .object fields => bracketed layout depth '{' '}' (writtenFields layout (depth + 1) fields)

def writtenItems (layout : Layout) (depth : Nat) : List Value → List (List Char)
  | [] => []
  | item :: rest => written layout depth item :: writtenItems layout depth rest

def writtenFields (layout : Layout) (depth : Nat) : List (String × Value) → List (List Char)
  | [] => []
  | (key, value) :: rest =>
    (quotation key ++ layout.colon ++ written layout depth value) ::
      writtenFields layout depth rest
end

def render (layout : Layout) (value : Value) : String := String.ofList (written layout 0 value)

end LocaleFamilies.Json
