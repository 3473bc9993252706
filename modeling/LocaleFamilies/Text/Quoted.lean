import LocaleFamilies.Bytes
import LocaleFamilies.Text.Printable

/-! Quoted texts in diagnostics. Between double quotes every character is shown as itself, by a short
escape, or by its code point in hexadecimal; bytes that are no text are shown in hexadecimal. -/
namespace LocaleFamilies.Text

def hex (n : Nat) : List Char := Nat.toDigits 16 n

def codePoint (c : Char) : List Char := ['\\', 'u', '{'] ++ hex c.toNat ++ ['}']

def shown (c : Char) : List Char :=
  match c with
  | '\x00' => ['\\', '0']
  | '\t' => ['\\', 't']
  | '\r' => ['\\', 'r']
  | '\n' => ['\\', 'n']
  | '\\' => ['\\', '\\']
  | '"' => ['\\', '"']
  | c => if isExtending c || !isPrintable c then codePoint c else [c]

def quoted (text : String) : String :=
  String.ofList <| '"' :: text.toList.flatMap shown ++ ['"']

def byteDigits (byte : UInt8) : List Char :=
  [byte.toNat / 16, byte.toNat % 16].map fun digit => (Nat.digitChar digit).toUpper

def quotedBytes (bytes : Bytes) : String :=
  let piece : Bytes.Piece → List Char
    | .char value => shown value
    | .broken bytes => bytes.flatMap fun byte => '\\' :: 'x' :: byteDigits byte
  String.ofList <| '"' :: (Bytes.pieces bytes).flatMap piece ++ ['"']

end LocaleFamilies.Text
