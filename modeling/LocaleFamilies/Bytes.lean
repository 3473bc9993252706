/-! Texts as bytes. File names need not be valid UTF-8, so names, paths and file contents are lists
of bytes; reading them as text either succeeds as a whole or goes piece by piece, where each longest
run of bytes that starts a character but cannot be finished is one broken piece. -/
namespace LocaleFamilies

abbrev Bytes := List UInt8

namespace Bytes

def slash : UInt8 := 0x2f

def dot : UInt8 := 0x2e

def ofText (text : String) : Bytes := text.toByteArray.data.toList

/-- The text whose UTF-8 bytes these are, if they are valid. -/
def text? (bytes : Bytes) : Option String := String.fromUTF8? ⟨bytes.toArray⟩

theorem text?_ofText (text : String) : text? (ofText text) = some text := by
  simp [text?, ofText, String.fromUTF8?, String.fromUTF8, text.isValidUTF8]

theorem ofText_of_text? {bytes : Bytes} {text : String} (read : text? bytes = some text) :
    ofText text = bytes := by
  unfold text? String.fromUTF8? at read
  split at read
  · cases read
    simp [ofText, String.fromUTF8]
  · cases read

theorem ofText_append (first second : String) :
    ofText (first ++ second) = ofText first ++ ofText second := by
  simp [ofText, String.toByteArray_append, ByteArray.data_append]

/-- What a reader of UTF-8 meets: a character, or bytes that begin one and do not finish it. -/
inductive Piece
  | char (value : Char)
  | broken (bytes : Bytes)

/-- A character begun: the bytes read so far, last first, its value so far, how many bytes it still
needs, and the range of the next one. -/
structure Begun where
  read : Bytes
  value : Nat
  owed : Nat
  low : UInt8
  high : UInt8

inductive Opening
  | whole (value : Char)
  | begun (state : Begun)
  | refused

/-- Overlong forms, surrogates and values past the last character are refused at the first byte that
makes them inevitable, through the range of the second byte. -/
def opening (byte : UInt8) : Opening :=
  let n := byte.toNat
  let begin (value owed : Nat) (low high : UInt8) : Opening := .begun ⟨[byte], value, owed, low, high⟩
  if n < 0x80 then .whole (Char.ofNat n)
  else if n < 0xc2 then .refused
  else if n < 0xe0 then begin (n - 0xc0) 1 0x80 0xbf
  else if n = 0xe0 then begin 0 2 0xa0 0xbf
  else if n = 0xed then begin 0xd 2 0x80 0x9f
  else if n < 0xf0 then begin (n - 0xe0) 2 0x80 0xbf
  else if n = 0xf0 then begin 0 3 0x90 0xbf
  else if n < 0xf4 then begin (n - 0xf0) 3 0x80 0xbf
  else if n = 0xf4 then begin 4 3 0x80 0x8f
  else .refused

def scan : Option Begun → Bytes → List Piece
  | none, [] => []
  | some state, [] => [.broken state.read.reverse]
  | none, byte :: rest =>
    match opening byte with
    | .whole value => .char value :: scan none rest
    | .begun state => scan (some state) rest
    | .refused => .broken [byte] :: scan none rest
  | some state, byte :: rest =>
    if state.low ≤ byte ∧ byte ≤ state.high then
      let value := state.value * 64 + (byte.toNat - 0x80)
      if state.owed ≤ 1 then .char (Char.ofNat value) :: scan none rest
      else scan (some ⟨byte :: state.read, value, state.owed - 1, 0x80, 0xbf⟩) rest
    else
      .broken state.read.reverse ::
        match opening byte with
        | .whole value => .char value :: scan none rest
        | .begun next => scan (some next) rest
        | .refused => .broken [byte] :: scan none rest

def pieces (bytes : Bytes) : List Piece := scan none bytes

/-- The text of a byte sequence, with one replacement character for each broken piece. -/
def text (bytes : Bytes) : String :=
  match text? bytes with
  | some exact => exact
  | none => String.ofList <| (pieces bytes).map fun piece =>
      match piece with
      | .char value => value
      | .broken _ => '\uFFFD'

end Bytes

end LocaleFamilies
