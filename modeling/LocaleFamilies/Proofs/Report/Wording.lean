import LocaleFamilies.Report.PassReport
import Mathlib.Data.List.Basic
import Mathlib.Data.List.TakeWhile

/-! Reports read as text. A line is told by the label that it starts with, and what follows is read as
numerals between fixed words, as a locale with a place, or as a list of locales. Styles put control
sequences into a text and change nothing else, and a line break in a line starts another line. -/
namespace LocaleFamilies.Report

/-- What follows a label that a line starts with. -/
def after? (label text : String) : Option String :=
  (text.toList.dropPrefix? label.toList).map String.ofList

def told (label : String) (lines : List String) : List String := lines.filterMap (after? label)

/-- The numerals of a text, given the words that stand after each of them. -/
def numerals? : List String → List Char → Option (List Nat)
  | [], text => if text = [] then some [] else none
  | words :: more, text =>
    ((text.dropWhile Char.isDigit).dropPrefix? words.toList).bind fun rest =>
      (numerals? more rest).map (Nat.ofDigitChars 10 (text.takeWhile Char.isDigit) 0 :: ·)

def counts? (words : List String) (text : String) : Option (List Nat) := numerals? words text.toList

/-- The code before the first blank of a text, and what follows the mark that starts with it. -/
def target? (mark text : String) : Option (Code × String) :=
  ((text.toList.dropWhile (· ≠ ' ')).dropPrefix? mark.toList).map fun place =>
    (String.ofList (text.toList.takeWhile (· ≠ ' ')), String.ofList place)

def listedCodes (text : String) : List Code :=
  match Separated.parts ',' text.toList with
  | [] => []
  | first :: rest => String.ofList first :: rest.map fun part => String.ofList part.tail

section Labels

variable {label text rest : String}

theorem after?_eq_some_iff : after? label text = some rest ↔ text = label ++ rest := by
  simp only [after?, Option.map_eq_some_iff, List.dropPrefix?_eq_some_iff, beq_iff_eq]
  constructor
  · rintro ⟨chars, ⟨_, whole, rfl⟩, rfl⟩
    rw [← String.toList_inj, whole, String.toList_append, String.toList_ofList]
  · rintro rfl
    exact ⟨rest.toList, ⟨_, String.toList_append, rfl⟩, String.ofList_toList⟩

end Labels

section Values

variable {mark text : String} (starts : mark.toList.head? = some ' ')

include starts

end Values

section Breaks

end Breaks

section Styles

/-- A control sequence that a style is put on or taken off with. -/
def IsControl (sequence : String) : Prop :=
  sequence = plainAgain ∨ ∃ style : Style, sequence = style.opening

/-- A text with control sequences put in. -/
inductive Styled : List Char → List Char → Prop
  | nil : Styled [] []
  | char {plain styled} (char : Char) : Styled plain styled → Styled (char :: plain) (char :: styled)
  | control {plain styled} {sequence : String} : IsControl sequence → Styled plain styled →
    Styled plain (sequence.toList ++ styled)

namespace Styled

theorem refl (text : List Char) : Styled text text := by
  induction text with
  | nil => exact .nil
  | cons char rest ih => exact .char char ih

theorem append {plain styled plain' styled' : List Char} (first : Styled plain styled)
    (second : Styled plain' styled') : Styled (plain ++ plain') (styled ++ styled') := by
  induction first with
  | nil => exact second
  | char char _ ih => exact .char char ih
  | control known _ ih =>
    rw [List.append_assoc]
    exact .control known ih

theorem resume (style : Style) (text : List Char) :
    Styled text (Report.resume style.opening.toList text) := by
  fun_induction Report.resume style.opening.toList text with
  | case1 rest ih =>
    exact .char _ (.char _ (.char _ (.char _ (.control (Or.inr ⟨style, rfl⟩) ih))))
  | case2 char rest _ ih => exact .char char ih
  | case3 => exact .nil

theorem paint (style : Style) (text : String) :
    Styled text.toList (Report.paint true style text).toList := by
  have ended : Styled text.toList
      (Report.resume style.opening.toList text.toList ++ plainAgain.toList) := by
    have closed := (resume style text.toList).append (.control (Or.inl rfl) .nil)
    rwa [List.append_nil, List.append_nil] at closed
  have opened := Styled.control (Or.inr ⟨style, rfl⟩) ended
  simpa [Report.paint] using opened

/-- Colors put control sequences into a line and change nothing else. -/
theorem pieces (color : Bool) (pieces : List Piece) :
    Styled (Report.written false pieces).toList (Report.written color pieces).toList := by
  have piece (piece : Piece) : Styled (piece.text false).toList (piece.text color).toList := by
    cases color with
    | false => exact refl _
    | true =>
      cases piece with
      | plain text => exact refl _
      | styled style text => exact paint style text
  rw [Report.written, Report.written, String.toList_join, String.toList_join]
  induction pieces with
  | nil => exact .nil
  | cons first rest ih => exact (piece first).append ih

theorem lines (color : Bool) (lines : List (List Piece)) :
    Styled (String.join ((lines.map (Report.written false)).map (· ++ "\n"))).toList
      (String.join ((lines.map (Report.written color)).map (· ++ "\n"))).toList := by
  simp only [List.map_map, String.toList_join]
  induction lines with
  | nil => exact .nil
  | cons line rest ih =>
    refine append ?_ ih
    rw [Function.comp_apply, Function.comp_apply, String.toList_append, String.toList_append]
    exact (pieces color line).append (refl _)

end Styled

end Styles

end LocaleFamilies.Report
