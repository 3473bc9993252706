/-! Styled text for terminals. A style is a pair of control sequences around the text; where the text
itself ends a style, the outer one is taken up again. Without colors no sequence is written. -/
namespace LocaleFamilies.Report

inductive Style
  | bold
  | dimmed
  | red
  | green
  | blue
  | cyan
  | boldRed
  | boldGreen
  | boldYellow
  deriving DecidableEq, Repr

def Style.code : Style → String
  | bold => "1"
  | dimmed => "2"
  | red => "31"
  | green => "32"
  | blue => "34"
  | cyan => "36"
  | boldRed => "1;31"
  | boldGreen => "1;32"
  | boldYellow => "1;33"

def Style.opening (style : Style) : String := "\x1b[" ++ style.code ++ "m"

def plainAgain : String := "\x1b[0m"

/-- Text in which every end of all styles is followed by an opening. -/
def resume (opening : List Char) : List Char → List Char
  | '\x1b' :: '[' :: '0' :: 'm' :: rest =>
    '\x1b' :: '[' :: '0' :: 'm' :: (opening ++ resume opening rest)
  | char :: rest => char :: resume opening rest
  | [] => []

def paint (color : Bool) (style : Style) (text : String) : String :=
  if color then
    style.opening ++ String.ofList (resume style.opening.toList text.toList) ++ plainAgain
  else text

inductive Piece
  | plain (text : String)
  | styled (style : Style) (text : String)

instance : Coe String Piece := ⟨.plain⟩

def Piece.text (color : Bool) : Piece → String
  | plain text => text
  | styled style text => paint color style text

def written (color : Bool) (pieces : List Piece) : String :=
  String.join (pieces.map (·.text color))

def counted (count : Nat) (one many : String) : String := if count = 1 then one else many

def goodMark : String := "\u2713"

def badMark : String := "\u2718"

end LocaleFamilies.Report
