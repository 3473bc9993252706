import LocaleFamilies.Report.PassReport
import LocaleFamilies.Text.Width

/-! The listing of families: a row for each supported locale, whether it has a file or not. -/
namespace LocaleFamilies.Report

structure Listing where
  root : Path
  registry : Registry
  grouping : Grouping

inductive ListingLine
  | collision (collision : Collision)
  | heading (key : Path)
  | row (code : Code) (file : Option Path)
  | totals (families files : Nat)
  deriving DecidableEq

namespace Listing

def fileCount (listing : Listing) : Nat :=
  total (listing.grouping.families.families.map (·.size))

def lines (listing : Listing) : List ListingLine :=
  listing.grouping.collisions.map .collision ++
    (listing.grouping.families.families.flatMap fun family =>
      .heading family.key :: listing.registry.codes.map fun code => .row code (family.get? code)) ++
    [.totals listing.grouping.families.size listing.fileCount]

def codeWidth (registry : Registry) : Nat :=
  (registry.codes.map (·.utf8ByteSize)).foldl max 0

def nameWidth (registry : Registry) : Nat :=
  (registry.codes.map fun code => Text.width (registry.nameOf code)).foldl max 0

def namePadding (registry : Registry) (code : Code) : Nat :=
  nameWidth registry - Text.width (registry.nameOf code)

def blanks (count : Nat) : String := String.ofList (List.replicate count ' ')

def codeCell (registry : Registry) (code : Code) : String :=
  code ++ blanks (codeWidth registry - code.length)

def nameCell (registry : Registry) (code : Code) : String :=
  registry.nameOf code ++ blanks (namePadding registry code)

/-- The largest width that text can be filled up to. Asking for more stops the program. -/
def widthLimit : Nat := 65535

end Listing

def ListingLine.pieces (root : Path) (registry : Registry) : ListingLine → List Piece
  | .collision entry => collisionPieces root entry
  | heading key => [.styled .bold (key.displayFrom root)]
  | row code file =>
    ["  ", .styled .cyan (Listing.codeCell registry code), "  ", Listing.nameCell registry code, "  ",
      match file with
      | some path => path.displayFrom root
      | none => .styled .dimmed "(missing)"]
  | totals count files =>
    [toString count, " document ", families count, ", ", toString files, " file(s)."]

def ListingLine.text (root : Path) (registry : Registry) (color : Bool) (line : ListingLine) : String :=
  written color (line.pieces root registry)

def ListingLine.isWritable (registry : Registry) : ListingLine → Bool
  | row code _ =>
    Listing.codeWidth registry ≤ Listing.widthLimit &&
      Listing.namePadding registry code ≤ Listing.widthLimit
  | _ => true

namespace Listing

/-- The lines before the first one that cannot be written. -/
def written (listing : Listing) : List ListingLine :=
  listing.lines.takeWhile (·.isWritable listing.registry)

def isWhole (listing : Listing) : Bool := listing.lines.all (·.isWritable listing.registry)

end Listing

end LocaleFamilies.Report
