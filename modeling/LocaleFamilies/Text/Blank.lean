/-! White space in the sense of the Unicode property White_Space. -/
namespace LocaleFamilies.Text

def isBlank (c : Char) : Bool :=
  let n := c.toNat
  (0x09 ≤ n && n ≤ 0x0d) || n == 0x20 || n == 0x85 || n == 0xa0 || n == 0x1680 ||
    (0x2000 ≤ n && n ≤ 0x200a) || n == 0x2028 || n == 0x2029 || n == 0x202f || n == 0x205f ||
    n == 0x3000

def trimEnd : List Char → List Char
  | [] => []
  | c :: rest =>
    match trimEnd rest with
    | [] => if isBlank c then [] else [c]
    | kept => c :: kept

def trim (chars : List Char) : List Char := trimEnd (chars.dropWhile isBlank)

theorem trimEnd_eq_self {chars : List Char} (back : ∀ c ∈ chars.getLast?, isBlank c = false) :
    trimEnd chars = chars := by
  induction chars with
  | nil => rfl
  | cons c rest ih =>
    cases rest with
    | nil => simp [trimEnd, back c rfl]
    | cons next more => rw [trimEnd, ih fun last member => back last (by simpa using member)]

theorem trim_eq_self {chars : List Char} (front : ∀ c ∈ chars.head?, isBlank c = false)
    (back : ∀ c ∈ chars.getLast?, isBlank c = false) : trim chars = chars := by
  cases chars with
  | nil => rfl
  | cons c rest =>
    rw [trim, List.dropWhile_cons_of_neg (by simp [front c rfl])]
    exact trimEnd_eq_self back

end LocaleFamilies.Text
