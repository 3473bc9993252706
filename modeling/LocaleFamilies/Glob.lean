/-! Wildcard patterns for paths. A pattern is matched against the whole text of a path; a star and a
question mark stand for slashes too, and a double star, which must be a stretch between slashes of
its own, stands for any number of directories, and at the end for anything below one. -/
namespace LocaleFamilies.Glob

abbrev Span := Char × Char

inductive Token
  | char (value : Char)
  | anyChar
  | anyText
  /-- Any number of directories, each with the slash after it, or all that is left. -/
  | anyDirectories
  | within (spans : List Span)
  | except (spans : List Span)
  deriving DecidableEq, Repr

inductive Mistake
  | starRun
  | partialDoubleStar
  | unclosedClass
  deriving DecidableEq, Repr

def Mistake.message : Mistake → String
  | starRun => "wildcards are either regular `*` or recursive `**`"
  | partialDoubleStar => "recursive wildcards must form a single path component"
  | unclosedClass => "invalid range pattern"

structure Error where
  position : Nat
  mistake : Mistake
  deriving DecidableEq, Repr

def Error.message (error : Error) : String :=
  "Pattern syntax error near position " ++ toString error.position ++ ": " ++ error.mistake.message

def spans : List Char → List Span
  | first :: '-' :: last :: rest => (first, last) :: spans rest
  | c :: rest => (c, c) :: spans rest
  | [] => []

/-- The members of a class up to the bracket that closes it, and what follows. A bracket in first
place is a member. -/
def members? : List Char → Option (List Char × List Char)
  | [] => none
  | first :: more =>
    match more.dropWhile fun c => c != ']' with
    | _ :: rest => some (first :: more.takeWhile fun c => c != ']', rest)
    | [] => none

def class? : List Char → Option (Token × List Char)
  | '!' :: text => (members? text).map fun (inside, rest) => (.except (spans inside), rest)
  | text => (members? text).map fun (inside, rest) => (.within (spans inside), rest)

theorem length_of_members? {text inside rest : List Char}
    (read : members? text = some (inside, rest)) : rest.length < text.length := by
  unfold members? at read
  split at read
  · cases read
  · rename_i first more
    split at read
    · rename_i closing after shape
      cases read
      have := (more.dropWhile_suffix fun c => c != ']').length_le
      rw [shape] at this
      simp only [List.length_cons] at *
      omega
    · cases read

theorem length_of_class? {text rest : List Char} {token : Token}
    (read : class? text = some (token, rest)) : rest.length < text.length := by
  unfold class? at read
  split at read <;>
  · obtain ⟨⟨inside, after⟩, here, same⟩ := Option.map_eq_some_iff.mp read
    cases same
    have := length_of_members? here
    simp only [List.length_cons] at *
    omega

/-- Whether a double star may stand after a character: at the start or after a slash. -/
def startsStretch (before : Option Char) : Bool := before.all fun c => c == '/'

def readFrom : Nat → Option Char → List Char → Except Error (List Token)
  | _, _, [] => .ok []
  | position, _, '?' :: rest => (readFrom (position + 1) (some '?') rest).map (.anyChar :: ·)
  | position, _, '*' :: '*' :: '*' :: _ => .error ⟨position + 2, .starRun⟩
  | position, before, ['*', '*'] =>
    if startsStretch before then .ok [.anyDirectories]
    else .error ⟨position - 1, .partialDoubleStar⟩
  | position, before, '*' :: '*' :: '/' :: rest =>
    if startsStretch before then
      (readFrom (position + 3) (some '/') rest).map (.anyDirectories :: ·)
    else .error ⟨position - 1, .partialDoubleStar⟩
  | position, before, '*' :: '*' :: _ =>
    .error ⟨if startsStretch before then position + 2 else position - 1, .partialDoubleStar⟩
  | position, _, '*' :: rest => (readFrom (position + 1) (some '*') rest).map (.anyText :: ·)
  | position, _, '[' :: rest =>
    match found : class? rest with
    | some (token, after) =>
      have := length_of_class? found
      (readFrom (position + 1 + (rest.length - after.length)) (some ']') after).map (token :: ·)
    | none => .error ⟨position, .unclosedClass⟩
  | position, _, c :: rest => (readFrom (position + 1) (some c) rest).map (.char c :: ·)
termination_by _ _ text => text.length
decreasing_by all_goals (simp only [List.length_cons]; omega)

def read (pattern : String) : Except Error (List Token) := readFrom 0 none pattern.toList

def hasWildcard (text : String) : Bool := text.toList.any fun c => c == '*' || c == '?'

def holds (spans : List Span) (c : Char) : Bool :=
  spans.any fun span => span.1 ≤ c && c ≤ span.2

def anywhere (test : List Char → Bool) : List Char → Bool
  | [] => test []
  | c :: rest => test (c :: rest) || anywhere test rest

def afterSlash (test : List Char → Bool) : List Char → Bool
  | [] => test []
  | c :: rest => (c == '/' && test rest) || afterSlash test rest

def matchesText : List Token → List Char → Bool
  | [], text => text.isEmpty
  | .anyText :: rest, text => anywhere (matchesText rest) text
  | .anyDirectories :: rest, text => matchesText rest text || afterSlash (matchesText rest) text
  | _ :: _, [] => false
  | .char value :: rest, c :: text => value == c && matchesText rest text
  | .anyChar :: rest, _ :: text => matchesText rest text
  | .within spans :: rest, c :: text => holds spans c && matchesText rest text
  | .except spans :: rest, c :: text => !holds spans c && matchesText rest text

def column (test : List Char → Bool) : List Char → List Bool
  | [] => [test []]
  | c :: rest => test (c :: rest) :: column test rest

def first (outcomes : List Bool) : Bool := outcomes.headD false

/-- Which places have a good outcome at or after them. -/
def someLater : List Bool → List Bool
  | [] => []
  | here :: rest =>
    let later := someLater rest
    (here || first later) :: later

/-- Which places have a slash at or after them with a good outcome behind it, or one at the end. -/
def someAfterSlash : List Char → List Bool → List Bool
  | c :: text, _ :: rest =>
    let later := someAfterSlash text rest
    ((c == '/' && first rest) || first later) :: later
  | _, outcomes => outcomes

/-- Which places have a character that passes a test, with a good outcome behind it. -/
def oneFurther (test : Char → Bool) : List Char → List Bool → List Bool
  | c :: text, _ :: rest => (test c && first rest) :: oneFurther test text rest
  | _, _ => [false]

/-- At which places of a text a pattern stands for what is left, found from the end of the pattern,
so that no place is looked at twice for the same part. -/
def outcomes : List Token → List Char → List Bool
  | [], text => column List.isEmpty text
  | .anyText :: rest, text => someLater (outcomes rest text)
  | .anyDirectories :: rest, text =>
    let after := outcomes rest text
    after.zipWith (· || ·) (someAfterSlash text after)
  | .char value :: rest, text => oneFurther (fun c => value == c) text (outcomes rest text)
  | .anyChar :: rest, text => oneFurther (fun _ => true) text (outcomes rest text)
  | .within spans :: rest, text => oneFurther (holds spans) text (outcomes rest text)
  | .except spans :: rest, text => oneFurther (fun c => !holds spans c) text (outcomes rest text)

theorem first_column (test : List Char → Bool) (text : List Char) :
    first (column test text) = test text := by cases text <;> rfl

theorem someLater_column (test : List Char → Bool) (text : List Char) :
    someLater (column test text) = column (anywhere test) text := by
  induction text with
  | nil => simp [column, someLater, anywhere, first]
  | cons c rest ih =>
    simp only [column, someLater, ih, first_column, anywhere]

theorem someAfterSlash_column (test : List Char → Bool) (text : List Char) :
    someAfterSlash text (column test text) = column (afterSlash test) text := by
  induction text with
  | nil => simp [column, someAfterSlash, afterSlash]
  | cons c rest ih =>
    simp only [column, someAfterSlash, ih, first_column, afterSlash]

theorem zipWith_column (one other : List Char → Bool) (text : List Char) :
    (column one text).zipWith (· || ·) (column other text) =
      column (fun text => one text || other text) text := by
  induction text with
  | nil => rfl
  | cons c rest ih => simp only [column, List.zipWith_cons_cons, ih]

theorem oneFurther_column (test : Char → Bool) (after whole : List Char → Bool)
    (ends : whole [] = false) (goes : ∀ c text, whole (c :: text) = (test c && after text))
    (text : List Char) : oneFurther test text (column after text) = column whole text := by
  induction text with
  | nil => simp [column, oneFurther, ends]
  | cons c rest ih => simp only [column, oneFurther, ih, first_column, goes]

theorem outcomes_eq_column (pattern : List Token) (text : List Char) :
    outcomes pattern text = column (matchesText pattern) text := by
  induction pattern with
  | nil =>
    have same : List.isEmpty = matchesText [] := by funext text; simp [matchesText]
    rw [outcomes, same]
  | cons token rest ih =>
    cases token with
    | anyText =>
      rw [outcomes, ih, someLater_column]
      exact congrArg (column · text) (by funext text; rw [matchesText])
    | anyDirectories =>
      rw [outcomes, ih, someAfterSlash_column, zipWith_column]
      exact congrArg (column · text) (by funext text; rw [matchesText])
    | _ =>
      rw [outcomes, ih]
      exact oneFurther_column _ _ _ (by simp [matchesText]) (fun _ _ => by simp [matchesText]) text

/-- Whether a pattern stands for a text, found without going over a place again. -/
def accepts (pattern : List Token) (text : List Char) : Bool := first (outcomes pattern text)

theorem accepts_eq (pattern : List Token) (text : List Char) :
    accepts pattern text = matchesText pattern text := by
  rw [accepts, outcomes_eq_column, first_column]

end LocaleFamilies.Glob
