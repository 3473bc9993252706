import LocaleFamilies.Shell.Formatting

/-! Printing arguments by a format. A format is used again as long as arguments are left; a directive
without an argument gets nothing or zero. Shells and the program of the same name tell of problems in
different words. -/
namespace LocaleFamilies.Shell.Printing

/-- A way to print: how exact fractions are, whether a format may end the output, which letters before
the one of a directive are passed over, and the words for what is wrong. -/
structure Dialect where
  bits : Nat
  program : Bool
  idle : List Char
  unread : Octets → Octets
  partly : Octets → Octets
  tooLarge : Octets → Octets
  invalid : Octets → Octets
  incomplete : Octets → Octets

structure Work where
  output : Octets
  problems : List Octets
  arguments : List Octets
  failed : Bool
  /-- Whether the output ends here, and whether for a mistake in the format. -/
  stopped : Bool
  refused : Bool

abbrev Print := StateM Work

def put (text : Octets) : Print Unit := modify fun work =>
  { work with output := text.reverse ++ work.output }

def complain (problem : Octets) : Print Unit := modify fun work =>
  { work with problems := work.problems ++ [problem], failed := true }

def stop : Print Unit := modify fun work => { work with stopped := true }

def refuse (problem : Octets) : Print Unit := do
  complain problem
  modify fun work => { work with stopped := true, refused := true }

def nextArgument : Print (Option Octets) := do
  let work ← get
  set { work with arguments := work.arguments.tail }
  return work.arguments.head?

/-- Carries out the escape after a backslash; the rest is returned. In an argument, an octal number may
begin with one zero more. -/
def escape (dialect : Dialect) (argument : Bool) (text : Octets) : Print Octets := do
  match text with
  | [] =>
    put ['\\']
    return []
  | c :: rest =>
    if c == 'c' && (argument || dialect.program) then
      stop
      return []
    else if c == '0' && argument then
      let (value, rest) := octalAt 3 rest
      put [value]
      return rest
    else if '0' ≤ c && c ≤ '7' then
      let (value, rest) := octalAt 3 text
      put [value]
      return rest
    else if c == '"' && dialect.program then
      put ['"']
      return rest
    else
      match letterEscape? c with
      | some value => put [value]
      | none => put ['\\', c]
      return rest

def unescape (dialect : Dialect) : Nat → Octets → Print Unit
  | 0, _ => return ()
  | _, [] => return ()
  | fuel + 1, '\\' :: rest => do
    let rest ← escape dialect true rest
    if !(← get).stopped then unescape dialect fuel rest
  | fuel + 1, c :: rest => do
    put [c]
    unescape dialect fuel rest

def wholeNumber (dialect : Dialect) (signed : Bool) : Print Int := do
  match ← nextArgument with
  | none => return 0
  | some argument =>
    let blank (c : Char) : Bool := c == ' ' || (0x09 ≤ c.toNat && c.toNat ≤ 0x0d)
    let text := argument.dropWhile blank
    let (negative, text) := match text with
      | '-' :: rest => (true, rest)
      | '+' :: rest => (false, rest)
      | rest => (false, rest)
    let isNumber := (text.head?.map Char.isDigit).getD false
    let (size, rest) := Arithmetic.number text
    if !isNumber then
      if !argument.isEmpty then complain (dialect.unread argument)
      return 0
    let limit : Nat := if signed then (if negative then Arithmetic.greatest + 1 else Arithmetic.greatest)
      else 2 * Arithmetic.greatest + 1
    if !rest.isEmpty then complain (dialect.partly argument)
    else if size > limit then complain (dialect.tooLarge argument)
    let size := min size limit
    return if !negative then (size : Int)
      else if signed then -(size : Int) else ((2 * Arithmetic.greatest + 2 : Nat) - size : Int)

def figure (dialect : Dialect) : Print Figure := do
  match ← nextArgument with
  | none => return ⟨false, 0, 1⟩
  | some argument =>
    match Figure.read? argument with
    | some (figure, rest) =>
      if !rest.isEmpty then complain (dialect.partly argument)
      return figure.narrowed dialect.bits
    | none =>
      if !argument.isEmpty then complain (dialect.unread argument)
      return ⟨false, 0, 1⟩

def direct (dialect : Dialect) (directive : Directive) : Print Unit := do
  let count (given : Option Nat) : Print Int := do
    match given with
    | some value => return value
    | none => wholeNumber dialect true
  let width ← count directive.width
  let precision ← match directive.precision with
    | some given => some <$> count given
    | none => pure none
  let layout : Layout :=
    ⟨if width < 0 then '-' :: directive.flags else directive.flags, width.natAbs,
      (precision.filter (· ≥ 0)).map Int.toNat⟩
  let bad := dialect.invalid ('%' :: directive.spelling)
  match directive.letter with
  | none => refuse (dialect.incomplete ('%' :: directive.spelling))
  | some letter =>
    let refused : Bool := dialect.program &&
      ((letter == 'c' || letter == 's' || letter == 'b') && layout.has '0' ||
        letter == 'b' && directive.spelling.length > 1)
    if refused then refuse bad
    else if letter == 's' then put (layout.ofText ((← nextArgument).getD []))
    else if letter == 'c' then
      let c := ((← nextArgument).bind List.head?).getD (Char.ofNat 0)
      put (layout.padded [c])
    else if letter == 'b' then
      let outer ← get
      let argument := outer.arguments.headD []
      set { outer with arguments := outer.arguments.tail, output := [] }
      unescape dialect (argument.length + 1) argument
      modify fun work =>
        { work with output := (layout.ofText work.output.reverse).reverse ++ outer.output }
    else if letter == 'd' || letter == 'i' then put (layout.ofInt (← wholeNumber dialect true))
    else if "ouxX".toList.contains letter then
      put (layout.ofNat letter (← wholeNumber dialect false).toNat)
    else if letter == 'f' then put ((← figure dialect).text layout)
    else refuse bad

def once (dialect : Dialect) : Nat → Octets → Bool → Print Bool
  | 0, _, takes => return takes
  | _, [], takes => return takes
  | fuel + 1, '\\' :: rest, takes => do
    let rest ← escape dialect false rest
    if (← get).stopped then return takes else once dialect fuel rest takes
  | fuel + 1, '%' :: '%' :: rest, takes => do
    put ['%']
    once dialect fuel rest takes
  | fuel + 1, '%' :: rest, _ => do
    let (directive, rest) := directiveAt dialect.idle rest
    direct dialect directive
    if (← get).stopped then return true else once dialect fuel rest true
  | fuel + 1, c :: rest, takes => do
    put [c]
    once dialect fuel rest takes

def again (dialect : Dialect) (format : Octets) : Nat → Print Unit
  | 0 => return ()
  | fuel + 1 => do
    let takes ← once dialect (format.length + 1) format false
    let work ← get
    if takes && !work.stopped && !work.arguments.isEmpty then again dialect format fuel

def run (dialect : Dialect) (format : Octets) (arguments : List Octets) : Work :=
  ((again dialect format (arguments.length + 1)).run
    ⟨[], [], arguments, false, false, false⟩).2

def builtin : Dialect where
  bits := 53
  program := false
  idle := []
  unread argument := argument ++ ": expected numeric value".toList
  partly argument := argument ++ ": not completely converted".toList
  tooLarge argument := argument ++ ": Numerical result out of range".toList
  invalid directive := directive ++ ": invalid directive".toList
  incomplete _ := "missing format character".toList

def unescaped (text : Octets) : Work :=
  ((unescape builtin (text.length + 1) text).run ⟨[], [], [], false, false, false⟩).2

def inQuotes (text : Octets) : Octets :=
  '\'' :: (text.flatMap fun c => if c == '\'' || c == '\\' then ['\\', c] else [c]) ++ ['\'']

def program : Dialect where
  bits := 64
  program := true
  idle := "hlLjzt".toList
  unread argument := inQuotes argument ++ ": expected a numeric value".toList
  partly argument := inQuotes argument ++ ": value not completely converted".toList
  tooLarge argument := inQuotes argument ++ ": Numerical result out of range".toList
  invalid directive := directive ++ ": invalid conversion specification".toList
  incomplete directive := directive ++ ": invalid conversion specification".toList

end LocaleFamilies.Shell.Printing
