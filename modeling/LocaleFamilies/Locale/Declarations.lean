import LocaleFamilies.Locale.Registry
import LocaleFamilies.Text.Blank
import LocaleFamilies.Text.WordClass

/-! Locales declared in a script module. Two declarations are looked for in the text of the module,

    defaultLocale: Locale = 'en'
    supportedLocales = { en: 'English', 'pt-BR': "Português" }

and the rest of the text is not understood: a declaration is its keyword, anything up to an equals
sign on the same line, and a value of the right shape. The first place where that fits counts. -/
namespace LocaleFamilies.Declarations

/-- Whether a character delimits a string. Opening and closing delimiter may differ. -/
def isQuote (c : Char) : Bool := c == '\'' || c == '"'

def isCodeChar (c : Char) : Bool := Text.isWord c || c == '-'

def after? : List Char → List Char → Option (List Char)
  | [], text => some text
  | c :: word, d :: text => if c = d then after? word text else none
  | _ :: _, [] => none

/-- The value assigned to a keyword at the front of a text. The keyword must end there. -/
def assigned? (keyword : List Char) (text : List Char) : Option (List Char) :=
  match after? keyword text with
  | none => none
  | some rest =>
    if rest.head?.any Text.isWord then none
    else
      match rest.dropWhile fun c => c != '=' && c != '\n' with
      | '=' :: value => some (value.dropWhile Text.isBlank)
      | _ => none

/-- The first answer that a reader gives on a text or on what is left of it further on. -/
def firstAlong {α : Type} (read : List Char → Option α) : List Char → Option α
  | [] => read []
  | c :: rest => (read (c :: rest)).or (firstAlong read rest)

def quotedCode? (text : List Char) : Option Code :=
  match text with
  | [] => none
  | opening :: rest =>
    let code := rest.takeWhile isCodeChar
    if isQuote opening && !code.isEmpty && (rest.dropWhile isCodeChar).head?.any isQuote then
      some (String.ofList code)
    else none

/-- The text between an opening brace at the front and the first closing brace. -/
def block? (text : List Char) : Option (List Char) :=
  match text with
  | '{' :: rest =>
    if '}' ∈ rest then some (rest.takeWhile (· != '}')) else none
  | _ => none

def defaultCode? (text : List Char) : Option Code :=
  firstAlong (fun rest => (assigned? "defaultLocale".toList rest).bind quotedCode?) text

def supported? (text : List Char) : Option (List Char) :=
  firstAlong (fun rest => (assigned? "supportedLocales".toList rest).bind block?) text

def dropQuote : List Char → List Char
  | [] => []
  | c :: rest => if isQuote c then rest else c :: rest

/-- A code with its name at the front of a text, and the text after it. -/
def pair? (text : List Char) : Option ((Code × String) × List Char) :=
  let bare := dropQuote text
  let code := bare.takeWhile isCodeChar
  if code.isEmpty then none
  else
    match (dropQuote (bare.dropWhile isCodeChar)).dropWhile Text.isBlank with
    | ':' :: value =>
      match value.dropWhile Text.isBlank with
      | opening :: named =>
        match named.dropWhile fun c => !isQuote c with
        | _ :: rest =>
          if isQuote opening then
            let name := named.takeWhile fun c => !isQuote c
            some ((String.ofList code, String.ofList (Text.trim name)), rest)
          else none
        | [] => none
      | [] => none
    | _ => none

theorem length_dropWhile_le (test : Char → Bool) (text : List Char) :
    (text.dropWhile test).length ≤ text.length :=
  (List.dropWhile_suffix test).sublist.length_le

theorem length_dropQuote_le (text : List Char) : (dropQuote text).length ≤ text.length := by
  unfold dropQuote
  split
  · simp
  · split <;> simp

theorem pair?_shorter {text rest : List Char} {entry : Code × String}
    (found : pair? text = some (entry, rest)) : rest.length < text.length := by
  simp only [pair?] at found
  split at found
  · cases found
  · split at found
    · rename_i value colon
      split at found
      · rename_i opening named value_eq
        split at found
        · rename_i closing tail named_eq
          split at found
          · cases found
            have first := length_dropWhile_le (fun c => !isQuote c) named
            have second := length_dropWhile_le Text.isBlank value
            have third := length_dropWhile_le Text.isBlank
              (dropQuote ((dropQuote text).dropWhile isCodeChar))
            have fourth := length_dropQuote_le ((dropQuote text).dropWhile isCodeChar)
            have fifth := length_dropWhile_le isCodeChar (dropQuote text)
            have sixth := length_dropQuote_le text
            rw [named_eq] at first
            rw [value_eq] at second
            rw [colon] at third
            simp only [List.length_cons] at first second third
            omega
          · cases found
        · cases found
      · cases found
    · cases found

/-- The entries of a text, from the front; what is no part of one is passed over. -/
def entries (text : List Char) : List (Code × String) :=
  match found : pair? text with
  | some (entry, rest) =>
    have := pair?_shorter found
    entry :: entries rest
  | none =>
    match text with
    | [] => []
    | _ :: rest => entries rest
termination_by text.length

inductive Error
  | noDefault
  | noSupported
  | noRegistry (cause : Registry.Error)
  deriving DecidableEq

def Error.message : Error → String
  | .noDefault => "'defaultLocale' declaration not found"
  | .noSupported => "'supportedLocales' declaration not found"
  | .noRegistry cause => cause.message

/-- The registry that a module declares. A code listed twice has its last name. -/
def read (content : String) : Except Error Registry :=
  match defaultCode? content.toList with
  | none => .error .noDefault
  | some defaultCode =>
    match supported? content.toList with
    | none => .error .noSupported
    | some body =>
      (Registry.of defaultCode (.ofList (entries body))).mapError .noRegistry

end LocaleFamilies.Declarations
