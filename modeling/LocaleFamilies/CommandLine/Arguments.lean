import LocaleFamilies.Project

/-! Reading the arguments of the command. A value that is still owed to a flag is settled when the
next flag is taken, or at the end, so a flag that is not known is refused before a value that is
missing. -/
namespace LocaleFamilies.CommandLine

inductive Invocation
  /-- Nothing; the user is shown what there is. -/
  | overview
  | sync (options : Project.Options) (changed : Option String) (apply : Bool)
  | families (options : Project.Options)
  | configure
  deriving DecidableEq

inductive Stop
  | help
  | version
  | unknownSubcommand
  | unknownArgument
  | repeatedFlag
  | badValue
  | surplusValue
  | notText
  deriving DecidableEq, Repr

def Stop.code : Stop → Nat
  | help => 0
  | version => 0
  | _ => 2

inductive Subcommand
  | sync
  | families
  | configure
  deriving DecidableEq, Repr

def Subcommand.named? (name : Bytes) : Option Subcommand :=
  if name = Bytes.ofText "sync" then some .sync
  else if name = Bytes.ofText "families" then some .families
  else if name = Bytes.ofText "init" then some .configure
  else none

inductive Flag
  | root
  | scanDir
  | changedFiles
  | verbose
  | apply
  | help
  deriving DecidableEq, Repr

namespace Flag

def takesValue : Flag → Bool
  | root => true
  | scanDir => true
  | changedFiles => true
  | _ => false

def belongsTo : Flag → Subcommand → Bool
  | help, _ => true
  | _, .sync => true
  | changedFiles, .families => false
  | apply, .families => false
  | _, .families => true
  | _, .configure => false

def long? (name : Bytes) : Option Flag :=
  match Bytes.text name with
  | "root" => some root
  | "scan-dir" => some scanDir
  | "changed-files" => some changedFiles
  | "verbose" => some verbose
  | "apply" => some apply
  | "help" => some help
  | _ => none

def short? (letter : UInt8) : Option Flag :=
  match Char.ofNat letter.toNat with
  | 'v' => some verbose
  | 'h' => some help
  | _ => none

end Flag

def dash : UInt8 := 0x2d

inductive Argument
  /-- Two dashes: no flags follow. -/
  | separator
  | long (name : Bytes) (value : Option Bytes)
  | short (letters : Bytes)
  | plain (word : Bytes)
  deriving DecidableEq

def Argument.of (word : Bytes) : Argument :=
  match word with
  | first :: second :: rest =>
    if first = dash then
      if second = dash then
        if rest.isEmpty then .separator
        else
          match rest.dropWhile fun c => c != 0x3d with
          | _ :: value => .long (rest.takeWhile fun c => c != 0x3d) (some value)
          | [] => .long rest none
      else .short (second :: rest)
    else .plain word
  | _ => .plain word

structure Given where
  root : Option Bytes
  scanDirs : List String
  changed : Option String
  verbose : Bool
  apply : Bool
  /-- A flag that takes a value, with the value once it is there. -/
  pending : Option (Flag × Option Bytes)

namespace Given

def nothing : Given := ⟨none, [], none, false, false, none⟩

def take (given : Given) (flag : Flag) (value : Bytes) : Except Stop Given :=
  match flag with
  | .root =>
    if given.root.isSome then .error .repeatedFlag
    else if value.isEmpty then .error .badValue
    else .ok { given with root := some value }
  | .scanDir =>
    match Bytes.text? value with
    | some text => .ok { given with scanDirs := given.scanDirs ++ [text] }
    | none => .error .notText
  | .changedFiles =>
    if given.changed.isSome then .error .repeatedFlag
    else
      match Bytes.text? value with
      | some text => .ok { given with changed := some text }
      | none => .error .notText
  | _ => .ok given

def settle (given : Given) : Except Stop Given :=
  match given.pending with
  | none => .ok given
  | some (_, none) => .error .badValue
  | some (flag, some value) => take { given with pending := none } flag value

def raise (given : Given) (flag : Flag) : Except Stop Given := do
  let given ← given.settle
  match flag with
  | .help => throw .help
  | .verbose => if given.verbose then throw .repeatedFlag else return { given with verbose := true }
  | .apply => if given.apply then throw .repeatedFlag else return { given with apply := true }
  | _ => return given

def letters (subcommand : Subcommand) : Given → Bytes → Except Stop Given
  | given, [] => .ok given
  | given, letter :: rest =>
    match Flag.short? letter with
    | some flag =>
      if flag.belongsTo subcommand then do
        let given ← given.raise flag
        letters subcommand given rest
      else .error .unknownArgument
    | none => .error .unknownArgument

def long (subcommand : Subcommand) (given : Given) (name : Bytes) (value : Option Bytes) :
    Except Stop Given :=
  match (Flag.long? name).filter (·.belongsTo subcommand) with
  | none => .error .unknownArgument
  | some flag =>
    match flag.takesValue, value with
    | true, some value => do (← given.settle).take flag value
    | true, none => do return { ← given.settle with pending := some (flag, none) }
    | false, some _ => .error .surplusValue
    | false, none => given.raise flag

def read (subcommand : Subcommand) : Given → List Bytes → Except Stop Given
  | given, [] => given.settle
  | given, word :: rest =>
    match Argument.of word with
    | .separator => if rest.isEmpty then given.settle else .error .unknownArgument
    | .long name value => do read subcommand (← given.long subcommand name value) rest
    | .short letters => do read subcommand (← given.letters subcommand letters) rest
    | .plain word =>
      match given.pending with
      | some (flag, none) =>
        read subcommand { given with pending := some (flag, some word) } rest
      | _ => .error .unknownArgument

def options (given : Given) : Project.Options :=
  ⟨given.root.map Path.mk, given.scanDirs, given.verbose⟩

end Given

/-- The arguments of a subcommand. The change list may also come from the environment. -/
def readSubcommand (subcommand : Subcommand) (environment : Option Bytes) (words : List Bytes) :
    Except Stop Invocation := do
  let given ← Given.nothing.read subcommand words
  match subcommand with
  | .configure => return .configure
  | .families => return .families given.options
  | .sync =>
    match given.changed, environment with
    | none, some value =>
      match Bytes.text? value with
      | some text => return .sync given.options (some text) given.apply
      | none => throw .notText
    | changed, _ => return .sync given.options changed given.apply

def helpName : Bytes := Bytes.ofText "help"

/-- What is asked for after the subcommand for help: at most one subcommand. -/
def readHelp : List Bytes → Stop
  | [] => .help
  | [name] =>
    if name = helpName || (Subcommand.named? name).isSome then .help else .unknownSubcommand
  | _ => .unknownSubcommand

def readTop (word : Bytes) : Stop :=
  match Argument.of word with
  | .long name value =>
    if name = helpName ∨ name = Bytes.ofText "version" then
      if value.isSome then .surplusValue else if name = helpName then .help else .version
    else .unknownArgument
  | .short (letter :: _) =>
    match Char.ofNat letter.toNat with
    | 'h' => .help
    | 'V' => .version
    | _ => .unknownArgument
  | _ => .unknownSubcommand

def read (environment : Option Bytes) : List Bytes → Except Stop Invocation
  | [] => .ok .overview
  | word :: rest =>
    match Subcommand.named? word with
    | some subcommand => readSubcommand subcommand environment rest
    | none =>
      if word = helpName then .error (readHelp rest)
      else if word = [dash, dash] then
        match rest with
        | [] => .ok .overview
        | next :: _ =>
          if next = helpName || (Subcommand.named? next).isSome then .error .unknownArgument
          else .error .unknownSubcommand
      else .error (readTop word)

end LocaleFamilies.CommandLine
