/-
The command line.

Four options override settings, each also as a variable of the environment that counts when the
option is not given; two flags ask for help or the version.  Arguments are read from left to right.
An option takes its value from the same argument or from the next one, and the value of an option
is looked at as late as possible: when the next option begins or the arguments end.

Help and messages are written in styles for a terminal.  Where styles are not wanted they are left
out, and with them all other control sequences, also those of values.
-/
import ShowControl.Build
import ShowControl.Config.Settings
import ShowControl.Terminal.Control
import ShowControl.Terminal.Style
import ShowControl.Text.Pieces

namespace ShowControl.CommandLine

open Terminal (Style)

/-- The name of the program. -/
def programName : String := "vixio-ce"

/-! ### Options -/

/-- An option with a value. -/
inductive Choice where
  | config
  | port
  | bind
  | validationUrl
deriving DecidableEq

namespace Choice

/-- All options, in the order in which the environment is asked for them. -/
def all : List Choice := [config, port, bind, validationUrl]

/-- The long name. -/
def name : Choice → String
  | config => "config"
  | port => "port"
  | bind => "bind"
  | validationUrl => "validation-url"

/-- The letter, for options that have one. -/
def letter? : Choice → Option Char
  | config => some 'c'
  | port => some 'p'
  | bind => some 'b'
  | validationUrl => none

/-- The variable of the environment. -/
def variableName : Choice → String
  | config => "VIXIO_CE_CONFIG"
  | port => "VIXIO_CE_PORT"
  | bind => "VIXIO_CE_BIND"
  | validationUrl => "VIXIO_VALIDATION_URL"

/-- What the option is for. -/
def purpose : Choice → String
  | config => "Path to TOML config file"
  | port => "Port to listen on"
  | bind => "Interface to bind to"
  | validationUrl => "Base URL of the payload validation service"

/-- What stands for the value. -/
def placeholder : Choice → String
  | config => "<CONFIG>"
  | port => "<PORT>"
  | bind => "<BIND>"
  | validationUrl => "<VALIDATION_URL>"

/-- The option as messages name it. -/
def usage (c : Choice) : String := "--" ++ c.name ++ " " ++ c.placeholder

end Choice

/-- The variables of the environment. -/
abbrev Environment := List (String × String)

/-- What an argument names. -/
inductive Switch where
  | choice (c : Choice)
  | help
  | version

/-- The switch of that long name. -/
def Switch.ofName? (name : String) : Option Switch :=
  if name = "help" then some help
  else if name = "version" then some version
  else (Choice.all.find? (·.name = name)).map choice

/-- The switch of that letter. -/
def Switch.ofLetter? (letter : Char) : Option Switch :=
  if letter = 'h' then some help
  else if letter = 'V' then some version
  else (Choice.all.find? (·.letter? = some letter)).map choice

/-! ### What ends the reading early -/

/-- Why no settings come of the arguments. -/
inductive Stop where
  | help
  | version
  /-- The arguments are wrong, as a message in styles tells. -/
  | misuse (message : String)
deriving DecidableEq

namespace Stop

/-- An argument that means nothing. -/
def unexpected (argument : String) : Stop :=
  misuse ("unexpected argument '" ++ Style.invalid.on argument ++ "' found")

/-- An option without a value. -/
def valueMissing (c : Choice) : Stop :=
  misuse ("a value is required for '" ++ Style.invalid.on c.usage ++ "' but none was supplied")

/-- A value that an option cannot have. -/
def invalidValue (c : Choice) (value reason : String) : Stop :=
  misuse ("invalid value '" ++ Style.invalid.on value ++ "' for '" ++ Style.literal.on c.usage ++
    "': " ++ reason)

/-- An option that was given before. -/
def repeated (c : Choice) : Stop :=
  misuse ("the argument '" ++ Style.invalid.on c.usage ++ "' cannot be used multiple times")

/-- A flag that was given a value. -/
def valueUnexpected (flag value : String) : Stop :=
  misuse ("unexpected value '" ++ Style.invalid.on value ++ "' for '" ++ Style.literal.on flag ++
    "' found; no more were expected")

end Stop

/-! ### Values -/

/-- The TCP port that a value gives. -/
def readPort (value : String) : Except Stop UInt16 :=
  match Number.readInteger .signed64 value.toList with
  | .error fault => .error (.invalidValue .port value fault.message)
  | .ok i =>
    if 0 ≤ i ∧ i < 2 ^ 16 then .ok i.toNat.toUInt16
    else
      let reason := String.ofList (Number.intText i) ++ " is not in 0..=65535"
      .error (.invalidValue .port value reason)

/-- The overrides with the value of one more option. -/
def store (c : Choice) (value : String) (o : Overrides) : Except Stop Overrides :=
  match c with
  | .config => if value.isEmpty then .error (.valueMissing c) else .ok { o with path := value }
  | .port => (readPort value).map fun port => { o with port := some port }
  | .bind => .ok { o with bindAddress := value }
  | .validationUrl => .ok { o with validationUrl := value }

/-- Whether an option has a value already. -/
def isGiven (c : Choice) (o : Overrides) : Bool :=
  match c with
  | .config => o.path.isSome
  | .port => o.port.isSome
  | .bind => o.bindAddress.isSome
  | .validationUrl => o.validationUrl.isSome

/-- The overrides with the value of an option that is given once. -/
def storeOnce (c : Choice) (value : String) (o : Overrides) : Except Stop Overrides :=
  if isGiven c o then .error (.repeated c) else store c value o

/-! ### Arguments -/

/-- What was read of the arguments so far. -/
structure Progress where
  overrides : Overrides := {}
  /-- The option that is not looked at yet, with its value if that was read. -/
  pending : Option (Choice × Option String) := none
  /-- Whether all further arguments are plain ones. -/
  plainOnly : Bool := false

namespace Progress

/-- Looks at the pending option. -/
def settle (p : Progress) : Except Stop Progress :=
  match p.pending with
  | none => .ok p
  | some (c, none) => .error (.valueMissing c)
  | some (c, some value) =>
    (storeOnce c value p.overrides).map fun overrides => { p with overrides, pending := none }

/-- Begins an option, perhaps with the value that stands in the same argument. -/
def begin (c : Choice) (value : Option String) (p : Progress) : Except Stop Progress := do
  let p ← p.settle
  match value with
  | none => return { p with pending := some (c, none) }
  | some value => return { p with overrides := ← storeOnce c value p.overrides }

/-- Reads an argument with a long name. -/
def readLong (name : List Char) (value : Option (List Char)) (p : Progress) :
    Except Stop Progress := do
  match Switch.ofName? (String.ofList name), value with
  | none, _ => throw (.unexpected (String.ofList ('-' :: '-' :: name)))
  | some (.choice c), value => p.begin c (value.map String.ofList)
  | some .help, none => let _ ← p.settle; throw .help
  | some .version, none => let _ ← p.settle; throw .version
  | some .help, some value => throw (.valueUnexpected "--help" (String.ofList value))
  | some .version, some value => throw (.valueUnexpected "--version" (String.ofList value))

/-- Reads an argument that starts with a letter after its dash. -/
def readShort (letter : Char) (rest : List Char) (p : Progress) : Except Stop Progress := do
  match Switch.ofLetter? letter with
  | none => throw (.unexpected (String.ofList ['-', letter]))
  | some (.choice c) =>
    match rest with
    | [] => p.begin c none
    | '=' :: value => p.begin c (some (String.ofList value))
    | value => p.begin c (some (String.ofList value))
  | some .help => let _ ← p.settle; throw .help
  | some .version => let _ ← p.settle; throw .version

/-- Reads an argument that names nothing: the value of the pending option. -/
def readPlain (argument : String) (p : Progress) : Except Stop Progress :=
  match p.plainOnly, p.pending with
  | false, some (c, none) => .ok { p with pending := some (c, some argument) }
  | _, _ => .error (.unexpected argument)

/-- Reads an argument. -/
def read (p : Progress) (argument : String) : Except Stop Progress :=
  if p.plainOnly then p.readPlain argument
  else
    match argument.toList with
    | ['-', '-'] => .ok { p with plainOnly := true }
    | '-' :: '-' :: s =>
      match s.span (· != '=') with
      | (name, []) => p.readLong name none
      | (name, _ :: value) => p.readLong name (some value)
    | '-' :: letter :: rest => p.readShort letter rest
    | _ => p.readPlain argument

end Progress

/-- The overrides with the values that the environment has for options that are not given. -/
def fromEnvironment (env : Environment) (given : Overrides) : Except Stop Overrides :=
  Choice.all.foldlM
    (fun o c =>
      match isGiven c given, env.lookup c.variableName with
      | false, some value => store c value o
      | _, _ => .ok o)
    given

/-- The overrides that arguments and environment give. -/
def readArguments (arguments : List String) (env : Environment) : Except Stop Overrides := do
  let p ← arguments.foldlM Progress.read {}
  fromEnvironment env (← p.settle).overrides

/-! ### Help -/

/-- Whether styles are wanted where the output is no terminal: one variable of the environment asks
for them and another one, which counts more, forbids them. -/
def wantsStyles (env : Environment) : Bool :=
  ((env.lookup "NO_COLOR").getD "").isEmpty && (env.lookup "CLICOLOR_FORCE").getD "0" != "0"

/-- The lines of a text in styles. -/
def styledLines (env : Environment) (text : String) : List String :=
  let text := if wantsStyles env then text.toList else Terminal.printable text.toList
  (Text.pieces '\n' text).map String.ofList

/-- The text of lines. -/
def joined (lines : List String) : String := "\n".intercalate lines

/-- How the program is called. -/
def usageLine : String :=
  Style.heading.on "Usage:" ++ " " ++ Style.literal.on programName ++ " [OPTIONS]"

/-- The names of a switch in the help text: those of options and those of flags are alike. -/
def switchNames (letter? : Option Char) (name : String) : String :=
  let letter :=
    match letter? with
    | some letter => Style.literal.on (String.ofList ['-', letter]) ++ ", "
    | none => "    "
  "  " ++ letter ++ Style.literal.on ("--" ++ name)

/-- What a switch is for, on lines of its own. -/
def indented (text : String) : String :=
  let margin := List.replicate 10 ' '
  String.ofList (margin ++ Text.hanging margin text.toList)

/-- The help for an option: its names, and what it is for. -/
def choiceHelp (env : Environment) (c : Choice) : List String :=
  let value := (env.lookup c.variableName).getD ""
  [switchNames c.letter? c.name ++ " " ++ c.placeholder,
    indented (c.purpose ++ " [env: " ++ c.variableName ++ "=" ++ value ++ "]")]

/-- The help for a flag. -/
def flagHelp (letter : Char) (name purpose : String) : List String :=
  [switchNames (some letter) name, indented purpose]

/-- The lines of the help text. -/
def helpLines (env : Environment) : List String :=
  let top := ["Cue scheduling and playhead sync service for Vixio", "", usageLine, "",
    Style.heading.on "Options:"]
  styledLines env
    (joined (top ++ Choice.all.flatMap (choiceHelp env) ++ flagHelp 'h' "help" "Print help" ++
      flagHelp 'V' "version" "Print version"))

/-- The version line. -/
def versionLine : String := programName ++ " " ++ version

/-- What a wrong command line is answered with. -/
def misuseLines (env : Environment) (message : String) : List String :=
  styledLines env
    (joined [Style.alarm.on "error:" ++ " " ++ message, "", usageLine, "",
      "For more information, try '" ++ Style.literal.on "--help" ++ "'."])

end ShowControl.CommandLine
