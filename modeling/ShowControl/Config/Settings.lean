/-
The settings of the service.

A settings file is a TOML table.  Every entry that it may hold has a default, entries of other names
do not matter, and an entry of the wrong type or out of range spoils the whole file.  The two inner
tables may also be given as arrays, their entries in order from the front.

`Overrides` are what the command line and the environment say.  Each setting is decided on its own,
and a validation address that is blank counts as none.
-/
import ShowControl.Config.Address
import ShowControl.Fault
import ShowControl.Text.Utf8
import ShowControl.Toml.Read

namespace ShowControl

/-- What a settings file says. -/
structure FileSettings where
  bindAddress : String := "0.0.0.0"
  port : UInt16 := 8000
  validationUrl : Option String := none
  /-- How long to wait for the validation service, in milliseconds. -/
  timeoutMillis : UInt64 := 2000
  logLevel : String := "info"
deriving DecidableEq

/-! ### Reading the file -/

namespace FileSettings

/-- An entry with its default: a value that is there has to be readable. -/
def entry {α : Type} (standard : α) (value? : Toml → Option α) : Option Toml → Option α
  | none => some standard
  | some v => value? v

/-- A text. -/
def text? : Toml → Option String
  | .text s => some s
  | _ => none

/-- A whole number from zero to `most`. -/
def number? (most : Nat) : Toml → Option Nat
  | .integer i => if 0 ≤ i ∧ i ≤ most then some i.toNat else none
  | _ => none

/-- A TCP port. -/
def port? (v : Toml) : Option UInt16 := (number? (2 ^ 16 - 1) v).map Nat.toUInt16

/-- A number of milliseconds. -/
def millis? (v : Toml) : Option UInt64 := (number? (2 ^ 64 - 1) v).map Nat.toUInt64

/-- The entries of these names in an inner table, which may be an array.  A moment has no
entries. -/
def inner? (names : List String) : Toml → Option (List (Option Toml))
  | .table _ entries => some (names.map (Toml.Table.get? entries))
  | .array items => some ((List.range names.length).map fun k => items[k]?)
  | .tables elements =>
    some ((List.range names.length).map fun k => elements[k]?.map (.table .headed))
  | .moment _ => some (names.map fun _ => none)
  | _ => none

/-- The inner table with these names, if there is one. -/
def part? (names : List String) : Option Toml → Option (List (Option Toml))
  | none => some (names.map fun _ => none)
  | some v => inner? names v

/-- The settings in a table. -/
def ofTable? (t : Toml.Table) : Option FileSettings := do
  let standard : FileSettings := {}
  let bindAddress ← entry standard.bindAddress text? (t.get? "bind_address")
  let port ← entry standard.port port? (t.get? "port")
  match ← part? ["url", "timeout_ms"] (t.get? "validation"),
    ← part? ["level"] (t.get? "logging") with
  | [url, timeout], [level] =>
    let validationUrl ← entry none (fun v => (text? v).map some) url
    let timeoutMillis ← entry standard.timeoutMillis millis? timeout
    let logLevel ← entry standard.logLevel text? level
    return { bindAddress, port, validationUrl, timeoutMillis, logLevel }
  | _, _ => none

/-- The settings in the text of a file. -/
def read? (s : List Char) : Option FileSettings := (Toml.read? s).bind ofTable?

end FileSettings

/-! ### Layering -/

/-- What the command line and the environment say. -/
structure Overrides where
  path : Option String := none
  port : Option UInt16 := none
  bindAddress : Option String := none
  validationUrl : Option String := none
deriving DecidableEq

/-- Where settings come from. -/
inductive Source where
  | file (path : String)
  /-- There was no file at that path. -/
  | defaults (path : String)
deriving DecidableEq

/-- The settings that the service runs with. -/
structure Settings where
  bindAddress : String
  port : UInt16
  validationUrl : Option String
  timeoutMillis : UInt64
  logLevel : String
  source : Source
deriving DecidableEq

namespace Settings

/-- Whether a text is blank throughout. -/
def isBlank (s : String) : Bool := (Text.trim s.toList).isEmpty

/-- The settings of a file under overrides. -/
def layered (file : FileSettings) (given : Overrides) (source : Source) : Settings where
  bindAddress := given.bindAddress.getD file.bindAddress
  port := given.port.getD file.port
  validationUrl := (given.validationUrl <|> file.validationUrl).filter (! isBlank ·)
  timeoutMillis := file.timeoutMillis
  logLevel := file.logLevel
  source := source

/-- The address to bind to, as it is configured. -/
def bindText (s : Settings) : String :=
  s.bindAddress ++ ":" ++ String.ofList (Number.natText s.port.toNat)

/-- The address to bind to. -/
def socketAddress (s : Settings) : Except Fault SocketAddress :=
  match SocketAddress.read? s.bindText.toList with
  | some a => .ok a
  | none =>
    .error (.configuration
      ("Invalid bind address " ++ s.bindText ++ ": invalid socket address syntax"))

end Settings

/-! ### Loading -/

/-- What is found at a path. -/
inductive FileState where
  | missing
  /-- There is something, but the system gives a reason why it cannot be read. -/
  | unreadable (reason : String)
  | content (bytes : List UInt8)

namespace Settings

/-- The settings with what is found at the path of the settings file.  A file that is there has to
be readable, whatever the overrides are. -/
def load (path : String) (found : FileState) (given : Overrides) : Except Fault Settings :=
  match found with
  | .missing => .ok (layered {} given (.defaults path))
  | .unreadable reason => .error (.io reason)
  | .content bytes =>
    match Text.Utf8.decode? bytes with
    | none => .error (.io "stream did not contain valid UTF-8")
    | some s =>
      match FileSettings.read? s with
      | none => .error (.file ("Failed to parse " ++ path))
      | some file => .ok (layered file given (.file path))

end Settings

end ShowControl
