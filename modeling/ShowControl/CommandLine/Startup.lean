/-
From the command line to a running service.

`start` decides everything that happens before the first request: it reads the arguments, loads the
settings, writes the first log lines and picks the address.  The outcome is either the end of the
program, with its exit code and its output, or a service that is ready to run.  `report` is what a
whole run comes to that is ended by a signal.
-/
import ShowControl.CommandLine.Arguments
import ShowControl.CommandLine.LogLine
import ShowControl.Config.Location
import ShowControl.Validation.Reply

namespace ShowControl.CommandLine

/-- The variable of the environment that holds a log filter. -/
def filterVariable : String := "RUST_LOG"

/-- What a program finds when it starts. -/
structure World where
  arguments : List String
  environment : Environment
  /-- The home folder of the account. -/
  accountHome : Option String
  /-- What is found at a path. -/
  file : String → FileState
  /-- Why an address cannot be bound to; none if it can. -/
  bindFault? : SocketAddress → Option String
  build : BuildStamp

/-- What a program has written: to its two outputs, and to the log. -/
structure Output where
  stdout : List String := []
  stderr : List String := []
  log : List LogLine := []
deriving DecidableEq

/-- The end of a program. -/
structure Ending where
  exitCode : UInt8
  output : Output
deriving DecidableEq

/-- A service that is ready to run. -/
structure Ready where
  settings : Settings
  address : SocketAddress
  filter : LogFilter
  output : Output

/-! ### Failures -/

/-- A cause of an error after its mark, with its further lines below its first one. -/
def causeText (mark cause : String) : String :=
  let margin := List.replicate mark.length ' '
  mark ++ String.ofList (Text.hanging margin cause.toList)

/-- An error with the one that caused it, and so on; several causes are counted. -/
def errorLines (message : String) (causes : List String) : List String :=
  let told : List String :=
    match causes with
    | [] => []
    | [cause] => ["", "Caused by:", causeText "    " cause]
    | causes =>
      ["", "Caused by:"] ++
        causes.mapIdx fun k cause =>
          causeText ("    " ++ String.ofList (Number.natText k) ++ ": ") cause
  ("Error: " ++ message) :: told

/-- A fault with the fault of the system behind it, if there is one. -/
def causes : Fault → List String
  | .io text => [(Fault.io text).message, text]
  | fault => [fault.message]

/-! ### The log -/

/-- The filter that settings and environment ask for, and word about what is ignored.  A filter in
the environment counts if it is well formed throughout. -/
def logFilter (env : Environment) (settings : Settings) : LogFilter × List String :=
  match (env.lookup filterVariable).bind fun s => LogFilter.read? s.toList with
  | some filter => (filter, [])
  | none => LogFilter.readLossy settings.logLevel.toList

/-- The lines that a filter shows. -/
def shown (filter : LogFilter) (lines : List LogLine) : List LogLine :=
  lines.filter fun l => filter.shows logTarget.toList l.level

/-- The start line, without the build. -/
def startLine : String := "Starting Vixio Cue Engine (" ++ programName ++ ") v" ++ version

/-- The build at the end of the start line. -/
def buildText (b : BuildStamp) : String :=
  " [" ++ b.revision ++ "] built " ++ b.timestamp ++ " (" ++ b.profile ++ ")"

/-- The line about where the settings come from. -/
def sourceLine : Source → LogLine
  | .file path => ⟨.info, "Configuration: " ++ path⟩
  | .defaults path =>
    ⟨.warn, "Config file " ++ path ++ " not found, using built-in defaults"⟩

/-- The line about the validation service. -/
def validationLine : Option String → LogLine
  | some url => ⟨.info, "Trigger payloads validated by " ++ Validation.baseAddress url⟩
  | none => ⟨.info, "No validation service configured; payloads accepted as-is"⟩

/-- The lines before the address is looked at. -/
def openingLines (b : BuildStamp) (s : Settings) : List LogLine :=
  [⟨.info, startLine ++ buildText b⟩, sourceLine s.source, validationLine s.validationUrl]

/-- The lines about the address. -/
def listeningLines (a : SocketAddress) : List LogLine :=
  [⟨.info, programName ++ " listening on http://" ++ a.text⟩,
    ⟨.info, "Health check: http://" ++ a.text ++ "/health"⟩]

/-! ### Starting -/

/-- The path of the settings file. -/
def settingsPath (w : World) (o : Overrides) : String :=
  let user : Location.User :=
    { home := w.environment.lookup "HOME"
      accountHome := w.accountHome
      settings := w.environment.lookup "XDG_CONFIG_HOME" }
  o.path.getD (user.usualPath Location.fileName)

/-- Starts the service with overrides. -/
def startWith (w : World) (o : Overrides) : Except Ending Ready :=
  let path := settingsPath w o
  match Settings.load path (w.file path) o with
  | .error fault =>
    .error ⟨1, { stderr := errorLines "Failed to load configuration" (causes fault) }⟩
  | .ok settings =>
    let (filter, warnings) := logFilter w.environment settings
    let opening := shown filter (openingLines w.build settings)
    let failed (lines : List String) : Ending :=
      ⟨1, { stderr := warnings ++ lines, log := opening }⟩
    match settings.socketAddress with
    | .error fault => .error (failed (errorLines fault.message []))
    | .ok address =>
      match w.bindFault? address with
      | some reason =>
        .error (failed (errorLines ("Failed to bind to " ++ address.text) [reason]))
      | none =>
        let log := opening ++ shown filter (listeningLines address)
        .ok ⟨settings, address, filter, { stderr := warnings, log }⟩

/-- Starts the service. -/
def start (w : World) : Except Ending Ready :=
  match readArguments w.arguments w.environment with
  | .ok overrides => startWith w overrides
  | .error .help => .error ⟨0, { stdout := helpLines w.environment }⟩
  | .error .version => .error ⟨0, { stdout := [versionLine] }⟩
  | .error (.misuse message) => .error ⟨2, { stderr := misuseLines w.environment message }⟩

/-! ### Whole runs -/

/-- What ends a service that runs. -/
inductive Signal where
  | interrupt
  | terminate
deriving DecidableEq

/-- The lines at the end of a run. -/
def closingLines (signal : Signal) : List LogLine :=
  let received :=
    match signal with
    | .interrupt => "Received Ctrl+C, shutting down"
    | .terminate => "Received terminate signal, shutting down"
  [⟨.info, received⟩, ⟨.info, "Server shutdown complete"⟩]

/-- The end of a run: of its own accord, or by a signal. -/
def report (w : World) (signal : Signal) : Ending :=
  match start w with
  | .error ending => ending
  | .ok ready =>
    let log := ready.output.log ++ shown ready.filter (closingLines signal)
    ⟨0, { ready.output with log }⟩

end ShowControl.CommandLine
