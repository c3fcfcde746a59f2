/-
The program.

Everything that is decided is decided elsewhere; what is left for here is to ask the system: for
arguments and files, for the time and for random bytes, for connections and for signals.  One
request is served at a time, each on a connection of its own, and a signal ends the program.
-/
import Std.Async
import Std.Time
import ShowControl.CommandLine.Startup
import ShowControl.Cue.Naming
import ShowControl.Http.Service
import ShowControl.Validation.Client

open Std.Async

namespace ShowControl.Program

/-! ### The system -/

/-- The reason that the system gives for a failure. -/
def reason : IO.Error → String
  | .permissionDenied .. => "Permission denied (os error 13)"
  | .inappropriateType .. => "Is a directory (os error 21)"
  | .resourceBusy .. => "Address already in use (os error 98)"
  | .unsupportedOperation 4294967197 _ => "Cannot assign requested address (os error 99)"
  | e => e.toString

/-- What is found at a path. -/
def readFile (path : String) : IO FileState := do
  try
    let bytes ← IO.FS.readBinFile path
    return .content bytes.toList
  catch
    | .noFileOrDirectory .. => return .missing
    | e => return .unreadable (reason e)

/-- The variables of the environment that matter. -/
def readEnvironment : IO CommandLine.Environment := do
  let names :=
    ["HOME", "XDG_CONFIG_HOME", "NO_COLOR", "CLICOLOR_FORCE", CommandLine.filterVariable] ++
      CommandLine.Choice.all.map CommandLine.Choice.variableName
  let values ← names.mapM fun name => return (← IO.getEnv name).map (name, ·)
  return values.reduceOption

/-- The time. -/
def readClock : IO Instant := do
  return ⟨(← Std.Time.Timestamp.now).toNanosecondsSinceUnixEpoch.val⟩

/-- An id for a new cue. -/
def freshId : IO CueId := do
  return .ofRandom (← IO.getRandomBytes 16).toList

/-- The build, as far as it is known. -/
def build : BuildStamp := ⟨"unknown", "unknown", "release"⟩

/-- The address as the system takes it. -/
def systemAddress : SocketAddress → Std.Net.SocketAddress
  | .v4 ip port => .v4 ⟨⟨#v[ip.a, ip.b, ip.c, ip.d]⟩, port⟩
  | .v6 ip _ port => .v6 ⟨⟨⟨ip.groups.toArray, by simp [ip.eight]⟩⟩, port⟩

/-! ### Output -/

/-- Writes lines of the log. -/
def writeLog (lines : List CommandLine.LogLine) : IO Unit := do
  for l in lines do
    IO.println (l.text (← readClock))
  (← IO.getStdout).flush

/-- Writes what a program has to say. -/
def writeOutput (o : CommandLine.Output) : IO Unit := do
  o.stdout.forM IO.println
  writeLog o.log
  o.stderr.forM IO.eprintln

/-! ### The validation service -/

/-- All bytes until the other side closes the connection. -/
partial def receiveAll (client : TCP.Socket.Client) (acc : List UInt8) : Async (List UInt8) := do
  match ← client.recv? 65536 with
  | some bytes => receiveAll client (acc ++ bytes.toList)
  | none => return acc

/-- Makes a call. -/
def ask (site : Validation.Site) (call : Validation.Call) : Async Validation.Reply := do
  try
    let found ← DNS.getAddrInfo site.host "" none
    let some ip := found[0]? | return .unreachable
    let address : Std.Net.SocketAddress :=
      match ip with
      | .v4 ip => .v4 ⟨ip, site.port⟩
      | .v6 ip => .v6 ⟨ip, site.port⟩
    let client ← TCP.Socket.Client.mk
    client.connect address
    client.send ⟨(call.requestBytes site).toArray⟩
    return .ofBytes (← receiveAll client [])
  catch _ => return .unreachable

/-! ### Serving -/

/-- The outcome of a request.  The calls that it makes are those it makes when nothing replies. -/
def outcomeOf (setup : Http.Setup) (site : Option Validation.Site) (d : Http.Desk)
    (r : Http.Request) : Async Http.Outcome := do
  let now ← readClock
  let id ← freshId
  let unanswered := Http.handle setup d ⟨now, id, .unreachable⟩ r
  match unanswered.calls, site with
  | call :: _, some site => return Http.handle setup d ⟨now, id, ← ask site call⟩ r
  | _, _ => return unanswered

/-- Serves one connection and returns the state after it. -/
partial def serve (setup : Http.Setup) (site : Option Validation.Site) (d : Http.Desk)
    (client : TCP.Socket.Client) (received : List UInt8) : Async Http.Desk := do
  match Http.Wire.readRequest received with
  | .complete r =>
    let outcome ← outcomeOf setup site d r
    client.send ⟨(Http.Wire.responseBytes outcome.response).toArray⟩
    client.shutdown
    return outcome.desk
  | .malformed =>
    client.send ⟨(Http.Wire.responseBytes (.bare 400)).toArray⟩
    client.shutdown
    return d
  | .incomplete =>
    match ← client.recv? 65536 with
    | some bytes => serve setup site d client (received ++ bytes.toList)
    | none => return d

/-- Serves one connection after the other. -/
partial def serveAll (setup : Http.Setup) (site : Option Validation.Site)
    (server : TCP.Socket.Server) (d : Http.Desk) : Async Unit := do
  let client ← server.accept
  let after ← try serve setup site d client [] catch _ => pure d
  serveAll setup site server after

/-- Waits for a signal. -/
def waitForSignal : IO CommandLine.Signal := do
  let interrupt ← (← Signal.Waiter.mk .sigint false).wait
  let terminate ← (← Signal.Waiter.mk .sigterm false).wait
  let first ← IO.waitAny
    [interrupt.map fun _ => CommandLine.Signal.interrupt,
      terminate.map fun _ => CommandLine.Signal.terminate]
  IO.ofExcept first

/-- Runs a service that is ready. -/
def runReady (ready : CommandLine.Ready) (server : TCP.Socket.Server) : IO Unit := do
  let setup : Http.Setup := ⟨ready.settings.validationUrl.isSome, build⟩
  let address := ready.settings.validationUrl.map Validation.baseAddress
  let site := address.bind Validation.Site.ofAddress?
  let _ ← (serveAll setup site server {}).toIO
  writeLog (CommandLine.shown ready.filter (CommandLine.closingLines (← waitForSignal)))

end ShowControl.Program

open ShowControl ShowControl.Program in
/-- The program: exit code 0 after a signal, 1 if it cannot start, 2 for a wrong command line. -/
def main (arguments : List String) : IO UInt32 := do
  let environment ← readEnvironment
  let overrides := CommandLine.readArguments arguments environment
  let world : CommandLine.World :=
    { arguments, environment, accountHome := none, file := fun _ => .missing,
      bindFault? := fun _ => none, build }
  let path := (overrides.toOption.map (CommandLine.settingsPath world)).getD ""
  let found ← readFile path
  let world := { world with file := fun p => if p = path then found else .missing }
  match CommandLine.start world with
  | .error ending =>
    writeOutput ending.output
    return ending.exitCode.toUInt32
  | .ok ready =>
    let server ← TCP.Socket.Server.mk
    let bound : Option String ←
      try
        server.bind (systemAddress ready.address)
        server.listen 1024
        pure none
      catch e => pure (some (reason e))
    match bound with
    | some fault =>
      match CommandLine.start { world with bindFault? := fun _ => some fault } with
      | .error ending =>
        writeOutput ending.output
        return ending.exitCode.toUInt32
      | .ok _ => return 1
    | none =>
      writeOutput ready.output
      runReady ready server
      return 0
