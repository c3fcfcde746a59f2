/-
Levels of log lines.
-/
import ShowControl.Number.Decimal

namespace ShowControl.CommandLine

/-- How much is shown; each level includes those before it. -/
inductive LogLevel where
  | off
  | error
  | warn
  | info
  | debug
  | trace
deriving DecidableEq

namespace LogLevel

/-- The place of a level in their order. -/
def rank : LogLevel → Nat
  | off => 0
  | error => 1
  | warn => 2
  | info => 3
  | debug => 4
  | trace => 5

/-- The levels with their names. -/
def named : List (String × LogLevel) :=
  [("off", off), ("error", error), ("warn", warn), ("info", info), ("debug", debug),
    ("trace", trace)]

/-- The name of a level in a log line. -/
def label : LogLevel → String
  | off => "OFF"
  | error => "ERROR"
  | warn => "WARN"
  | info => "INFO"
  | debug => "DEBUG"
  | trace => "TRACE"

/-- The level that a word names, in letters of either case, or a number counts. -/
def read? (s : List Char) : Option LogLevel :=
  match Number.readInteger .unsigned64 s with
  | .ok i => (named.map (·.2)).find? fun level => (level.rank : Int) = i
  | .error _ => named.lookup (String.ofList (s.map Char.toLower))

end LogLevel

end ShowControl.CommandLine
