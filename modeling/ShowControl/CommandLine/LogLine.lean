/-
Lines of the log.

A message may hold text from outside, from a path or an address.  Control characters of terminals in
it are written as escapes, so that nobody can hide lines or fake them that way; only line ends and
tabs stay as they are.
-/
import ShowControl.CommandLine.LogFilter
import ShowControl.Instant
import ShowControl.Text.Hex

namespace ShowControl.CommandLine

/-- A line of the log. -/
structure LogLine where
  level : LogLevel
  message : String
deriving DecidableEq

/-- The target of the program's own log lines. -/
def logTarget : String := "vixio_ce"

namespace LogLine

/-- A character of a message as the log shows it. -/
def escaped (c : Char) : List Char :=
  let n := c.toNat
  let low := Text.hexDigit (n % 16)
  if n == 0x07 || n == 0x08 || n == 0x0C || n == 0x1B || n == 0x7F then
    ['\\', 'x', Text.hexDigit (n / 16), low]
  else if 0x80 ≤ n && n < 0xA0 then ['\\', 'u', '\x7b', Text.hexDigit (n / 16), low, '}']
  else [c]

/-- The message as the log shows it. -/
def shownMessage (l : LogLine) : String := String.ofList (l.message.toList.flatMap escaped)

/-- A line as the log shows it: the time, the level to a width of five, the target, the message. -/
def text (l : LogLine) (time : Instant) : String :=
  let padding := String.ofList (List.replicate (5 - l.level.label.length) ' ')
  time.text ++ " " ++ padding ++ l.level.label ++ " " ++ logTarget ++ ": " ++ l.shownMessage

end LogLine

end ShowControl.CommandLine
