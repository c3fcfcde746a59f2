/-
Styles of text on a terminal.

A style is written as control sequences before a text and one that ends all styles after it.
-/

namespace ShowControl.Terminal

/-- The styles of help and of messages. -/
inductive Style where
  /-- The heading of a section. -/
  | heading
  /-- What is typed as it stands. -/
  | literal
  /-- What was typed wrongly. -/
  | invalid
  /-- The word that announces an error. -/
  | alarm
deriving DecidableEq

namespace Style

/-- The numbers of the looks that a style has. -/
def looks : Style → List String
  | heading => ["1", "4"]
  | literal => ["1"]
  | invalid => ["33"]
  | alarm => ["1", "31"]

/-- The control sequence for a look. -/
def sequence (look : String) : String := "\x1b[" ++ look ++ "m"

/-- A text in a style. -/
def on (s : Style) (text : String) : String :=
  String.join (s.looks.map sequence) ++ text ++ sequence "0"

end Style

end ShowControl.Terminal
