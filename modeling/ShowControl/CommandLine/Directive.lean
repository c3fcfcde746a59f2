/-
Directives of a log filter.

A directive says how much is shown: a level, perhaps with a target in front, and with a span in
brackets, and in the brackets, in braces, a field with or without a value.  `Directive.read` goes
through a directive without the blanks around it and keeps where each word begins.  The words are
then cut at these places, counted in bytes, from the directive as it is written; so blanks in front
of it shift all its words.
-/
import ShowControl.CommandLine.LogLevel
import ShowControl.Pattern.Form
import ShowControl.Text.Bytes

namespace ShowControl.CommandLine

/-- Why a text is no directive. -/
inductive DirectiveFault where
  | form
  | level
  | field (fault : Pattern.PatternFault)
deriving DecidableEq

/-- The wording of the fault. -/
def DirectiveFault.message : DirectiveFault → String
  | form => "invalid filter directive"
  | level =>
    "error parsing level filter: expected one of \"off\", \"error\", \"warn\", \"info\", " ++
      "\"debug\", \"trace\", or a number 0-5"
  | field fault => "invalid field filter: " ++ fault.message

/-! ### Directives -/

/-- A field that a directive asks for. -/
structure FieldFilter where
  name : List Char
  value : Option (List Char)
deriving DecidableEq

/-- A directive of a filter. -/
structure Directive where
  target : Option (List Char)
  span : Option (List Char)
  field : Option FieldFilter
  level : LogLevel
deriving DecidableEq

/-- Reads a field: a name, or a name and a value after an equals sign.  A value is a truth value, a
number or a pattern; a second equals sign and what follows it do not matter. -/
def FieldFilter.read (s : List Char) : Except DirectiveFault FieldFilter :=
  match s.span (· != '=') with
  | (name, []) => .ok ⟨name, none⟩
  | (name, _ :: r) =>
    let value := r.takeWhile (· != '=')
    if (Number.readExtended? value).isSome then .ok ⟨name, some value⟩
    else
      match Pattern.fault? value with
      | none => .ok ⟨name, some value⟩
      | some fault => .error (.field fault)

namespace Directive

/-- Where a reader of a directive stands, and the place where its current word begins. -/
inductive Place where
  | front
  | word (start : Nat)
  | span (start : Nat)
  | field (start : Nat)
  | afterField
  | afterSpan
  | level (start : Nat)

/-- What was read of a directive. -/
structure Draft where
  place : Place := .front
  target : Option (List Char) := none
  span : Option (List Char) := none
  field : Option FieldFilter := none

/-- Whether a directive can begin with a character that opens no span. -/
def canBegin (c : Char) : Bool := Text.isLetterOrNumeral c || c == '-' || c == ':' || c == '_'

/-- The text between two places. -/
def cut (text : List Char) (start stop : Nat) : Except DirectiveFault (List Char) :=
  match (Text.dropBytes? start text).bind (Text.takeBytes? (stop - start)) with
  | some word => .ok word
  | none => .error .form

/-- The text from a place on. -/
def cutFrom (text : List Char) (start : Nat) : Except DirectiveFault (List Char) :=
  match Text.dropBytes? start text with
  | some word => .ok word
  | none => .error .form

/-- The draft after a character at a place. -/
def Draft.next (text : List Char) (d : Draft) (i : Nat) (c : Char) :
    Except DirectiveFault Draft :=
  match d.place with
  | .front =>
    if c == '[' then .ok { d with place := .span (i + 1) }
    else if canBegin c then .ok { d with place := .word i }
    else .error .form
  | .word start =>
    if c == '=' then
      (cut text start i).map fun target => { d with target, place := .level (i + 1) }
    else if c == '[' then
      (cut text start i).map fun target => { d with target, place := .span (i + 1) }
    else .ok d
  | .span start =>
    if c == ']' then (cut text start i).map fun span => { d with span, place := .afterSpan }
    else if c == '\x7b' then
      (cut text start i).map fun span =>
        { d with span := if span.isEmpty then none else some span, place := .field (i + 1) }
    else .ok d
  | .field start =>
    if c == '}' then do
      let word ← cut text start i
      if word.isEmpty then throw .form
      let field ← FieldFilter.read word
      return { d with field, place := .afterField }
    else .ok d
  | .afterField => if c == ']' then .ok { d with place := .afterSpan } else .error .form
  | .afterSpan => if c == '=' then .ok { d with place := .level (i + 1) } else .error .form
  | .level _ => .ok d

/-- Goes through a directive from a place on. -/
def Draft.run (text : List Char) (d : Draft) (i : Nat) : List Char → Except DirectiveFault Draft
  | [] => .ok d
  | c :: r =>
    match d.next text i c with
    | .ok d => Draft.run text d (i + c.utf8Size) r
    | .error fault => .error fault

/-- The directive that a draft gives at its end.  A word alone is a level if it reads as one and a
target otherwise; no level means that everything is shown. -/
def Draft.finish (text : List Char) (d : Draft) : Except DirectiveFault Directive :=
  match d.place with
  | .word start => do
    let word ← cutFrom text start
    match LogLevel.read? word with
    | some level => return ⟨none, d.span, d.field, level⟩
    | none => return ⟨some word, d.span, d.field, .trace⟩
  | .level start => do
    let word ← cutFrom text start
    if word.isEmpty then return ⟨d.target, d.span, d.field, .trace⟩
    match LogLevel.read? word with
    | some level => return ⟨d.target, d.span, d.field, level⟩
    | none => throw .level
  | .afterSpan => .ok ⟨d.target, d.span, d.field, .trace⟩
  | _ => .error .form

/-- Reads a directive. -/
def read (text : List Char) : Except DirectiveFault Directive := do
  let d ← Draft.run text {} 0 (Text.trim text)
  d.finish text

/-- Whether a directive is about all lines that its target and its field fit, in whatever span and
with whatever values. -/
def isStatic (d : Directive) : Bool :=
  d.span.isNone && d.field.all (·.value.isNone)

/-- Whether a directive is about the lines of a target that have a message and no other field. -/
def fits (target : List Char) (d : Directive) : Bool :=
  d.isStatic && (d.target.getD []).isPrefixOf target &&
    d.field.all (·.name == "message".toList)

end Directive

end ShowControl.CommandLine
