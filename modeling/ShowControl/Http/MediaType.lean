/-
Which bodies count as JSON.

A content type is a type and a subtype of token characters, perhaps with a suffix after a plus, and
perhaps with parameters after a semicolon.  It announces JSON if the type is `application` and the
subtype or the suffix is `json`, in letters of either case.  Parameters do not matter, but they have
to be well formed: `MediaType.Place` is where a reader of parameters can stand, and `Place.next?`
how it goes on.
-/

namespace ShowControl.Http.MediaType

/-- The characters of a token. -/
def isToken (c : Char) : Bool := c.isAlphanum || "!#$%&'*+-.^_\x60|~".toList.contains c

/-! ### Parameters -/

/-- Where a reader of parameters stands. -/
inductive Place where
  /-- Before a name, among blanks. -/
  | before
  /-- In a name. -/
  | name
  /-- In a value; `started` after its first character. -/
  | value (started : Bool)
  /-- In a value in quotes; `started` after its first character, which may be anything. -/
  | quoted (started : Bool)
  /-- After a closing quote. -/
  | after

namespace Place

/-- Where the reader stands after a character, if the character may come. -/
def next? (p : Place) (c : Char) : Option Place :=
  match p with
  | before => if c == ' ' then some before else if isToken c then some name else none
  | name => if isToken c then some name else if c == '=' then some (value false) else none
  | value started =>
    if isToken c then some (value true)
    else if c == '"' && !started then some (quoted false)
    else if c == ';' && started then some before
    else none
  | quoted started =>
    if c == '"' && started then some after
    else if 0x20 ≤ c.toNat && c.toNat < 0x7F then some (quoted true)
    else none
  | after => if c == ';' then some before else if c == ' ' then some after else none

/-- Whether the parameters may end here. -/
def mayEnd : Place → Bool
  | before | value _ | after => true
  | name | quoted _ => false

end Place

/-- Whether a text holds well-formed parameters. -/
def areParameters (s : List Char) : Bool :=
  match s.foldlM Place.next? .before with
  | some p => p.mayEnd
  | none => false

/-! ### Types -/

/-- A subtype parted from its suffix, which comes after the last plus; a plus at the very front
starts no suffix. -/
def partSuffix (s : List Char) : List Char × Option (List Char) :=
  match s.reverse.span (· != '+') with
  | (suffix, _ :: front@(_ :: _)) => (front.reverse, some suffix.reverse)
  | _ => (s, none)

/-- Whether a content type announces JSON. -/
def isJson (s : List Char) : Bool :=
  let (main, r) := s.span isToken
  match r with
  | '/' :: r =>
    let (sub, r) := r.span isToken
    let (sub, suffix) := partSuffix (sub.map Char.toLower)
    let parametersOk :=
      match r with
      | [] => true
      | c :: r => c == ';' && areParameters r
    main.map Char.toLower == "application".toList &&
      (sub == "json".toList || suffix == some "json".toList) && parametersOk
  | _ => false

end ShowControl.Http.MediaType
