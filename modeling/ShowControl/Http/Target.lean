/-
The targets of requests.

The target of a request is a path with a query, as in `/queue?limit=3`.  A scheme and a host may
stand in front of it, as in `http://host/queue`; they do not matter, and no path after them means
the root.  A target such as `host:80` names a host alone and has no path at all.  A fragment is no
part of a request and is cut off.
-/

namespace ShowControl.Http

/-- What a request is about. -/
structure Target where
  path : List Char
  query : List Char
deriving DecidableEq

namespace Target

/-- The characters of a scheme. -/
def isScheme (c : Char) : Bool := c.isAlphanum || "+-.~".toList.contains c

/-- What comes after the scheme of a target and its two slashes. -/
def afterScheme? (s : List Char) : Option (List Char) :=
  match s.dropWhile isScheme with
  | ':' :: '/' :: '/' :: r => some r
  | _ => none

/-- Whether a character ends the host of a target. -/
def endsHost (c : Char) : Bool := c == '/' || c == '?' || c == '#'

/-- The target of a path with a query. -/
def ofPath (s : List Char) : Target :=
  let (path, r) := (s.takeWhile (· != '#')).span (· != '?')
  ⟨path, r.drop 1⟩

/-- The target that a text gives. -/
def ofText (s : List Char) : Target :=
  if s == ['*'] || s.head? == some '/' then ofPath s
  else
    match afterScheme? s with
    | none => ⟨[], []⟩
    | some r =>
      let target := ofPath (r.dropWhile fun c => !endsHost c)
      { target with path := if target.path.isEmpty then ['/'] else target.path }

end Target

end ShowControl.Http
