/-
Rejections, whatever the body.

The body of a rejection is read in two steps.  The first looks for the detail: the body has to be an
envelope (`Envelope`), and the detail is null if it is none (`HasDetail`).  The second looks for a
fault and its place in the detail: it has to be structured (`Structured`), and otherwise it stands
for the words itself.  Every body has one detail (`hasDetail_iff`), and a structured detail has one
structure (`ofJson?_eq_some_iff`), so `rejection_of_every_body` says of every body which field is
told and in which words.
-/
import Mathlib.Data.List.Forall2
import Mathlib.Tactic.Lemma
import ShowControl.Validation.Reply

namespace ShowControl

open Json (Tree)

namespace Validation

/-! ### Envelopes -/

/-- The members of an object, and the same with their names as texts. -/
def NamedAs : List (List Json.Piece × Tree) → List (String × Tree) → Prop :=
  List.Forall₂ fun member named => Tree.bytesText? member.1 = some named.1 ∧ named.2 = member.2

/-- The document is an envelope around the detail. -/
inductive Envelope : Tree → Json → Prop where
  | empty : Envelope (.array []) .null
  | item {t : Tree} {detail : Json} (h : held? t = some detail) : Envelope (.array [t]) detail
  | unnamed {members : List (List Json.Piece × Tree)} {named : List (String × Tree)}
      (hnames : NamedAs members named) (hother : ∀ m ∈ named, m.1 ≠ "detail") :
      Envelope (.object members) .null
  | named {members : List (List Json.Piece × Tree)} {before after : List (String × Tree)} {t : Tree}
      {detail : Json} (hnames : NamedAs members (before ++ ("detail", t) :: after))
      (hother : ∀ m ∈ before ++ after, m.1 ≠ "detail") (h : held? t = some detail) :
      Envelope (.object members) detail

/-- The detail of a body, null if the body is no envelope. -/
inductive HasDetail (body : List UInt8) : Json → Prop where
  | enveloped {t : Tree} {detail : Json} (hread : Tree.readBytes? body = some t)
      (h : Envelope t detail) : HasDetail body detail
  | unreadable (h : ∀ t detail, Tree.readBytes? body = some t → ¬ Envelope t detail) :
      HasDetail body .null

lemma mapM_eq_some_iff_namedAs {members : List (List Json.Piece × Tree)}
    {named : List (String × Tree)} :
    (members.mapM fun m => (Tree.bytesText? m.1).map (·, m.2)) = some named ↔
      NamedAs members named := by
  induction members generalizing named with
  | nil =>
    rw [List.mapM_nil, NamedAs, List.forall₂_nil_left_iff]
    exact ⟨by rintro ⟨⟩; rfl, by rintro rfl; rfl⟩
  | cons m members ih =>
    simp only [List.mapM_cons, Option.bind_eq_bind, Option.bind_eq_some_iff, ih,
      Option.map_eq_some_iff, NamedAs, List.forall₂_cons_left_iff]
    constructor
    · rintro ⟨_, ⟨name, hname, rfl⟩, rest, hrest, heq⟩
      cases heq
      exact ⟨_, _, ⟨hname, rfl⟩, hrest, rfl⟩
    · rintro ⟨⟨name, t⟩, rest, ⟨hname, rfl⟩, hrest, rfl⟩
      exact ⟨_, ⟨name, hname, rfl⟩, rest, hrest, rfl⟩

section Unique

variable {members : List (String × Tree)} {name : String}

lemma unique?_eq_some_none_iff :
    Tree.unique? members name = some none ↔ ∀ m ∈ members, m.1 ≠ name := by
  have hfilter : members.filter (·.1 == name) = [] ↔ ∀ m ∈ members, m.1 ≠ name := by
    simp only [List.filter_eq_nil_iff, beq_iff_eq, ne_eq]
  rw [Tree.unique?, ← hfilter]
  split
  case h_1 h => exact iff_of_true rfl h
  case h_2 m h => exact iff_of_false nofun (by rw [h]; exact nofun)
  case h_3 hnil hone => exact iff_of_false nofun hnil

lemma unique?_eq_some_some_iff {t : Tree} :
    Tree.unique? members name = some (some t) ↔
      ∃ before after, members = before ++ (name, t) :: after ∧
        ∀ m ∈ before ++ after, m.1 ≠ name := by
  have hfilter : members.filter (·.1 == name) = [(name, t)] ↔
      ∃ before after, members = before ++ (name, t) :: after ∧
        ∀ m ∈ before ++ after, m.1 ≠ name := by
    simp only [List.filter_eq_cons_iff, List.filter_eq_nil_iff, beq_iff_eq, List.mem_append,
      or_imp, forall_and, ne_eq, true_and]
  rw [Tree.unique?, ← hfilter]
  split
  case h_1 h => exact iff_of_false nofun (by rw [h]; exact nofun)
  case h_2 m h =>
    have hname : m.1 = name := by
      have hm : m ∈ members.filter (·.1 == name) := by rw [h]; exact List.mem_cons_self
      exact beq_iff_eq.mp (List.mem_filter.mp hm).2
    obtain ⟨_, t'⟩ := m
    subst hname
    simp [h]
  case h_3 hnil hone => exact iff_of_false nofun (hone _)

end Unique

/-- The reader takes the detail out of envelopes. -/
lemma enveloped?_eq_some_iff {t : Tree} {detail : Json} :
    enveloped? t = some detail ↔ Envelope t detail := by
  constructor
  · intro h
    unfold enveloped? at h
    split at h
    case h_1 => cases h; exact .empty
    case h_2 => exact .item h
    case h_3 members =>
      simp only [Option.bind_eq_bind, Option.bind_eq_some_iff, mapM_eq_some_iff_namedAs] at h
      obtain ⟨named, hnames, member, hmember, hheld⟩ := h
      cases member with
      | none =>
        cases hheld
        exact .unnamed hnames (unique?_eq_some_none_iff.mp hmember)
      | some t =>
        obtain ⟨before, after, rfl, hother⟩ := unique?_eq_some_some_iff.mp hmember
        exact .named hnames hother hheld
    case h_4 => cases h
  · intro h
    cases h with
    | empty => rfl
    | item h => exact h
    | unnamed hnames hother =>
      simp only [enveloped?, mapM_eq_some_iff_namedAs.mpr hnames, Option.bind_eq_bind,
        Option.bind_some, unique?_eq_some_none_iff.mpr hother]
      rfl
    | named hnames hother h =>
      simp only [enveloped?, mapM_eq_some_iff_namedAs.mpr hnames, Option.bind_eq_bind,
        Option.bind_some, unique?_eq_some_some_iff.mpr ⟨_, _, rfl, hother⟩, h]

/-- Every body has one detail. -/
lemma hasDetail_iff {body : List UInt8} {j : Json} : HasDetail body j ↔ j = detail body := by
  have henvelope (j : Json) : (∃ t, Tree.readBytes? body = some t ∧ Envelope t j) ↔
      (Tree.readBytes? body).bind enveloped? = some j := by
    simp only [Option.bind_eq_some_iff, enveloped?_eq_some_iff]
  rw [detail]
  cases hread : (Tree.readBytes? body).bind enveloped? with
  | none =>
    have hnot (j : Json) : ¬ ∃ t, Tree.readBytes? body = some t ∧ Envelope t j := by
      rw [henvelope, hread]
      exact nofun
    constructor
    · rintro (⟨ht, h⟩ | -)
      · exact absurd ⟨_, ht, h⟩ (hnot j)
      · rfl
    · rintro rfl
      exact .unreadable fun t j ht h => hnot j ⟨t, ht, h⟩
  | some found =>
    obtain ⟨t, ht, h⟩ := (henvelope found).mpr hread
    constructor
    · rintro (⟨ht', h'⟩ | hnone)
      · have hsame := (henvelope j).mp ⟨_, ht', h'⟩
        rw [hread] at hsame
        exact (Option.some.inj hsame).symm
      · exact absurd h (hnone t found ht)
    · rintro rfl
      exact .enveloped ht h

/-! ### Structured details -/

/-- Words, which may be left out or null. -/
inductive Words : Option Json → Option String → Prop where
  | absent : Words none none
  | null : Words (some .null) none
  | given (s : String) : Words (some (.string s)) (some s)

/-- A path, which may be left out. -/
inductive Path : Option Json → List Json → Prop where
  | absent : Path none []
  | given (path : List Json) : Path (some (.array path)) path

/-- The detail gives an error, a message and a path: an object by their names, and an array in this
order. -/
inductive Structured : Json → Finding → Prop where
  | object {fields : Fields} {f : Finding} (herror : Words (fields.get? "error") f.error)
      (hmessage : Words (fields.get? "message") f.message)
      (hpath : Path (fields.get? "path") f.path) : Structured (.object fields) f
  | array {items : List Json} {f : Finding} (hlength : items.length ≤ 3)
      (herror : Words items[0]? f.error) (hmessage : Words items[1]? f.message)
      (hpath : Path items[2]? f.path) : Structured (.array items) f

lemma words?_eq_some_iff {part : Option Json} {words : Option String} :
    Finding.words? part = some words ↔ Words part words := by
  constructor
  · intro h
    unfold Finding.words? at h
    split at h
    · cases h; exact .absent
    · cases h; exact .null
    · cases h; exact .given _
    · cases h
  · rintro (_ | _ | _) <;> rfl

lemma path?_eq_some_iff {part : Option Json} {path : List Json} :
    Finding.path? part = some path ↔ Path part path := by
  constructor
  · intro h
    unfold Finding.path? at h
    split at h
    · cases h; exact .absent
    · cases h; exact .given _
    · cases h
  · rintro (_ | _) <;> rfl

/-- The reader of findings reads structured details. -/
lemma ofJson?_eq_some_iff {detail : Json} {f : Finding} :
    Finding.ofJson? detail = some f ↔ Structured detail f := by
  obtain ⟨error, message, path⟩ := f
  have hparts (e m p : Option Json) :
      (do return (⟨← Finding.words? e, ← Finding.words? m, ← Finding.path? p⟩ : Finding)) =
          some ⟨error, message, path⟩ ↔ Words e error ∧ Words m message ∧ Path p path := by
    simp only [Option.bind_eq_bind, Option.pure_def, Option.bind_eq_some_iff, words?_eq_some_iff,
      path?_eq_some_iff, Option.some.injEq, Finding.mk.injEq]
    constructor
    · rintro ⟨_, he, _, hm, _, hp, rfl, rfl, rfl⟩
      exact ⟨he, hm, hp⟩
    · rintro ⟨he, hm, hp⟩
      exact ⟨_, he, _, hm, _, hp, rfl, rfl, rfl⟩
  cases detail with
  | object fields =>
    refine (hparts _ _ _).trans ⟨fun ⟨he, hm, hp⟩ => .object he hm hp, ?_⟩
    rintro (⟨he, hm, hp⟩ | -)
    exact ⟨he, hm, hp⟩
  | array items =>
    rw [Finding.ofJson?]
    split
    case isTrue hlong =>
      refine iff_of_false nofun ?_
      rintro (- | ⟨hlength, -⟩)
      omega
    case isFalse hshort =>
      refine (hparts _ _ _).trans ⟨fun ⟨he, hm, hp⟩ => .array (by omega) he hm hp, ?_⟩
      rintro (- | ⟨-, he, hm, hp⟩)
      exact ⟨he, hm, hp⟩
  | null | bool b | number n | string s => exact iff_of_false nofun nofun

/-! ### Refusals -/

/-- A segment of a path as it is told: a name as it is, and any other value as its text. -/
inductive Segment : Json → String → Prop where
  | name (s : String) : Segment (.string s) s
  | other {j : Json} (h : ∀ s, j ≠ .string s) : Segment j j.text

/-- The field that a path leads to. -/
inductive PointsTo : List Json → String → Prop where
  | whole : PointsTo [] "payload"
  | part {path : List Json} {segments : List String} (hne : path ≠ [])
      (h : List.Forall₂ Segment path segments) :
      PointsTo path ("payload." ++ ".".intercalate segments)

/-- The words of a structured detail: its error, or else its message, or else the standard ones. -/
inductive Tells (f : Finding) : String → Prop where
  | error {s : String} (h : f.error = some s) : Tells f s
  | message {s : String} (hnone : f.error = none) (h : f.message = some s) : Tells f s
  | standard (hnone : f.error = none) (h : f.message = none) : Tells f "Validation failed"

/-- The words of any other detail: a text as it is, the standard ones for null, and the text of
anything else. -/
inductive Stands : Json → String → Prop where
  | string (s : String) : Stands (.string s) s
  | null : Stands .null "Validation failed"
  | other {detail : Json} (hnull : detail ≠ .null) (h : ∀ s, detail ≠ .string s) :
      Stands detail detail.text

lemma segment_step (j : Json) : Segment j (Finding.step j) := by
  cases j with
  | string s => exact .name s
  | null | bool b | number n | array items | object fields => exact .other nofun

lemma pointsTo_field (f : Finding) : PointsTo f.path f.field := by
  rw [Finding.field]
  cases f.path with
  | nil => exact .whole
  | cons j path =>
    refine .part (List.cons_ne_nil j path) ?_
    rw [List.forall₂_map_right_iff, List.forall₂_same]
    exact fun j _ => segment_step j

lemma tells_words (f : Finding) : Tells f ((f.error <|> f.message).getD standardWords) := by
  cases herror : f.error with
  | some s => exact .error herror
  | none =>
    cases hmessage : f.message with
    | some s => exact .message herror hmessage
    | none => exact .standard herror hmessage

lemma stands_wording (detail : Json) : Stands detail (wording standardWords detail) := by
  cases detail with
  | string s => exact .string s
  | null => exact .null
  | bool b | number n | array items | object fields => exact .other nofun nofun

/-- **Rejections, whatever the body.**  Every body has one detail, and a rejection with this body
is a validation error that expects a document of the schema.
* A structured detail gives the place of the fault, `payload` for an empty path and the segments of
  the path after it for any other, and the words: the error, or else the message, or else
  "Validation failed".
* Any other detail is about the whole of `payload` and stands for the words itself. -/
theorem rejection_of_every_body (body : List UInt8) :
    ∃ (detail : Json) (refusal : Refusal),
      (∀ j, HasDetail body j ↔ j = detail) ∧
      verdict (.answered 400 body) = .error (.refused refusal) ∧
      refusal.expected = "document conforming to the show schema" ∧
      (∀ f, Structured detail f →
        PointsTo f.path refusal.field ∧ Tells f refusal.message) ∧
      ((∀ f, ¬ Structured detail f) →
        refusal.field = "payload" ∧ Stands detail refusal.message) := by
  refine ⟨detail body, rejection (detail body), fun j => hasDetail_iff, rfl, rfl, ?_, ?_⟩
  · intro f hf
    have hfinding := ofJson?_eq_some_iff.mpr hf
    simp only [rejection, hfinding, Option.map_some, Option.getD_some]
    exact ⟨pointsTo_field f, tells_words f⟩
  · intro hnone
    have hfinding : Finding.ofJson? (detail body) = none := by
      rw [Option.eq_none_iff_forall_ne_some]
      exact fun f hf => hnone f (ofJson?_eq_some_iff.mp hf)
    simp only [rejection, hfinding, Option.map_none, Option.getD_none]
    exact ⟨trivial, stands_wording _⟩

/-- A path through an array, and an ill-formed text that nobody reads. -/
example : verdict (.answered 400 (Text.Utf8.encode
    "\x7b\"x\":\"".toList ++ 0xFF :: Text.Utf8.encode
    "\", \"detail\":[\"no id\", null, [\"cues\", 0]]\x7d".toList)) =
    .error (.refused ⟨"payload.cues.0", "document conforming to the show schema", "no id"⟩) := by
  decide +kernel

end Validation

end ShowControl
