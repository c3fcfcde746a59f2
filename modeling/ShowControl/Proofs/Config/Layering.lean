/-
The layers of the settings.

A table of a settings file is well typed if every entry that counts has its type and its range
(`Toml.Table.WellTyped`); a well-typed table has settings, entry by entry with a default for what it
leaves out, and no other table has any (`FileSettings.ofTable?_eq_some_iff`).  So settings are
loaded just if nothing is at the path, or a document with a well-typed table, whatever the overrides
say.

The main result is `Settings.load_layers`: it adds what each setting is then.
-/
import Mathlib.Data.List.TakeWhile
import ShowControl.Config.Settings
import ShowControl.Proofs.Text.Utf8

namespace ShowControl

namespace Text

/-- Only a blank text has nothing left without the blanks at its ends. -/
lemma trim_eq_nil_iff {s : List Char} : trim s = [] ↔ ∀ c ∈ s, isBlank c = true := by
  have hstart : ∀ r : List Char, trimStart r = [] ↔ ∀ c ∈ r, isBlank c = true := fun r =>
    List.dropWhile_eq_nil_iff
  rw [trim, List.reverse_eq_nil_iff, hstart]
  constructor
  · intro h c hc
    -- a character is among the blanks at the front or after them
    rw [← List.takeWhile_append_dropWhile (p := isBlank) (l := s), List.mem_append] at hc
    rcases hc with hfront | hback
    · exact List.mem_takeWhile_imp hfront
    · exact h c (List.mem_reverse.mpr hback)
  · intro h c hc
    exact h c ((List.dropWhile_sublist _).subset (List.mem_reverse.mp hc))

end Text

/-! ### Entries -/

namespace Toml

/-- The entry of an inner table: a table has it under its name, an array at its place, and a moment
has no entries. -/
def inside? (name : String) (place : ℕ) : Toml → Option Toml
  | .table _ entries => Table.get? entries name
  | .array items => items[place]?
  | .tables elements => elements[place]?.map (.table .headed)
  | _ => none

/-- The value can stand for an inner table. -/
def IsInner : Toml → Prop
  | .table _ _ | .array _ | .tables _ | .moment _ => True
  | _ => False

/-- The value is a table, in braces or under a header. -/
def IsTable : Toml → Prop
  | .table _ _ => True
  | _ => False

/-- The value is a text. -/
def IsText (v : Toml) : Prop := ∃ s, v = .text s

/-- The value is a whole number from zero to `most`. -/
def IsNumber (most : ℕ) (v : Toml) : Prop := ∃ n : ℕ, n ≤ most ∧ v = .integer n

/-- The whole number that a value is, if it is not negative. -/
def natural? : Toml → Option ℕ
  | .integer (.ofNat n) => some n
  | _ => none

namespace Table

variable (t : Table)

/-! The entries that count. -/

def bindAddress? : Option Toml := t.get? "bind_address"

def port? : Option Toml := t.get? "port"

def validationUrl? : Option Toml := (t.get? "validation").bind (inside? "url" 0)

def timeout? : Option Toml := (t.get? "validation").bind (inside? "timeout_ms" 1)

def logLevel? : Option Toml := (t.get? "logging").bind (inside? "level" 0)

/-- Every entry that counts has its type and its range, as far as it is there. -/
structure WellTyped : Prop where
  bindAddress : ∀ v ∈ t.bindAddress?, v.IsText
  port : ∀ v ∈ t.port?, v.IsNumber (2 ^ 16 - 1)
  validation : ∀ v ∈ t.get? "validation", v.IsInner
  validationUrl : ∀ v ∈ t.validationUrl?, v.IsText
  timeout : ∀ v ∈ t.timeout?, v.IsNumber (2 ^ 64 - 1)
  logging : ∀ v ∈ t.get? "logging", v.IsInner
  logLevel : ∀ v ∈ t.logLevel?, v.IsText

/-- The settings of a table, with defaults for what it leaves out. -/
def settings : FileSettings where
  bindAddress := (t.bindAddress?.bind FileSettings.text?).getD "0.0.0.0"
  port := (t.port?.bind FileSettings.port?).getD 8000
  validationUrl := t.validationUrl?.bind FileSettings.text?
  timeoutMillis := (t.timeout?.bind FileSettings.millis?).getD 2000
  logLevel := (t.logLevel?.bind FileSettings.text?).getD "info"

end Table

end Toml

namespace FileSettings

/-- An entry is read if it is not there or has a value, and its default stands in for it. -/
lemma entry_eq_some_iff {α : Type} {standard x : α} {value? : Toml → Option α} {o : Option Toml} :
    entry standard value? o = some x ↔
      (∀ v ∈ o, (value? v).isSome = true) ∧ (o.bind value?).getD standard = x := by
  cases o with
  | none => simp [entry]
  | some v =>
    simp only [entry, Option.mem_def, Option.some.injEq, forall_eq', Option.bind_some]
    cases value? v <;> simp

lemma isSome_text? {v : Toml} : (text? v).isSome = true ↔ v.IsText := by
  cases v <;> simp [text?, Toml.IsText]

lemma isSome_number? {most : ℕ} {v : Toml} : (number? most v).isSome = true ↔ v.IsNumber most := by
  cases v with
  | integer i =>
    cases i with
    | ofNat n =>
      have hcast : ∀ m : ℕ, (n : ℤ) = m ↔ n = m := fun m => Int.ofNat_inj
      simp [number?, Toml.IsNumber, hcast]
    | negSucc n => simp [number?, Toml.IsNumber]
  | _ => simp [number?, Toml.IsNumber]

lemma number?_of_isNumber {most : ℕ} {v : Toml} (h : v.IsNumber most) :
    number? most v = v.natural? := by
  obtain ⟨n, hn, rfl⟩ := h
  simp [number?, Toml.natural?, hn]

/-- The entries of an inner table are those under the names or at their places. -/
lemma inner?_eq_some_iff {names : List String} {v : Toml} {entries : List (Option Toml)} :
    inner? names v = some entries ↔
      v.IsInner ∧ names.zipIdx.map (fun p => Toml.inside? p.1 p.2 v) = entries := by
  have hnames : ∀ f : String → Option Toml,
      names.zipIdx.map (fun p => f p.1) = names.map f := by
    intro f
    rw [← congrArg (List.map f) (List.zipIdx_map_fst 0 names), List.map_map]
    rfl
  have hplaces : ∀ f : ℕ → Option Toml,
      names.zipIdx.map (fun p => f p.2) = (List.range names.length).map f := by
    intro f
    rw [List.range_eq_range', ← List.zipIdx_map_snd 0 names, List.map_map]
    rfl
  cases v with
  | table kind entries' =>
    simp [inner?, Toml.IsInner, Toml.inside?, hnames (Toml.Table.get? entries')]
  | array items =>
    simp [inner?, Toml.IsInner, Toml.inside?, hplaces (fun k => items[k]?)]
  | tables elements =>
    simp [inner?, Toml.IsInner, Toml.inside?,
      hplaces (fun k => elements[k]?.map (Toml.table .headed))]
  | moment text => simp [inner?, Toml.IsInner, Toml.inside?, hnames (fun _ => none)]
  | text _ | integer _ | float _ | bool _ => simp [inner?, Toml.IsInner]

lemma part?_eq_some_iff {names : List String} {o : Option Toml} {entries : List (Option Toml)} :
    part? names o = some entries ↔
      (∀ v ∈ o, v.IsInner) ∧
        names.zipIdx.map (fun p => o.bind (Toml.inside? p.1 p.2)) = entries := by
  cases o with
  | none => simp [part?]
  | some v => simp [part?, inner?_eq_some_iff]

lemma isSome_port? {v : Toml} : (port? v).isSome = true ↔ v.IsNumber (2 ^ 16 - 1) := by
  rw [port?, Option.isSome_map, isSome_number?]

lemma isSome_millis? {v : Toml} : (millis? v).isSome = true ↔ v.IsNumber (2 ^ 64 - 1) := by
  rw [millis?, Option.isSome_map, isSome_number?]

/-- A text that may be left out is itself its default. -/
lemma getD_bind_map_some (o : Option Toml) :
    (o.bind fun v => (text? v).map some).getD none = o.bind text? := by
  cases o with
  | none => rfl
  | some v =>
    rw [Option.bind_some, Option.bind_some]
    cases text? v <;> rfl

/-- **Reading a table.**  A table has settings just if it is well typed, and each entry is read on
its own. -/
theorem ofTable?_eq_some_iff {t : Toml.Table} {file : FileSettings} :
    ofTable? t = some file ↔ t.WellTyped ∧ t.settings = file := by
  unfold ofTable?
  simp only [Option.bind_eq_bind, Option.pure_def, Option.bind_eq_some_iff, Option.some.injEq,
    entry_eq_some_iff, part?_eq_some_iff, List.zipIdx_cons, List.zipIdx_nil, List.map_cons,
    List.map_nil, and_assoc, exists_and_left, exists_eq_left', Option.isSome_map, isSome_text?,
    isSome_port?, isSome_millis?, getD_bind_map_some]
  constructor
  · rintro ⟨hbind, hport, hvalidation, hlogging, hurl, htimeout, hlevel, hfile⟩
    exact ⟨⟨hbind, hport, hvalidation, hurl, htimeout, hlogging, hlevel⟩, hfile⟩
  · rintro ⟨h, hfile⟩
    exact ⟨h.bindAddress, h.port, h.validation, h.logging, h.validationUrl, h.timeout, h.logLevel,
      hfile⟩

end FileSettings

/-! ### Loading -/

/-- The table that is at the path of the settings file: an empty one if nothing is there, else the
one that the document describes whose UTF-8 form is there. -/
inductive FileState.Holds : FileState → Toml.Table → Prop
  | missing : Holds .missing []
  | document {s : List Char} {t : Toml.Table} (read : Toml.read? s = some t) :
    Holds (.content (s.flatMap String.utf8EncodeChar)) t

/-- What the settings of a table are under overrides. -/
structure Settings.Layers (s : Settings) (t : Toml.Table) (given : Overrides) : Prop where
  bindAddress : s.bindAddress =
    (given.bindAddress <|> t.bindAddress?.bind FileSettings.text?).getD "0.0.0.0"
  port : s.port.toNat =
    ((given.port.map UInt16.toNat) <|> t.port?.bind Toml.natural?).getD 8000
  timeout : s.timeoutMillis.toNat = (t.timeout?.bind Toml.natural?).getD 2000
  logLevel : s.logLevel = (t.logLevel?.bind FileSettings.text?).getD "info"
  /-- A blank validation address counts as none, wherever it comes from. -/
  validationUrl : ∀ url, s.validationUrl = some url ↔
    (given.validationUrl <|> t.validationUrl?.bind FileSettings.text?) = some url ∧
      ∃ c ∈ url.toList, Text.isBlank c = false

/-- Numbers of a range are words of the same value. -/
lemma FileSettings.map_word {W : Type} {word : ℕ → W} {value : W → ℕ} {most : ℕ}
    (hword : ∀ n ≤ most, value (word n) = n) {o : Option Toml} (h : ∀ v ∈ o, v.IsNumber most) :
    (o.bind fun v => (number? most v).map word).map value = o.bind Toml.natural? := by
  cases o with
  | none => rfl
  | some v =>
    have hv : v.IsNumber most := h v rfl
    rw [Option.bind_some, Option.bind_some, number?_of_isNumber hv]
    obtain ⟨n, hn, rfl⟩ := hv
    exact congrArg some (hword n hn)

namespace Settings

lemma isBlank_eq_false_iff {s : String} :
    isBlank s = false ↔ ∃ c ∈ s.toList, Text.isBlank c = false := by
  rw [isBlank, List.isEmpty_eq_false_iff, Ne, Text.trim_eq_nil_iff]
  simp

/-- The settings of a well-typed table are layered one by one. -/
lemma layers_layered {t : Toml.Table} (h : t.WellTyped) (given : Overrides) (source : Source) :
    (layered t.settings given source).Layers t given := by
  have hport : (t.port?.bind FileSettings.port?).map UInt16.toNat = t.port?.bind Toml.natural? := by
    refine FileSettings.map_word (fun n hn => UInt16.toNat_ofNat_of_lt' ?_) h.port
    exact Nat.lt_of_le_of_lt hn (by decide)
  have htimeout : (t.timeout?.bind FileSettings.millis?).map UInt64.toNat =
      t.timeout?.bind Toml.natural? := by
    refine FileSettings.map_word (fun n hn => UInt64.toNat_ofNat_of_lt' ?_) h.timeout
    exact Nat.lt_of_le_of_lt hn (by decide)
  constructor
  · show given.bindAddress.getD (Option.getD _ _) = _
    cases given.bindAddress <;> rfl
  · show UInt16.toNat (given.port.getD (Option.getD _ _)) = _
    rw [← hport]
    cases given.port with
    | some port => rfl
    | none => cases t.port?.bind FileSettings.port? <;> rfl
  · show UInt64.toNat (Option.getD _ _) = _
    rw [← htimeout]
    cases t.timeout?.bind FileSettings.millis? <;> rfl
  · rfl
  · intro url
    show Option.filter _ _ = _ ↔ _
    rw [Option.filter_eq_some_iff, Bool.not_eq_true', isBlank_eq_false_iff]
    rfl

end Settings

/-- What is at the path holds a table just if it is read as that table. -/
lemma FileState.holds_content_iff {bytes : List UInt8} {t : Toml.Table} :
    (FileState.content bytes).Holds t ↔
      ∃ s, Text.Utf8.decode? bytes = some s ∧ Toml.read? s = some t := by
  constructor
  · intro h
    cases h with
    | document read =>
      exact ⟨_, Text.Utf8.decode?_eq_some_iff.mpr (Text.Utf8.encode_eq _).symm, read⟩
  · rintro ⟨s, hs, hread⟩
    rw [Text.Utf8.decode?_eq_some_iff, Text.Utf8.encode_eq] at hs
    rw [hs]
    exact .document hread

lemma Toml.Table.wellTyped_nil : Toml.Table.WellTyped [] := by
  constructor <;> rintro v ⟨⟩

namespace Settings

/-- What is at a path is loaded as the table that it holds. -/
lemma exists_load_eq_ok {path : String} {found : FileState} {given : Overrides} {t : Toml.Table}
    (hholds : found.Holds t) (h : t.WellTyped) :
    ∃ s, load path found given = .ok s ∧ s.Layers t given ∧
      (s.source = .file path ↔ found ≠ .missing) := by
  cases found with
  | missing =>
    cases hholds
    exact ⟨_, rfl, layers_layered h given (.defaults path), by simp [layered]⟩
  | unreadable reason => cases hholds
  | content bytes =>
    obtain ⟨s, hs, hread⟩ := FileState.holds_content_iff.mp hholds
    have hfile : FileSettings.read? s = some t.settings := by
      rw [FileSettings.read?, hread, Option.bind_some]
      exact FileSettings.ofTable?_eq_some_iff.mpr ⟨h, rfl⟩
    refine ⟨layered t.settings given (.file path), ?_, layers_layered h given _, by simp [layered]⟩
    simp only [load, hs, hfile]

/-- Whatever is loaded holds a well-typed table. -/
lemma exists_holds_of_load {path : String} {found : FileState} {given : Overrides} {s : Settings}
    (h : load path found given = .ok s) : ∃ t, found.Holds t ∧ t.WellTyped := by
  cases found with
  | missing => exact ⟨[], .missing, Toml.Table.wellTyped_nil⟩
  | unreadable reason => cases h
  | content bytes =>
    rw [load] at h
    split at h
    · cases h
    · next text htext =>
      split at h
      · cases h
      · next file hfile =>
        obtain ⟨t, hread, htable⟩ := Option.bind_eq_some_iff.mp hfile
        exact ⟨t, FileState.holds_content_iff.mpr ⟨text, htext, hread⟩,
          (FileSettings.ofTable?_eq_some_iff.mp htable).1⟩

/-- **Layering.**  Whatever is at the path of the settings file and whatever the overrides are:
* loading fails just if there is something and it does not hold a document with a well-typed
  table;
* otherwise each setting is decided on its own: the override, else the entry of the table, else the
  default, and a blank validation address counts as none;
* a missing file gives the settings of an empty one, but for their source. -/
theorem load_layers (path : String) (found : FileState) (given : Overrides) :
    ((∃ fault, load path found given = .error fault) ↔
      found ≠ .missing ∧ ¬ ∃ t, found.Holds t ∧ t.WellTyped) ∧
    (∀ t, found.Holds t → t.WellTyped →
      ∃ s, load path found given = .ok s ∧ s.Layers t given ∧
        (s.source = .file path ↔ found ≠ .missing)) ∧
    ∃ s, load path (.content []) given = .ok s ∧
      load path .missing given = .ok { s with source := .defaults path } := by
  refine ⟨⟨?_, ?_⟩, fun t => exists_load_eq_ok, ?_⟩
  · rintro ⟨fault, hfault⟩
    have hno : ¬ ∃ t, found.Holds t ∧ t.WellTyped := by
      rintro ⟨t, hholds, htyped⟩
      obtain ⟨s, hload, -⟩ : ∃ s, load path found given = .ok s ∧ _ :=
        exists_load_eq_ok hholds htyped
      rw [hfault] at hload
      cases hload
    refine ⟨?_, hno⟩
    rintro rfl
    exact hno ⟨[], .missing, Toml.Table.wellTyped_nil⟩
  · rintro ⟨-, hno⟩
    cases hload : load path found given with
    | error fault => exact ⟨fault, rfl⟩
    | ok s => exact absurd (exists_holds_of_load hload) hno
  · exact ⟨layered {} given (.file path), rfl, rfl⟩

/-- A file with a port and a validation address, under overrides with a blank address. -/
theorem load_layers_of_blank_address :
    let text := "port = 9000\n[validation]\nurl = 'http://v'\n".toList
    let table : Toml.Table :=
      [("port", .integer 9000), ("validation", .table .headed [("url", .text "http://v")])]
    let given : Overrides := { bindAddress := some "::1", validationUrl := some " " }
    let found : FileState := .content (text.flatMap String.utf8EncodeChar)
    table.WellTyped ∧ found.Holds table ∧
      (∃ s, load "cfg.toml" found given = .ok s ∧ s.Layers table given ∧
        (s.source = .file "cfg.toml" ↔ found ≠ .missing)) ∧
      ∃ fault, load "cfg.toml" (.unreadable "Is a directory") given = .error fault := by
  intro text table given found
  have hread : Toml.read? text = some table := rfl
  have hholds : found.Holds table := .document hread
  have htyped : table.WellTyped := by
    constructor
    · rintro v ⟨⟩
    · rintro v ⟨⟩
      exact ⟨9000, by decide, rfl⟩
    · rintro v ⟨⟩
      trivial
    · rintro v ⟨⟩
      exact ⟨"http://v", rfl⟩
    · rintro v ⟨⟩
    · rintro v ⟨⟩
    · rintro v ⟨⟩
  obtain ⟨-, hloads, -⟩ := load_layers "cfg.toml" found given
  obtain ⟨hfails, -⟩ := load_layers "cfg.toml" (.unreadable "Is a directory") given
  refine ⟨htyped, hholds, hloads table hholds htyped, hfails.mpr ⟨nofun, ?_⟩⟩
  rintro ⟨t, hno, -⟩
  cases hno

/-- The inner tables need not be written as tables: an array has its entries at their places, and a
date has none. -/
theorem load_of_array_and_date :
    let array := "validation = ['http://arr', 12]".toList
    let date := "validation = 1979-05-27".toList
    let load (text : List Char) : Except Fault Settings :=
      Settings.load "cfg.toml" (.content (text.flatMap String.utf8EncodeChar)) {}
    ((∃ t v, Toml.read? array = some t ∧ t.get? "validation" = some v ∧ ¬ v.IsTable) ∧
      load array = .ok ⟨"0.0.0.0", 8000, some "http://arr", 12, "info", .file "cfg.toml"⟩) ∧
    (∃ t v, Toml.read? date = some t ∧ t.get? "validation" = some v ∧ ¬ v.IsTable) ∧
      load date = .ok ⟨"0.0.0.0", 8000, none, 2000, "info", .file "cfg.toml"⟩ := by
  intro array date load
  have harray : Toml.read? array =
      some [("validation", .array [.text "http://arr", .integer 12])] := rfl
  have hdate : Toml.read? date = some [("validation", .moment "1979-05-27")] := rfl
  exact ⟨⟨⟨_, _, harray, rfl, not_false⟩, rfl⟩, ⟨_, _, hdate, rfl, not_false⟩, rfl⟩

end Settings

end ShowControl
