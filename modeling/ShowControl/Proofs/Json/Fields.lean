/-
The order of the members of an object.

As long as no name comes twice, it does not matter in which order the members of an object stand:
every look-up finds the same (`Fields.get?_of_perm`).  That goes in particular for the order in
which a reader keeps them (`Fields.perm_ofMembers`): that of their names, each of them once
(`Fields.sorted_ofMembers`).
-/
import Mathlib.Data.List.Nodup
import Mathlib.Data.String.Basic
import Mathlib.Tactic.Lemma
import ShowControl.Json.Value

namespace ShowControl.Fields

/-- The names of the fields. -/
def names (fields : Fields) : List String := fields.map (·.1)

variable {fields fields' : Fields} {name : String} {value : Json}

@[simp] lemma names_cons (field : String × Json) (fields : Fields) :
    names (field :: fields) = field.1 :: names fields := rfl

lemma mem_names_of_mem (h : (name, value) ∈ fields) : name ∈ fields.names :=
  List.mem_map_of_mem (f := (·.1)) h

lemma nodup_names_of_perm (hperm : fields.Perm fields') (hnd : fields'.names.Nodup) :
    fields.names.Nodup := by
  have hnames : fields.names.Perm fields'.names := hperm.map _
  exact hnames.nodup_iff.mpr hnd

/-- Among different names a look-up finds the one field of its name. -/
lemma get?_eq_some_iff (hnd : fields.names.Nodup) :
    fields.get? name = some value ↔ (name, value) ∈ fields := by
  induction fields with
  | nil => simp [get?]
  | cons field fields ih =>
    obtain ⟨k, v⟩ := field
    rw [names_cons, List.nodup_cons] at hnd
    rw [get?, List.lookup_cons, List.mem_cons, Prod.mk.injEq]
    by_cases hk : name = k
    · subst hk
      simp only [beq_self_eq_true, Option.some.injEq]
      constructor
      · rintro rfl
        exact Or.inl ⟨trivial, rfl⟩
      · rintro (⟨-, rfl⟩ | hmem)
        · rfl
        · exact absurd (mem_names_of_mem hmem) hnd.1
    · simp only [beq_false_of_ne hk, hk, false_and, false_or]
      exact ih hnd.2

/-- The order of the fields does not matter to a look-up. -/
lemma get?_of_perm (hperm : fields.Perm fields') (hnd : fields'.names.Nodup) (name : String) :
    fields.get? name = fields'.get? name := by
  apply Option.ext
  intro value
  rw [get?_eq_some_iff (nodup_names_of_perm hperm hnd), get?_eq_some_iff hnd, hperm.mem_iff]

/-- Where no name comes twice, the last field of each name is every field. -/
lemma keepLast_eq_self (hnd : fields.names.Nodup) : fields.keepLast = fields := by
  induction fields with
  | nil => rfl
  | cons field fields ih =>
    rw [names_cons, List.nodup_cons] at hnd
    have ih := ih hnd.2
    rw [keepLast] at ih
    rw [keepLast, List.foldr_cons, ih]
    cases fields with
    | nil => rfl
    | cons next rest =>
      have hne : field.1 ≠ next.1 := by
        intro heq
        exact hnd.1 (heq ▸ List.mem_cons_self)
      simp [hne]

/-- A reader keeps the members of different names, all of them. -/
lemma perm_ofMembers (hnd : fields.names.Nodup) : (ofMembers fields).Perm fields := by
  have hsort := List.mergeSort_perm fields fun a b => decide (a.1 ≤ b.1)
  rw [ofMembers, keepLast_eq_self (nodup_names_of_perm hsort hnd)]
  exact hsort

/-! ### The order in which they are kept -/

/-- The fields stand in the order of their names, and no name comes twice. -/
def Sorted (fields : Fields) : Prop := fields.Pairwise fun f g => f.1 < g.1

lemma Sorted.nodup_names (h : Sorted fields) : fields.names.Nodup := by
  rw [names, List.Nodup, List.pairwise_map]
  exact List.Pairwise.imp (fun hlt => ne_of_lt hlt) h

/-- Fields that are sorted are kept as they are. -/
lemma Sorted.ofMembers_eq (h : Sorted fields) : ofMembers fields = fields := by
  have hsort : fields.mergeSort (fun a b => decide (a.1 ≤ b.1)) = fields := by
    refine List.mergeSort_of_pairwise (List.Pairwise.imp ?_ h)
    intro f g hlt
    exact decide_eq_true (le_of_lt hlt)
  rw [ofMembers, hsort, keepLast_eq_self h.nodup_names]

lemma keepLast_cons (field : String × Json) (fields : Fields) :
    keepLast (field :: fields) = keepLast fields ∨
      keepLast (field :: fields) = field :: keepLast fields ∧
        ∀ next ∈ (keepLast fields).head?, field.1 ≠ next.1 := by
  rw [keepLast, List.foldr_cons, ← keepLast]
  cases keepLast fields with
  | nil => exact .inr ⟨rfl, by simp⟩
  | cons next rest =>
    by_cases heq : field.1 = next.1
    · exact .inl (if_pos heq)
    · refine .inr ⟨if_neg heq, ?_⟩
      rintro _ ⟨⟩
      exact heq

lemma keepLast_subset (fields : Fields) : keepLast fields ⊆ fields := by
  induction fields with
  | nil => exact List.Subset.refl _
  | cons field fields ih =>
    rcases keepLast_cons field fields with heq | ⟨heq, -⟩
    · rw [heq]
      exact List.subset_cons_of_subset field ih
    · rw [heq]
      exact List.cons_subset_cons field ih

/-- Of fields in the order of their names, the last ones of each name are sorted. -/
lemma sorted_keepLast (h : fields.Pairwise fun f g => f.1 ≤ g.1) : Sorted (keepLast fields) := by
  induction fields with
  | nil => exact .nil
  | cons field fields ih =>
    rw [List.pairwise_cons] at h
    have hsorted := ih h.2
    rcases keepLast_cons field fields with heq | ⟨heq, hne⟩
    · rwa [heq]
    · rw [heq]
      refine List.Pairwise.cons ?_ hsorted
      intro g hg
      cases hrest : keepLast fields with
      | nil =>
        rw [hrest] at hg
        cases hg
      | cons next rest =>
        have hle : field.1 ≤ next.1 :=
          h.1 next (keepLast_subset fields (by rw [hrest]; exact List.mem_cons_self))
        have hlt : field.1 < next.1 := lt_of_le_of_ne hle (hne next (by rw [hrest]; rfl))
        rw [hrest] at hg hsorted
        rcases List.mem_cons.mp hg with rfl | hg
        · exact hlt
        · exact hlt.trans ((List.pairwise_cons.mp hsorted).1 g hg)

/-- Members are kept sorted. -/
lemma sorted_ofMembers (fields : Fields) : Sorted (ofMembers fields) := by
  refine sorted_keepLast ?_
  have hsort : (fields.mergeSort fun a b => decide (a.1 ≤ b.1)).Pairwise
      fun a b => decide (a.1 ≤ b.1) = true := by
    refine List.pairwise_mergeSort (fun a b c hab hbc => ?_) (fun a b => ?_) fields
    · exact decide_eq_true (le_trans (of_decide_eq_true hab) (of_decide_eq_true hbc))
    · simpa using le_total a.1 b.1
  exact hsort.imp of_decide_eq_true

lemma ofMembers_subset (fields : Fields) : ofMembers fields ⊆ fields := fun _ hf =>
  (List.mergeSort_perm fields _).mem_iff.mp (keepLast_subset _ hf)

end ShowControl.Fields
