import Mathlib.Data.List.Forall2
import PageSweep.Catalog

/-!
# Laws of Catalogs

What changing one entry does to a catalog: the entry itself is changed, every other
one is still found with its old value, and the names stay in ascending order.

A catalog is known by what is found in it: if the same is found in two catalogs under
every name, they are one, and if alike values are found, they are alike entry by entry.

A change starts from the value already filed, and that is only right when the names
ascend: in a disordered list the walk may stop before it comes to the name. Filing a
value outright needs no order, since the old value does not matter.

## Theorems

* `find?_adjust_of_ne`: Changing an entry leaves all others alone.
* `ascending_adjust`: Changing an entry keeps the names ascending.
* `find?_adjust_self`: The changed entry.
* `find?_insert_self`, `find?_insert_of_ne`: Filing a value.
* `find?_eq_some_iff`: What is found is what is listed.
* `found_adjust`: What is found after a change.
* `forall₂_of_find?`, `ext_of_find?`: Catalogs in which alike values, or the same ones,
  are found.
-/

namespace PageSweep

namespace Catalog

variable {α : Type}

theorem find?_cons_self (name : String) (value : α) (rest : Catalog α) :
    find? name ((name, value) :: rest) = some value :=
  if_pos rfl

theorem find?_adjust_of_ne (name other : String) (start : α) (change : α → α)
    (entries : Catalog α) (hne : other ≠ name) :
    (entries.adjust name start change).find? other = entries.find? other := by
  have hne' : ¬ (name = other) := fun hc => hne hc.symm
  induction entries with
  | nil => simp only [adjust, find?, if_neg hne']
  | cons entry rest ih =>
      rcases entry with ⟨key, value⟩
      simp only [adjust]
      -- A change stops the walk at one of two places: at the name itself, or at
      -- the first name behind it. Before that, it goes on as on the rest.
      by_cases hkey : key = name
      · rw [if_pos hkey, hkey]
        simp only [find?, if_neg hne']
      · rw [if_neg hkey]
        by_cases hlt : name < key
        · rw [if_pos hlt]
          simp only [find?, if_neg hne']
        · rw [if_neg hlt]
          simp only [find?, ih]

/-- Every name of the changed catalog is the changed one or was there before. -/
theorem mem_adjust (name : String) (start : α) (change : α → α) (entries : Catalog α)
    (entry : String × α) (hmem : entry ∈ entries.adjust name start change) :
    entry.1 = name ∨ entry ∈ entries := by
  induction entries with
  | nil =>
      simp only [adjust, List.mem_singleton] at hmem
      exact Or.inl (by rw [hmem])
  | cons first rest ih =>
      rcases first with ⟨key, value⟩
      simp only [adjust] at hmem
      by_cases hkey : key = name
      · rw [if_pos hkey] at hmem
        rcases List.mem_cons.mp hmem with h | h
        · exact Or.inl (by rw [h]; exact hkey)
        · exact Or.inr (List.mem_cons_of_mem _ h)
      · rw [if_neg hkey] at hmem
        by_cases hlt : name < key
        · rw [if_pos hlt] at hmem
          rcases List.mem_cons.mp hmem with h | h
          · exact Or.inl (by rw [h])
          · exact Or.inr h
        · rw [if_neg hlt] at hmem
          rcases List.mem_cons.mp hmem with h | h
          · exact Or.inr (by rw [h]; exact List.mem_cons_self)
          · exact (ih h).imp_right (List.mem_cons_of_mem _)

theorem ascending_adjust (name : String) (start : α) (change : α → α) (entries : Catalog α)
    (hasc : entries.Ascending) : (entries.adjust name start change).Ascending := by
  induction entries with
  | nil => exact List.pairwise_singleton _ _
  | cons entry rest ih =>
      rcases entry with ⟨key, value⟩
      rcases List.pairwise_cons.mp hasc with ⟨hfirst, hrest⟩
      simp only [adjust]
      by_cases hkey : key = name
      · rw [if_pos hkey]
        exact List.pairwise_cons.mpr ⟨hfirst, hrest⟩
      · rw [if_neg hkey]
        by_cases hlt : name < key
        · -- The new name comes before the first one, so before all of them.
          rw [if_pos hlt]
          refine List.pairwise_cons.mpr ⟨fun other hother => ?_, hasc⟩
          rcases List.mem_cons.mp hother with h | h
          · rw [h]
            exact hlt
          · exact String.lt_trans hlt (hfirst other h)
        · rw [if_neg hlt]
          refine List.pairwise_cons.mpr ⟨fun other hother => ?_, ih hrest⟩
          rcases mem_adjust name start change rest other hother with h | h
          · rw [h]
            -- The new name comes later than the first one, or it would have been
            -- filed in front of it.
            have hle : key ≤ name := String.not_lt.mp hlt
            exact Std.lt_of_le_of_ne hle hkey
          · exact hfirst other h

/-- A name that comes before the first one is not filed at all. -/
theorem find?_eq_none_of_lt (name : String) (entries : Catalog α)
    (hlt : ∀ entry ∈ entries, name < entry.1) : entries.find? name = none := by
  induction entries with
  | nil => rfl
  | cons entry rest ih =>
      rcases entry with ⟨key, value⟩
      have hne : ¬ (key = name) :=
        fun hc => String.ne_of_lt (hlt (key, value) List.mem_cons_self) hc.symm
      -- No entry behind has the name either, since all of them come later.
      simp only [find?, if_neg hne]
      exact ih fun other hother => hlt other (List.mem_cons_of_mem _ hother)

theorem find?_adjust_self (name : String) (start : α) (change : α → α) (entries : Catalog α)
    (hasc : entries.Ascending) :
    (entries.adjust name start change).find? name
      = some (change ((entries.find? name).getD start)) := by
  induction entries with
  | nil => simp only [adjust, find?, if_true, Option.getD_none]
  | cons entry rest ih =>
      rcases entry with ⟨key, value⟩
      rcases List.pairwise_cons.mp hasc with ⟨hfirst, hrest⟩
      simp only [adjust]
      by_cases hkey : key = name
      · rw [if_pos hkey]
        simp only [find?, if_pos hkey, Option.getD_some]
      · rw [if_neg hkey]
        by_cases hlt : name < key
        · -- The walk stops here, and the ascending names say that nothing is missed.
          rw [if_pos hlt]
          have hnone : find? name rest = none :=
            find?_eq_none_of_lt name rest fun other hother =>
              String.lt_trans hlt (hfirst other hother)
          simp only [find?, if_true, if_neg hkey, hnone, Option.getD_none]
        · rw [if_neg hlt]
          simp only [find?, if_neg hkey]
          exact ih hrest

theorem find?_insert_self (name : String) (value : α) (entries : Catalog α) :
    (entries.insert name value).find? name = some value := by
  induction entries with
  | nil => simp only [insert, adjust, find?, if_true]
  | cons entry rest ih =>
      rcases entry with ⟨key, old⟩
      simp only [insert, adjust] at ih ⊢
      -- Here the old value does not matter, so the order of the names does not
      -- either.
      by_cases hkey : key = name
      · rw [if_pos hkey]
        simp only [find?, if_pos hkey]
      · rw [if_neg hkey]
        by_cases hlt : name < key
        · rw [if_pos hlt]
          simp only [find?, if_true]
        · rw [if_neg hlt]
          simp only [find?, if_neg hkey]
          exact ih

theorem find?_insert_of_ne (name other : String) (value : α) (entries : Catalog α)
    (hne : other ≠ name) : (entries.insert name value).find? other = entries.find? other :=
  find?_adjust_of_ne name other value _ entries hne

theorem mem_of_find? (name : String) (value : α) (entries : Catalog α)
    (h : entries.find? name = some value) : (name, value) ∈ entries := by
  induction entries with
  | nil => exact absurd h (by simp only [find?, reduceCtorEq, not_false_eq_true])
  | cons entry rest ih =>
      rcases entry with ⟨key, first⟩
      by_cases hkey : key = name
      · simp only [find?, if_pos hkey, Option.some.injEq] at h
        rw [hkey, h]
        exact List.mem_cons_self
      · simp only [find?, if_neg hkey] at h
        exact List.mem_cons_of_mem _ (ih h)

theorem find?_eq_some_iff (name : String) (value : α) (entries : Catalog α)
    (hasc : entries.Ascending) : entries.find? name = some value ↔ (name, value) ∈ entries := by
  refine ⟨mem_of_find? name value entries, fun hmem => ?_⟩
  induction entries with
  | nil => exact absurd hmem List.not_mem_nil
  | cons entry rest ih =>
      rcases entry with ⟨key, first⟩
      rcases List.pairwise_cons.mp hasc with ⟨hfirst, hrest⟩
      rcases List.mem_cons.mp hmem with h | h
      · rw [Prod.mk.injEq] at h
        simp only [find?, if_pos h.1.symm, h.2]
      · -- The first name comes before the one looked for, so it is another one.
        have hne : ¬ (key = name) := String.ne_of_lt (hfirst _ h)
        simp only [find?, if_neg hne]
        exact ih hrest h

/-- A changed entry is there afterwards, and so is what was there before. -/
theorem found_adjust (name other : String) (start : α) (change : α → α)
    (entries : Catalog α) (hasc : entries.Ascending) :
    (∃ value, (entries.adjust name start change).find? other = some value) ↔
      (∃ value, entries.find? other = some value) ∨ other = name := by
  by_cases h : other = name
  · rw [h, find?_adjust_self name start change entries hasc]
    exact ⟨fun _ => Or.inr rfl, fun _ => ⟨_, rfl⟩⟩
  · rw [find?_adjust_of_ne name other start change entries h]
    exact ⟨Or.inl, fun hor => hor.resolve_right h⟩

theorem pairwise_names (entries : Catalog α) (hasc : entries.Ascending) :
    entries.names.Pairwise (· < ·) :=
  List.pairwise_map.mpr hasc

theorem find?_map {β : Type} (f : α → β) (name : String) (entries : Catalog α) :
    find? name (entries.map fun entry => (entry.1, f entry.2)) = (entries.find? name).map f := by
  induction entries with
  | nil => rfl
  | cons entry rest ih =>
      rcases entry with ⟨key, value⟩
      by_cases hkey : key = name
      · simp only [List.map_cons, find?, if_pos hkey, Option.map_some]
      · simp only [List.map_cons, find?, if_neg hkey, ih]

/-- No name that is found comes before the first one. -/
theorem le_of_find? (key name : String) (first value : α) (rest : Catalog α)
    (hasc : Ascending ((key, first) :: rest))
    (h : find? name ((key, first) :: rest) = some value) : key ≤ name := by
  rcases List.mem_cons.mp (mem_of_find? name value _ h) with h | h
  · rw [Prod.mk.injEq] at h
    exact Std.le_of_eq h.1.symm
  · exact Std.le_of_lt ((List.pairwise_cons.mp hasc).1 _ h)

/-- Catalogs are alike entry by entry if what is found in them is alike. -/
theorem forall₂_of_find? {β : Type} (related : α → β → Prop) (left : Catalog α)
    (right : Catalog β) (hleft : left.Ascending) (hright : right.Ascending)
    (h : ∀ name, Option.Rel related (left.find? name) (right.find? name)) :
    List.Forall₂ (fun a b => a.1 = b.1 ∧ related a.2 b.2) left right := by
  induction left generalizing right with
  | nil =>
      cases right with
      | nil => exact List.Forall₂.nil
      | cons entry rest =>
          have hfirst := h entry.1
          rw [find?_cons_self] at hfirst
          nomatch hfirst
  | cons entry rest ih =>
      rcases entry with ⟨key, value⟩
      cases right with
      | nil =>
          have hfirst := h key
          rw [find?_cons_self] at hfirst
          nomatch hfirst
      | cons other others =>
          rcases other with ⟨otherKey, otherValue⟩
          -- Each of the first names is found in the other catalog, so neither
          -- comes before the other.
          have hkey : key = otherKey := by
            have hle : key ≤ otherKey := by
              have hother := h otherKey
              rw [find?_cons_self] at hother
              cases hfound : find? otherKey ((key, value) :: rest) with
              | none => rw [hfound] at hother; nomatch hother
              | some found => exact le_of_find? key otherKey value found rest hleft hfound
            have hge : otherKey ≤ key := by
              have hthis := h key
              rw [find?_cons_self] at hthis
              cases hfound : find? key ((otherKey, otherValue) :: others) with
              | none => rw [hfound] at hthis; nomatch hthis
              | some found => exact le_of_find? otherKey key otherValue found others hright hfound
            exact String.le_antisymm hle hge
          subst hkey
          have hvalue := h key
          rw [find?_cons_self, find?_cons_self] at hvalue
          rcases List.pairwise_cons.mp hleft with ⟨hfirst, hrest⟩
          rcases List.pairwise_cons.mp hright with ⟨hotherFirst, hothers⟩
          cases hvalue with
          | some hrelated =>
              refine List.Forall₂.cons ⟨rfl, hrelated⟩ (ih others hrest hothers fun name => ?_)
              by_cases hname : key = name
              · rw [← hname, find?_eq_none_of_lt key rest hfirst,
                  find?_eq_none_of_lt key others hotherFirst]
                exact Option.Rel.none
              · have hwhole := h name
                simp only [find?, if_neg hname] at hwhole
                exact hwhole

theorem ext_of_find? (left right : Catalog α) (hleft : left.Ascending) (hright : right.Ascending)
    (h : ∀ name, left.find? name = right.find? name) : left = right := by
  have halike := forall₂_of_find? (· = ·) left right hleft hright fun name => by
    rw [h name]
    cases right.find? name with
    | none => exact Option.Rel.none
    | some value => exact Option.Rel.some rfl
  have hsame := halike.imp fun a b hab => Prod.ext hab.1 hab.2
  rwa [List.forall₂_eq_eq_eq] at hsame

/-- Asking for an entry before it is changed makes no difference. -/
theorem adjust_adjust (name : String) (start : α) (change : α → α) (entries : Catalog α)
    (hasc : entries.Ascending) :
    (entries.adjust name start id).adjust name start change = entries.adjust name start change := by
  have hasked := ascending_adjust name start id entries hasc
  refine ext_of_find? _ _ (ascending_adjust _ _ _ _ hasked) (ascending_adjust _ _ _ _ hasc)
    fun other => ?_
  by_cases hname : other = name
  · subst hname
    rw [find?_adjust_self _ _ _ _ hasked, find?_adjust_self _ _ _ _ hasc,
      find?_adjust_self _ _ _ _ hasc, Option.getD_some, id]
  · rw [find?_adjust_of_ne _ _ _ _ _ hname, find?_adjust_of_ne _ _ _ _ _ hname,
      find?_adjust_of_ne _ _ _ _ _ hname]

end Catalog

end PageSweep
