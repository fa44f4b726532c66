import Mathlib.Logic.Function.Basic
import PageSweep.Proofs.Metrics.Exporter

/-!
# Handles and What They Share

Whoever asks for a series gets a handle: the name, and the place where the observations
are kept. Copies of a handle share the place. A handle is made for the first who asks,
filed under its name, and given to everybody who asks for the name later. To look for a
name and to file a new handle are two actions. In between somebody else may have filed
one, so the second action looks once more.

Here is what these actions do to a store, one by one. What the store then holds, read
through the handles on file, is what a registry holds after the same operations.

## Main definitions

* `Handle`, `Shelf`, `Store`: A handle; the series of a kind; all series and the exporter.
* `Filing`: A handle on file, and whether a series was made for it.
* `Store.look`, `Store.insert`: The two actions of asking for a series.
* `Store.ask`, `Store.observe`: Asking for a series; observing through a handle.
* `Store.registry`: What a store holds.
* `Store.Keeps`: That a store holds what operations put into a registry.
* `Store.Holds`: That the handles given out are on file.

## Theorems

* `ask_eq_insert`: Looking first makes no difference to whoever asks alone.
* `made_insert`: A series is made exactly if there is none on file.
* `look_insert_self`, `look_insert`, `look_observe`: Handles on file stay on file.
* `keeps_found`, `keeps_insert`, `keeps_observe`: Every action does its operation.
* `holds_cons`, `holds_insert`, `holds_observe`: So do the handles given out.
* `mem_listed`, `names_listed`: What is listed.
* `content_of_look`: What is found through a handle on file.
-/

namespace PageSweep

/-- A handle of a series: its name, and the place of what the series holds. -/
structure Handle where
  name : String
  place : Nat
  deriving DecidableEq

/-- The series of a kind. -/
structure Shelf (α : Type) where
  handles : Catalog Handle
  memory : Nat → α
  /-- The first place that is not taken. -/
  next : Nat

namespace Shelf

variable {α : Type} (shelf : Shelf α) (name : String)

/-- The shelf with a new series, unless there is one of this name. -/
def make (fresh : α) : Shelf α :=
  { handles := shelf.handles.adjust name ⟨name, shelf.next⟩ id
    memory := Function.update shelf.memory shelf.next fresh
    next := shelf.next + 1 }

/-- The shelf after a change of what one place holds. -/
def change (place : Nat) (f : α → α) : Shelf α :=
  { shelf with memory := Function.update shelf.memory place (f (shelf.memory place)) }

/-- What the series hold. -/
def contents : Catalog α :=
  shelf.handles.map fun entry => (entry.1, shelf.memory entry.2.place)

/-- That every handle on file has the name under which it is filed, and a place of its own. -/
structure Sound : Prop where
  ascending : shelf.handles.Ascending
  named : ∀ name handle, shelf.handles.find? name = some handle → handle.name = name
  taken : ∀ name handle, shelf.handles.find? name = some handle → handle.place < shelf.next
  apart : ∀ name other handle another, shelf.handles.find? name = some handle →
    shelf.handles.find? other = some another → handle.place = another.place → name = other

theorem find?_contents :
    shelf.contents.find? name
      = (shelf.handles.find? name).map fun handle => shelf.memory handle.place :=
  Catalog.find?_map (fun handle : Handle => shelf.memory handle.place) name shelf.handles

theorem names_contents : shelf.contents.names = shelf.handles.names := by
  simp only [contents, Catalog.names, List.map_map]
  rfl

variable (hsound : shelf.Sound)

include hsound

theorem ascending_contents : shelf.contents.Ascending := by
  unfold contents Catalog.Ascending
  rw [List.pairwise_map]
  exact hsound.ascending

theorem find?_make (fresh : α) (hnew : shelf.handles.find? name = none) (other : String) :
    (shelf.make name fresh).handles.find? other
      = if other = name then some ⟨name, shelf.next⟩ else shelf.handles.find? other := by
  by_cases h : other = name
  · subst h
    rw [if_pos rfl]
    refine (Catalog.find?_adjust_self other _ _ _ hsound.ascending).trans ?_
    rw [hnew, Option.getD_none, id]
  · rw [if_neg h]
    exact Catalog.find?_adjust_of_ne name other _ _ _ h

theorem sound_make (fresh : α) (hnew : shelf.handles.find? name = none) :
    (shelf.make name fresh).Sound := by
  have hfind := shelf.find?_make name hsound fresh hnew
  refine ⟨Catalog.ascending_adjust _ _ _ _ hsound.ascending, fun other handle h => ?_,
    fun other handle h => ?_, fun other third handle another h h' hplace => ?_⟩
  · rw [hfind] at h
    by_cases hname : other = name
    · rw [if_pos hname] at h
      rw [← Option.some.inj h, hname]
    · rw [if_neg hname] at h
      exact hsound.named other handle h
  · rw [hfind] at h
    by_cases hname : other = name
    · rw [if_pos hname] at h
      rw [← Option.some.inj h]
      exact Nat.lt_succ_self _
    · rw [if_neg hname] at h
      exact Nat.lt_succ_of_lt (hsound.taken other handle h)
  · -- The place of the new handle is not taken by any other one.
    rw [hfind] at h h'
    by_cases hname : other = name
    · by_cases hthird : third = name
      · rw [hname, hthird]
      · rw [if_pos hname] at h
        rw [if_neg hthird] at h'
        have htaken := hsound.taken third another h'
        rw [← hplace, ← Option.some.inj h] at htaken
        exact absurd htaken (Nat.lt_irrefl _)
    · by_cases hthird : third = name
      · rw [if_neg hname] at h
        rw [if_pos hthird] at h'
        have htaken := hsound.taken other handle h
        rw [hplace, ← Option.some.inj h'] at htaken
        exact absurd htaken (Nat.lt_irrefl _)
      · rw [if_neg hname] at h
        rw [if_neg hthird] at h'
        exact hsound.apart other third handle another h h' hplace

theorem sound_change (place : Nat) (f : α → α) : (shelf.change place f).Sound :=
  ⟨hsound.ascending, hsound.named, hsound.taken, hsound.apart⟩

theorem contents_make (fresh : α) (hnew : shelf.handles.find? name = none) :
    (shelf.make name fresh).contents = shelf.contents.adjust name fresh id := by
  have hmade := shelf.sound_make name hsound fresh hnew
  have hasc := shelf.ascending_contents hsound
  refine Catalog.ext_of_find? _ _ (ascending_contents _ hmade)
    (Catalog.ascending_adjust _ _ _ _ hasc) fun other => ?_
  rw [find?_contents, shelf.find?_make name hsound fresh hnew]
  by_cases hname : other = name
  · subst hname
    rw [if_pos rfl, Catalog.find?_adjust_self _ _ _ _ hasc, find?_contents, hnew]
    exact congrArg some (Function.update_self _ _ _)
  · -- The memory changes at the new place only, which is not taken by any other handle.
    rw [if_neg hname, Catalog.find?_adjust_of_ne _ _ _ _ _ hname, find?_contents]
    refine Option.map_congr fun handle hhandle => ?_
    exact Function.update_of_ne (Nat.ne_of_lt (hsound.taken other handle hhandle)) _ _

theorem contents_change (handle : Handle) (hfiled : shelf.handles.find? name = some handle)
    (start : α) (f : α → α) :
    (shelf.change handle.place f).contents = shelf.contents.adjust name start f := by
  have hasc := shelf.ascending_contents hsound
  refine Catalog.ext_of_find? _ _ (ascending_contents _ (shelf.sound_change hsound _ f))
    (Catalog.ascending_adjust _ _ _ _ hasc) fun other => ?_
  rw [find?_contents]
  by_cases hname : other = name
  · subst hname
    rw [Catalog.find?_adjust_self _ _ _ _ hasc, find?_contents, hfiled]
    refine (congrArg _ hfiled).trans (congrArg some ?_)
    exact Function.update_self _ _ _
  · -- Handles of other names have other places.
    rw [Catalog.find?_adjust_of_ne _ _ _ _ _ hname, find?_contents]
    refine Option.map_congr fun another hanother => ?_
    refine Function.update_of_ne (fun hplace => hname ?_) _ _
    exact hsound.apart other name another handle hanother hfiled hplace

end Shelf

/-- All series, as they lie in memory, and the exporter. -/
structure Store where
  shelf : (kind : Kind) → Shelf kind.Content
  exporter : Exporter

/-- What comes of filing a handle. -/
structure Filing where
  /-- The handle on file. -/
  handle : Handle
  /-- Whether a series was made for it. -/
  made : Bool
  store : Store

namespace Store

/-- No series yet. -/
def empty : Store := ⟨fun kind => ⟨[], fun _ => kind.fresh, 0⟩, Exporter.empty⟩

section Actions

variable (s : Store) (kind : Kind) (name : String)

/-- The handle on file. -/
def look : Option Handle :=
  (s.shelf kind).handles.find? name

/-- The store with a new series, which is announced to the exporter. -/
def make : Store :=
  ⟨Function.update s.shelf kind ((s.shelf kind).make name kind.fresh),
    s.exporter.apply (kind.ask name)⟩

/-- Files a handle unless there is one, and gives the one on file. A series is made only
for a handle that is filed. -/
def insert : Filing :=
  match s.look kind name with
  | some handle => ⟨handle, false, s⟩
  | none => ⟨⟨name, (s.shelf kind).next⟩, true, s.make kind name⟩

/-- Asks for a series: looks for it, and files it if there is none. -/
def ask : Handle × Store :=
  match s.look kind name with
  | some handle => (handle, s)
  | none => ((s.insert kind name).handle, (s.insert kind name).store)

/-- What is observed through a handle goes to its place and to the exporter. -/
def observe (handle : Handle) (x : kind.Observation) : Store :=
  ⟨Function.update s.shelf kind ((s.shelf kind).change handle.place (kind.observe x)),
    s.exporter.apply (kind.observation handle.name x)⟩

/-- All handles on file, in the order of their names. -/
def listed : List Handle :=
  (s.shelf kind).handles.map Prod.snd

/-- What is found through a handle. -/
def content (handle : Handle) : kind.Content :=
  (s.shelf kind).memory handle.place

/-- What the store holds. -/
def registry : Registry :=
  ⟨(s.shelf .trend).contents, (s.shelf .counter).contents, (s.shelf .check).contents⟩

end Actions

/-- That a store holds what operations put into a registry, and shows what they put into
an exporter. -/
structure Keeps (s : Store) (operations : List Operation) : Prop where
  sound : ∀ kind, (s.shelf kind).Sound
  registry : s.registry = Registry.empty.run operations
  exporter : s.exporter = Exporter.empty.run operations

/-- That all handles given out are on file. -/
def Holds (s : Store) (held : List (Kind × Handle)) : Prop :=
  ∀ kind handle, (kind, handle) ∈ held → s.look kind handle.name = some handle

theorem keeps_empty : Keeps empty [] := by
  refine ⟨fun kind => ⟨List.Pairwise.nil, fun _ _ h => ?_, fun _ _ h => ?_, fun _ _ _ _ h => ?_⟩,
    rfl, rfl⟩
  all_goals exact absurd h (by simp only [empty, Catalog.find?, reduceCtorEq, not_false_eq_true])

section Laws

variable (s : Store) (kind other : Kind) (name otherName : String)

theorem ask_eq_insert :
    s.ask kind name = ((s.insert kind name).handle, (s.insert kind name).store) := by
  unfold ask insert
  cases s.look kind name <;> rfl

theorem insert_of_look (handle : Handle) (h : s.look kind name = some handle) :
    s.insert kind name = ⟨handle, false, s⟩ := by
  unfold insert
  rw [h]

theorem insert_of_look_none (h : s.look kind name = none) :
    s.insert kind name = ⟨⟨name, (s.shelf kind).next⟩, true, s.make kind name⟩ := by
  unfold insert
  rw [h]

/-- A series is made exactly if there is none on file. -/
theorem made_insert : (s.insert kind name).made = (s.look kind name).isNone := by
  unfold insert
  cases s.look kind name <;> rfl

theorem catalog_registry : s.registry.catalog kind = (s.shelf kind).contents := by
  cases kind <;> rfl

theorem find?_registry :
    (s.registry.catalog kind).find? name = (s.look kind name).map (s.content kind) := by
  rw [catalog_registry, Shelf.find?_contents]
  rfl

theorem shelf_make : (s.make kind name).shelf kind = (s.shelf kind).make name kind.fresh :=
  Function.update_self _ _ _

theorem shelf_make_of_ne (hkind : other ≠ kind) :
    (s.make kind name).shelf other = s.shelf other :=
  Function.update_of_ne hkind _ _

theorem shelf_observe (handle : Handle) (x : kind.Observation) :
    (s.observe kind handle x).shelf kind = (s.shelf kind).change handle.place (kind.observe x) :=
  Function.update_self _ _ _

theorem shelf_observe_of_ne (handle : Handle) (x : kind.Observation) (hkind : other ≠ kind) :
    (s.observe kind handle x).shelf other = s.shelf other :=
  Function.update_of_ne hkind _ _

theorem look_observe (handle : Handle) (x : kind.Observation) :
    (s.observe kind handle x).look other otherName = s.look other otherName := by
  unfold look
  by_cases hkind : other = kind
  · subst hkind
    rw [shelf_observe]
    rfl
  · rw [shelf_observe_of_ne s kind other handle x hkind]

variable (operations : List Operation) (hs : s.Keeps operations)

include hs

theorem look_make (hnew : s.look kind name = none) :
    (s.make kind name).look other otherName
      = if (other, otherName) = (kind, name) then some ⟨name, (s.shelf kind).next⟩
        else s.look other otherName := by
  unfold look
  by_cases hkind : other = kind
  · subst hkind
    rw [shelf_make, Shelf.find?_make _ name (hs.sound other) _ hnew]
    simp only [Prod.mk.injEq, true_and]
  · rw [shelf_make_of_ne s kind other name hkind, if_neg fun hc => hkind (congrArg Prod.fst hc)]

theorem look_insert_self :
    (s.insert kind name).store.look kind name = some (s.insert kind name).handle := by
  cases h : s.look kind name with
  | some handle => rw [insert_of_look s kind name handle h, h]
  | none => rw [insert_of_look_none s kind name h, s.look_make kind kind name name operations hs h,
      if_pos rfl]

/-- Handles on file stay on file. -/
theorem look_insert (handle : Handle) (h : s.look other otherName = some handle) :
    (s.insert kind name).store.look other otherName = some handle := by
  cases hnew : s.look kind name with
  | some another => rw [insert_of_look s kind name another hnew, h]
  | none =>
      have hne : ¬ ((other, otherName) = (kind, name)) := by
        intro hc
        rw [Prod.mk.injEq] at hc
        rw [hc.1, hc.2, hnew] at h
        exact absurd h (by simp only [reduceCtorEq, not_false_eq_true])
      rw [insert_of_look_none s kind name hnew,
        s.look_make kind other name otherName operations hs hnew, if_neg hne, h]

theorem look_insert_of_ne (hne : (other, otherName) ≠ (kind, name)) :
    (s.insert kind name).store.look other otherName = s.look other otherName := by
  cases h : s.look kind name with
  | some handle => rw [insert_of_look s kind name handle h]
  | none => rw [insert_of_look_none s kind name h,
      s.look_make kind other name otherName operations hs h, if_neg hne]

theorem name_of_look (handle : Handle) (h : s.look kind name = some handle) :
    handle.name = name :=
  (hs.sound kind).named name handle h

theorem mem_listed (handle : Handle) :
    handle ∈ s.listed kind ↔ ∃ name, s.look kind name = some handle := by
  unfold listed look
  rw [List.mem_map]
  constructor
  · rintro ⟨⟨name, another⟩, hmem, rfl⟩
    exact ⟨name, (Catalog.find?_eq_some_iff _ _ _ (hs.sound kind).ascending).mpr hmem⟩
  · rintro ⟨name, h⟩
    exact ⟨(name, handle), Catalog.mem_of_find? _ _ _ h, rfl⟩

theorem names_listed :
    (s.listed kind).map Handle.name = (s.registry.catalog kind).names := by
  rw [catalog_registry, Shelf.names_contents, listed, List.map_map]
  refine List.map_congr_left fun entry hentry => ?_
  have hsound := hs.sound kind
  exact hsound.named entry.1 entry.2
    ((Catalog.find?_eq_some_iff _ _ _ hsound.ascending).mpr hentry)

theorem look_isSome_iff :
    (∃ handle, s.look kind name = some handle) ↔
      (kind, name) ∈ operations.map Operation.series := by
  have hfind := s.find?_registry kind name
  have hrun := Registry.find?_run operations kind name
  rw [hs.registry] at hfind
  constructor
  · rintro ⟨handle, h⟩
    rw [h] at hfind
    exact ((hrun _).mp hfind).1
  · intro hasked
    rw [(hrun _).mpr ⟨hasked, rfl⟩] at hfind
    cases h : s.look kind name with
    | some handle => exact ⟨handle, rfl⟩
    | none =>
        rw [h] at hfind
        exact absurd hfind (by simp only [Option.map_none, reduceCtorEq, not_false_eq_true])

theorem content_of_look (handle : Handle) (h : s.look kind name = some handle) :
    s.content kind handle = kind.gathered (observationsOf kind name operations) := by
  have hfind := s.find?_registry kind name
  rw [h, hs.registry] at hfind
  exact ((Registry.find?_run operations kind name _).mp hfind).2

theorem keeps_found (handle : Handle) (h : s.look kind name = some handle) :
    s.Keeps (operations ++ [kind.ask name]) := by
  -- What is on file was asked for, so asking again is noticed neither by the
  -- registry nor by the exporter.
  have hasked := (s.look_isSome_iff kind name operations hs).mp ⟨handle, h⟩
  refine ⟨hs.sound, ?_, ?_⟩
  · rw [hs.registry, Registry.run_concat]
    exact (Registry.apply_ask_of_mem operations kind name hasked).symm
  · rw [hs.exporter, Exporter.run_concat]
    exact (Exporter.apply_ask_of_mem operations kind name hasked).symm

theorem keeps_make (hnew : s.look kind name = none) :
    (s.make kind name).Keeps (operations ++ [kind.ask name]) := by
  refine ⟨fun other => ?_, ?_, ?_⟩
  · by_cases hkind : other = kind
    · subst hkind
      rw [shelf_make]
      exact Shelf.sound_make _ name (hs.sound other) _ hnew
    · rw [shelf_make_of_ne s kind other name hkind]
      exact hs.sound other
  · rw [Registry.run_concat, ← hs.registry]
    refine Registry.ext_catalog _ _ fun other => ?_
    rw [catalog_registry]
    by_cases hkind : other = kind
    · subst hkind
      rw [shelf_make, Registry.catalog_ask, catalog_registry]
      exact Shelf.contents_make _ name (hs.sound other) _ hnew
    · rw [shelf_make_of_ne s kind other name hkind,
        Registry.catalog_ask_of_ne _ _ _ _ hkind, catalog_registry]
  · rw [Exporter.run_concat, ← hs.exporter]
    rfl

theorem keeps_insert : (s.insert kind name).store.Keeps (operations ++ [kind.ask name]) := by
  cases h : s.look kind name with
  | some handle =>
      rw [insert_of_look s kind name handle h]
      exact s.keeps_found kind name operations hs handle h
  | none =>
      rw [insert_of_look_none s kind name h]
      exact s.keeps_make kind name operations hs h

theorem keeps_observe (handle : Handle) (h : s.look kind handle.name = some handle)
    (x : kind.Observation) :
    (s.observe kind handle x).Keeps (operations ++ [kind.observation handle.name x]) := by
  refine ⟨fun other => ?_, ?_, ?_⟩
  · by_cases hkind : other = kind
    · subst hkind
      rw [shelf_observe]
      exact Shelf.sound_change _ (hs.sound other) _ _
    · rw [shelf_observe_of_ne s kind other handle x hkind]
      exact hs.sound other
  · rw [Registry.run_concat, ← hs.registry]
    refine Registry.ext_catalog _ _ fun other => ?_
    rw [catalog_registry]
    by_cases hkind : other = kind
    · subst hkind
      rw [shelf_observe, Registry.catalog_observation, catalog_registry]
      exact Shelf.contents_change _ handle.name (hs.sound other) handle h _ _
    · rw [shelf_observe_of_ne s kind other handle x hkind,
        Registry.catalog_observation_of_ne _ _ _ _ _ hkind, catalog_registry]
  · rw [Exporter.run_concat, ← hs.exporter]
    rfl

variable (held : List (Kind × Handle)) (hheld : s.Holds held)

include hheld

theorem holds_cons (handle : Handle) (h : s.look kind name = some handle) :
    s.Holds ((kind, handle) :: held) := by
  intro other another hmem
  rcases List.mem_cons.mp hmem with heq | hold
  · rw [Prod.mk.injEq] at heq
    rw [heq.1, heq.2, s.name_of_look kind name operations hs handle h]
    exact h
  · exact hheld other another hold

theorem holds_insert :
    (s.insert kind name).store.Holds ((kind, (s.insert kind name).handle) :: held) := by
  have hold : (s.insert kind name).store.Holds held := fun other another hmem =>
    s.look_insert kind other name another.name operations hs another (hheld other another hmem)
  exact holds_cons _ kind name _ (s.keeps_insert kind name operations hs) held hold _
    (s.look_insert_self kind name operations hs)

omit hs in
theorem holds_observe (handle : Handle) (x : kind.Observation) :
    (s.observe kind handle x).Holds held := by
  intro other another hmem
  rw [s.look_observe kind other another.name handle x]
  exact hheld other another hmem

end Laws

end Store

end PageSweep
