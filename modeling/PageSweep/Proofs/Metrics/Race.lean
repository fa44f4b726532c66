import PageSweep.Proofs.Interleaving
import PageSweep.Proofs.Metrics.Store

/-!
# Asking at the Same Time

Asking for a series takes two actions: to look for it, and, if it is not there, to file
it. Between the two, others may do as they like. So two callers may both look in vain
for one name and then both set out to file it. The second one finds the series of the
first, because filing looks once more, and so nobody ever gets a handle that others do
not see.

Any number of callers is at work here, and each action may be followed by an action of
any other caller. What holds them together is that every handle given out is the one on
file, and that a series was made for every handle on file, once. A caller who has looked
in vain knows nothing: by the time it files, the series may be there.

## Main definitions

* `Race`, `Race.Step`: Callers at a store, and what each action does.
* `Race.Returned`: A handle that was given to somebody who asked for the name.
* `Race.Valid`: Handles given out are on file, and were made once.

## Theorems

* `valid_step`, `valid_steps`: Every action keeps a race valid, and so does every run.
* `look_step`, `look_steps`: Handles on file stay on file.
* `race_lossless`: No observation gets lost.
-/

namespace PageSweep

/-- Callers that share a store. -/
structure Race (ι : Type) where
  store : Store
  /-- What a caller has looked for in vain and is about to file. -/
  pending : ι → Option (Kind × String)
  given : List (Kind × Handle)

namespace Race

open Interleaving

/-- The actions of callers. -/
inductive Act where
  | found (kind : Kind) (name : String) (handle : Handle)
  | missed (kind : Kind) (name : String)
  /-- With what filing said: whether it made a series, or found one that somebody else
  had made in between. -/
  | inserted (kind : Kind) (name : String) (handle : Handle) (made : Bool)
  | observed (kind : Kind) (handle : Handle) (x : kind.Observation)

namespace Act

/-- What an action does to the registry. Looking in vain does nothing. -/
def operations : Act → List Operation
  | .found kind name _ => [kind.ask name]
  | .missed _ _ => []
  | .inserted kind name _ _ => [kind.ask name]
  | .observed kind handle x => [kind.observation handle.name x]

/-- Whether a series was made. -/
def makes (kind : Kind) (name : String) : Act → Bool
  | .inserted other otherName _ made => decide ((other, otherName) = (kind, name)) && made
  | _ => false

/-- That an action gives a handle to somebody who asked for the name. -/
def Gives (kind : Kind) (name : String) (handle : Handle) : Act → Prop
  | .found other otherName another => (other, otherName, another) = (kind, name, handle)
  | .inserted other otherName another _ => (other, otherName, another) = (kind, name, handle)
  | _ => False

end Act

section Runs

variable {ι : Type}

/-- Nobody has asked for anything. -/
def start : Race ι := ⟨Store.empty, fun _ => none, []⟩

/-- The actions of a caller. Whoever has looked in vain goes on to file; whoever has been
given a handle, or a copy of one that was given to somebody, can observe through it. -/
inductive Step [DecidableEq ι] : Race ι → ι × Act → Race ι → Prop where
  | found (race : Race ι) (i : ι) (kind : Kind) (name : String) (handle : Handle)
      (hidle : race.pending i = none) (hlook : race.store.look kind name = some handle) :
      Step race (i, .found kind name handle)
        { race with given := (kind, handle) :: race.given }
  | missed (race : Race ι) (i : ι) (kind : Kind) (name : String)
      (hidle : race.pending i = none) (hlook : race.store.look kind name = none) :
      Step race (i, .missed kind name)
        { race with pending := Function.update race.pending i (some (kind, name)) }
  | insert (race : Race ι) (i : ι) (kind : Kind) (name : String)
      (hpending : race.pending i = some (kind, name)) :
      Step race
        (i, .inserted kind name (race.store.insert kind name).handle
          (race.store.insert kind name).made)
        ⟨(race.store.insert kind name).store, Function.update race.pending i none,
          (kind, (race.store.insert kind name).handle) :: race.given⟩
  | observe (race : Race ι) (i : ι) (kind : Kind) (handle : Handle) (x : kind.Observation)
      (hgiven : (kind, handle) ∈ race.given) :
      Step race (i, .observed kind handle x)
        { race with store := race.store.observe kind handle x }

/-- That a handle was given to somebody who asked for the name. -/
def Returned (trace : List (ι × Act)) (kind : Kind) (name : String) (handle : Handle) : Prop :=
  ∃ entry ∈ trace, entry.2.Gives kind name handle

/-- That the store holds what the actions did, that the handles given out are those on
file, and that a series was made for each handle on file and for no other one. -/
structure Valid (trace : List (ι × Act)) (race : Race ι) : Prop where
  keeps : race.store.Keeps (reports Act.operations trace)
  given : race.store.Holds race.given
  returned : ∀ kind name handle, Returned trace kind name handle →
    race.store.look kind name = some handle
  made : ∀ kind name, trace.countP (fun entry => entry.2.makes kind name)
    = if (race.store.look kind name).isSome then 1 else 0

theorem valid_start : Valid [] (start : Race ι) := by
  refine ⟨Store.keeps_empty, fun _ _ h => absurd h List.not_mem_nil, ?_, fun _ _ => rfl⟩
  rintro kind name handle ⟨entry, hmem, -⟩
  exact absurd hmem List.not_mem_nil

section Actions

variable (trace : List (ι × Act)) (race : Race ι) (hrace : Valid trace race) (i : ι) (kind : Kind)

theorem returned_concat (entry : ι × Act) (name : String) (handle : Handle) :
    Returned (trace ++ [entry]) kind name handle ↔
      Returned trace kind name handle ∨ entry.2.Gives kind name handle := by
  unfold Returned
  simp only [List.mem_append, List.mem_singleton, or_and_right, exists_or, exists_eq_left]

theorem keeps_concat (act : Act) (store : Store)
    (hkeeps : store.Keeps (reports Act.operations trace ++ act.operations)) :
    store.Keeps (reports Act.operations (trace ++ [(i, act)])) := by
  rw [reports_append, reports_singleton]
  exact hkeeps

/-- An action that makes no series leaves the count of the series made. -/
theorem made_concat (act : Act) (name : String) (h : act.makes kind name = false) :
    (trace ++ [(i, act)]).countP (fun entry => entry.2.makes kind name)
      = trace.countP (fun entry => entry.2.makes kind name) := by
  rw [List.countP_append, List.countP_cons_of_neg (by simp only [h, Bool.false_eq_true,
    not_false_eq_true]), List.countP_nil, Nat.add_zero]

include hrace

theorem valid_found (name : String) (handle : Handle)
    (hlook : race.store.look kind name = some handle) :
    Valid (trace ++ [(i, .found kind name handle)])
      { race with given := (kind, handle) :: race.given } := by
  refine ⟨?_, ?_, fun other otherName another hreturned => ?_, fun other otherName => ?_⟩
  · exact keeps_concat trace i _ _ (race.store.keeps_found kind name _ hrace.keeps handle hlook)
  · exact race.store.holds_cons kind name _ hrace.keeps _ hrace.given handle hlook
  · rcases (returned_concat trace other _ otherName another).mp hreturned with hold | hgives
    · exact hrace.returned other otherName another hold
    · simp only [Act.Gives, Prod.mk.injEq] at hgives
      rw [← hgives.1, ← hgives.2.1, ← hgives.2.2]
      exact hlook
  · rw [made_concat trace i other _ otherName rfl]
    exact hrace.made other otherName

theorem valid_missed (name : String) (pending : ι → Option (Kind × String)) :
    Valid (trace ++ [(i, .missed kind name)]) { race with pending := pending } := by
  refine ⟨?_, hrace.given, fun other otherName another hreturned => ?_, fun other otherName => ?_⟩
  · refine keeps_concat trace i _ _ ?_
    rw [Act.operations, List.append_nil]
    exact hrace.keeps
  · rcases (returned_concat trace other _ otherName another).mp hreturned with hold | hgives
    · exact hrace.returned other otherName another hold
    · exact hgives.elim
  · rw [made_concat trace i other _ otherName rfl]
    exact hrace.made other otherName

theorem valid_insert (name : String) (pending : ι → Option (Kind × String)) :
    Valid
      (trace ++ [(i, .inserted kind name (race.store.insert kind name).handle
        (race.store.insert kind name).made)])
      ⟨(race.store.insert kind name).store, pending,
        (kind, (race.store.insert kind name).handle) :: race.given⟩ := by
  have hkeeps := race.store.keeps_insert kind name _ hrace.keeps
  have hself := race.store.look_insert_self kind name _ hrace.keeps
  have hgiven := race.store.holds_insert kind name _ hrace.keeps _ hrace.given
  refine ⟨keeps_concat trace i _ _ hkeeps, hgiven, fun other otherName another hreturned => ?_,
    fun other otherName => ?_⟩
  · rcases (returned_concat trace other _ otherName another).mp hreturned with hold | hgives
    · exact race.store.look_insert kind other name otherName _ hrace.keeps another
        (hrace.returned other otherName another hold)
    · simp only [Act.Gives, Prod.mk.injEq] at hgives
      rw [← hgives.1, ← hgives.2.1, ← hgives.2.2]
      exact hself
  · by_cases hseries : (other, otherName) = (kind, name)
    · -- The series is there now. It was made by this action unless it was there before.
      rw [Prod.mk.injEq] at hseries
      rcases hseries with ⟨rfl, rfl⟩
      rw [List.countP_append, hrace.made other otherName, hself, Option.isSome_some, if_pos rfl,
        Store.made_insert]
      cases race.store.look other otherName <;> simp [Act.makes]
    · have hmakes : (Act.inserted kind name (race.store.insert kind name).handle
          (race.store.insert kind name).made).makes other otherName = false := by
        have hne : ¬ ((kind, name) = (other, otherName)) := fun hc => hseries hc.symm
        simp only [Act.makes, decide_eq_false hne, Bool.false_and]
      rw [made_concat trace i other _ otherName hmakes, hrace.made other otherName,
        race.store.look_insert_of_ne kind other name otherName _ hrace.keeps hseries]

theorem valid_observe (handle : Handle) (x : kind.Observation)
    (hgiven : (kind, handle) ∈ race.given) :
    Valid (trace ++ [(i, .observed kind handle x)])
      { race with store := race.store.observe kind handle x } := by
  -- An observation changes what is kept at a place, but no handle.
  have hlook := fun other otherName => race.store.look_observe kind other otherName handle x
  have hfiled := hrace.given kind handle hgiven
  refine ⟨?_, ?_, fun other otherName another hreturned => ?_, fun other otherName => ?_⟩
  · exact keeps_concat trace i _ _ (race.store.keeps_observe kind _ hrace.keeps handle hfiled x)
  · exact race.store.holds_observe kind _ hrace.given handle x
  · rw [hlook]
    rcases (returned_concat trace other _ otherName another).mp hreturned with hold | hgives
    · exact hrace.returned other otherName another hold
    · exact hgives.elim
  · rw [made_concat trace i other _ otherName rfl, hlook]
    exact hrace.made other otherName

end Actions

variable [DecidableEq ι]

theorem look_step (trace : List (ι × Act)) (race next : Race ι) (entry : ι × Act)
    (hrace : Valid trace race) (hstep : Step race entry next) (kind : Kind) (name : String)
    (handle : Handle) (hlook : race.store.look kind name = some handle) :
    next.store.look kind name = some handle := by
  cases hstep with
  | found | missed => exact hlook
  | insert i other otherName =>
      exact race.store.look_insert other kind otherName name _ hrace.keeps handle hlook
  | observe i other another x =>
      exact (race.store.look_observe other kind name another x).trans hlook

theorem valid_step (trace : List (ι × Act)) (race next : Race ι) (entry : ι × Act)
    (hrace : Valid trace race) (hstep : Step race entry next) :
    Valid (trace ++ [entry]) next := by
  cases hstep with
  | found i kind name handle hidle hlook =>
      exact valid_found trace race hrace i kind name handle hlook
  | missed i kind name => exact valid_missed trace race hrace i kind name _
  | insert i kind name => exact valid_insert trace race hrace i kind name _
  | observe i kind handle x hgiven => exact valid_observe trace race hrace i kind handle x hgiven

theorem valid_steps (trace : List (ι × Act)) (race : Race ι)
    (hrun : Steps Step start trace race) : Valid trace race := by
  induction hrun with
  | nil => exact valid_start
  | snoc trace entry race next _ hstep ih => exact valid_step trace race next entry ih hstep

/-- A series on file is never replaced. -/
theorem look_steps (trace later : List (ι × Act)) (race next : Race ι) (hrace : Valid trace race)
    (hrun : Steps Step race later next) (kind : Kind) (name : String) (handle : Handle)
    (hlook : race.store.look kind name = some handle) :
    next.store.look kind name = some handle ∧ Valid (trace ++ later) next := by
  -- Later actions keep the race valid, and that is what each of them needs.
  induction hrun with
  | nil =>
      rw [List.append_nil]
      exact ⟨hlook, hrace⟩
  | snoc later entry middle next _ hstep ih =>
      rw [← List.append_assoc]
      exact ⟨look_step _ middle next entry ih.2 hstep kind name handle ih.1,
        valid_step _ middle next entry ih.2 hstep⟩

/-- However the actions of callers follow each other, a series is made at most once for a
kind and name. All handles given to those who asked for it are one, which stays on file
whatever happens later and shares its place with no other name. What is found through it
is what was observed through all of them. -/
theorem race_lossless (trace : List (ι × Act)) (race : Race ι)
    (hrun : Steps Step start trace race) :
    (∀ kind name, trace.countP (fun entry => entry.2.makes kind name) ≤ 1) ∧
    (∀ kind name handle another, Returned trace kind name handle →
      Returned trace kind name another → handle = another) ∧
    (∀ kind name other handle another, Returned trace kind name handle →
      Returned trace kind other another → handle.place = another.place → name = other) ∧
    (∀ later next, Steps Step race later next → ∀ kind name handle,
      race.store.look kind name = some handle → next.store.look kind name = some handle) ∧
    (∀ kind name handle, Returned trace kind name handle →
      handle.name = name ∧ race.store.look kind name = some handle ∧
        kind.Gathers (race.store.content kind handle)
          (observationsOf kind name (reports Act.operations trace))) ∧
    race.store.registry = Registry.empty.run (reports Act.operations trace) := by
  have hrace := valid_steps trace race hrun
  refine ⟨fun kind name => ?_, fun kind name handle another hhandle hanother => ?_,
    fun kind name other handle another hhandle hanother hplace => ?_,
    fun later next hlater kind name handle hlook => ?_, fun kind name handle hhandle => ?_,
    hrace.keeps.registry⟩
  · rw [hrace.made kind name]
    split <;> omega
  · have hlook := hrace.returned kind name handle hhandle
    rw [hrace.returned kind name another hanother] at hlook
    exact (Option.some.inj hlook).symm
  · exact (hrace.keeps.sound kind).apart name other handle another
      (hrace.returned kind name handle hhandle) (hrace.returned kind other another hanother) hplace
  · exact (look_steps trace later race next hrace hlater kind name handle hlook).1
  · have hlook := hrace.returned kind name handle hhandle
    refine ⟨race.store.name_of_look kind name _ hrace.keeps handle hlook, hlook, ?_⟩
    rw [race.store.content_of_look kind name _ hrace.keeps handle hlook]
    exact kind.gathers_gathered _

end Runs

/-- Two callers look for one trend in vain. The second one files it, the first one finds
it filed, and both observe. -/
def lateTrace : List (Bool × Act) :=
  [(false, .missed .trend "t"), (true, .missed .trend "t"),
    (true, .inserted .trend "t" ⟨"t", 0⟩ true), (true, .observed .trend ⟨"t", 0⟩ (2.5 : Float)),
    (false, .inserted .trend "t" ⟨"t", 0⟩ false), (false, .observed .trend ⟨"t", 0⟩ (1.5 : Float))]

theorem race_lossless_late :
    ∃ race, Steps Step start lateTrace race ∧
      lateTrace.countP (fun entry => entry.2.makes .trend "t") ≤ 1 ∧
      Kind.trend.Gathers (race.store.content .trend ⟨"t", 0⟩) ([2.5, 1.5] : List Float) := by
  have h1 := Steps.snoc [] _ _ _ Steps.nil (Step.missed start false .trend "t" rfl rfl)
  have h2 := Steps.snoc _ _ _ _ h1 (Step.missed _ true .trend "t" rfl rfl)
  have h3 := Steps.snoc _ _ _ _ h2 (Step.insert _ true .trend "t" rfl)
  have h4 := Steps.snoc _ _ _ _ h3 (Step.observe _ true .trend ⟨"t", 0⟩ (2.5 : Float)
    List.mem_cons_self)
  have h5 := Steps.snoc _ _ _ _ h4 (Step.insert _ false .trend "t" rfl)
  have h6 := Steps.snoc _ _ _ _ h5 (Step.observe _ false .trend ⟨"t", 0⟩ (1.5 : Float)
    List.mem_cons_self)
  have hrun : Steps Step start lateTrace _ := h6
  rcases race_lossless lateTrace _ hrun with ⟨hmade, -, -, -, hgathers, -⟩
  have hreturned : Returned lateTrace .trend "t" ⟨"t", 0⟩ :=
    ⟨(true, .inserted .trend "t" ⟨"t", 0⟩ true), by simp [lateTrace], rfl⟩
  exact ⟨_, hrun, hmade .trend "t", (hgathers .trend "t" _ hreturned).2.2⟩

end Race

end PageSweep
