import PageSweep.Proofs.Json.Recognition

/-!
# Values Without Doubles

A value that was read and has no doubles in it reads back from its own text unchanged.
Such a value meets all that a round trip asks for: its whole numbers fit in 64 bits, no
more containers stand around each other than the reader allows, and each object has each
name once, in order.

What is spelled inside a value has one container less around it, so the inductions go
along the depth, or along the value where it decides.

## Main definitions

* `Whole`: A value without doubles.

## Theorems

* `fits_of_exact`: An exact number fits in 64 bits.
* `spelled_of_array`, `spelled_of_object`: What is inside a value is spelled there.
* `plain_of_spells`: What is spelled is fit for a round trip.
* `normal_of_spells`: What is spelled is in order.
* `read?_chars_of_spells`: What is spelled reads back from its text.
-/

namespace PageSweep

namespace Json

open Grammar

/-- A value without doubles: every number in it is a whole one. -/
inductive Whole : Json → Prop where
  | null : Whole .null
  | bool (b : Bool) : Whole (.bool b)
  | int (n : Int) : Whole (.number (.int n))
  | string (s : String) : Whole (.string s)
  | array (items : List Json) (h : ∀ v ∈ items, Whole v) : Whole (.array items)
  | object (members : List (String × Json)) (h : ∀ name v, (name, v) ∈ members → Whole v) :
      Whole (.object members)

theorem fits_of_exact (l : Literal) (n : Int) (h : l.Exact n) :
    -0x8000000000000000 ≤ n ∧ n < 0x10000000000000000 := by
  rcases h with ⟨-, -, ⟨-, rfl, hlt⟩ | ⟨-, rfl, hneg, hle⟩⟩
  · exact ⟨by omega, by omega⟩
  · exact ⟨by omega, by omega⟩

/-- The things in an array are spelled inside it. -/
theorem spelled_of_array (depth : Nat) (core : List Char) (items : List Json)
    (h : Spells (depth + 1) core (.array items)) : ∀ v ∈ items, ∃ value, Spells depth value v := by
  rw [Spells] at h
  rcases h with ⟨inner, hlisted, -⟩
  exact Reader.spelled_of_listed hlisted

/-- The values of the members of an object are spelled inside it. -/
theorem spelled_of_object (depth : Nat) (core : List Char) (members : List (String × Json))
    (h : Spells (depth + 1) core (.object members)) :
    ∀ name v, (name, v) ∈ members → ∃ value, Spells depth value v := by
  rw [Spells] at h
  rcases h with ⟨entries, hentries, hresolved⟩
  exact fun name v hv => Reader.spelled_of_entries hentries name v
    (Reader.mem_of_resolved entries members hresolved (name, v) hv)

/-- What is spelled without doubles is fit for a round trip, with as many containers around
each other as its text may have or more. -/
theorem plain_of_spells (v : Json) (hwhole : Whole v) (depth bound : Nat) (hle : depth ≤ bound)
    (core : List Char) (h : Spells depth core v) : Plain bound v := by
  induction hwhole generalizing depth bound core with
  | null => rw [Plain]; exact trivial
  | bool b => rw [Plain]; exact trivial
  | int n =>
      rw [Spells] at h
      rcases h with ⟨l, -, hmeans, -⟩
      cases hmeans with
      | exact _ hexact =>
          rw [Plain]
          exact fits_of_exact l n hexact
  | string s => rw [Plain]; exact trivial
  | array items _ ih =>
      cases depth with
      | zero => exact absurd h (by rw [Spells]; exact not_false)
      | succ depth =>
          -- What is inside has one container less around it, and one less is allowed.
          cases bound with
          | zero => omega
          | succ bound =>
              rw [Plain]
              refine plainItems_of_forall bound items fun v hv => ?_
              rcases spelled_of_array depth core items h v hv with ⟨value, hvalue⟩
              exact ih v hv depth bound (by omega) value hvalue
  | object members _ ih =>
      cases depth with
      | zero => exact absurd h (by rw [Spells]; exact not_false)
      | succ depth =>
          cases bound with
          | zero => omega
          | succ bound =>
              rw [Plain]
              refine plainMembers_of_forall bound members fun name v hv => ?_
              rcases spelled_of_object depth core members h name v hv with ⟨value, hvalue⟩
              exact ih name v hv depth bound (by omega) value hvalue

/-- What is spelled has the members of each object in order already. -/
theorem normal_of_spells (depth : Nat) (core : List Char) (v : Json) (h : Spells depth core v) :
    v.normal = v := by
  induction depth generalizing core v with
  | zero =>
      cases v with
      | null | bool _ | number _ | string _ => rw [normal]
      | array _ | object _ => exact absurd h (by rw [Spells]; exact not_false)
  | succ depth ih =>
      cases v with
      | null | bool _ | number _ | string _ => rw [normal]
      | array items =>
          have hitems : items.map normal = items := by
            refine (List.map_congr_left fun v hv => ?_).trans (List.map_id items)
            rcases spelled_of_array depth core items h v hv with ⟨value, hvalue⟩
            exact ih value v hvalue
          rw [normal, normalItems_eq_map, hitems]
      | object members =>
          have hmembers : normalMembers members = members := by
            refine normalMembers_eq_self members fun name v hv => ?_
            rcases spelled_of_object depth core members h name v hv with ⟨value, hvalue⟩
            exact ih value v hvalue
          -- The members were filed when they were read, so to file them again is nothing.
          rw [Spells] at h
          rcases h with ⟨entries, -, hresolved⟩
          rw [normal, hmembers, Reader.filed_of_ascending members hresolved.1]

/-- What is spelled without doubles reads back from its text. -/
theorem read?_chars_of_spells (v : Json) (hwhole : Whole v) (depth : Nat)
    (hle : depth ≤ Reader.maxDepth) (core : List Char) (h : Spells depth core v) :
    read? v.chars = some v := by
  have hread := read?_chars v (plain_of_spells v hwhole depth Reader.maxDepth hle core h)
  rwa [normal_of_spells depth core v h] at hread

end Json

end PageSweep
