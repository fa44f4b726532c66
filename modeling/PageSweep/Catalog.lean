/-!
# Catalogs

A catalog files values under names and keeps the names in ascending order, so
whatever is listed from it comes out in one order however it was filled. Names
are compared character by character, which is the order of their UTF-8 bytes.

Metric series are filed in catalogs, and so are the members of a JSON object.

## Main definitions

* `Catalog`: Named values in ascending order of their names.
* `Catalog.find?`: The value filed under a name.
* `Catalog.adjust`: Changing one value, starting from a given one if the name
  is new.
* `Catalog.insert`: Filing a value, replacing an earlier one.
-/

namespace PageSweep

/-- Named values in ascending order of their names. -/
abbrev Catalog (α : Type) := List (String × α)

namespace Catalog

variable {α : Type}

/-- No entry comes after one with the same or a later name. -/
def Ascending (entries : Catalog α) : Prop :=
  entries.Pairwise fun a b => a.1 < b.1

/-- The value filed under `name`. -/
def find? (name : String) : Catalog α → Option α
  | [] => none
  | (key, value) :: rest => if key = name then some value else find? name rest

/-- Changes the value filed under `name` by `change`; a new name starts from
`start`. -/
def adjust (name : String) (start : α) (change : α → α) : Catalog α → Catalog α
  | [] => [(name, change start)]
  | (key, value) :: rest =>
    if key = name then (key, change value) :: rest
    else if name < key then (name, change start) :: (key, value) :: rest
    else (key, value) :: adjust name start change rest

/-- Files `value` under `name`, in place of an earlier value. -/
def insert (name : String) (value : α) (entries : Catalog α) : Catalog α :=
  entries.adjust name value fun _ => value

/-- The names, in order. -/
def names (entries : Catalog α) : List String :=
  entries.map Prod.fst

end Catalog

end PageSweep
