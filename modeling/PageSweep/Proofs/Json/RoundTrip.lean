import PageSweep.Proofs.Catalog
import PageSweep.Proofs.Json.Token

/-!
# JSON Round Trip

A written value reads back. What comes back is the value with the members of each
object in the order of their names, which is how an object is filed; a value that is
filed already comes back unchanged.

The reader counts nesting down and bounds the number of things in a container, so
both have to suffice. The nesting is part of `Plain`, which also keeps doubles out.
The bound is met because every item is at least one character long, and the proof
carries it as the length of the text that is left: with each item the text gets
shorter by at least a comma.

The induction runs over a value, the items of an array and the members of an object
together, just as the writer does.

## Main definitions

* `Plain`: A value that the writer and the reader agree on.
* `normal`: A value as it reads back.

## Theorems

* `value_chars`: A written value reads back, whatever follows it.
* `member_filed`: A member of an object that reads back.
* `read?_chars`: A written text reads back.
-/

namespace PageSweep

namespace Json

mutual

/-- A value without doubles, with whole numbers of 64 bits and with at most `depth`
containers around each other. -/
def Plain : Nat → Json → Prop
  | _, .null => True
  | _, .bool _ => True
  | _, .number (.int n) => -0x8000000000000000 ≤ n ∧ n < 0x10000000000000000
  | _, .number (.float _) => False
  | _, .string _ => True
  | 0, .array _ => False
  | depth + 1, .array items => PlainItems depth items
  | 0, .object _ => False
  | depth + 1, .object members => PlainMembers depth members

/-- Items that are plain. -/
def PlainItems (depth : Nat) : List Json → Prop
  | [] => True
  | v :: rest => Plain depth v ∧ PlainItems depth rest

/-- Members whose values are plain. -/
def PlainMembers (depth : Nat) : List (String × Json) → Prop
  | [] => True
  | (_, v) :: rest => Plain depth v ∧ PlainMembers depth rest

end

mutual

/-- A value as it reads back: the members of each object in the order of their names,
the last one of several with one name. -/
def normal : Json → Json
  | .null => .null
  | .bool b => .bool b
  | .number n => .number n
  | .string s => .string s
  | .array items => .array (normalItems items)
  | .object members => .object (Reader.filed (normalMembers members))

/-- Items as they read back. -/
def normalItems : List Json → List Json
  | [] => []
  | v :: rest => normal v :: normalItems rest

/-- Members as they read back, still in the order of the text. -/
def normalMembers : List (String × Json) → List (String × Json)
  | [] => []
  | (name, v) :: rest => (name, normal v) :: normalMembers rest

end

theorem plainItems_of_forall (depth : Nat) (items : List Json)
    (h : ∀ v ∈ items, Plain depth v) : PlainItems depth items := by
  induction items with
  | nil => exact trivial
  | cons v rest ih =>
      exact ⟨h v List.mem_cons_self, ih fun w hw => h w (List.mem_cons_of_mem _ hw)⟩

theorem plainMembers_of_forall (depth : Nat) (members : List (String × Json))
    (h : ∀ name v, (name, v) ∈ members → Plain depth v) : PlainMembers depth members := by
  induction members with
  | nil => exact trivial
  | cons member rest ih =>
      exact ⟨h member.1 member.2 List.mem_cons_self,
        ih fun name v hv => h name v (List.mem_cons_of_mem _ hv)⟩

theorem normalItems_eq_map (items : List Json) : normalItems items = items.map normal := by
  induction items with
  | nil => rfl
  | cons v rest ih => rw [normalItems, ih, List.map_cons]

theorem normalMembers_eq_self (members : List (String × Json))
    (h : ∀ name v, (name, v) ∈ members → v.normal = v) : normalMembers members = members := by
  induction members with
  | nil => rfl
  | cons member rest ih =>
      rw [normalMembers, h member.1 member.2 List.mem_cons_self,
        ih fun name v hv => h name v (List.mem_cons_of_mem _ hv)]

/-- The characters of items, with the closing bracket. -/
def listChars : List Json → List Char
  | [] => [']']
  | v :: rest => v.chars ++ itemsChars rest

/-- The characters of members, with the closing bracket. -/
def tableChars : List (String × Json) → List Char
  | [] => ['}']
  | (name, v) :: rest => Writer.string name ++ ':' :: (v.chars ++ membersChars rest)

theorem chars_array (items : List Json) : (Json.array items).chars = '[' :: listChars items := by
  cases items with
  | nil => rw [chars, listChars]
  | cons v rest => rw [chars, listChars]

theorem chars_object (members : List (String × Json)) :
    (Json.object members).chars = '{' :: tableChars members := by
  cases members with
  | nil => rw [chars, tableChars]
  | cons member rest =>
      rcases member with ⟨name, v⟩
      rw [chars, tableChars]

namespace Reader

theorem skipBlanks_cons (c : Char) (rest : List Char) (hc : isBlank c = false) :
    skipBlanks (c :: rest) = c :: rest := by
  refine List.dropWhile_cons_of_neg ?_
  rw [hc]
  exact Bool.false_ne_true

/-- A text does not go on with a number if it begins with one of these. -/
theorem stops_cons (c : Char) (rest : List Char) (hc : c = ',' ∨ c = ']' ∨ c = '}') :
    Stops (c :: rest) := by
  -- Commas and closing brackets are no part of a number.
  rcases hc with h | h | h
  all_goals
    rw [h]
    exact ⟨by decide, by decide, by decide, by decide⟩

/-- A character with which a number may begin. -/
def StartsNumber (c : Char) : Prop :=
  c = '-' ∨ c.isDigit = true

theorem ne_of_startsNumber (c d : Char) (hc : StartsNumber c) (hd : d ≠ '-')
    (hdigit : d.isDigit = false) : c ≠ d := by
  intro heq
  rcases hc with h | h
  · exact hd (heq ▸ h)
  · rw [heq, hdigit] at h
    exact absurd h Bool.false_ne_true

theorem number_head (n : Int) :
    ∃ c rest, Writer.number (.int n) = c :: rest ∧ StartsNumber c := by
  cases n with
  | ofNat m =>
      have hchars : Writer.number (.int (Int.ofNat m)) = Nat.toDigits 10 m := Nat.toList_repr
      cases hd : Nat.toDigits 10 m with
      | nil => exact absurd hd Nat.toDigits_ne_nil
      | cons c rest =>
          have hc : c ∈ Nat.toDigits 10 m := by
            rw [hd]
            exact List.mem_cons_self
          exact ⟨c, rest, hchars.trans hd,
            Or.inr (Nat.isDigit_of_mem_toDigits (by omega) (by omega) hc)⟩
  | negSucc m =>
      have h : Writer.number (.int (Int.negSucc m)) = ("-" ++ (m + 1).repr).toList := rfl
      exact ⟨'-', (m + 1).repr.toList, by rw [h, String.toList_append]; rfl, Or.inl rfl⟩

theorem value_number (size depth : Nat) (c : Char) (rest : List Char) (hc : StartsNumber c) :
    value size depth (c :: rest)
      = (number (c :: rest)).map fun (n, rest) => (.number n, rest) := by
  -- A minus sign and the digits are no blanks.
  have hblank : isBlank c = false := by
    simp only [isBlank, Bool.or_eq_false_iff, decide_eq_false_iff_not]
    refine ⟨⟨⟨?_, ?_⟩, ?_⟩, ?_⟩
    all_goals exact ne_of_startsNumber c _ hc (by decide) (by decide)
  rw [value, skipBlanks_cons c rest hblank]
  -- Each of the other cases names a first character that no number has.
  split
  case h_7 => rfl
  all_goals
    rename_i heq
    exact absurd (List.cons.inj heq).1 (ne_of_startsNumber c _ hc (by decide) (by decide))

theorem value_string (size depth : Nat) (s : String) (rest : List Char) :
    value size depth (Writer.string s ++ rest) = some (.string s, rest) := by
  rw [Writer.string, List.cons_append, List.append_assoc, List.singleton_append, value,
    skipBlanks_cons '"' _ (by decide)]
  simp only [string_written, Option.map_some]

theorem value_array (size depth : Nat) (rest : List Char) :
    value size (depth + 1) ('[' :: rest)
      = (bracketed (value size depth) ']' size rest).map fun (xs, rest) => (.array xs, rest) := by
  rw [value, skipBlanks_cons '[' rest (by decide)]
  rfl

theorem value_object (size depth : Nat) (rest : List Char) :
    value size (depth + 1) ('{' :: rest)
      = (bracketed (member (value size depth)) '}' size rest).map
        fun (ms, rest) => (.object (filed ms), rest) := by
  rw [value, skipBlanks_cons '{' rest (by decide)]
  rfl

variable {α : Type}

/-- The last of several things. -/
theorem items_last (item : List Char → Option (α × List Char)) (close : Char) (more : Nat)
    (done : List α) (text rest : List Char) (x : α) (hclose : isBlank close = false)
    (hitem : item text = some (x, close :: rest)) :
    items item close (more + 1) done text = some ((x :: done).reverse, rest) := by
  rw [items, hitem]
  simp only [skipBlanks_cons close rest hclose, if_true]

/-- One of several things that is not the last. -/
theorem items_comma (item : List Char → Option (α × List Char)) (close : Char) (more : Nat)
    (done : List α) (text rest : List Char) (x : α) (hclose : close ≠ ',')
    (hitem : item text = some (x, ',' :: rest)) :
    items item close (more + 1) done text = items item close more (x :: done) rest := by
  have hne : ¬ (',' = close) := fun h => hclose h.symm
  rw [items, hitem]
  simp only [skipBlanks_cons ',' rest (by decide), if_neg hne, if_true]

/-- A bracketed list whose first character is no closing bracket. -/
theorem bracketed_cons (item : List Char → Option (α × List Char)) (close : Char) (size : Nat)
    (c : Char) (rest : List Char) (hblank : isBlank c = false) (hc : c ≠ close) :
    bracketed item close size (c :: rest) = items item close size [] (c :: rest) := by
  rw [bracketed, skipBlanks_cons c rest hblank]
  exact if_neg hc

/-- An empty bracketed list. -/
theorem bracketed_close (item : List Char → Option (α × List Char)) (close : Char) (size : Nat)
    (rest : List Char) (hblank : isBlank close = false) :
    bracketed item close size (close :: rest) = some ([], rest) := by
  rw [bracketed, skipBlanks_cons close rest hblank]
  exact if_pos rfl

/-- A written member, when its value reads back. -/
theorem member_written (read : List Char → Option (α × List Char)) (name : String) (x : α)
    (text rest : List Char) (hread : read text = some (x, rest)) :
    member read (Writer.string name ++ ':' :: text) = some ((name, x), rest) := by
  rw [Writer.string, List.cons_append, List.append_assoc, List.singleton_append, member,
    skipBlanks_cons '"' _ (by decide)]
  simp only [string_written, Option.bind_eq_bind, Option.bind_some,
    skipBlanks_cons ':' text (by decide), hread, Option.pure_def]

end Reader

/-- A written value begins with neither a blank nor a closing bracket. -/
theorem chars_head (depth : Nat) (v : Json) (hv : Plain depth v) :
    ∃ c rest, v.chars = c :: rest ∧ Reader.isBlank c = false ∧ c ≠ ']' := by
  cases v with
  | null => exact ⟨_, _, by rw [chars], by decide, by decide⟩
  | bool b =>
      cases b with
      | false => exact ⟨_, _, by rw [chars], by decide, by decide⟩
      | true => exact ⟨_, _, by rw [chars], by decide, by decide⟩
  | number n =>
      cases n with
      | int n =>
          rcases Reader.number_head n with ⟨c, rest, heq, hc⟩
          refine ⟨c, rest, by rw [chars, heq], ?_,
            Reader.ne_of_startsNumber c _ hc (by decide) (by decide)⟩
          simp only [Reader.isBlank, Bool.or_eq_false_iff, decide_eq_false_iff_not]
          refine ⟨⟨⟨?_, ?_⟩, ?_⟩, ?_⟩
          all_goals exact Reader.ne_of_startsNumber c _ hc (by decide) (by decide)
      | float x => exact absurd hv (by simp only [Plain, not_false_eq_true])
  | string s => exact ⟨_, _, by rw [chars, Writer.string], by decide, by decide⟩
  | array items => exact ⟨_, _, chars_array items, by decide, by decide⟩
  | object members => exact ⟨_, _, chars_object members, by decide, by decide⟩

mutual

theorem value_chars : ∀ (v : Json) (depth size : Nat) (rest : List Char), Plain depth v →
    v.chars.length ≤ size → Reader.Stops rest →
    Reader.value size depth (v.chars ++ rest) = some (v.normal, rest)
  | .null, depth, size, rest, _, _, _ => by
      rw [chars, normal, Reader.value]
      rfl
  | .bool true, depth, size, rest, _, _, _ => by
      rw [chars, normal, Reader.value]
      rfl
  | .bool false, depth, size, rest, _, _, _ => by
      rw [chars, normal, Reader.value]
      rfl
  | .number (.int n), depth, size, rest, hv, _, hrest => by
      simp only [Plain] at hv
      have hread := Reader.number_int n hv.1 hv.2 rest hrest
      -- Which case of the reader this is depends on the first character.
      rcases Reader.number_head n with ⟨c, more, heq, hc⟩
      rw [chars, normal]
      rw [heq, List.cons_append] at hread ⊢
      rw [Reader.value_number size depth c _ hc, hread]
      rfl
  | .number (.float x), _, _, _, hv, _, _ => absurd hv (by simp only [Plain, not_false_eq_true])
  | .string s, depth, size, rest, _, _, _ => by
      rw [chars, normal]
      exact Reader.value_string size depth s rest
  | .array items, 0, _, _, hv, _, _ => absurd hv (by simp only [Plain, not_false_eq_true])
  | .array items, depth + 1, size, rest, hv, hsize, _ => by
      simp only [Plain] at hv
      rw [chars_array, List.length_cons] at hsize
      rw [chars_array, List.cons_append, Reader.value_array, normal]
      -- An empty array is closed at once, and the first character of an item
      -- tells that this one is not.
      cases items with
      | nil =>
          rw [listChars, List.singleton_append, Reader.bracketed_close _ ']' size rest (by decide),
            normalItems]
          rfl
      | cons v more =>
          rcases chars_head depth v hv.1 with ⟨c, tail, heq, hblank, hc⟩
          -- The bracket itself is one character, so the text inside is short enough.
          have hread := items_listChars (v :: more) depth size size [] rest
            (List.cons_ne_nil _ _) hv (by omega) (Nat.le_refl _)
          rw [listChars, heq] at hread ⊢
          rw [List.append_assoc, List.cons_append] at hread ⊢
          rw [Reader.bracketed_cons _ ']' size c _ hblank hc, hread]
          rfl
  | .object members, 0, _, _, hv, _, _ => absurd hv (by simp only [Plain, not_false_eq_true])
  | .object members, depth + 1, size, rest, hv, hsize, _ => by
      simp only [Plain] at hv
      rw [chars_object, List.length_cons] at hsize
      rw [chars_object, List.cons_append, Reader.value_object, normal]
      -- A member begins with a quote, which is no closing bracket either.
      cases members with
      | nil =>
          rw [tableChars, List.singleton_append,
            Reader.bracketed_close _ '}' size rest (by decide), normalMembers]
          rfl
      | cons m more =>
          rcases m with ⟨name, v⟩
          have hread := items_tableChars ((name, v) :: more) depth size size [] rest
            (List.cons_ne_nil _ _) hv (by omega) (Nat.le_refl _)
          rw [tableChars, Writer.string] at hread ⊢
          rw [List.append_assoc, List.cons_append] at hread ⊢
          rw [Reader.bracketed_cons _ '}' size '"' _ (by decide) (by decide), hread]
          rfl

theorem items_listChars : ∀ (list : List Json) (depth size left : Nat) (done : List Json)
    (rest : List Char), list ≠ [] → PlainItems depth list → (listChars list).length ≤ left →
    left ≤ size →
    Reader.items (Reader.value size depth) ']' left done (listChars list ++ rest)
      = some (done.reverse ++ normalItems list, rest)
  | [], _, _, _, _, _, hne, _, _, _ => absurd rfl hne
  | [v], depth, size, left, done, rest, _, hv, hleft, hsize => by
      simp only [listChars, itemsChars, List.length_append, List.length_singleton] at hleft
      -- The last item: after it stands the bracket.
      have hread := value_chars v depth size (']' :: rest) hv.1 (by omega)
        (Reader.stops_cons _ _ (Or.inr (Or.inl rfl)))
      rw [listChars, itemsChars, List.append_assoc, List.singleton_append]
      cases left with
      | zero => omega
      | succ left =>
          rw [Reader.items_last _ ']' left done _ rest v.normal (by decide) hread,
            List.reverse_cons, normalItems, normalItems]
  | v :: next :: more, depth, size, left, done, rest, _, hv, hleft, hsize => by
      have hchars : listChars (v :: next :: more) = v.chars ++ ',' :: listChars (next :: more) := by
        rw [listChars, itemsChars, listChars]
      rw [hchars, List.length_append, List.length_cons] at hleft
      -- The comma after the item pays for the turn of the reader.
      have hread := value_chars v depth size (',' :: (listChars (next :: more) ++ rest)) hv.1
        (by omega) (Reader.stops_cons _ _ (Or.inl rfl))
      rw [hchars, List.append_assoc, List.cons_append]
      cases left with
      | zero => omega
      | succ left =>
          rw [Reader.items_comma _ ']' left done _ _ v.normal (by decide) hread,
            items_listChars (next :: more) depth size left _ rest (List.cons_ne_nil _ _) hv.2
              (by omega) (by omega), List.reverse_cons, List.append_assoc, List.singleton_append]
          rfl

theorem items_tableChars : ∀ (table : List (String × Json)) (depth size left : Nat)
    (done : List (String × Json)) (rest : List Char), table ≠ [] → PlainMembers depth table →
    (tableChars table).length ≤ left → left ≤ size →
    Reader.items (Reader.member (Reader.value size depth)) '}' left done (tableChars table ++ rest)
      = some (done.reverse ++ normalMembers table, rest)
  | [], _, _, _, _, _, hne, _, _, _ => absurd rfl hne
  | [(name, v)], depth, size, left, done, rest, _, hv, hleft, hsize => by
      simp only [tableChars, membersChars, List.length_append, List.length_cons,
        List.length_nil] at hleft
      -- The last member: after it stands the bracket.
      have hread := value_chars v depth size ('}' :: rest) hv.1 (by omega)
        (Reader.stops_cons _ _ (Or.inr (Or.inr rfl)))
      have hmember := Reader.member_written _ name _ _ _ hread
      rw [tableChars, membersChars, List.append_assoc, List.cons_append, List.append_assoc,
        List.singleton_append]
      cases left with
      | zero => omega
      | succ left =>
          rw [Reader.items_last _ '}' left done _ rest (name, v.normal) (by decide) hmember,
            List.reverse_cons, normalMembers, normalMembers]
  | (name, v) :: next :: more, depth, size, left, done, rest, _, hv, hleft, hsize => by
      have hchars : tableChars ((name, v) :: next :: more)
          = Writer.string name ++ ':' :: (v.chars ++ ',' :: tableChars (next :: more)) := by
        rcases next with ⟨other, w⟩
        rw [tableChars, membersChars, tableChars]
      rw [hchars] at hleft
      simp only [List.length_append, List.length_cons] at hleft
      -- The comma after the member pays for the turn of the reader.
      have hread := value_chars v depth size (',' :: (tableChars (next :: more) ++ rest)) hv.1
        (by omega) (Reader.stops_cons _ _ (Or.inl rfl))
      have hmember := Reader.member_written _ name _ _ _ hread
      rw [hchars, List.append_assoc, List.cons_append, List.append_assoc, List.cons_append]
      cases left with
      | zero => omega
      | succ left =>
          rw [Reader.items_comma _ '}' left done _ _ (name, v.normal) (by decide) hmember,
            items_tableChars (next :: more) depth size left _ rest (List.cons_ne_nil _ _) hv.2
              (by omega) (by omega), List.reverse_cons, List.append_assoc, List.singleton_append]
          rfl

end

/-- Filing members of other names leaves a member as it is. -/
theorem find?_foldl_insert {α : Type} (members : List (String × α)) (table : Catalog α)
    (name : String) (hname : name ∉ members.map Prod.fst) :
    (members.foldl (fun filed (key, v) => filed.insert key v) table).find? name
      = table.find? name := by
  induction members generalizing table with
  | nil => rfl
  | cons member rest ih =>
      rw [List.map_cons, List.mem_cons, not_or] at hname
      rw [List.foldl_cons, ih _ hname.2, Catalog.find?_insert_of_ne _ _ _ _ hname.1]

/-- The member of a name is the last one that was filed under it. -/
theorem member_filed (before after : List (String × Json)) (name : String) (v : Json)
    (hname : name ∉ after.map Prod.fst) :
    member name (Reader.filed (before ++ (name, v) :: after)) = v := by
  rw [member, Reader.filed, List.foldl_append, List.foldl_cons,
    find?_foldl_insert after _ name hname, Catalog.find?_insert_self, Option.getD_some]

theorem read?_chars (v : Json) (hv : Plain Reader.maxDepth v) : read? v.chars = some v.normal := by
  have hread := value_chars v Reader.maxDepth v.chars.length [] hv (Nat.le_refl _) trivial
  rw [List.append_nil] at hread
  rw [read?, hread]
  rfl

end Json

end PageSweep
