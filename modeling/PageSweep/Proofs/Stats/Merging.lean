import PageSweep.Proofs.Stats.Exact

/-!
# Merging Keeps a Digest Sound

A digest forgets which values a centroid stands for. What it keeps is stated as an
invariant, `Sound`: the counts and the sums of all centroids, those in the backlog
included, are those of the values; each centroid has a mean between the least and the
greatest value; and the centroids that are merged are in the order of their means.

The order is the part that merging could destroy. It goes through sorted centroids and
fuses neighbours, and the mean of two neighbours lies between theirs: not below what was
passed on before, not above what is still to come. So `compact` keeps the order whatever
it fuses, and the limit that decides about it can be any function.

## Main definitions

* `Digest.Sound`: What a digest knows of the values.
* `Digest.Grown`: The digests that inserting and merging lead to, in any order.

## Theorems

* `forall_compact`: A property that fusing keeps holds of all centroids.
* `sum_compact`: A quantity that fusing adds up stays the same in total.
* `sorted_compact`: Fusing neighbours keeps the order.
* `Sound.merge`, `Sound.insert`: Both operations keep a digest sound.
* `sound_of_grown`: Every digest is sound.
-/

namespace PageSweep

namespace Digest

open Arith

variable (limitAfter : ℚ → ℚ)

section Compact

variable (size : ℚ)

theorem forall_compact (P : Centroid ℚ → Prop) (hfuse : ∀ c d, P c → P d → P (fuse c d))
    (covered limit : ℚ) (current : Centroid ℚ) (rest : List (Centroid ℚ))
    (h : ∀ c ∈ current :: rest, P c) :
    ∀ c ∈ compact limitAfter size covered limit current rest, P c := by
  induction rest generalizing covered limit current with
  | nil => exact h
  | cons next rest ih =>
      rw [List.forall_mem_cons, List.forall_mem_cons] at h
      rcases h with ⟨hcurrent, hnext, hrest⟩
      rw [compact]
      split
      · exact ih _ _ _ (List.forall_mem_cons.mpr ⟨hfuse _ _ hcurrent hnext, hrest⟩)
      · exact List.forall_mem_cons.mpr
          ⟨hcurrent, ih _ _ _ (List.forall_mem_cons.mpr ⟨hnext, hrest⟩)⟩

theorem sum_compact (f : Centroid ℚ → ℚ) (hfuse : ∀ c d, f (fuse c d) = f c + f d)
    (covered limit : ℚ) (current : Centroid ℚ) (rest : List (Centroid ℚ)) :
    ((compact limitAfter size covered limit current rest).map f).sum
      = ((current :: rest).map f).sum := by
  induction rest generalizing covered limit current with
  | nil => rfl
  | cons next rest ih =>
      rw [compact]
      split
      · rw [ih, List.map_cons, List.sum_cons, hfuse, List.map_cons, List.map_cons, List.sum_cons,
          List.sum_cons, add_assoc]
      · rw [List.map_cons, List.sum_cons, ih, List.map_cons (l := next :: rest), List.sum_cons]

/-- Whether centroids are in the order of their means. -/
def Sorted (centroids : List (Centroid ℚ)) : Prop :=
  centroids.Pairwise fun c d => mean c ≤ mean d

/-- The mean of two neighbours is not above what comes behind them. -/
theorem sorted_fuse (current next : Centroid ℚ) (rest : List (Centroid ℚ))
    (hcurrent : 0 < current.count) (hnext : 0 < next.count)
    (hsorted : Sorted (current :: next :: rest)) : Sorted (fuse current next :: rest) := by
  rcases List.pairwise_cons.mp hsorted with ⟨hfirst, htail⟩
  rcases List.pairwise_cons.mp htail with ⟨hsecond, hrest⟩
  refine List.pairwise_cons.mpr ⟨?_, hrest⟩
  intro c hc
  exact mean_fuse_le current next (mean c) hcurrent hnext
    (hfirst c (List.mem_cons_of_mem _ hc)) (hsecond c hc)

/-- Fusing what comes behind a centroid does not lead below it. -/
theorem le_compact (low covered limit : ℚ) (current : Centroid ℚ) (rest : List (Centroid ℚ))
    (hcount : ∀ c ∈ current :: rest, 0 < c.count) (hlow : ∀ c ∈ current :: rest, low ≤ mean c) :
    ∀ c ∈ compact limitAfter size covered limit current rest, low ≤ mean c := by
  have hkeep := forall_compact limitAfter size (fun c => 0 < c.count ∧ low ≤ mean c)
    (fun c d hc hd => ⟨count_fuse_pos c d hc.1 hd.1,
      le_mean_fuse c d low hc.1 hd.1 hc.2 hd.2⟩)
    covered limit current rest (fun c hc => ⟨hcount c hc, hlow c hc⟩)
  intro c hc
  exact (hkeep c hc).2

/-- Fusing neighbours keeps the order, whatever the limit allows. -/
theorem sorted_compact (covered limit : ℚ) (current : Centroid ℚ) (rest : List (Centroid ℚ))
    (hsorted : Sorted (current :: rest)) (hcount : ∀ c ∈ current :: rest, 0 < c.count) :
    Sorted (compact limitAfter size covered limit current rest) := by
  induction rest generalizing covered limit current with
  | nil => exact hsorted
  | cons next rest ih =>
      rcases List.forall_mem_cons.mp hcount with ⟨hcurrent, hcounts⟩
      rcases List.forall_mem_cons.mp hcounts with ⟨hnext, hrest⟩
      rw [compact]
      -- The two go on as one, or the current one is passed on and nothing that comes
      -- behind it leads below it.
      split
      · exact ih _ _ _ (sorted_fuse current next rest hcurrent hnext hsorted)
          (List.forall_mem_cons.mpr ⟨count_fuse_pos current next hcurrent hnext, hrest⟩)
      · rcases List.pairwise_cons.mp hsorted with ⟨hfirst, htail⟩
        exact List.pairwise_cons.mpr
          ⟨le_compact limitAfter size (mean current) _ _ next rest hcounts hfirst,
            ih _ _ _ htail hcounts⟩

end Compact

section Compress

variable (centroids : List (Centroid ℚ))

/-- Centroids are put in order first. -/
theorem compress_cases :
    (centroids = [] ∧ compress limitAfter centroids = []) ∨
      ∃ first rest, (first :: rest).Perm centroids ∧ Sorted (first :: rest) ∧
        compress limitAfter centroids = compact limitAfter (total (first :: rest)) (ofNat 0)
          (limitAfter (ofNat 0)) first rest := by
  have hperm := List.mergeSort_perm centroids fun c d => decide (mean c ≤ mean d)
  have hsorted := pairwise_mergeSort mean centroids
  unfold compress
  cases horder : centroids.mergeSort fun c d => decide (mean c ≤ mean d) with
  | nil =>
      rw [horder] at hperm
      exact Or.inl ⟨hperm.nil_eq.symm, rfl⟩
  | cons first rest =>
      rw [horder] at hperm hsorted
      exact Or.inr ⟨first, rest, hperm, hsorted, rfl⟩

theorem sum_compress (f : Centroid ℚ → ℚ) (hfuse : ∀ c d, f (fuse c d) = f c + f d) :
    ((compress limitAfter centroids).map f).sum = (centroids.map f).sum := by
  rcases compress_cases limitAfter centroids with
    ⟨hnil, hcompress⟩ | ⟨first, rest, hperm, -, hcompress⟩
  · rw [hcompress, hnil]
  · rw [hcompress, sum_compact limitAfter _ f hfuse, (hperm.map f).sum_eq]

theorem forall_compress (P : Centroid ℚ → Prop) (hfuse : ∀ c d, P c → P d → P (fuse c d))
    (h : ∀ c ∈ centroids, P c) : ∀ c ∈ compress limitAfter centroids, P c := by
  rcases compress_cases limitAfter centroids with
    ⟨hnil, hcompress⟩ | ⟨first, rest, hperm, -, hcompress⟩
  · rw [hcompress, ← hnil]
    exact h
  · rw [hcompress]
    exact forall_compact limitAfter _ P hfuse _ _ first rest
      (fun c hc => h c (hperm.mem_iff.mp hc))

theorem sorted_compress (hcount : ∀ c ∈ centroids, 0 < c.count) :
    Sorted (compress limitAfter centroids) := by
  rcases compress_cases limitAfter centroids with
    ⟨-, hcompress⟩ | ⟨first, rest, hperm, hsorted, hcompress⟩
  · rw [hcompress]
    exact List.Pairwise.nil
  · rw [hcompress]
    exact sorted_compact limitAfter _ _ _ first rest hsorted
      (fun c hc => hcount c (hperm.mem_iff.mp hc))

end Compress

section Invariant

/-- What a digest knows of the values that went into it. -/
structure Sound (values : List ℚ) (d : Digest ℚ) : Prop where
  count : total (d.centroids ++ d.backlog) = values.length
  sum : ((d.centroids ++ d.backlog).map Centroid.sum).sum = values.sum
  within : ∀ c ∈ d.centroids ++ d.backlog, Within d.least d.greatest c
  sorted : Sorted d.centroids
  least : d.least ∈ values ∧ ∀ x ∈ values, d.least ≤ x
  greatest : d.greatest ∈ values ∧ ∀ x ∈ values, x ≤ d.greatest

/-- The digests of a series: values are inserted one after the other, and a merge can come
at any time in between. -/
inductive Grown : List ℚ → Digest ℚ → Prop where
  | single (x : ℚ) : Grown [x] (single x)
  | insert (values : List ℚ) (d : Digest ℚ) (x : ℚ) (h : Grown values d) :
      Grown (values ++ [x]) (d.insert limitAfter x)
  | merge (values : List ℚ) (d : Digest ℚ) (h : Grown values d) :
      Grown values (d.merge limitAfter)

/-- A value in the backlog is a centroid of its own. -/
theorem within_value (low high x : ℚ) (hlow : low ≤ x) (hhigh : x ≤ high) :
    Within low high ⟨x, ofNat 1⟩ := by
  have hmean : mean (⟨x, ofNat 1⟩ : Centroid ℚ) = x := by
    rw [mean_eq, ofNat_eq, Nat.cast_one, div_one]
  refine ⟨Nat.cast_pos.mpr Nat.one_pos, ?_, ?_⟩
  · rw [hmean]
    exact hlow
  · rw [hmean]
    exact hhigh

theorem sound_single (x : ℚ) : Sound [x] (single x) := by
  refine ⟨?_, ?_, ?_, List.Pairwise.nil, ?_, ?_⟩
  · have htotal : total ((single x).centroids ++ (single x).backlog)
        = ((0 : Nat) : ℚ) + ((1 : Nat) : ℚ) := rfl
    rw [htotal, ← Nat.cast_add]
    rfl
  · rfl
  · intro c hc
    rw [List.mem_singleton.mp hc]
    exact within_value x x x (le_refl x) (le_refl x)
  · exact ⟨List.mem_singleton_self x, fun y hy => (List.mem_singleton.mp hy).ge⟩
  · exact ⟨List.mem_singleton_self x, fun y hy => (List.mem_singleton.mp hy).le⟩

theorem backlog_merge (d : Digest ℚ) : (d.merge limitAfter).backlog = [] := by
  unfold merge
  by_cases h : d.backlog.isEmpty
  · rw [if_pos h]
    exact List.isEmpty_iff.mp h
  · rw [if_neg h]

/-- Clearing the backlog keeps what a digest knows. -/
theorem Sound.merge (values : List ℚ) (d : Digest ℚ) (h : Sound values d) :
    Sound values (d.merge limitAfter) := by
  unfold Digest.merge
  by_cases hempty : d.backlog.isEmpty
  · rw [if_pos hempty]
    exact h
  · rw [if_neg hempty]
    -- The backlog is taken from its end, and totals do not depend on the order.
    have hperm : (d.centroids ++ d.backlog.reverse).Perm (d.centroids ++ d.backlog) :=
      List.Perm.append_left d.centroids (List.reverse_perm d.backlog)
    have hwithin : ∀ c ∈ d.centroids ++ d.backlog.reverse, Within d.least d.greatest c :=
      fun c hc => h.within c (hperm.mem_iff.mp hc)
    refine ⟨?_, ?_, ?_, ?_, h.least, h.greatest⟩
    · rw [List.append_nil, total_eq_sum, sum_compress limitAfter _ _ count_fuse,
        (hperm.map Centroid.count).sum_eq, ← total_eq_sum]
      exact h.count
    · rw [List.append_nil, sum_compress limitAfter _ _ sum_fuse, (hperm.map Centroid.sum).sum_eq]
      exact h.sum
    · rw [List.append_nil]
      exact forall_compress limitAfter _ _ (Within.fuse · · _ _) hwithin
    · exact sorted_compress limitAfter _ (fun c hc => (hwithin c hc).count)

/-- A digest with one more value in its backlog. -/
def push (d : Digest ℚ) (x : ℚ) : Digest ℚ :=
  { d with
    backlog := ⟨x, ofNat 1⟩ :: d.backlog
    least := if x ≤ d.least then x else d.least
    greatest := if d.greatest ≤ x then x else d.greatest }

theorem insert_eq (d : Digest ℚ) (x : ℚ) :
    d.insert limitAfter x
      = if backlogSize < (push d x).backlog.length then (push d x).merge limitAfter
        else push d x := rfl

theorem least_push (d : Digest ℚ) (x : ℚ) : (push d x).least = min x d.least := rfl

theorem greatest_push (d : Digest ℚ) (x : ℚ) : (push d x).greatest = max d.greatest x := rfl

theorem perm_push (d : Digest ℚ) (x : ℚ) :
    ((push d x).centroids ++ (push d x).backlog).Perm
      (⟨x, ofNat 1⟩ :: (d.centroids ++ d.backlog)) :=
  List.perm_middle

/-- What a value in front of the backlog adds to a total. -/
theorem sum_push (f : Centroid ℚ → ℚ) (d : Digest ℚ) (x : ℚ) :
    (((push d x).centroids ++ (push d x).backlog).map f).sum
      = ((d.centroids ++ d.backlog).map f).sum + f ⟨x, ofNat 1⟩ := by
  rw [((perm_push d x).map f).sum_eq, List.map_cons, List.sum_cons, add_comm]

theorem Sound.push (values : List ℚ) (d : Digest ℚ) (x : ℚ) (h : Sound values d) :
    Sound (values ++ [x]) (push d x) := by
  refine ⟨?_, ?_, ?_, h.sorted, ?_, ?_⟩
  · have hone : ((ofNat 1 : ℚ)) = 1 := Nat.cast_one
    rw [total_eq_sum, sum_push, ← total_eq_sum, h.count, List.length_append, Nat.cast_add, hone]
    rfl
  · rw [sum_push, h.sum, List.sum_append, List.sum_singleton]
  · intro c hc
    rw [least_push, greatest_push]
    rcases List.mem_cons.mp ((perm_push d x).mem_iff.mp hc) with rfl | hmem
    · exact within_value _ _ x (min_le_left _ _) (le_max_right _ _)
    · exact (h.within c hmem).mono _ _ _ _ _ (min_le_right _ _) (le_max_left _ _)
  · -- The least value is the new one or the least one before.
    rw [least_push]
    refine ⟨?_, ?_⟩
    · rcases min_choice x d.least with hmin | hmin
      · rw [hmin]
        exact List.mem_append_right _ (List.mem_singleton_self x)
      · rw [hmin]
        exact List.mem_append_left _ h.least.1
    · intro y hy
      rcases List.mem_append.mp hy with hmem | hmem
      · exact le_trans (min_le_right _ _) (h.least.2 y hmem)
      · rw [List.mem_singleton.mp hmem]
        exact min_le_left _ _
  · rw [greatest_push]
    refine ⟨?_, ?_⟩
    · rcases max_choice d.greatest x with hmax | hmax
      · rw [hmax]
        exact List.mem_append_left _ h.greatest.1
      · rw [hmax]
        exact List.mem_append_right _ (List.mem_singleton_self x)
    · intro y hy
      rcases List.mem_append.mp hy with hmem | hmem
      · exact le_trans (h.greatest.2 y hmem) (le_max_left _ _)
      · rw [List.mem_singleton.mp hmem]
        exact le_max_right _ _

theorem Sound.insert (values : List ℚ) (d : Digest ℚ) (x : ℚ) (h : Sound values d) :
    Sound (values ++ [x]) (d.insert limitAfter x) := by
  rw [insert_eq]
  by_cases hfull : backlogSize < (Digest.push d x).backlog.length
  · rw [if_pos hfull]
    exact Sound.merge limitAfter _ _ (Sound.push values d x h)
  · rw [if_neg hfull]
    exact Sound.push values d x h

/-- Every digest is sound, however inserting and merging took turns. -/
theorem sound_of_grown (values : List ℚ) (d : Digest ℚ) (h : Grown limitAfter values d) :
    Sound values d := by
  induction h with
  | single x => exact sound_single x
  | insert values d x _ ih => exact Sound.insert limitAfter values d x ih
  | merge values d _ ih => exact Sound.merge limitAfter values d ih

theorem grown_foldl (values rest : List ℚ) (d : Digest ℚ) (h : Grown limitAfter values d) :
    Grown limitAfter (values ++ rest) (rest.foldl (Digest.insert limitAfter) d) := by
  induction rest generalizing values d with
  | nil =>
      rw [List.append_nil]
      exact h
  | cons x rest ih =>
      have hstep := ih _ _ (Grown.insert values d x h)
      rw [List.append_assoc] at hstep
      exact hstep

/-- The digest of a series is one of them. -/
theorem grown_ofValues (first : ℚ) (rest : List ℚ) :
    Grown limitAfter (first :: rest) (ofValues limitAfter first rest) :=
  grown_foldl limitAfter [first] rest (single first) (Grown.single first)

end Invariant

end Digest

end PageSweep
