/-
# Stable sorting by a key

A list is the stable sort of another one by a key if it ascends in the key and
has, for each key, the items with that key as the other list has them. There is
one such list only (`IsStableSort.unique`), and merge sort gives it
(`isStableSort_mergeSort`). What becomes of a stable sort when items are changed,
dropped or given in another order follows without another look at the sorting.

Key definitions: `withKey`, `IsStableSort`.
Key theorems: `IsStableSort.unique`, `isStableSort_mergeSort`, `IsStableSort.pairwise`,
`IsStableSort.split`, `IsStableSort.of_perm`.
-/
import Mathlib.Data.List.Nodup
import Mathlib.Data.List.Perm.Basic
import Mathlib.Order.Lattice

namespace TieredReport

universe u v w

variable {α : Type u} {β : Type w} {κ : Type v} [LinearOrder κ] {key : α → κ} {k : κ}
  {xs xs' ys zs : List α}

/-- The items of a list that have a certain key. -/
def withKey (key : α → κ) (k : κ) (xs : List α) : List α := xs.filter fun a => key a = k

/-- `ys` is `xs` in ascending order of a key; items with one key stand as they do in `xs`. -/
structure IsStableSort (key : α → κ) (xs ys : List α) : Prop where
  ascending : ys.Pairwise fun a b => key a ≤ key b
  stable : ∀ k, withKey key k ys = withKey key k xs

/-! ### Items with a key -/

theorem mem_withKey {a : α} : a ∈ withKey key k xs ↔ a ∈ xs ∧ key a = k := by
  simp [withKey]

theorem withKey_append (key : α → κ) (k : κ) (xs ys : List α) :
    withKey key k (xs ++ ys) = withKey key k xs ++ withKey key k ys :=
  List.filter_append xs ys

theorem withKey_cons_self (key : α → κ) (a : α) (xs : List α) :
    withKey key (key a) (a :: xs) = a :: withKey key (key a) xs := by
  simp [withKey]

theorem withKey_cons_of_ne {a : α} (h : key a ≠ k) (xs : List α) :
    withKey key k (a :: xs) = withKey key k xs := by
  simp [withKey, h]

theorem withKey_map {key' : β → κ} {f : α → β} (h : ∀ a, key' (f a) = key a) (k : κ)
    (xs : List α) : withKey key' k (xs.map f) = (withKey key k xs).map f := by
  simp [withKey, List.filter_map, Function.comp_def, h]

/-! ### One stable sort only -/

namespace IsStableSort

theorem mem_iff (h : IsStableSort key xs ys) {a : α} : a ∈ ys ↔ a ∈ xs := by
  have hmem : ∀ l : List α, a ∈ l ↔ a ∈ withKey key (key a) l := by
    intro l
    simp [mem_withKey]
  rw [hmem ys, hmem xs, h.stable]

theorem perm (h : IsStableSort key xs ys) : ys.Perm xs := by
  classical
  apply List.perm_iff_count.2
  intro a
  have hcount : ∀ l : List α, (withKey key (key a) l).count a = l.count a := by
    intro l
    apply List.count_filter
    exact decide_eq_true rfl
  rw [← hcount ys, ← hcount xs, h.stable]

/-- Two lists that ascend and have the same items for each key begin with one item: its key is the
least of both, and it is the first item with that key. -/
theorem head_eq {y z : α} (hy : (y :: ys).Pairwise fun a b => key a ≤ key b)
    (hz : (z :: zs).Pairwise fun a b => key a ≤ key b)
    (hsame : ∀ k, withKey key k (y :: ys) = withKey key k (z :: zs)) : y = z := by
  have hymem : y ∈ withKey key (key y) (z :: zs) := by
    rw [← hsame, withKey_cons_self]
    exact List.mem_cons_self
  have hzmem : z ∈ withKey key (key z) (y :: ys) := by
    rw [hsame, withKey_cons_self]
    exact List.mem_cons_self
  have hle : key z ≤ key y := by
    rcases List.mem_cons.1 (mem_withKey.1 hymem).1 with heq | hmem
    · rw [heq]
    · exact List.rel_of_pairwise_cons hz hmem
  have hge : key y ≤ key z := by
    rcases List.mem_cons.1 (mem_withKey.1 hzmem).1 with heq | hmem
    · rw [heq]
    · exact List.rel_of_pairwise_cons hy hmem
  have hheads := hsame (key y)
  rw [withKey_cons_self, le_antisymm hge hle, withKey_cons_self] at hheads
  exact (List.cons.inj hheads).1

/-- **A list has one stable sort.** -/
theorem unique (hy : IsStableSort key xs ys) (hz : IsStableSort key xs zs) : ys = zs := by
  have hsame : ∀ k, withKey key k ys = withKey key k zs := by
    intro k
    rw [hy.stable, hz.stable]
  have hyasc := hy.ascending
  have hzasc := hz.ascending
  clear hy hz
  induction ys generalizing zs with
  | nil =>
    cases zs with
    | nil => rfl
    | cons z zs =>
      have hnil := hsame (key z)
      rw [withKey_cons_self] at hnil
      cases hnil
  | cons y ys ih =>
    cases zs with
    | nil =>
      have hnil := hsame (key y)
      rw [withKey_cons_self] at hnil
      cases hnil
    | cons z zs =>
      obtain rfl := head_eq hyasc hzasc hsame
      rw [ih _ hyasc.of_cons hzasc.of_cons]
      intro k
      have htails := hsame k
      by_cases hk : key y = k
      · subst hk
        rw [withKey_cons_self, withKey_cons_self] at htails
        exact (List.cons.inj htails).2
      · rw [withKey_cons_of_ne hk, withKey_cons_of_ne hk] at htails
        exact htails

end IsStableSort

/-- **Merge sort gives the stable sort.** -/
theorem isStableSort_mergeSort {le : α → α → Bool} (hle : ∀ a b, le a b = true ↔ key a ≤ key b)
    (xs : List α) : IsStableSort key xs (xs.mergeSort le) := by
  have htrans : ∀ a b c, le a b = true → le b c = true → le a c = true := by
    intro a b c hab hbc
    rw [hle] at hab hbc ⊢
    exact le_trans hab hbc
  have htotal : ∀ a b, (le a b || le b a) = true := by
    intro a b
    rw [Bool.or_eq_true, hle, hle]
    exact le_total _ _
  refine ⟨?_, fun k => ?_⟩
  · exact (List.pairwise_mergeSort htrans htotal xs).imp fun h => (hle _ _).1 h
  · -- the items with one key are in order as they stand, so the sort keeps them as they stand
    have hsub : (withKey key k xs).Sublist (xs.mergeSort le) := by
      apply List.sublist_mergeSort htrans htotal _ List.filter_sublist
      apply List.pairwise_of_forall_mem_list
      intro a ha b hb
      rw [hle, (mem_withKey.1 ha).2, (mem_withKey.1 hb).2]
    have hwith : (withKey key k xs).Sublist (withKey key k (xs.mergeSort le)) := by
      have hself : withKey key k (withKey key k xs) = withKey key k xs :=
        List.filter_eq_self.2 fun a ha => decide_eq_true (mem_withKey.1 ha).2
      rw [← hself]
      exact hsub.filter _
    have hlength : (withKey key k (xs.mergeSort le)).length = (withKey key k xs).length :=
      ((List.mergeSort_perm xs le).filter _).length_eq
    exact (hwith.eq_of_length hlength.symm).symm

/-! ### Changing, dropping and reordering items -/

namespace IsStableSort

/-- A stable sort ascends in the key, and for one key in any order in which the list was. -/
theorem pairwise {R : α → α → Prop} (h : IsStableSort key xs ys) (hxs : xs.Pairwise R) :
    ys.Pairwise fun a b => key a < key b ∨ key a = key b ∧ R a b := by
  rw [List.pairwise_iff_forall_sublist]
  intro a b hab
  rcases (List.pairwise_iff_forall_sublist.1 h.ascending hab).lt_or_eq with hlt | heq
  · exact Or.inl hlt
  · refine Or.inr ⟨heq, List.pairwise_iff_forall_sublist.1 hxs ?_⟩
    -- both items have one key, and the items with that key stand in `xs` as they do in `ys`
    have hboth : withKey key (key b) [a, b] = [a, b] := by simp [withKey, heq]
    rw [← hboth]
    have hwith : (withKey key (key b) [a, b]).Sublist (withKey key (key b) xs) := by
      rw [← h.stable]
      exact hab.filter _
    exact hwith.trans List.filter_sublist

/-- Items may be changed as long as their keys are not. -/
theorem map (h : IsStableSort key xs ys) {key' : β → κ} {f : α → β}
    (hkey : ∀ a, key' (f a) = key a) : IsStableSort key' (xs.map f) (ys.map f) where
  ascending := by
    rw [List.pairwise_map]
    simpa only [hkey] using h.ascending
  stable k := by
    rw [withKey_map hkey, withKey_map hkey, h.stable]

/-- **One item between others.** A stable sort without one of its items is the stable sort of the
others. -/
theorem split {before after : List α} {x : α} (h : IsStableSort key (before ++ x :: after) ys) :
    ∃ front back, ys = front ++ x :: back ∧ IsStableSort key (before ++ after) (front ++ back) := by
  -- among the items with its key, the item stands right behind those of `before`
  have hx : withKey key (key x) ys =
      withKey key (key x) before ++ x :: withKey key (key x) after := by
    rw [h.stable, withKey_append, withKey_cons_self]
  obtain ⟨front, rest, rfl, hfront, hrest⟩ := List.filter_eq_append_iff.1 hx
  obtain ⟨skipped, back, rfl, hskipped, -, hback⟩ := List.filter_eq_cons_iff.1 hrest
  have hnone : withKey key (key x) skipped = [] := List.filter_eq_nil_iff.2 hskipped
  have hys : front ++ (skipped ++ x :: back) = front ++ skipped ++ x :: back := by simp
  rw [hys] at h ⊢
  refine ⟨front ++ skipped, back, rfl, ?_, fun k => ?_⟩
  · have hsub : (front ++ skipped ++ back).Sublist (front ++ skipped ++ x :: back) :=
      (List.sublist_cons_self x back).append_left _
    exact List.Pairwise.sublist hsub h.ascending
  · by_cases hk : key x = k
    · subst hk
      rw [withKey_append, withKey_append, withKey_append, hnone, List.append_nil]
      exact congrArg₂ _ hfront hback
    · have hall := h.stable k
      rw [withKey_append, withKey_cons_of_ne hk, ← withKey_append] at hall
      rw [hall, withKey_append, withKey_cons_of_ne hk, ← withKey_append]

/-- **Reordering.** Where no two items have one key, it does not matter in which order they are
given. -/
theorem of_perm (h : IsStableSort key xs ys) (hperm : xs'.Perm xs) (hnodup : (xs.map key).Nodup) :
    IsStableSort key xs' ys := by
  have h' : IsStableSort key xs' (xs'.mergeSort fun a b => key a ≤ key b) :=
    isStableSort_mergeSort (by simp) xs'
  have heq : (xs'.mergeSort fun a b => key a ≤ key b) = ys := by
    apply List.Perm.eq_of_pairwise _ h'.ascending h.ascending
      (h'.perm.trans (hperm.trans h.perm.symm))
    intro a b ha hb hab hba
    have ha' : a ∈ xs := hperm.mem_iff.1 (h'.mem_iff.1 ha)
    have hb' : b ∈ xs := h.mem_iff.1 hb
    exact List.inj_on_of_nodup_map hnodup ha' hb' (le_antisymm hab hba)
  rwa [heq] at h'

end IsStableSort

end TieredReport
