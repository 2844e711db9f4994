import Mathlib.Algebra.Order.BigOperators.Group.List
import Mathlib.Algebra.Order.Group.Nat
import Mathlib.Data.List.Nodup
import Mathlib.Logic.Relation

namespace ClientForge.Linearisation

open Relation

variable {α : Type}

def Precedes (lists : List (List α)) (x y : α) : Prop := ∃ l ∈ lists, [x, y].Sublist l

theorem mem_tail_of_sublist {x y : α} {l : List α} (h : [x, y].Sublist l) : y ∈ l.tail := by
  cases h with
  | cons a h => exact h.subset (by simp)
  | cons_cons a h => exact h.subset (by simp)

theorem exists_minimal {R : α → α → Prop} (htrans : ∀ a b c, R a b → R b c → R a c) (hirrefl : ∀ a, ¬R a a)
    {l : List α} (h : l ≠ []) : ∃ x ∈ l, ∀ y ∈ l, ¬R y x := by
  induction l with
  | nil => exact absurd rfl h
  | cons a l ih =>
    by_cases hl : l = []
    · refine ⟨a, List.mem_cons_self, ?_⟩
      simpa [hl] using hirrefl a
    · obtain ⟨x, hx, hmin⟩ := ih hl
      by_cases hax : R a x
      · refine ⟨a, List.mem_cons_self, fun y hy hya => ?_⟩
        rcases List.mem_cons.mp hy with rfl | hy
        · exact hirrefl y hya
        · exact hmin y hy (htrans y a x hya hax)
      · refine ⟨x, List.mem_cons_of_mem a hx, fun y hy => ?_⟩
        rcases List.mem_cons.mp hy with rfl | hy
        · exact hax
        · exact hmin y hy

theorem not_cyclic_of_empty {lists : List (List α)} (h : lists.all List.isEmpty = true) :
    ¬∃ x, TransGen (Precedes lists) x x := by
  rintro ⟨x, hx⟩
  obtain ⟨y, ⟨l, hl, hsublist⟩, -⟩ := TransGen.head'_iff.mp hx
  rw [List.isEmpty_iff.mp (List.all_eq_true.mp h l hl)] at hsublist
  cases hsublist

theorem all_isEmpty_of_length {lists : List (List α)} (h : lists.flatten.length = 0) :
    lists.all List.isEmpty = true := by
  rw [List.length_eq_zero_iff, List.flatten_eq_nil_iff] at h
  exact List.all_eq_true.mpr fun l hl => List.isEmpty_iff.mpr (h l hl)

variable [DecidableEq α]

def next? (lists : List (List α)) : Option α :=
  (lists.filterMap List.head?).find? fun x => lists.all fun l => x ∉ l.tail

def without (x : α) (l : List α) : List α := if l.head? = some x then l.tail else l

def mergeWithin : ℕ → List (List α) → Option (List α)
  | 0, lists => if lists.all List.isEmpty then some [] else none
  | steps + 1, lists =>
    if lists.all List.isEmpty then some []
    else (next? lists).bind fun x => (mergeWithin steps (lists.map (without x))).map (x :: ·)

def merge (lists : List (List α)) : Option (List α) := mergeWithin lists.flatten.length lists

theorem without_sublist (x : α) (l : List α) : (without x l).Sublist l := by
  unfold without
  split
  · exact List.tail_sublist l
  · exact List.Sublist.refl l

theorem sublist_without {x a b : α} {l : List α} (h : [a, b].Sublist l) (ha : a ≠ x) :
    [a, b].Sublist (without x l) := by
  unfold without
  split
  · rename_i hhead
    obtain ⟨l, rfl⟩ := List.head?_eq_some_iff.mp hhead
    cases h with
    | cons _ h => exact h
    | cons_cons _ h => exact absurd rfl ha
  · exact h

theorem sublist_cons_of_without {x : α} {l rest : List α} (h : (without x l).Sublist rest) : l.Sublist (x :: rest) := by
  unfold without at h
  split at h
  · rename_i hhead
    obtain ⟨l, rfl⟩ := List.head?_eq_some_iff.mp hhead
    exact h.cons_cons x
  · exact h.cons x

theorem notMem_tail_of_next? {lists : List (List α)} {x : α} (h : next? lists = some x) {l : List α}
    (hl : l ∈ lists) : x ∉ l.tail := by
  rw [next?] at h
  have hx := List.find?_some h
  exact of_decide_eq_true (List.all_eq_true.mp hx l hl)

theorem not_precedes_of_next? {lists : List (List α)} {x a : α} (h : next? lists = some x) : ¬Precedes lists a x := by
  rintro ⟨l, hl, hsublist⟩
  exact notMem_tail_of_next? h hl (mem_tail_of_sublist hsublist)

theorem exists_next? {lists : List (List α)} (hempty : lists.all List.isEmpty = false)
    (h : ∀ x, ¬TransGen (Precedes lists) x x) : ∃ x, next? lists = some x := by
  have hheads : lists.filterMap List.head? ≠ [] := by
    obtain ⟨l, hl, hne⟩ := List.all_eq_false.mp hempty
    cases l with
    | nil => exact absurd rfl hne
    | cons x l => exact List.ne_nil_of_mem (List.mem_filterMap.mpr ⟨x :: l, hl, rfl⟩)
  obtain ⟨x, hx, hmin⟩ := exists_minimal (R := TransGen (Precedes lists)) (fun _ _ _ => .trans) h hheads
  rw [← Option.isSome_iff_exists, next?, List.find?_isSome]
  refine ⟨x, hx, List.all_eq_true.mpr fun l hl => decide_eq_true fun htail => ?_⟩
  cases l with
  | nil => cases htail
  | cons y l =>
    apply hmin y (List.mem_filterMap.mpr ⟨y :: l, hl, rfl⟩)
    exact .single ⟨y :: l, hl, (List.singleton_sublist.mpr htail).cons_cons y⟩

theorem length_without_lt {lists : List (List α)} {x : α} (h : next? lists = some x) :
    (lists.map (without x)).flatten.length < lists.flatten.length := by
  have hx := List.mem_of_find?_eq_some h
  obtain ⟨l, hl, hhead⟩ := List.mem_filterMap.mp hx
  rw [List.length_flatten, List.length_flatten, List.map_map]
  apply List.sum_lt_sum
  · intro k _
    exact (without_sublist x k).length_le
  · obtain ⟨l, rfl⟩ := List.head?_eq_some_iff.mp hhead
    exact ⟨x :: l, hl, by simp [without]⟩

theorem cyclic_without_iff {lists : List (List α)} {x : α} (h : next? lists = some x) :
    (∃ y, TransGen (Precedes (lists.map (without x))) y y) ↔ ∃ y, TransGen (Precedes lists) y y := by
  constructor
  · rintro ⟨y, hy⟩
    refine ⟨y, TransGen.mono ?_ _ _ hy⟩
    rintro a b ⟨l, hl, hsublist⟩
    obtain ⟨k, hk, rfl⟩ := List.mem_map.mp hl
    exact ⟨k, hk, hsublist.trans (without_sublist x k)⟩
  · -- Nothing precedes the element that is taken, so that no circle passes by it.
    have hstep {a b : α} (ha : a ≠ x) (hab : Precedes lists a b) : Precedes (lists.map (without x)) a b := by
      obtain ⟨l, hl, hsublist⟩ := hab
      exact ⟨without x l, List.mem_map_of_mem hl, sublist_without hsublist ha⟩
    have htarget {a b : α} (hab : Precedes lists a b) : b ≠ x := by
      rintro rfl
      exact not_precedes_of_next? h hab
    have hpath {a b : α} (hab : TransGen (Precedes lists) a b) (ha : a ≠ x) :
        TransGen (Precedes (lists.map (without x))) a b ∧ b ≠ x := by
      induction hab with
      | single hab => exact ⟨.single (hstep ha hab), htarget hab⟩
      | tail _ hbc ih => exact ⟨ih.1.tail (hstep ih.2 hbc), htarget hbc⟩
    rintro ⟨y, hy⟩
    obtain ⟨z, -, hzy⟩ := TransGen.tail'_iff.mp hy
    exact ⟨y, (hpath hy (htarget hzy)).1⟩

theorem mergeWithin_of_empty {lists : List (List α)} (h : lists.all List.isEmpty = true) (steps : ℕ) :
    mergeWithin steps lists = some [] := by
  cases steps <;> rw [mergeWithin, if_pos h]

theorem mergeWithin_succ {lists : List (List α)} (h : lists.all List.isEmpty = false) (steps : ℕ) :
    mergeWithin (steps + 1) lists =
      (next? lists).bind fun x => (mergeWithin steps (lists.map (without x))).map (x :: ·) := by
  rw [mergeWithin, if_neg (by simp [h])]

/-- What the steps of a merge come to, whatever their number. -/
inductive Merges : List (List α) → List α → Prop
  | nothing {lists : List (List α)} (h : lists.all List.isEmpty = true) : Merges lists []
  | next {lists : List (List α)} {x : α} {rest : List α} (hx : next? lists = some x)
      (hrest : Merges (lists.map (without x)) rest) : Merges lists (x :: rest)

theorem merges_of_mergeWithin {steps : ℕ} {lists : List (List α)} {l : List α} (h : mergeWithin steps lists = some l) :
    Merges lists l := by
  induction steps generalizing lists l with
  | zero =>
    rw [mergeWithin] at h
    split at h
    · cases h
      exact .nothing ‹_›
    · cases h
  | succ steps ih =>
    cases hempty : lists.all List.isEmpty
    · rw [mergeWithin_succ hempty] at h
      obtain ⟨x, hx, h⟩ := Option.bind_eq_some_iff.mp h
      obtain ⟨rest, hrest, rfl⟩ := Option.map_eq_some_iff.mp h
      exact .next hx (ih hrest)
    · rw [mergeWithin_of_empty hempty] at h
      cases h
      exact .nothing hempty

theorem isSome_mergeWithin_iff {steps : ℕ} {lists : List (List α)} (h : lists.flatten.length ≤ steps) :
    (mergeWithin steps lists).isSome = true ↔ ¬∃ x, TransGen (Precedes lists) x x := by
  -- Each step takes an element that nothing precedes, which takes no circle away.
  induction steps generalizing lists with
  | zero =>
    have hempty := all_isEmpty_of_length (Nat.le_zero.mp h)
    rw [mergeWithin_of_empty hempty]
    exact iff_of_true rfl (not_cyclic_of_empty hempty)
  | succ steps ih =>
    cases hempty : lists.all List.isEmpty
    · rw [mergeWithin_succ hempty]
      cases hnext : next? lists with
      | none =>
        refine iff_of_false (by simp) (not_not.mpr ?_)
        by_contra hno
        obtain ⟨x, hx⟩ := exists_next? hempty fun x hx => hno ⟨x, hx⟩
        rw [hnext] at hx
        cases hx
      | some x =>
        have hlt := length_without_lt hnext
        rw [Option.bind_some, Option.isSome_map, ih (by omega), cyclic_without_iff hnext]
    · rw [mergeWithin_of_empty hempty]
      exact iff_of_true rfl (not_cyclic_of_empty hempty)

theorem exists_merge_iff {lists : List (List α)} :
    (∃ l, merge lists = some l) ↔ ¬∃ x, TransGen (Precedes lists) x x := by
  rw [← Option.isSome_iff_exists]
  exact isSome_mergeWithin_iff le_rfl

theorem idxOf_lt_of_sublist {x y : α} {l : List α} (hl : l.Nodup) (h : [x, y].Sublist l) : l.idxOf x < l.idxOf y := by
  induction l with
  | nil => cases h
  | cons a l ih =>
    rw [List.nodup_cons] at hl
    cases h with
    | cons _ h =>
      have hx : a ≠ x := fun heq => hl.1 (heq ▸ h.subset (by simp))
      have hy : a ≠ y := fun heq => hl.1 (heq ▸ h.subset (by simp))
      rw [List.idxOf_cons_ne l hx, List.idxOf_cons_ne l hy]
      exact Nat.succ_lt_succ (ih hl.2 h)
    | cons_cons _ h =>
      have hy : x ≠ y := fun heq => hl.1 (heq ▸ List.singleton_sublist.mp h)
      rw [List.idxOf_cons_self, List.idxOf_cons_ne l hy]
      exact Nat.succ_pos _

theorem not_cyclic_of_sublists {lists : List (List α)} {whole : List α} (hwhole : whole.Nodup)
    (h : ∀ l ∈ lists, l.Sublist whole) : ¬∃ x, TransGen (Precedes lists) x x := by
  have hstep {x y : α} (hxy : Precedes lists x y) : whole.idxOf x < whole.idxOf y := by
    obtain ⟨l, hl, hsublist⟩ := hxy
    exact idxOf_lt_of_sublist hwhole (hsublist.trans (h l hl))
  have hpath {x y : α} (hxy : TransGen (Precedes lists) x y) : whole.idxOf x < whole.idxOf y := by
    induction hxy with
    | single hxy => exact hstep hxy
    | tail _ hyz ih => exact ih.trans (hstep hyz)
  rintro ⟨x, hx⟩
  exact lt_irrefl _ (hpath hx)

theorem notMem_without {lists : List (List α)} {x : α} (h : next? lists = some x) {l : List α} (hl : l ∈ lists) :
    x ∉ without x l := by
  have htail := notMem_tail_of_next? h hl
  unfold without
  split
  · exact htail
  · rename_i hhead
    cases l with
    | nil => exact List.not_mem_nil
    | cons y l =>
      rw [List.mem_cons, not_or]
      exact ⟨fun heq => hhead (congrArg some heq.symm), htail⟩

theorem Merges.exists_mem {lists : List (List α)} {l : List α} (h : Merges lists l) {a : α} (ha : a ∈ l) :
    ∃ k ∈ lists, a ∈ k := by
  induction h with
  | nothing _ => cases ha
  | @next lists x rest hx _ ih =>
    rcases List.mem_cons.mp ha with rfl | ha
    · obtain ⟨k, hk, hhead⟩ := List.mem_filterMap.mp (List.mem_of_find?_eq_some hx)
      exact ⟨k, hk, List.mem_of_head? hhead⟩
    · obtain ⟨_, hmem, hak⟩ := ih ha
      obtain ⟨k, hk, rfl⟩ := List.mem_map.mp hmem
      exact ⟨k, hk, (without_sublist x k).subset hak⟩

theorem Merges.nodup {lists : List (List α)} {l : List α} (h : Merges lists l) : l.Nodup := by
  induction h with
  | nothing _ => exact List.nodup_nil
  | next hx hrest ih =>
    refine List.nodup_cons.mpr ⟨fun hmem => ?_, ih⟩
    obtain ⟨_, hmem, hxk⟩ := hrest.exists_mem hmem
    obtain ⟨k, hk, rfl⟩ := List.mem_map.mp hmem
    exact notMem_without hx hk hxk

theorem Merges.sublist {lists : List (List α)} {k l : List α} (h : Merges lists l) (hk : k ∈ lists) :
    k.Sublist l := by
  induction h generalizing k with
  | nothing hempty => rw [List.isEmpty_iff.mp (List.all_eq_true.mp hempty k hk)]
  | next _ _ ih => exact sublist_cons_of_without (ih (List.mem_map_of_mem hk))

end ClientForge.Linearisation
