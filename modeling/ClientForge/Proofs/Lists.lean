import Mathlib.Data.List.DropRight
import Mathlib.Data.List.Forall2
import Mathlib.Data.List.Nodup

namespace ClientForge

section Duplicates

variable {α β : Type} [BEq α] [LawfulBEq α]

theorem nodup_eraseDups (l : List α) : l.eraseDups.Nodup := by
  cases l with
  | nil => simp
  | cons a l =>
    rw [List.eraseDups_cons, List.nodup_cons, List.mem_eraseDups]
    exact ⟨by simp, nodup_eraseDups (l.filter fun b => !b == a)⟩
termination_by l.length
decreasing_by exact Nat.lt_succ_of_le (List.length_filter_le _ _)

theorem eraseDups_of_nodup {l : List α} (h : l.Nodup) : l.eraseDups = l := by
  induction l with
  | nil => rfl
  | cons a l ih =>
    obtain ⟨ha, h⟩ := List.nodup_cons.mp h
    have hfilter : (l.filter fun b => !b == a) = l := by
      rw [List.filter_eq_self]
      intro b hb
      have hne : b ≠ a := fun heq => ha (heq ▸ hb)
      simpa using hne
    rw [List.eraseDups_cons, hfilter, ih h]

theorem filter_eraseDups (p : α → Bool) (l : List α) : l.eraseDups.filter p = (l.filter p).eraseDups := by
  cases l with
  | nil => rfl
  | cons a l =>
    have ih := filter_eraseDups p (l.filter fun b => !b == a)
    rw [List.eraseDups_cons]
    cases ha : p a with
    | true =>
      rw [List.filter_cons_of_pos ha, List.filter_cons_of_pos ha, List.eraseDups_cons, ih, List.filter_filter,
        List.filter_filter]
      simp only [Bool.and_comm]
    | false =>
      -- What passes is not `a` anyway.
      have hfilter : (l.filter fun b => !b == a).filter p = l.filter p := by
        rw [List.filter_filter]
        apply List.filter_congr
        intro b hb
        cases hb : p b with
        | false => rfl
        | true =>
          have hne : b ≠ a := fun heq => by simp [heq, ha] at hb
          simpa using hne
      rw [List.filter_cons_of_neg (by simp [ha]), List.filter_cons_of_neg (by simp [ha]), ih, hfilter]
termination_by l.length
decreasing_by exact Nat.lt_succ_of_le (List.length_filter_le _ _)

theorem eraseDups_append_left (l l' : List α) : (l.eraseDups ++ l').eraseDups = (l ++ l').eraseDups := by
  have hremove : l'.removeAll l.eraseDups = l'.removeAll l := by
    apply List.filter_congr
    intro a ha
    rw [Bool.eq_iff_iff]
    simp
  rw [List.eraseDups_append, List.eraseDups_append, eraseDups_of_nodup (nodup_eraseDups l), hremove]

theorem eraseDups_append_right (l l' : List α) : (l ++ l'.eraseDups).eraseDups = (l ++ l').eraseDups := by
  have hremove : l'.eraseDups.removeAll l = (l'.removeAll l).eraseDups := filter_eraseDups _ l'
  rw [List.eraseDups_append, List.eraseDups_append, hremove, eraseDups_of_nodup (nodup_eraseDups _)]

theorem eraseDups_flatMap (l : List β) (f : β → List α) :
    (l.flatMap fun b => (f b).eraseDups).eraseDups = (l.flatMap f).eraseDups := by
  induction l with
  | nil => rfl
  | cons b l ih =>
    rw [List.flatMap_cons, List.flatMap_cons, eraseDups_append_left, ← eraseDups_append_right, ih,
      eraseDups_append_right]

theorem pairwise_findIdx_eraseDups (f : β → α) (l : List β) :
    (l.map f).eraseDups.Pairwise fun a b => l.findIdx (f · == a) < l.findIdx (f · == b) := by
  induction l using List.reverseRecOn with
  | nil => simp
  | append_singleton l x ih =>
    have hold (a : α) (ha : a ∈ l.map f) :
        (l ++ [x]).findIdx (f · == a) = l.findIdx (f · == a) ∧ l.findIdx (f · == a) < l.length := by
      obtain ⟨y, hy, rfl⟩ := List.mem_map.mp ha
      have hlt : l.findIdx (f · == f y) < l.length := List.findIdx_lt_length_of_exists ⟨y, hy, by simp⟩
      exact ⟨by rw [List.findIdx_append, if_pos hlt], hlt⟩
    rw [List.map_append, List.eraseDups_append, List.pairwise_append]
    refine ⟨?_, ?_, ?_⟩
    · refine ih.imp_of_mem fun {a b} ha hb h => ?_
      rwa [(hold a (List.mem_eraseDups.mp ha)).1, (hold b (List.mem_eraseDups.mp hb)).1]
    · rw [List.map_singleton, List.removeAll, List.filter_singleton]
      cases List.elem (f x) (l.map f) <;> simp [List.eraseDups_cons]
    · intro a ha b hb
      rw [List.mem_eraseDups] at ha hb
      obtain ⟨hb, hnew⟩ := List.mem_filter.mp hb
      have hnone : ∀ y ∈ l, (f y == b) = false := by
        intro y hy
        refine beq_eq_false_iff_ne.mpr fun heq => ?_
        rw [List.elem_eq_true_of_mem (heq ▸ List.mem_map_of_mem hy)] at hnew
        cases hnew
      rw [(hold a ha).1, List.findIdx_append, List.findIdx_eq_length.mpr hnone, if_neg (lt_irrefl _)]
      exact (hold a ha).2.trans_le (Nat.le_add_left _ _)

end Duplicates

section Elements

variable {α β : Type}

theorem nothing_or_single_or_several (items : List α) :
    items = [] ∨ (∃ a, items = [a]) ∨ 1 < items.length := by
  cases items with
  | nil => exact .inl rfl
  | cons a rest =>
    cases rest with
    | nil => exact .inr (.inl ⟨a, rfl⟩)
    | cons b rest => exact .inr (.inr (by simp))

theorem eq_of_mem_zip_self {l : List α} {a b : α} (h : (a, b) ∈ l.zip l) : a = b :=
  (List.forall₂_iff_zip.mp (List.forall₂_same.mpr fun _ _ => rfl)).2 h

theorem eq_of_map_eq {f : α → β} {l l' : List α} (h : l.map f = l'.map f)
    (hinj : ∀ a ∈ l, ∀ b ∈ l', f a = f b → a = b) : l = l' := by
  have hlength : l.length = l'.length := by simpa using congrArg List.length h
  apply List.ext_getElem hlength
  intro k hk hk'
  apply hinj _ (List.getElem_mem hk) _ (List.getElem_mem hk')
  simpa [hk, hk'] using congrArg (·[k]?) h

theorem filter_eq_of_map {f : α → β} {p q : α → Bool} {l : List α} (hq : ∀ a b, f a = f b → q a = q b)
    (h : (l.filter p).map f = (l.filter q).map f) : l.filter p = l.filter q := by
  have hsome : ∀ a ∈ l.filter p, q a = true := by
    intro a ha
    obtain ⟨b, hb, hab⟩ := List.mem_map.mp (h ▸ List.mem_map_of_mem ha)
    rw [← hq b a hab]
    exact (List.mem_filter.mp hb).2
  have hboth : l.filter p = (l.filter q).filter p := by
    rw [List.filter_filter, ← List.filter_eq_self.mpr hsome, List.filter_filter]
    simp only [Bool.and_comm]
  have hlength := congrArg List.length h
  rw [List.length_map, List.length_map, hboth, List.length_filter_eq_length_iff] at hlength
  rw [hboth, List.filter_eq_self.mpr hlength]

theorem sublist_flatMap {f : α → List α} {items : List α} (h : ∀ a ∈ items, a ∈ f a) :
    items.Sublist (items.flatMap f) := by
  induction items with
  | nil => exact .refl []
  | cons a items ih =>
    rw [List.forall_mem_cons] at h
    exact (List.singleton_sublist.mpr h.1).append (ih h.2)

theorem rdropWhile_append_of_pos {p : α → Bool} {a b : List α} (h : ∀ x ∈ b, p x = true) :
    (a ++ b).rdropWhile p = a.rdropWhile p := by
  induction b using List.reverseRecOn with
  | nil => rw [List.append_nil]
  | append_singleton b x ih =>
    rw [← List.append_assoc, List.rdropWhile_concat_pos _ _ _ (h x (by simp))]
    exact ih fun y hy => h y (List.mem_append_left _ hy)

end Elements

end ClientForge
