import ClientForge.Proofs.ListMerges
import ClientForge.Proofs.Lists
import ClientForge.Proofs.Outcomes

/-!
The order in which a class and everything that it inherits from are looked through: the orders of its bases and the
list of these bases are merged. There is such an order unless the merged lists contradict each other.
-/

namespace ClientForge.Linearisation

open Relation

variable {α : Type} [DecidableEq α]

section Orders

variable (bases : α → List α)

/-- The order of an element: it comes first, and then those of its bases and the list of them, merged. -/
inductive Linear : α → List α → Prop
  | intro (x : α) (order : α → List α) (rest : List α) (hbases : ∀ b ∈ bases x, Linear b (order b))
      (hrest : merge ((bases x).map order ++ [bases x]) = some rest) : Linear x (x :: rest)

/-- The orders of some elements can be merged with their list. -/
def Mergeable (items : List α) : Prop :=
  ∃ order rest, (∀ b ∈ items, Linear bases b (order b)) ∧ merge (items.map order ++ [items]) = some rest

def Consistent (items : List α) : Prop :=
  ∀ order, (∀ b ∈ items, Linear bases b (order b)) → ¬∃ x, TransGen (Precedes (items.map order ++ [items])) x x

variable {bases}

theorem Linear.unique {x : α} {l l' : List α} (h : Linear bases x l) (h' : Linear bases x l') : l = l' := by
  induction h generalizing l' with
  | intro x order rest hbases hrest ih =>
    cases h' with
    | intro _ order' rest' hbases' hrest' =>
      have horders : (bases x).map order = (bases x).map order' :=
        List.map_congr_left fun b hb => ih b hb (hbases' b hb)
      rw [horders, hrest'] at hrest
      rw [Option.some.inj hrest]

theorem exists_linear_iff {x : α} : (∃ l, Linear bases x l) ↔ Mergeable bases (bases x) := by
  constructor
  · rintro ⟨l, ⟨_, order, rest, hbases, hrest⟩⟩
    exact ⟨order, rest, hbases, hrest⟩
  · rintro ⟨order, rest, hbases, hrest⟩
    exact ⟨_, .intro x order rest hbases hrest⟩

theorem Mergeable.consistent {items : List α} (h : Mergeable bases items) : Consistent bases items := by
  obtain ⟨order, rest, horder, hrest⟩ := h
  intro order' horder'
  have horders : items.map order' = items.map order :=
    List.map_congr_left fun b hb => (horder' b hb).unique (horder b hb)
  rw [horders]
  exact exists_merge_iff.mp ⟨rest, hrest⟩

theorem consistent_nil : Consistent bases [] := fun _ _ => not_cyclic_of_empty rfl

theorem mergeable_of_consistent {items : List α} (horders : ∀ b ∈ items, ∃ l, Linear bases b l)
    (h : Consistent bases items) : Mergeable bases items := by
  classical
  choose! order horder using horders
  obtain ⟨rest, hrest⟩ := exists_merge_iff.mpr (h order horder)
  exact ⟨order, rest, horder, hrest⟩

theorem exists_linear (hwf : WellFounded fun a b => a ∈ bases b) (h : ∀ x, Consistent bases (bases x)) (x : α) :
    ∃ l, Linear bases x l := by
  induction x using hwf.induction with
  | _ x ih => exact exists_linear_iff.mpr (mergeable_of_consistent ih (h x))

theorem sublists_of_merge {items rest : List α} {order : α → List α}
    (h : merge (items.map order ++ [items]) = some rest) :
    items.Sublist rest ∧ ∀ b ∈ items, (order b).Sublist rest := by
  have hmerges := merges_of_mergeWithin h
  refine ⟨hmerges.sublist (List.mem_append_right _ (List.mem_singleton_self _)), fun b hb => ?_⟩
  exact hmerges.sublist (List.mem_append_left _ (List.mem_map_of_mem hb))

theorem Linear.mem_of_transGen {x a : α} {l : List α} (h : Linear bases x l)
    (ha : TransGen (fun a b => a ∈ bases b) a x) : a ∈ l.tail := by
  induction h with
  | intro x order rest hbases hrest ih =>
    rw [List.tail_cons]
    obtain ⟨b, hab, hb⟩ := TransGen.tail'_iff.mp ha
    rcases reflTransGen_iff_eq_or_transGen.mp hab with rfl | hab
    · exact (sublists_of_merge hrest).1.subset hb
    · have hmem := List.mem_of_mem_tail (ih b hb hab)
      exact ((sublists_of_merge hrest).2 b hb).subset hmem

theorem Linear.transGen_of_mem {x a : α} {l : List α} (h : Linear bases x l) (ha : a ∈ l.tail) :
    TransGen (fun a b => a ∈ bases b) a x := by
  induction h with
  | intro x order rest hbases hrest ih =>
    obtain ⟨k, hk, hak⟩ := (merges_of_mergeWithin hrest).exists_mem ha
    rcases List.mem_append.mp hk with hk | hk
    · obtain ⟨b, hb, rfl⟩ := List.mem_map.mp hk
      have htail := ih b hb
      have hlinear := hbases b hb
      generalize order b = l at hak htail hlinear
      cases hlinear with
      | intro _ order' rest' _ _ =>
        rcases List.mem_cons.mp hak with rfl | hak
        · exact .single hb
        · exact (htail hak).tail hb
    · exact .single (List.mem_singleton.mp hk ▸ hak)

theorem Linear.nodup (hwf : WellFounded fun a b => a ∈ bases b) {x : α} {l : List α} (h : Linear bases x l) :
    l.Nodup := by
  have hmem (hx : x ∈ l.tail) : False := by
    have hself := h.transGen_of_mem hx
    exact hwf.transGen.asymmetric x x hself hself
  cases h with
  | intro _ order rest hbases hrest => exact List.nodup_cons.mpr ⟨hmem, (merges_of_mergeWithin hrest).nodup⟩

def Apart (bases : α → List α) (base : α) (items : List α) : Prop :=
  ∀ a ∈ items, ∀ b ∈ items, a ≠ b → a ≠ base ∧ ¬TransGen (fun a b => a ∈ bases b) a b ∧
    ∀ c, TransGen (fun a b => a ∈ bases b) c a → TransGen (fun a b => a ∈ bases b) c b → c = base

omit [DecidableEq α] in
theorem exists_around (base : α) {l : List α} (hl : l.Nodup) : ∃ before after : List α,
    l.Sublist (before ++ base :: after) ∧ (before ++ base :: after).Nodup ∧ before ⊆ l ∧ after ⊆ l ∧
      ∀ a ∈ l.head?, a ≠ base → a ∈ before := by
  by_cases h : base ∈ l
  · obtain ⟨before, after, rfl⟩ := List.append_of_mem h
    refine ⟨before, after, .refl _, hl, by simp, by simp, fun a ha hne => ?_⟩
    cases before with
    | nil => exact absurd (Option.some.inj ha).symm hne
    | cons b before =>
      cases ha
      exact List.mem_cons_self
  · refine ⟨l, [], List.sublist_append_left l [base], ?_, List.Subset.refl l, List.nil_subset l, fun a ha _ => ?_⟩
    · rw [← List.concat_eq_append]
      exact hl.concat h
    · exact List.mem_of_mem_head? ha

omit [DecidableEq α] in
theorem exists_whole {items : List α} {base : α} {order : α → List α} (hitems : items.Nodup)
    (hnodup : ∀ a ∈ items, (order a).Nodup) (hhead : ∀ a ∈ items, (order a).head? = some a)
    (hcommon : ∀ a ∈ items, ∀ b ∈ items, a ≠ b → a ≠ base ∧ ∀ c ∈ order a, c ∈ order b → c = base) :
    ∃ whole : List α, whole.Nodup ∧ items.Sublist whole ∧ ∀ a ∈ items, (order a).Sublist whole := by
  -- All that stands before `base` in one of the orders, then `base`, then all that stands behind it.
  choose! before after haround using fun a ha => exists_around base (hnodup a ha)
  have hdisjoint {f g : α → List α} (hf : ∀ a ∈ items, f a ⊆ order a ∧ base ∉ f a) (hg : ∀ a ∈ items, g a ⊆ order a) :
      ∀ a ∈ items, ∀ b ∈ items, a ≠ b → (f a).Disjoint (g b) := by
    intro a ha b hb hab c hc hc'
    exact (hf a ha).2 ((hcommon a ha b hb hab).2 c ((hf a ha).1 hc) (hg b hb hc') ▸ hc)
  have hparts : ∀ a ∈ items, (before a).Nodup ∧ base ∉ before a ∧ (after a).Nodup ∧ base ∉ after a ∧
      (before a).Disjoint (after a) := by
    intro a ha
    obtain ⟨-, hnodup, -⟩ := haround a ha
    rw [List.nodup_append', List.nodup_cons, List.disjoint_cons_right] at hnodup
    exact ⟨hnodup.1, hnodup.2.2.1, hnodup.2.1.2, hnodup.2.1.1, hnodup.2.2.2⟩
  have hbefore : ∀ a ∈ items, before a ⊆ order a ∧ base ∉ before a :=
    fun a ha => ⟨(haround a ha).2.2.1, (hparts a ha).2.1⟩
  have hafter : ∀ a ∈ items, after a ⊆ order a ∧ base ∉ after a :=
    fun a ha => ⟨(haround a ha).2.2.2.1, (hparts a ha).2.2.2.1⟩
  refine ⟨items.flatMap before ++ base :: items.flatMap after, ?_, ?_, fun a ha => ?_⟩
  · rw [List.nodup_append', List.nodup_cons, List.nodup_flatMap, List.nodup_flatMap, List.disjoint_cons_right]
    refine ⟨⟨fun a ha => (hparts a ha).1, ?_⟩, ⟨?_, fun a ha => (hparts a ha).2.2.1, ?_⟩, ?_, ?_⟩
    · exact hitems.pairwise_of_forall_ne (hdisjoint hbefore fun a ha => (hbefore a ha).1)
    · simpa using fun a ha => (hafter a ha).2
    · exact hitems.pairwise_of_forall_ne (hdisjoint hafter fun a ha => (hafter a ha).1)
    · simpa using fun a ha => (hbefore a ha).2
    · intro c hc hc'
      obtain ⟨a, ha, hca⟩ := List.mem_flatMap.mp hc
      obtain ⟨b, hb, hcb⟩ := List.mem_flatMap.mp hc'
      by_cases hab : a = b
      · exact (hparts a ha).2.2.2.2 hca (hab ▸ hcb)
      · exact hdisjoint hbefore (fun a ha => (hafter a ha).1) a ha b hb hab hca hcb
  · by_cases hsingle : ∀ a ∈ items, a ≠ base
    · refine (sublist_flatMap fun a ha => ?_).trans (List.sublist_append_left _ _)
      exact (haround a ha).2.2.2.2 a (hhead a ha) (hsingle a ha)
    · obtain ⟨b, hb, rfl⟩ : ∃ b ∈ items, b = base := by simpa using hsingle
      have hall : ∀ a ∈ items, a = b := fun a ha => by_contra fun hab => (hcommon b hb a ha (Ne.symm hab)).1 rfl
      have hsame : items = List.replicate items.length b := List.eq_replicate_of_mem hall
      have hlength : items.length ≤ 1 := List.nodup_replicate.mp (hsame ▸ hitems)
      rw [hsame]
      refine ((List.replicate_sublist_replicate b).mpr hlength).trans (List.singleton_sublist.mpr ?_)
      simp
  · have hsub := List.sublist_flatten_of_mem (List.mem_map_of_mem (f := before) ha)
    have hsub' := List.sublist_flatten_of_mem (List.mem_map_of_mem (f := after) ha)
    exact (haround a ha).1.trans (hsub.append (hsub'.cons_cons base))

theorem mergeable_of_apart (hwf : WellFounded fun a b => a ∈ bases b) {base : α} {items : List α}
    (hitems : items.Nodup) (h : Apart bases base items) (horders : ∀ b ∈ items, ∃ l, Linear bases b l) :
    Mergeable bases items := by
  choose! order horder using horders
  have hhead : ∀ a ∈ items, (order a).head? = some a := by
    intro a ha
    have hlinear := horder a ha
    generalize order a = l at hlinear
    cases hlinear
    rfl
  have hmem {a c : α} (ha : a ∈ items) (hc : c ∈ order a) : c = a ∨ TransGen (fun a b => a ∈ bases b) c a := by
    obtain ⟨rest, horder'⟩ := List.head?_eq_some_iff.mp (hhead a ha)
    rw [horder', List.mem_cons] at hc
    exact hc.imp_right fun hc => (horder a ha).transGen_of_mem (by rwa [horder', List.tail_cons])
  have hcommon : ∀ a ∈ items, ∀ b ∈ items, a ≠ b → a ≠ base ∧ ∀ c ∈ order a, c ∈ order b → c = base := by
    intro a ha b hb hab
    obtain ⟨hbase, hnot, hcommon⟩ := h a ha b hb hab
    refine ⟨hbase, fun c hc hc' => ?_⟩
    rcases hmem ha hc with rfl | hca
    · exact absurd ((hmem hb hc').resolve_left hab) hnot
    · rcases hmem hb hc' with rfl | hcb
      · exact absurd hca (h c hb a ha (Ne.symm hab)).2.1
      · exact hcommon c hca hcb
  obtain ⟨whole, hwhole, hsublist, hsublists⟩ :=
    exists_whole hitems (fun a ha => (horder a ha).nodup hwf) hhead hcommon
  have hall : ∀ l ∈ items.map order ++ [items], l.Sublist whole := by
    simpa [or_imp, forall_and] using ⟨hsublists, hsublist⟩
  obtain ⟨merged, hmerged⟩ := exists_merge_iff.mpr (not_cyclic_of_sublists hwhole hall)
  exact ⟨order, merged, horder, hmerged⟩

theorem exists_linear_of_apart (hwf : WellFounded fun a b => a ∈ bases b) {base : α}
    (h : ∀ x, (bases x).Nodup ∧ Apart bases base (bases x)) (x : α) : ∃ l, Linear bases x l := by
  induction x using hwf.induction with
  | _ x ih => exact exists_linear_iff.mpr (mergeable_of_apart hwf (h x).1 (h x).2 ih)

theorem Linear.sublist {x c : α} {l : List α} (h : Linear bases x l)
    (hc : ReflTransGen (fun a b => a ∈ bases b) c x) : (c :: bases c).Sublist l := by
  induction h with
  | intro x order rest hbases hrest ih =>
    rcases ReflTransGen.cases_tail hc with rfl | ⟨b, hcb, hb⟩
    · exact (sublists_of_merge hrest).1.cons_cons _
    · exact ((ih b hb hcb).trans ((sublists_of_merge hrest).2 b hb)).cons x

/-- One element is listed before another one: among some elements, or among the bases of one that these inherit from,
which itself comes before its bases. -/
def ListedBefore (bases : α → List α) (items : List α) (x y : α) : Prop :=
  [x, y].Sublist items ∨ ∃ c, ∃ b ∈ items, ReflTransGen (fun a b => a ∈ bases b) c b ∧ [x, y].Sublist (c :: bases c)

theorem Mergeable.not_circular {items : List α} (h : Mergeable bases items) :
    ¬∃ x, TransGen (ListedBefore bases items) x x := by
  obtain ⟨order, rest, horder, hrest⟩ := id h
  rintro ⟨x, hx⟩
  refine h.consistent order horder ⟨x, TransGen.mono ?_ _ _ hx⟩
  rintro a b (hab | ⟨c, d, hd, hc, hab⟩)
  · exact ⟨items, List.mem_append_right _ (List.mem_singleton_self _), hab⟩
  · exact ⟨order d, List.mem_append_left _ (List.mem_map_of_mem hd), hab.trans ((horder d hd).sublist hc)⟩

theorem not_mergeable_of_ancestor {items : List α} {a b : α} (hab : [a, b].Sublist items)
    (h : TransGen (fun a b => a ∈ bases b) a b) : ¬Mergeable bases items := by
  have hb : b ∈ items := hab.subset (by simp)
  have hlisted {c : α} (hc : TransGen (fun a b => a ∈ bases b) c b) : TransGen (ListedBefore bases items) b c := by
    induction hc using TransGen.head_induction_on with
    | single hc => exact .single (.inr ⟨b, b, hb, .refl, (List.singleton_sublist.mpr hc).cons_cons b⟩)
    | head hcd hdb ih =>
      exact ih.tail (.inr ⟨_, b, hb, hdb.to_reflTransGen, (List.singleton_sublist.mpr hcd).cons_cons _⟩)
  exact fun hmergeable => hmergeable.not_circular ⟨a, .head (.inl hab) (hlisted h)⟩

def linearise (bases : α → List α) : ℕ → α → Option (List α)
  | 0, _ => none
  | depth + 1, x =>
    ((bases x).mapM (linearise bases depth)).bind fun orders => (merge (orders ++ [bases x])).map (x :: ·)

def canMerge (bases : α → List α) (depth : ℕ) (items : List α) : Bool :=
  (items.mapM (linearise bases depth)).any fun orders => (merge (orders ++ [items])).isSome

omit [DecidableEq α] in
theorem exists_order {f : α → Option (List α)} {items : List α} {orders : List (List α)}
    (h : items.mapM f = some orders) : ∃ order, orders = items.map order ∧ ∀ x ∈ items, f x = some (order x) := by
  refine ⟨fun x => (f x).getD [], ?_⟩
  have hall := Outcome.forall₂_of_mapM_some h
  clear h
  induction hall with
  | nil => exact ⟨rfl, List.forall_mem_nil _⟩
  | cons hx _ ih =>
    obtain ⟨rfl, hsome⟩ := ih
    exact ⟨by simp [hx], List.forall_mem_cons.mpr ⟨by simp [hx], hsome⟩⟩

theorem linear_of_linearise {depth : ℕ} {x : α} {l : List α} (h : linearise bases depth x = some l) :
    Linear bases x l := by
  induction depth generalizing x l with
  | zero => cases h
  | succ depth ih =>
    rw [linearise] at h
    obtain ⟨orders, horders, h⟩ := Option.bind_eq_some_iff.mp h
    obtain ⟨rest, hrest, rfl⟩ := Option.map_eq_some_iff.mp h
    obtain ⟨order, rfl, horder⟩ := exists_order horders
    exact .intro x order rest (fun b hb => ih (horder b hb)) hrest

theorem mergeable_of_canMerge {depth : ℕ} {items : List α} (h : canMerge bases depth items = true) :
    Mergeable bases items := by
  obtain ⟨orders, horders, hmerge⟩ := (Option.any_eq_true _ _).mp h
  obtain ⟨rest, hrest⟩ := Option.isSome_iff_exists.mp hmerge
  obtain ⟨order, rfl, horder⟩ := exists_order horders
  exact ⟨order, rest, fun b hb => linear_of_linearise (horder b hb), hrest⟩

def areApart (bases : α → List α) (depth : ℕ) (base : α) (items : List α) : Bool :=
  items.all fun a => items.all fun b => a = b ∨ a ≠ base ∧
    (linearise bases depth a).any fun l => (linearise bases depth b).any fun l' =>
      a ∉ l'.tail ∧ l.tail.all fun c => c ∈ l'.tail → c = base

theorem apart_of_areApart {depth : ℕ} {base : α} {items : List α} (h : areApart bases depth base items = true) :
    Apart bases base items := by
  intro a ha b hb hab
  have hpair := of_decide_eq_true (List.all_eq_true.mp (List.all_eq_true.mp h a ha) b hb)
  obtain ⟨hbase, hlines⟩ := hpair.resolve_left hab
  obtain ⟨l, hl, hlines⟩ := (Option.any_eq_true _ _).mp hlines
  obtain ⟨l', hl', hlines⟩ := (Option.any_eq_true _ _).mp hlines
  obtain ⟨hnot, hcommon⟩ := of_decide_eq_true hlines
  have hmem {c : α} (hc : TransGen (fun a b => a ∈ bases b) c b) : c ∈ l'.tail :=
    (linear_of_linearise hl').mem_of_transGen hc
  refine ⟨hbase, fun hab => hnot (hmem hab), fun c hca hcb => ?_⟩
  have hc := (linear_of_linearise hl).mem_of_transGen hca
  exact of_decide_eq_true (List.all_eq_true.mp hcommon c hc) (hmem hcb)

end Orders

end ClientForge.Linearisation
