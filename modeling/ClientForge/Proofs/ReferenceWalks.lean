import ClientForge.Proofs.ReferenceExpansion
import Mathlib.Logic.Relation

namespace ClientForge.Document

open Outcome Relation

structure Visit where
  seen : List String
  value : Document

variable {root d e result x : Document} {kept refs seen seen' openRefs : List String} {room : ℕ} {ref : String}
  {step : PathStep} {path path' : List PathStep} {v v' v'' : Visit}

inductive Visits (root : Document) (kept : List String) : Visit → Visit → Prop
  | part {seen : List String} {d e : Document} {step : PathStep} (href : d.referenceOf? kept = none)
      (hchild : d.child? step = some e) : Visits root kept ⟨seen, d⟩ ⟨seen, e⟩
  | target {seen : List String} {d e : Document} {ref : String} (href : d.referenceOf? kept = some ref)
      (hseen : ref ∉ seen) (hlookup : Pointer.lookup ref root = .ok e) : Visits root kept ⟨seen, d⟩ ⟨ref :: seen, e⟩

/-- The visits on the way along a path. -/
inductive Walk (root : Document) (kept : List String) : Visit → List PathStep → Visit → Prop
  | here (v : Visit) : Walk root kept v [] v
  | part {seen : List String} {d e : Document} {step : PathStep} {path : List PathStep} {v : Visit}
      (href : d.referenceOf? kept = none) (hchild : d.child? step = some e) (h : Walk root kept ⟨seen, e⟩ path v) :
      Walk root kept ⟨seen, d⟩ (step :: path) v
  | target {seen : List String} {d e : Document} {ref : String} {path : List PathStep} {v : Visit}
      (href : d.referenceOf? kept = some ref) (hseen : ref ∉ seen) (hlookup : Pointer.lookup ref root = .ok e)
      (h : Walk root kept ⟨ref :: seen, e⟩ path v) : Walk root kept ⟨seen, d⟩ path v

section Ends

theorem acc_of_targets (hd : d.IsTree) (hrefs : references kept d ⊆ refs) (htarget : ∀ ref ∈ refs, ref ∉ seen →
    ∀ e, Pointer.lookup ref root = .ok e → Acc (fun inner outer => Visits root kept outer inner) ⟨ref :: seen, e⟩) :
    Acc (fun inner outer => Visits root kept outer inner) ⟨seen, d⟩ := by
  induction hd with
  | scalar s =>
    refine ⟨_, fun inner hinner => ?_⟩
    cases hinner with
    | part href hchild => cases hchild
    | target href => cases href
  | list hitems ih =>
    refine ⟨_, fun inner hinner => ?_⟩
    cases hinner with
    | part href hchild =>
      have hsub := List.Subset.trans (references_child hchild) hrefs
      obtain ⟨items, k, heq, -, hk⟩ | ⟨entries, name, heq, -⟩ := cases_of_child hchild
      · cases heq
        exact ih _ (List.mem_of_getElem? hk) hsub
      · cases heq
    | target href => cases href
  | map htexts hnodup hentries ih =>
    refine ⟨_, fun inner hinner => ?_⟩
    cases hinner with
    | part href hchild =>
      have hsub := List.Subset.trans (references_child hchild) hrefs
      obtain ⟨items, k, heq, -⟩ | ⟨entries, name, heq, -, hname⟩ := cases_of_child hchild
      · cases heq
      · cases heq
        exact ih _ (mem_of_get? hname) hsub
    | target href hseen hlookup => exact htarget _ (hrefs (mem_references href)) hseen _ hlookup

theorem visits_acc (hroot : root.IsTree) (hd : d.IsTree) (hrefs : references kept d ⊆ references kept root)
    (hopen : OpenBeside (references kept root) seen openRefs) :
    Acc (fun inner outer => Visits root kept outer inner) ⟨seen, d⟩ := by
  -- By the references that are not seen: a visit goes into a part, or opens one of them.
  induction hn : openRefs.length generalizing seen d openRefs with
  | zero =>
    apply acc_of_targets hd hrefs
    intro ref href hseen
    rw [List.length_eq_zero_iff.mp hn] at hopen
    cases (hopen.mem_iff ref).mpr ⟨href, hseen⟩
  | succ n ih =>
    apply acc_of_targets hd hrefs
    intro ref href hseen e hlookup
    obtain ⟨path, hpath⟩ := Pointer.lookup_eq_ok hroot hlookup
    have hlength := List.length_erase_add_one ((hopen.mem_iff ref).mpr ⟨href, hseen⟩)
    exact ih (hroot.at? hpath) (references_at hpath) (hopen.erase ref) (by omega)

end Ends

section Parts

theorem getElem?_of_length {items results : List Document} (h : items.length = results.length) (k : ℕ) :
    (items[k]? = none ∧ results[k]? = none) ∨
      ∃ p ∈ items.zip results, items[k]? = some p.1 ∧ results[k]? = some p.2 := by
  cases hitem : items[k]? with
  | none => exact .inl ⟨rfl, by rw [List.getElem?_eq_none_iff] at hitem ⊢; omega⟩
  | some a =>
    obtain ⟨hk, -⟩ := List.getElem?_eq_some_iff.mp hitem
    have hresult := List.getElem?_eq_getElem (h ▸ hk)
    exact .inr ⟨(a, results[k]), List.mem_of_getElem? (List.getElem?_zip_eq_some.mpr ⟨hitem, hresult⟩), rfl, hresult⟩

theorem get?_of_keys {entries results : Entries} (h : List.Forall₂ (fun a b => a.1 = b.1) entries results)
    (name : String) : (Entries.get? entries name = none ∧ Entries.get? results name = none) ∨
      ∃ p ∈ entries.zip results, Entries.get? entries name = some p.1.2 ∧ Entries.get? results name = some p.2.2 := by
  induction h with
  | nil => exact .inl ⟨rfl, rfl⟩
  | @cons a b entries results hab _ ih =>
    rw [Entries.get?_cons, Entries.get?_cons, ← hab]
    split
    · exact .inr ⟨(a, b), List.mem_cons_self, rfl, rfl⟩
    · exact ih.imp_right fun ⟨p, hp, hget⟩ => ⟨p, List.mem_cons_of_mem _ hp, hget⟩

theorem Resolves.child (h : Resolves root kept room seen d result) (href : d.referenceOf? kept = none)
    (step : PathStep) : (d.child? step = none ∧ result.child? step = none) ∨
      ∃ a b, d.child? step = some a ∧ result.child? step = some b ∧ Resolves root kept (room - 2) seen a b := by
  cases h with
  | scalar s => exact .inl ⟨rfl, rfl⟩
  | list hlength h =>
    cases step with
    | key name => exact .inl ⟨rfl, rfl⟩
    | index k =>
      exact (getElem?_of_length hlength k).imp_right fun ⟨p, hp, ha, hb⟩ => ⟨p.1, p.2, ha, hb, h _ _ hp⟩
  | map _ hkeys h =>
    cases step with
    | key name => exact (get?_of_keys hkeys name).imp_right fun ⟨p, hp, ha, hb⟩ => ⟨p.1.2, p.2.2, ha, hb, h _ _ hp⟩
    | index k => exact .inl ⟨rfl, rfl⟩
  | left href' =>
    rw [href] at href'
    cases href'
  | target href' =>
    rw [href] at href'
    cases href'

end Parts

section Walks

theorem Walk.trans (h : Walk root kept v path v') (h' : Walk root kept v' path' v'') :
    Walk root kept v (path ++ path') v'' := by
  induction h with
  | here v => exact h'
  | part href hchild _ ih => exact .part href hchild (ih h')
  | target href hseen hlookup _ ih => exact .target href hseen hlookup (ih h')

theorem Walk.induction {P : List String → Document → Prop} (h : Walk root kept v path v')
    (hpart : ∀ {seen d e step}, P seen d → d.referenceOf? kept = none → d.child? step = some e → P seen e)
    (htarget : ∀ {seen d e ref}, P seen d → d.referenceOf? kept = some ref → ref ∉ seen →
      Pointer.lookup ref root = .ok e → P (ref :: seen) e) (hv : P v.seen v.value) : P v'.seen v'.value := by
  induction h with
  | here v => exact hv
  | part href hchild _ ih => exact ih (hpart hv href hchild)
  | target href hseen hlookup _ ih => exact ih (htarget hv href hseen hlookup)

theorem Walk.exists_at (hroot : root.IsTree) (h : Walk root kept v path v')
    (hv : ∃ place, root.at? place = some v.value) : ∃ place, root.at? place = some v'.value := by
  apply h.induction (P := fun _ d => ∃ place, root.at? place = some d) _ _ hv
  · rintro seen d e step ⟨place, hplace⟩ - hchild
    refine ⟨place ++ [step], ?_⟩
    rw [at?_append, hplace]
    exact at?_cons_eq_some.mpr ⟨e, hchild, rfl⟩
  · intro seen d e ref _ _ _ hlookup
    exact Pointer.lookup_eq_ok hroot hlookup

theorem Walk.seen_subset (hroot : root.IsTree) (h : Walk root kept v path v') (hseen : v.seen ⊆ references kept root)
    (hrefs : references kept v.value ⊆ references kept root) : v'.seen ⊆ references kept root := by
  refine (h.induction (P := fun seen d => seen ⊆ references kept root ∧ references kept d ⊆ references kept root)
    (fun hd _ hchild => ⟨hd.1, List.Subset.trans (references_child hchild) hd.2⟩) (fun hd href _ hlookup => ?_)
    ⟨hseen, hrefs⟩).1
  obtain ⟨place, hplace⟩ := Pointer.lookup_eq_ok hroot hlookup
  exact ⟨List.cons_subset.mpr ⟨hd.2 (mem_references href), hd.1⟩, references_at hplace⟩

theorem Resolves.settle (h : Resolves root kept room seen d result) :
    ∃ seen' e, Walk root kept ⟨seen, d⟩ [] ⟨seen', e⟩ ∧
      ((e.referenceOf? kept = none ∧ ∃ less ≤ room, Resolves root kept less seen' e result) ∨
        ∃ ref, e.referenceOf? kept = some ref ∧ ref ∈ seen' ∧ result = e) := by
  induction h with
  | scalar s => exact ⟨_, _, .here _, .inl ⟨rfl, _, Nat.le_refl _, .scalar s⟩⟩
  | list hlength h => exact ⟨_, _, .here _, .inl ⟨rfl, _, Nat.le_refl _, .list hlength h⟩⟩
  | map href hkeys h => exact ⟨_, _, .here _, .inl ⟨href, _, Nat.le_refl _, .map href hkeys h⟩⟩
  | left href hseen => exact ⟨_, _, .here _, .inr ⟨_, href, hseen, rfl⟩⟩
  | target href hseen hlookup _ ih =>
    obtain ⟨seen', e, hwalk, hend⟩ := ih
    exact ⟨seen', e, .target href hseen hlookup hwalk,
      hend.imp_left fun ⟨hplain, less, hless, h⟩ => ⟨hplain, less, Nat.le_succ_of_le hless, h⟩⟩

theorem Resolves.scalar_eq {s : Scalar} (h : Resolves root kept room seen (.scalar s) x) : x = .scalar s := by
  cases h with
  | scalar s => rfl
  | left href => cases href
  | target href => cases href

theorem Resolves.left_eq (h : Resolves root kept room seen d result) (href : d.referenceOf? kept = some ref)
    (hseen : ref ∈ seen) : result = d := by
  cases h with
  | scalar s => rfl
  | list => cases href
  | map hplain => cases hplain.symm.trans href
  | left => rfl
  | target href' hseen' =>
    cases href'.symm.trans href
    exact absurd hseen hseen'

theorem Resolves.walk (hwalk : Walk root kept v path v') (h : Resolves root kept room v.seen v.value result) :
    ∃ x less, result.at? path = some x ∧ less ≤ room ∧ Resolves root kept less v'.seen v'.value x := by
  induction hwalk generalizing room result with
  | here v => exact ⟨result, room, rfl, Nat.le_refl _, h⟩
  | part href hchild _ ih =>
    obtain ⟨hnone, -⟩ | ⟨a, b, ha, hb, hab⟩ := h.child href _
    · cases hchild.symm.trans hnone
    · cases hchild.symm.trans ha
      obtain ⟨x, less, hx, hless, hend⟩ := ih hab
      exact ⟨x, less, at?_cons_eq_some.mpr ⟨b, hb, hx⟩, by omega, hend⟩
  | target href hseen hlookup _ ih =>
    cases h with
    | scalar s => cases href
    | list => cases href
    | map hplain => cases hplain.symm.trans href
    | left href' hseen' =>
      cases href'.symm.trans href
      exact absurd hseen' hseen
    | target href' _ hlookup' h =>
      cases href'.symm.trans href
      cases hlookup'.symm.trans hlookup
      obtain ⟨x, less, hx, hless, hend⟩ := ih h
      exact ⟨x, less, hx, Nat.le_succ_of_le hless, hend⟩

theorem Resolves.at? (h : Resolves root kept room seen d result) (hx : result.at? path = some x) :
    (∃ seen' e, Walk root kept ⟨seen, d⟩ path ⟨seen', e⟩ ∧ e.referenceOf? kept = none ∧
        ∃ less ≤ room, Resolves root kept less seen' e x) ∨
      ∃ before after seen' e ref, path = before ++ after ∧ Walk root kept ⟨seen, d⟩ before ⟨seen', e⟩ ∧
        e.referenceOf? kept = some ref ∧ ref ∈ seen' ∧ e.at? after = some x := by
  induction path generalizing room seen d result with
  | nil =>
    cases hx
    obtain ⟨seen', e, hwalk, ⟨hplain, hless⟩ | ⟨ref, href, hseen, rfl⟩⟩ := h.settle
    · exact .inl ⟨seen', e, hwalk, hplain, hless⟩
    · exact .inr ⟨[], [], seen', _, ref, rfl, hwalk, href, hseen, rfl⟩
  | cons step path ih =>
    obtain ⟨c, hc, hx⟩ := at?_cons_eq_some.mp hx
    obtain ⟨seen', e, hwalk, ⟨hplain, less, hless, h⟩ | ⟨ref, href, hseen, rfl⟩⟩ := h.settle
    · obtain ⟨-, hnone⟩ | ⟨a, b, ha, hb, hab⟩ := h.child hplain step
      · rw [hc] at hnone
        cases hnone
      · obtain rfl := Option.some.inj (hc.symm.trans hb)
        have hwalk' {path' : List PathStep} {v : Visit} (h : Walk root kept ⟨seen', a⟩ path' v) :
            Walk root kept ⟨seen, d⟩ (step :: path') v := hwalk.trans (.part hplain ha h)
        rcases ih hab hx with ⟨seen'', f, hf, hplain', lesser, hlesser, h'⟩ |
          ⟨before, after, seen'', f, ref, rfl, hf, hleft⟩
        · exact .inl ⟨seen'', f, hwalk' hf, hplain', lesser, by omega, h'⟩
        · exact .inr ⟨step :: before, after, seen'', f, ref, rfl, hwalk' hf, hleft⟩
    · exact .inr ⟨[], step :: path, seen', _, ref, rfl, hwalk, href, hseen, at?_cons_eq_some.mpr ⟨c, hc, hx⟩⟩

end Walks

end ClientForge.Document
