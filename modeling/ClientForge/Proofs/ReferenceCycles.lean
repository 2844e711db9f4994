import ClientForge.Proofs.ReferenceWalks

namespace ClientForge.Document

open Outcome Relation

variable {root d e result x : Document} {kept seen seen' : List String} {room : ℕ} {ref : String}
  {step : PathStep} {path : List PathStep} {v v' : Visit}

inductive Meets (kept : List String) : Document → String → Prop
  | here {d : Document} {ref : String} (href : d.referenceOf? kept = some ref) : Meets kept d ref
  | part {d e : Document} {step : PathStep} {ref : String} (href : d.referenceOf? kept = none)
      (hchild : d.child? step = some e) (h : Meets kept e ref) : Meets kept d ref

def Leads (root : Document) (kept : List String) (ref ref' : String) : Prop :=
  ∃ d, Pointer.lookup ref root = .ok d ∧ Meets kept d ref'

def Involves (root : Document) (kept : List String) (d : Document) (ref : String) : Prop :=
  ∃ first, Meets kept d first ∧ ReflTransGen (Leads root kept) first ref

/-- A reference of the document leads back to itself. -/
def IsCircular (root : Document) (kept : List String) : Prop :=
  ∃ ref, Involves root kept root ref ∧ TransGen (Leads root kept) ref ref

structure Ahead (root : Document) (kept seen : List String) (d : Document) : Prop where
  involved : ∀ ref, Meets kept d ref → Involves root kept root ref
  led : ∀ ref, Meets kept d ref → ∀ earlier ∈ seen, TransGen (Leads root kept) earlier ref

theorem ahead_root : Ahead root kept [] root :=
  ⟨fun ref href => ⟨ref, href, .refl⟩, fun ref href earlier hmem => by cases hmem⟩

namespace Ahead

theorem forget (h : Ahead root kept seen d) : Ahead root kept [] d :=
  ⟨h.involved, fun ref href earlier hmem => by cases hmem⟩

theorem part (h : Ahead root kept seen d) (href : d.referenceOf? kept = none) (hchild : d.child? step = some e) :
    Ahead root kept seen e :=
  ⟨fun ref hmeets => h.involved ref (.part href hchild hmeets), fun ref hmeets => h.led ref (.part href hchild hmeets)⟩

theorem target (h : Ahead root kept seen d) (href : d.referenceOf? kept = some ref)
    (hlookup : Pointer.lookup ref root = .ok e) : Ahead root kept (ref :: seen) e := by
  have hleads {ref' : String} (hmeets : Meets kept e ref') : Leads root kept ref ref' := ⟨e, hlookup, hmeets⟩
  refine ⟨fun ref' hmeets => ?_, fun ref' hmeets earlier hearlier => ?_⟩
  · obtain ⟨first, hfirst, hchain⟩ := h.involved ref (.here href)
    exact ⟨first, hfirst, hchain.tail (hleads hmeets)⟩
  · rcases List.mem_cons.mp hearlier with rfl | hearlier
    · exact .single (hleads hmeets)
    · exact (h.led ref (.here href) earlier hearlier).tail (hleads hmeets)

theorem notMem (h : Ahead root kept seen d) (hcircle : ¬ IsCircular root kept)
    (href : d.referenceOf? kept = some ref) : ref ∉ seen :=
  fun hseen => hcircle ⟨ref, h.involved ref (.here href), h.led ref (.here href) ref hseen⟩

theorem walk (h : Walk root kept v path v') (hv : Ahead root kept v.seen v.value) :
    Ahead root kept v'.seen v'.value :=
  h.induction (fun h href hchild => h.part href hchild) (fun h href _ hlookup => h.target href hlookup) hv

end Ahead

theorem Meets.mem_references (h : Meets kept d ref) : ref ∈ references kept d := by
  induction h with
  | here href => exact Document.mem_references href
  | part _ hchild _ ih => exact references_child hchild ih

theorem not_isCircular_of_rank (rank : String → ℕ) (hroot : root.IsTree)
    (hrank : ∀ ref ∈ references kept root, ((Pointer.lookup ref root).toOption.all fun e =>
      (references kept e).all (rank · < rank ref)) = true) : ¬ IsCircular root kept := by
  have hleads {ref ref' : String} (hmem : ref ∈ references kept root) (h : Leads root kept ref ref') :
      ref' ∈ references kept root ∧ rank ref' < rank ref := by
    obtain ⟨e, hlookup, hmeets⟩ := h
    obtain ⟨place, hplace⟩ := Pointer.lookup_eq_ok hroot hlookup
    have hlower := hrank ref hmem
    rw [hlookup] at hlower
    exact ⟨references_at hplace hmeets.mem_references,
      of_decide_eq_true (List.all_eq_true.mp hlower ref' hmeets.mem_references)⟩
  have hlower {ref ref' : String} (hmem : ref ∈ references kept root) (h : TransGen (Leads root kept) ref ref') :
      ref' ∈ references kept root ∧ rank ref' < rank ref := by
    induction h with
    | single h => exact hleads hmem h
    | tail _ h ih =>
      obtain ⟨hmem', hrank'⟩ := hleads ih.1 h
      exact ⟨hmem', Nat.lt_trans hrank' ih.2⟩
  rintro ⟨ref, ⟨first, hfirst, hchain⟩, hcircle⟩
  have hmem : ref ∈ references kept root := by
    rcases reflTransGen_iff_eq_or_transGen.mp hchain with rfl | hchain
    · exact hfirst.mem_references
    · exact (hlower hfirst.mem_references hchain).1
  exact Nat.lt_irrefl _ (hlower hmem hcircle).2

theorem exists_index {items : List Document} (h : d ∈ items) : ∃ step, (list items).child? step = some d := by
  obtain ⟨k, hk⟩ := List.mem_iff_getElem?.mp h
  exact ⟨.index k, hk⟩

theorem IsTree.exists_key {entries : Entries} (hd : (Document.map entries).IsTree) {a : Scalar × Document}
    (h : a ∈ entries) : ∃ step, (Document.map entries).child? step = some a.2 := by
  cases hd with
  | map htexts hnodup hentries =>
    obtain ⟨name, hname⟩ := htexts a h
    exact ⟨.key name, get?_of_mem hnodup (hname ▸ h)⟩

section Acyclic

variable (hcircle : ¬ IsCircular root kept)

include hcircle

theorem Resolves.beside (hroot : root.IsTree) (h : Resolves root kept room seen d result) (hd : d.IsTree)
    (hahead : Ahead root kept seen d) (hahead' : Ahead root kept seen' d) : Resolves root kept room seen' d result := by
  induction h generalizing seen' with
  | scalar s => exact .scalar s
  | list hlength h ih =>
    refine .list hlength fun a b hab => ?_
    obtain ⟨step, hchild⟩ := exists_index (List.of_mem_zip hab).1
    exact ih a b hab (hd.child hchild) (hahead.part rfl hchild) (hahead'.part rfl hchild)
  | map href hkeys h ih =>
    refine .map href hkeys fun a b hab => ?_
    obtain ⟨step, hchild⟩ := hd.exists_key (List.of_mem_zip hab).1
    exact ih a b hab (hd.child hchild) (hahead.part href hchild) (hahead'.part href hchild)
  | left href hseen => exact absurd hseen (hahead.notMem hcircle href)
  | target href hseen hlookup h ih =>
    obtain ⟨place, hplace⟩ := Pointer.lookup_eq_ok hroot hlookup
    exact .target href (hahead'.notMem hcircle href) hlookup
      (ih (hroot.at? hplace) (hahead.target href hlookup) (hahead'.target href hlookup))

theorem Resolves.depth_le (hroot : root.IsTree) (h : Resolves root kept room seen d result) (hd : d.IsTree)
    (hahead : Ahead root kept seen d) : 2 * result.depth ≤ room + 1 := by
  induction h with
  | scalar s => simp [depth]
  | @list room seen items results hlength h ih =>
    have hdepth : itemsDepth results ≤ room / 2 := by
      refine itemsDepth_le fun b hb => ?_
      obtain ⟨a, ha, hab⟩ := exists_left_of_zip hlength hb
      obtain ⟨step, hchild⟩ := exists_index ha
      have hpart := ih a b hab (hd.child hchild) (hahead.part rfl hchild)
      omega
    simp only [depth]
    omega
  | @map room seen entries results href hkeys h ih =>
    have hdepth : entriesDepth results ≤ room / 2 := by
      refine entriesDepth_le fun b hb => ?_
      obtain ⟨a, ha, hab⟩ := exists_left_of_zip hkeys.length_eq hb
      obtain ⟨step, hchild⟩ := hd.exists_key ha
      have hpart := ih a b hab (hd.child hchild) (hahead.part href hchild)
      omega
    simp only [depth]
    omega
  | left href hseen => exact absurd hseen (hahead.notMem hcircle href)
  | target href hseen hlookup h ih =>
    obtain ⟨place, hplace⟩ := Pointer.lookup_eq_ok hroot hlookup
    exact Nat.le_succ_of_le (ih (hroot.at? hplace) (hahead.target href hlookup))

end Acyclic

end ClientForge.Document
