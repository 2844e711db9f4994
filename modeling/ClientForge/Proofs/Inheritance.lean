import ClientForge.Proofs.ClassLists
import Mathlib.Algebra.Order.BigOperators.Group.List
import Mathlib.Algebra.Order.Group.Nat
import Mathlib.Logic.Relation

/-!
Inheritance among the classes of all named schemas goes round in no circle, and passes by the classes that are made
around a type.
-/

namespace ClientForge

open Naming Outcome Relation

namespace Registry

structure ClassId where
  schema : String
  name : String
deriving DecidableEq, Repr

def Makes (r : Registry) (schema : String) (k : ClassDef) : Prop :=
  ∃ e c, r.get? schema = some e ∧ e.compile r = .ok c ∧ k ∈ c.models

/-- A class is named as a base of another one, which stands in the same module or can only import the last class of
the module of the first one. -/
def IsBase (r : Registry) (a b : ClassId) : Prop :=
  (∃ k, r.Makes a.schema k ∧ k.name = a.name) ∧ (∃ k, r.Makes b.schema k ∧ k.name = b.name ∧ a.name ∈ k.bases) ∧
    (a.schema = b.schema ∨ ∃ e, r.get? a.schema = some e ∧ e.symbol = a.name)

structure Plain (r : Registry) : Prop extends r.WellFormed where
  unreserved : ∀ e ∈ r.entries, e.symbol ∉ reservedSymbols

theorem plain_of_ofDocument {d : Document} {r : Registry} (h : ofDocument d = .ok r) : r.Plain :=
  ⟨wellFormed_of_ofDocument h, symbols_notMem_reserved h⟩

variable {r : Registry} {x y : String} {e : NamedSchema} {k : ClassDef}

theorem Makes.unreserved (hr : r.Plain) (h : r.Makes x k) : k.name ∉ reservedSymbols := by
  obtain ⟨e, c, he, hc, hk⟩ := h
  have hmem := (mem_of_get? he).1
  obtain ⟨before, own, hmodels, hown, hfresh⟩ := NamedSchema.compile_last hmem hc
  rw [hmodels, List.mem_append, List.mem_singleton] at hk
  rcases hk with hk | rfl
  · exact fun hname => hfresh k hk (List.mem_append_right _ hname)
  · exact hown ▸ hr.unreserved e hmem

theorem Makes.eq_of_symbol (hr : r.Plain) (h : r.Makes x k) (he : e ∈ r.entries) (hname : k.name = e.symbol) :
    x = e.name ∧ ∀ c, e.compile r = .ok c → ∃ before, c.models = before ++ [k] := by
  obtain ⟨e', c, he', hc, hk⟩ := h
  obtain ⟨hmem, rfl⟩ := mem_of_get? he'
  obtain ⟨before, own, hmodels, hown, hfresh⟩ := NamedSchema.compile_last hmem hc
  rw [hmodels, List.mem_append, List.mem_singleton] at hk
  rcases hk with hk | rfl
  · refine absurd (List.mem_append_left _ ?_) (hfresh k hk)
    exact List.mem_map.mpr ⟨e, he, hname.symm⟩
  · obtain rfl := List.inj_on_of_nodup_map hr.symbols hmem he (hown.symm.trans hname)
    refine ⟨rfl, fun c' hc' => ⟨before, ?_⟩⟩
    rw [← Except.ok.inj (hc.symm.trans hc'), hmodels]

theorem IsBase.eq_of_symbol (hr : r.Plain) {a b : ClassId} (h : r.IsBase a b) (he : e ∈ r.entries)
    (hname : a.name = e.symbol) : a = ⟨e.name, e.symbol⟩ := by
  obtain ⟨⟨k, hk, hka⟩, -, -⟩ := h
  obtain ⟨hschema, -⟩ := hk.eq_of_symbol hr he (hka.trans hname)
  rw [← hschema, ← hname]

theorem IsBase.schema_eq {a b : ClassId} (h : r.IsBase a b) (hname : a.name ∉ r.symbols) : a.schema = b.schema := by
  obtain ⟨-, -, hschema | ⟨e, he, hsymbol⟩⟩ := h
  · exact hschema
  · exact absurd (List.mem_map.mpr ⟨e, (mem_of_get? he).1, hsymbol⟩) hname

theorem IsBase.unreserved (hr : r.Plain) {a b : ClassId} (h : r.IsBase a b) : a.name ∉ reservedSymbols := by
  obtain ⟨⟨k, hk, hname⟩, -⟩ := h
  exact hname ▸ hk.unreserved hr

end Registry

namespace Schema

variable {r : Registry} {hint : String} {top : Bool} {m : Marks} {c : Compiled} {members : List Schema}

theorem eq_of_mem_zipIdx {α : Type} {l : List α} {start i : ℕ} {a b : α} (ha : (a, i) ∈ l.zipIdx start)
    (hb : (b, i) ∈ l.zipIdx start) : a = b := by
  rw [List.mem_zipIdx_iff_le_and_getElem?_sub] at ha hb
  exact Option.some.inj (ha.2.symm.trans hb.2)

theorem compileAt_object_classes {properties : List (String × Schema)} {required : List String}
    {additional : Option Schema} (h : compileAt r (.object m properties required additional) hint top = .ok c) :
    ∃ before k, c.models = before ++ [k] ∧ k.name = className r hint top ∧ k.bases = ["BaseModel"] ∧
      ∀ k' ∈ before, k'.name ≠ className r hint top := by
  obtain ⟨draft, extra, doc, hdraft, hextra, -, rfl⟩ := compileAt_object h
  refine ⟨_, _, models_markNullable _ _, rfl, rfl, fun k' hk' hname => ?_⟩
  obtain ⟨p, hp, hkp⟩ := List.mem_flatMap.mp hk'
  obtain ⟨s, -, hint', hinside, hp⟩ := (object_parts hdraft hextra).2 p hp
  have hlength := hinside.length_lt.trans_le ((compileAt_sound s hp).extends_hint k' hkp).length_le
  rw [hname] at hlength
  exact lt_irrefl _ hlength

theorem cases_of_hasOwnClass {named : String → Bool} {s : Schema} (hs : s.hasOwnClass named = true)
    (h : compileAt r s hint top = .ok c) :
    (∃ m properties required additional, compileAt r (.object m properties required additional) hint top = .ok c) ∨
      ∃ m members, 1 < (constraining members).length ∧ (∀ s ∈ constraining members, s.isModel named = true) ∧
        compileAt r (.allOf m members) hint top = .ok c := by
  induction s using Schema.induction generalizing c with
  | object m properties required additional => exact .inl ⟨m, properties, required, additional, h⟩
  | allOf m members ih =>
    obtain ⟨hnull, ⟨s, hmembers, hs⟩ | ⟨hseveral, hs⟩⟩ := hasOwnClass_allOf_iff.mp hs
    · have hmem : s ∈ constraining members := hmembers ▸ List.mem_cons_self
      obtain ⟨c', hc', rfl⟩ := compileAt_allOf_single h hmembers
      rw [hnull, markNullable_false]
      exact ih s (mem_constraining.mp hmem).1 hs hc'
    · exact .inr ⟨m, members, hseveral, hs, h⟩
  | union m kind members ih =>
    obtain ⟨hnull, s, rfl, hown⟩ := hasOwnClass_union_iff.mp hs
    obtain ⟨c', hc', rfl⟩ := compileAt_union_single h
    rw [hnull, markNullable_false]
    exact ih s List.mem_cons_self hown hc'
  | _ => cases hs

theorem className_not_extends (r : Registry) (hint number : String) (top : Bool) :
    ¬Extends (className r hint top) (hint ++ "Part" ++ number) := by
  unfold className freeClassName
  split
  · intro h
    have hle := h.length_le
    have hpart : "Part".length = 4 := by decide
    rw [String.length_append, String.length_append] at hle
    omega
  · exact free_not_extends _ _ _

section Parts

variable {parts : List Compiled} (hparts : MakesParts r hint "Part" (constraining members) parts)

include hparts

theorem extends_of_mem_parts {k : ClassDef} (hk : k ∈ parts.flatMap (·.models)) :
    ∃ i : ℕ, Extends k.name (hint ++ "Part" ++ toString i) := by
  obtain ⟨p, hp, hk⟩ := List.mem_flatMap.mp hk
  obtain ⟨s, -, i, hmade⟩ := hparts.exists_member hp
  exact ⟨i, (compileAt_sound s hmade).extends_hint k hk⟩

theorem mem_part {s : Schema} {i : ℕ} {p : Compiled} (hs : (s, i) ∈ (constraining members).zipIdx 1)
    (hp : compileAt r s (hint ++ "Part" ++ toString i) false = .ok p) {k : ClassDef}
    (hk : k ∈ parts.flatMap (·.models)) (hname : Extends k.name (hint ++ "Part" ++ toString i)) : k ∈ p.models := by
  obtain ⟨p', hp', hk⟩ := List.mem_flatMap.mp hk
  obtain ⟨⟨s', j⟩, hs', hmade⟩ := exists_left_of_mem hparts hp'
  obtain rfl := number_eq_of_extends hname ((compileAt_sound s' hmade).extends_hint k hk)
  obtain rfl := eq_of_mem_zipIdx hs hs'
  rwa [Except.ok.inj (hp.symm.trans hmade)]

end Parts

end Schema

namespace Registry

variable {r : Registry} {x y : String} {e : NamedSchema}

theorem acc_of_bases {t : ClassId} {k : ClassDef} (honly : ∀ k', r.Makes t.schema k' → k'.name = t.name → k' = k)
    (hbases : ∀ a, r.IsBase a t → a.name ∈ k.bases → Acc r.IsBase a) : Acc r.IsBase t := by
  refine Acc.intro t fun a ha => hbases a ha ?_
  obtain ⟨-, ⟨k', hk', hname, hbase⟩, -⟩ := ha
  rwa [← honly k' hk' hname]

theorem acc_of_library (hr : r.Plain) {t : ClassId} {k : ClassDef} (hk : k.bases = ["BaseModel"])
    (honly : ∀ k', r.Makes t.schema k' → k'.name = t.name → k' = k) : Acc r.IsBase t := by
  refine acc_of_bases honly fun a ha hbase => ?_
  rw [hk, List.mem_singleton] at hbase
  exact absurd (hbase ▸ by decide) (ha.unreserved hr)

theorem name_of_type {named : String → Bool} (hnamed : ∀ name, named name = true → r.nameIsModel name = true)
    {s : Schema} {hint : String} {c : Compiled} {t : String} (hs : s.isModel named = true)
    (h : Schema.compileAt r s hint false = .ok c) (htype : c.type = .named t) (ht : t ∉ r.symbols) :
    t = Schema.freeClassName r hint := by
  rcases Schema.type_of_isModel hnamed hs h with ⟨x, e, he, -, -, htype', -⟩ | ⟨before, k, -, hk, htype'⟩
  · cases htype.symm.trans htype'
    exact absurd (List.mem_map_of_mem (mem_of_get? he).1) ht
  · cases htype.symm.trans htype'
    exact hk

section Model

variable {named : String → Bool} (hr : r.Plain) (hnamed : ∀ name, named name = true → r.nameIsModel name = true)
  (hacc : ∀ x e, r.get? x = some e → named x = true → Acc r.IsBase ⟨e.name, e.symbol⟩)

include hr hnamed hacc

theorem acc_of_part {t : ClassId} {a : ClassId} (ha : r.IsBase a t) {s : Schema} {hint : String} {p : Compiled}
    (hs : s.isModel named = true) (hp : Schema.compileAt r s hint false = .ok p) (hname : p.type.text = a.name)
    (hown : ∀ name, p.type = .named name → name ∉ r.symbols → Acc r.IsBase ⟨t.schema, name⟩) : Acc r.IsBase a := by
  rcases Schema.type_of_isModel hnamed hs hp with ⟨x, e, he, hx, -, htype, -⟩ | ⟨before, k, hmodels, hk, htype⟩
  · have hmem := (mem_of_get? he).1
    rw [htype] at hname
    rw [ha.eq_of_symbol hr hmem hname.symm]
    exact hacc x e he hx
  · have hfresh : k.name ∉ r.symbols := by
      rw [hk, Schema.className, if_neg Bool.false_ne_true]
      exact fun h => free_notMem (by decide) _ _ (List.mem_append_left _ h)
    rw [htype] at hname
    have hschema := ha.schema_eq (hname ▸ hfresh)
    have heq : a = ⟨t.schema, k.name⟩ := by
      rw [← hschema, show k.name = a.name from hname]
    rw [heq]
    exact hown k.name htype hfresh

theorem acc_of_parts {t : ClassId} {m : Marks} {members : List Schema} {hint : String} {top : Bool} {c : Compiled}
    (h : Schema.compileAt r (.allOf m members) hint top = .ok c) (hseveral : 1 < (Schema.constraining members).length)
    (hmodels : ∀ s ∈ Schema.constraining members, s.isModel named = true) (ht : t.name = Schema.className r hint top)
    (hlocal : ∀ k, r.Makes t.schema k → k.name = t.name ∨ Extends k.name hint → k ∈ c.models)
    (hparts : ∀ s ∈ members, ∀ hint p, s.isModel named = true → Schema.compileAt r s hint false = .ok p →
      (∀ k, r.Makes t.schema k → Extends k.name hint → k ∈ p.models) → ∀ name, p.type = .named name →
        name ∉ r.symbols → Acc r.IsBase ⟨t.schema, name⟩) : Acc r.IsBase t := by
  have hall : (Schema.constraining members).all r.isModel = true :=
    List.all_eq_true.mpr fun s hs => Schema.isModel_mono hnamed s (hmodels s hs)
  obtain ⟨parts, doc, hmade, rfl⟩ := Schema.compileAt_inherits h hseveral hall
  rw [Schema.models_markNullable] at hlocal
  refine acc_of_bases (k := ⟨Schema.className r hint top, (parts.map (·.type.text)).eraseDups, doc, [], [], none⟩) ?_ ?_
  · intro k' hk' hname
    rcases List.mem_append.mp (hlocal k' hk' (.inl hname)) with hmem | hmem
    · obtain ⟨i, hextends⟩ := Schema.extends_of_mem_parts hmade hmem
      rw [hname, ht] at hextends
      exact absurd hextends (Schema.className_not_extends r hint _ top)
    · exact List.mem_singleton.mp hmem
  · intro a ha hbase
    obtain ⟨p, hp, hname⟩ := List.mem_map.mp (List.mem_eraseDups.mp hbase)
    obtain ⟨⟨s, i⟩, hs, hcompile⟩ := exists_left_of_mem hmade hp
    have hmem := List.fst_mem_of_mem_zipIdx hs
    refine acc_of_part hr hnamed hacc ha (hmodels s hmem) hcompile hname ?_
    refine hparts s (Schema.mem_constraining.mp hmem).1 _ p (hmodels s hmem) hcompile fun k hk hextends => ?_
    have hhint := hextends.trans (Schema.extends_part "Part" i (by simp) (by decide))
    rcases List.mem_append.mp (hlocal k hk (.inr hhint)) with hmem | hmem
    · exact Schema.mem_part hmade hs hcompile hmem hextends
    · rw [List.mem_singleton.mp hmem] at hextends
      exact absurd hextends (Schema.className_not_extends r hint _ top)

theorem acc_of_isModel {s : Schema} {hint : String} {c : Compiled} {t : String} (hs : s.isModel named = true)
    (h : Schema.compileAt r s hint false = .ok c) (hlocal : ∀ k, r.Makes y k → Extends k.name hint → k ∈ c.models)
    (htype : c.type = .named t) (ht : t ∉ r.symbols) : Acc r.IsBase ⟨y, t⟩ := by
  -- A reference names the class of a schema, which `ht` excludes; all other bases are made along with the type.
  induction s using Schema.induction generalizing hint c t with
  | ref m name =>
    obtain ⟨e, he, rfl⟩ := Schema.compileAt_ref h
    rw [show m.nullable = false from Schema.nullable_of_isModel hs, Schema.markNullable_false] at htype
    cases htype
    exact absurd (List.mem_map_of_mem (mem_of_get? he).1) ht
  | object m properties required additional =>
    obtain ⟨before, k, hmodels, hk, hbases, hbefore⟩ := Schema.compileAt_object_classes h
    have hname := name_of_type hnamed hs h htype ht
    apply acc_of_library hr hbases
    intro k' hk' hname'
    have hmem := hlocal k' hk' (by rw [hname', hname]; exact extends_free _ _)
    rw [hmodels, List.mem_append, List.mem_singleton] at hmem
    exact hmem.resolve_left fun hmem => hbefore k' hmem (hname'.trans hname)
  | allOf m members ih =>
    have hname := name_of_type hnamed hs h htype ht
    obtain ⟨hnull, hne, hs⟩ := Schema.isModel_allOf_iff.mp hs
    rcases (nothing_or_single_or_several _).resolve_left hne with ⟨s, hmembers⟩ | hseveral
    · have hmem : s ∈ Schema.constraining members := hmembers ▸ List.mem_cons_self
      obtain ⟨c', hc', rfl⟩ := Schema.compileAt_allOf_single h hmembers
      rw [hnull, Schema.markNullable_false] at hlocal htype
      exact ih s (Schema.mem_constraining.mp hmem).1 (hs s hmem) hc' hlocal htype ht
    · refine acc_of_parts hr hnamed hacc h hseveral hs hname (fun k hk hk' => hlocal k hk ?_) ?_
      · rcases hk' with hk' | hk'
        · rw [hk', hname]
          exact extends_free _ _
        · exact hk'
      · intro s hs hint p hmodel hp hlocal name htype hfresh
        exact ih s hs hmodel hp hlocal htype hfresh
  | union m kind members ih =>
    obtain ⟨hnull, s, rfl, hmodel⟩ := Schema.isModel_union_iff.mp hs
    obtain ⟨c', hc', rfl⟩ := Schema.compileAt_union_single h
    rw [hnull, Schema.markNullable_false] at hlocal htype
    exact ih s List.mem_cons_self hmodel hc' hlocal htype ht
  | _ => cases hs

theorem acc_of_hasOwnClass {s : Schema} {c : Compiled} (hs : s.hasOwnClass named = true)
    (h : Schema.compileAt r s e.symbol true = .ok c) (hlocal : ∀ k, r.Makes e.name k → k ∈ c.models) :
    Acc r.IsBase ⟨e.name, e.symbol⟩ := by
  rcases Schema.cases_of_hasOwnClass hs h with
    ⟨m, properties, required, additional, h⟩ | ⟨m, members, hseveral, hmembers, h⟩
  · obtain ⟨before, k, hmodels, hk, hbases, hbefore⟩ := Schema.compileAt_object_classes h
    apply acc_of_library hr hbases
    intro k' hk' hname
    have hmem := hlocal k' hk'
    rw [hmodels, List.mem_append, List.mem_singleton] at hmem
    exact hmem.resolve_left fun hmem => hbefore k' hmem hname
  · apply acc_of_parts hr hnamed hacc h hseveral hmembers rfl fun k hk _ => hlocal k hk
    intro s _ hint p hmodel hp hpart name htype hfresh
    exact acc_of_isModel hr hnamed hacc hmodel hp hpart htype hfresh

end Model

theorem models_of_hasOwnClass {s : Schema} {hint : String} {c : Compiled} (hs : s.hasOwnClass r.nameIsModel = true)
    (h : Schema.compileAt r s hint true = .ok c) : ∃ k ∈ c.models, k.name = hint := by
  rcases Schema.cases_of_hasOwnClass hs h with
    ⟨m, properties, required, additional, h⟩ | ⟨m, members, hseveral, hmembers, h⟩
  · obtain ⟨before, k, hmodels, hk, -⟩ := Schema.compileAt_object_classes h
    exact ⟨k, by simp [hmodels], hk⟩
  · obtain ⟨parts, doc, -, rfl⟩ := Schema.compileAt_inherits h hseveral (List.all_eq_true.mpr hmembers)
    rw [Schema.models_markNullable]
    exact ⟨_, List.mem_append_right _ (List.mem_singleton_self _), rfl⟩

theorem models_eq_of_hasOwnClass {c : Compiled} (hs : e.schema.hasOwnClass r.nameIsModel = true)
    (h : e.compile r = .ok c) :
    ∃ c', Schema.compileAt r e.schema e.symbol true = .ok c' ∧ c.models = c'.models := by
  obtain ⟨c', hc', -, -, ⟨hmodels, -⟩ | ⟨hnames, -⟩⟩ := NamedSchema.models_of_compile h
  · exact ⟨c', hc', hmodels⟩
  · obtain ⟨k, hk, hname⟩ := models_of_hasOwnClass hs hc'
    exact absurd hname (hnames k hk)

theorem acc_of_beyond (hr : r.Plain) {seen : List String} {x : String} {e : NamedSchema}
    (h : r.nameIsModelBeyond seen x = true) (he : r.get? x = some e) : Acc r.IsBase ⟨e.name, e.symbol⟩ := by
  have hname := notMem_seen_of_beyond h
  have hlength := length_unseen hr.names he hname
  rw [nameIsModelBeyond_eq hr.names he hname] at h
  have hnamed : ∀ name, r.nameIsModelBeyond (x :: seen) name = true → r.nameIsModel name = true := by
    intro name hbeyond
    rw [← nameIsModelBeyond_nil]
    exact nameIsModelBeyond_mono hr.names (List.nil_subset _) name hbeyond
  have hacc : ∀ y e', r.get? y = some e' → r.nameIsModelBeyond (x :: seen) y = true →
      Acc r.IsBase ⟨e'.name, e'.symbol⟩ := fun y e' he' hbeyond => acc_of_beyond hr hbeyond he'
  have hmakes {k : ClassDef} (hk : r.Makes e.name k) : ∃ c, e.compile r = .ok c ∧ k ∈ c.models := by
    obtain ⟨e', c, he', hc, hk⟩ := hk
    rw [(mem_of_get? he).2] at he'
    obtain rfl := Option.some.inj (he.symm.trans he')
    exact ⟨c, hc, hk⟩
  refine Acc.intro _ fun a ha => ?_
  obtain ⟨k, hk, -, -⟩ := ha.2.1
  obtain ⟨c, hc, -⟩ := hmakes hk
  obtain ⟨c', hc', hmodels⟩ := models_eq_of_hasOwnClass (Schema.hasOwnClass_mono hnamed _ h) hc
  refine (acc_of_hasOwnClass hr hnamed hacc h hc' fun k hk => ?_).inv ha
  obtain ⟨c'', hc'', hk⟩ := hmakes hk
  rwa [← hmodels, Except.ok.inj (hc.symm.trans hc'')]
termination_by (r.unseen seen).length

theorem IsBase.cases (hr : r.Plain) {a b : ClassId} (h : r.IsBase a b) :
    (∃ x e, r.get? x = some e ∧ r.nameIsModel x = true ∧ a = ⟨e.name, e.symbol⟩) ∨
      a.schema = b.schema ∧ a.name ∉ r.taken ∧ digitEnd b.name < digitEnd a.name := by
  obtain ⟨-, ⟨k, ⟨e, c, he, hc, hk⟩, hname, hbase⟩, -⟩ := id h
  obtain ⟨before, after, hmodels⟩ := List.append_of_mem hk
  rcases NamedSchema.compile_supported hc before k after hmodels _ hbase with
    (⟨hlibrary, -⟩ | ⟨x, e', he', hx, hsymbol, -⟩) | ⟨k', hk', hname', hlt⟩
  · refine absurd ?_ (h.unreserved hr)
    rcases hlibrary with hlibrary | hlibrary <;> rw [hlibrary] <;> decide
  · exact .inl ⟨x, e', he', hx, h.eq_of_symbol hr (mem_of_get? he').1 hsymbol.symm⟩
  · obtain ⟨init, own, hlast, -, hfresh⟩ := NamedSchema.compile_last (mem_of_get? he).1 hc
    have hfree := hname' ▸ hfresh k' (mem_init (hlast.symm.trans hmodels) hk')
    exact .inr ⟨h.schema_eq fun hmem => hfree (List.mem_append_left _ hmem), hfree, hname ▸ hlt⟩

theorem exists_digitEnd_bound (r : Registry) (y : String) : ∃ n, ∀ k, r.Makes y k → digitEnd k.name ≤ n := by
  by_cases hmade : ∃ e c, r.get? y = some e ∧ e.compile r = .ok c
  · obtain ⟨e, c, he, hc⟩ := hmade
    refine ⟨(c.models.map (digitEnd ·.name)).sum, ?_⟩
    rintro k ⟨e', c', he', hc', hk⟩
    obtain rfl := Option.some.inj (he.symm.trans he')
    obtain rfl := Except.ok.inj (hc.symm.trans hc')
    exact List.single_le_sum (by simp) _ (List.mem_map_of_mem hk)
  · refine ⟨0, ?_⟩
    rintro k ⟨e, c, he, hc, -⟩
    exact absurd ⟨e, c, he, hc⟩ hmade

theorem isBase_wellFounded (hr : r.Plain) : WellFounded r.IsBase := by
  constructor
  intro b
  obtain ⟨n, hn⟩ := exists_digitEnd_bound r b.schema
  induction hd : n - digitEnd b.name using Nat.strong_induction_on generalizing b with
  | _ d ih =>
    refine Acc.intro b fun a ha => ?_
    rcases ha.cases hr with ⟨x, e, he, hx, rfl⟩ | ⟨hschema, -, hlt⟩
    · rw [← nameIsModelBeyond_nil] at hx
      exact acc_of_beyond hr hx he
    · obtain ⟨⟨k, hk, hname⟩, -⟩ := ha
      rw [hschema] at hk
      have hle := hname ▸ hn k hk
      exact ih (n - digitEnd a.name) (by omega) a (hschema ▸ hn) rfl

theorem exists_last_of_accepted (hr : r.Plain) (h : r.nameIsModel x = true) :
    ∃ e, r.get? x = some e ∧ ∀ c, e.compile r = .ok c →
      ∃ before k, c.models = before ++ [k] ∧ k.name = e.symbol ∧ "RootModel" ∉ k.bases := by
  rw [← nameIsModelBeyond_nil] at h
  obtain ⟨e, he, hown⟩ := exists_of_beyond hr.names h
  have hmono : ∀ name, r.nameIsModelBeyond [x] name = true → r.nameIsModel name = true := by
    intro name hbeyond
    rw [← nameIsModelBeyond_nil]
    exact nameIsModelBeyond_mono hr.names (List.nil_subset _) name hbeyond
  refine ⟨e, he, fun c hc => ?_⟩
  obtain ⟨c', hc', hmodels⟩ := models_eq_of_hasOwnClass (Schema.hasOwnClass_mono hmono _ hown) hc
  obtain ⟨before, k, hlast, hk, -⟩ := NamedSchema.compile_last (mem_of_get? he).1 hc
  refine ⟨before, k, hlast, hk, (Schema.compileAt_sound e.schema hc').root_notMem hr.unreserved k ?_⟩
  rw [← hmodels, hlast]
  exact List.mem_append_right _ (List.mem_singleton_self k)

theorem root_notMem_of_base (hr : r.Plain) {k l : ClassDef} (hk : r.Makes x k) (hl : r.Makes y l)
    (hbase : l.name ∈ k.bases) : "RootModel" ∉ l.bases := by
  obtain ⟨e, c, he, hc, hk⟩ := hk
  obtain ⟨before, after, hmodels⟩ := List.append_of_mem hk
  rcases NamedSchema.compile_supported hc before k after hmodels _ hbase with
    (⟨hlibrary, -⟩ | ⟨x', e', he', hx', hsymbol, -⟩) | ⟨k', hk', hname', -⟩
  · refine absurd ?_ (hl.unreserved hr)
    rcases hlibrary with hlibrary | hlibrary <;> rw [hlibrary] <;> decide
  · obtain ⟨e'', he'', hlast⟩ := exists_last_of_accepted hr hx'
    obtain rfl := Option.some.inj (he'.symm.trans he'')
    obtain ⟨rfl, hown⟩ := hl.eq_of_symbol hr (mem_of_get? he').1 hsymbol.symm
    obtain ⟨e'', c', he'', hc', -⟩ := hl
    rw [(mem_of_get? he').2] at he''
    obtain rfl := Option.some.inj (he'.symm.trans he'')
    obtain ⟨before', k', hmodels', -, hroot⟩ := hlast c' hc'
    obtain ⟨before'', hmodels''⟩ := hown c' hc'
    obtain ⟨-, hlk⟩ := List.append_inj' (hmodels''.symm.trans hmodels') rfl
    cases hlk
    exact hroot
  · obtain ⟨init, own, hlast, -, hfresh⟩ := NamedSchema.compile_last (mem_of_get? he).1 hc
    have hfree := hname' ▸ hfresh k' (mem_init (hlast.symm.trans hmodels) hk')
    obtain ⟨e', c', he', hc', hl⟩ := hl
    obtain ⟨c'', hc'', -, -, ⟨hmodels', -⟩ | ⟨-, -, own', hmodels', hown', -⟩⟩ := NamedSchema.models_of_compile hc'
    · exact (Schema.compileAt_sound e'.schema hc'').root_notMem hr.unreserved l (hmodels' ▸ hl)
    · rw [hmodels', List.mem_append, List.mem_singleton] at hl
      rcases hl with hl | rfl
      · exact (Schema.compileAt_sound e'.schema hc'').root_notMem hr.unreserved l hl
      · refine absurd (List.mem_append_left _ ?_) hfree
        exact List.mem_map.mpr ⟨e', (mem_of_get? he').1, hown'.symm⟩

/-- The test for classes to inherit from always comes to one answer, which is that of the compiler when nothing is
seen yet. What it accepts by name compiles to a class that is not made around a type. No class inherits from one that
is, and inheritance goes round in no circle. -/
theorem inheritance_sound {d : Document} (hd : ofDocument d = .ok r) :
    (∀ seen s, ∃! b, Answers r seen (.isModel s) b) ∧ (∀ s b, Answers r [] (.isModel s) b ↔ b = r.isModel s) ∧
      (∀ seen m x, Answers r seen (.isModel (.ref m x)) true → ∃ e, r.get? x = some e ∧
        ∀ c, e.compile r = .ok c → ∃ before k, c.models = before ++ [k] ∧ k.name = e.symbol ∧ "RootModel" ∉ k.bases) ∧
      (∀ x y k l, r.Makes x k → r.Makes y l → l.name ∈ k.bases → "RootModel" ∉ l.bases) ∧
      ∀ a, ¬TransGen r.IsBase a a := by
  have hr := plain_of_ofDocument hd
  refine ⟨fun seen s => ?_, fun s b => ?_, fun seen m x h => ?_, fun x y k l => root_notMem_of_base hr, fun a ha => ?_⟩
  · exact ⟨_, exists_answer hr.names seen (.isModel s), fun b hb => hb.eq_answer hr.names⟩
  · constructor
    · intro h
      rw [h.eq_answer hr.names, nameIsModelBeyond_nil]
      rfl
    · rintro rfl
      have hanswer := exists_answer hr.names [] (.isModel s)
      rwa [nameIsModelBeyond_nil] at hanswer
  · have hx := h.eq_answer hr.names
    rw [Question.answer, Schema.isModel, eq_comm, Bool.and_eq_true] at hx
    apply exists_last_of_accepted hr
    rw [← nameIsModelBeyond_nil]
    exact nameIsModelBeyond_mono hr.names (List.nil_subset _) x hx.2
  · exact (isBase_wellFounded hr).transGen.asymmetric a a ha ha

def mutuallyReferring : Document :=
  .map [(.text "A", intersectionOf [referenceTo "B", referenceTo "C"]),
    (.text "B", intersectionOf [referenceTo "A", objectOf []]),
    (.text "C", objectOf [(.text "p", intersectionOf [referenceTo "C", objectOf []])])]

theorem inheritance_sound_mutual :
    ∃ r, ofDocument mutuallyReferring = .ok r ∧
      Answers r [] (.isModel (.ref plainMarks "A")) false ∧ Answers r [] (.isModel (.ref plainMarks "C")) true ∧
      (∃ e, r.get? "C" = some e ∧ ∀ c, e.compile r = .ok c →
        ∃ before k, c.models = before ++ [k] ∧ k.name = e.symbol ∧ "RootModel" ∉ k.bases) ∧
      ∀ a, ¬TransGen r.IsBase a a := by
  have hok : (ofDocument mutuallyReferring).isOk = true := by decide +kernel
  have hA : (ofDocument mutuallyReferring).toOption.all (fun r => !r.isModel (.ref plainMarks "A")) = true := by
    decide +kernel
  have hC : (ofDocument mutuallyReferring).toOption.all (fun r => r.isModel (.ref plainMarks "C")) = true := by
    decide +kernel
  obtain ⟨r, hd⟩ := exists_of_isOk hok
  rw [hd] at hA hC
  obtain ⟨-, hanswers, hlast, -, hacyclic⟩ := inheritance_sound hd
  have hmodel := (hanswers _ _).mpr (show true = r.isModel (.ref plainMarks "C") from hC.symm)
  refine ⟨r, hd, (hanswers _ _).mpr ?_, hmodel, hlast [] _ "C" hmodel, hacyclic⟩
  simpa [Except.toOption] using hA

end Registry

end ClientForge
