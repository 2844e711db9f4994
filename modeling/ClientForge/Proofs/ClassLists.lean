import ClientForge.Proofs.Lists
import ClientForge.Proofs.TypeRules

namespace ClientForge

open Naming Outcome

/-- Each base of a class is given or is the name of a class before it, in which the last digit comes later. -/
def Supported (given : String → Prop) (classes : List ClassDef) : Prop :=
  ∀ before k after, classes = before ++ k :: after → ∀ base ∈ k.bases,
    given base ∨ ∃ k' ∈ before, k'.name = base ∧ digitEnd k.name < digitEnd base

namespace Supported

variable {given given' : String → Prop} {as bs : List ClassDef} {k : ClassDef}

theorem nil : Supported given [] := by simp [Supported]

theorem append (ha : Supported given as) (hb : Supported given bs) : Supported given (as ++ bs) := by
  intro before k after heq base hbase
  rcases List.append_eq_append_iff.mp heq with ⟨more, rfl, hbs⟩ | ⟨more, has, hafter⟩
  · rcases hb more k after hbs base hbase with hgiven | ⟨k', hk', hname⟩
    · exact .inl hgiven
    · exact .inr ⟨k', List.mem_append_right _ hk', hname⟩
  · cases more with
    | nil =>
      rw [List.append_nil] at has
      rcases hb [] k after hafter.symm base hbase with hgiven | ⟨k', hk', -⟩
      · exact .inl hgiven
      · cases hk'
    | cons k' more =>
      cases hafter
      exact ha before k more has base hbase

theorem flatMap {α : Type} {l : List α} {f : α → List ClassDef} (h : ∀ a ∈ l, Supported given (f a)) :
    Supported given (l.flatMap f) := by
  induction l with
  | nil => exact nil
  | cons a l ih =>
    rw [List.flatMap_cons]
    exact (h a List.mem_cons_self).append (ih fun b hb => h b (List.mem_cons_of_mem _ hb))

theorem imp (h : Supported given as) (hgiven : ∀ base, given base → given' base) : Supported given' as :=
  fun before k after heq base hbase => (h before k after heq base hbase).imp_left (hgiven base)

theorem concat (h : Supported given as) (hk : ∀ base ∈ k.bases,
    given base ∨ ∃ k' ∈ as, k'.name = base ∧ digitEnd k.name < digitEnd base) : Supported given (as ++ [k]) := by
  intro before k' after heq base hbase
  rcases List.eq_nil_or_concat after with rfl | ⟨init, last, rfl⟩
  · obtain ⟨rfl, hlast⟩ := List.append_inj' heq rfl
    cases hlast
    exact hk base hbase
  · have heq : as ++ [k] = (before ++ k' :: init) ++ [last] := by simpa using heq
    obtain ⟨rfl, -⟩ := List.append_inj' heq rfl
    exact h before k' init rfl base hbase

end Supported

theorem mem_init {α : Type} {init before after : List α} {last a x : α} (h : init ++ [last] = before ++ a :: after)
    (hx : x ∈ before) : x ∈ init := by
  rcases List.eq_nil_or_concat after with rfl | ⟨middle, last', rfl⟩
  · obtain ⟨rfl, -⟩ := List.append_inj' h rfl
    exact hx
  · have h : init ++ [last] = (before ++ a :: middle) ++ [last'] := by simpa using h
    obtain ⟨rfl, -⟩ := List.append_inj' h rfl
    exact List.mem_append_left _ hx

theorem extends_className (r : Registry) (hint : String) (top : Bool) : Extends (Schema.className r hint top) hint := by
  unfold Schema.className
  split
  · exact .refl hint
  · exact extends_free _ _

def Registry.taken (r : Registry) : List String := r.symbols ++ reservedSymbols

theorem Registry.symbol_mem_taken {r : Registry} {e : NamedSchema} (he : e ∈ r.entries) : e.symbol ∈ r.taken :=
  List.mem_append_left _ (List.mem_map_of_mem he)

namespace Compiled

variable {r : Registry} {hint : String} {top : Bool} {c c' : Compiled}

def Gives (r : Registry) (c : Compiled) (base : String) : Prop :=
  base = "BaseModel" ∧ "BaseModel" ∈ c.symbols ∨
    ∃ x ∈ c.refs, ∃ e, r.get? x = some e ∧ r.nameIsModel x = true ∧ e.symbol = base

/-- The classes of a type bear names that start with its place and are not taken. If the place is that of a named
schema, the last class may have just its name. -/
structure Sound (r : Registry) (hint : String) (top : Bool) (c : Compiled) : Prop where
  supported : Supported (c.Gives r) c.models
  nodup_bases : ∀ k ∈ c.models, k.bases.Nodup
  extends_hint : ∀ k ∈ c.models, Extends k.name hint
  fresh : (∀ k ∈ c.models, k.name ∉ r.taken) ∨ top = true ∧ ∃ before k, c.models = before ++ [k] ∧ k.name = hint ∧
    ∀ k' ∈ before, k'.name ∉ r.taken

theorem Gives.mono {base : String} (h : c.Gives r base) (hrefs : c.refs ⊆ c'.refs) (hsymbols : c.symbols ⊆ c'.symbols) :
    c'.Gives r base :=
  h.imp (fun ⟨hbase, hmem⟩ => ⟨hbase, hsymbols hmem⟩) fun ⟨x, hx, hgives⟩ => ⟨x, hrefs hx, hgives⟩

theorem Sound.mono (h : c.Sound r hint top) (hmodels : c'.models = c.models) (hrefs : c.refs ⊆ c'.refs)
    (hsymbols : c.symbols ⊆ c'.symbols) : c'.Sound r hint top where
  supported := hmodels ▸ h.supported.imp fun _ hgives => hgives.mono hrefs hsymbols
  nodup_bases := hmodels ▸ h.nodup_bases
  extends_hint := hmodels ▸ h.extends_hint
  fresh := hmodels ▸ h.fresh

theorem sound_of_models_nil (h : c.models = []) : c.Sound r hint top where
  supported := h ▸ .nil
  nodup_bases := by simp [h]
  extends_hint := by simp [h]
  fresh := .inl (by simp [h])

theorem Sound.fresh_of_inner (h : c.Sound r hint false) : ∀ k ∈ c.models, k.name ∉ r.taken :=
  h.fresh.resolve_right fun ⟨htop, _⟩ => Bool.false_ne_true htop

theorem Sound.fresh_before (h : c.Sound r hint top) {before after : List ClassDef} {k : ClassDef}
    (hmodels : c.models = before ++ k :: after) : ∀ k' ∈ before, k'.name ∉ r.taken := by
  intro k' hk'
  rcases h.fresh with hfresh | ⟨-, init, last, hlast, -, hinit⟩
  · exact hfresh k' (by simp [hmodels, hk'])
  · exact hinit k' (mem_init (hlast.symm.trans hmodels) hk')

theorem Sound.root_notMem (h : c.Sound r hint top) (hr : ∀ e ∈ r.entries, e.symbol ∉ reservedSymbols) :
    ∀ k ∈ c.models, "RootModel" ∉ k.bases := by
  intro k hk hbase
  obtain ⟨before, after, hmodels⟩ := List.append_of_mem hk
  have hroot : "RootModel" ∈ reservedSymbols := by decide
  rcases h.supported before k after hmodels _ hbase with (⟨hbase, -⟩ | ⟨x, -, e, he, -, hsymbol⟩) | ⟨k', hk', hname, -⟩
  · exact absurd hbase (by decide)
  · exact hr e (Registry.mem_of_get? he).1 (hsymbol ▸ hroot)
  · exact h.fresh_before hmodels k' hk' (List.mem_append_right _ (hname ▸ hroot))

theorem Sound.extends_trans {hint' : String} (h : c.Sound r hint' false) (hhint : Extends hint' hint) :
    c.Sound r hint top where
  supported := h.supported
  nodup_bases := h.nodup_bases
  extends_hint k hk := (h.extends_hint k hk).trans hhint
  fresh := .inl h.fresh_of_inner

section Combine

variable {type : TypeExpr} {parts : List Compiled} {symbols runtimeRefs : List String}
  (hparts : ∀ p ∈ parts, p.Sound r hint false)

include hparts

theorem supported_parts (models : List ClassDef) :
    Supported ((combine type parts symbols models runtimeRefs).Gives r) (parts.flatMap (·.models)) := by
  apply Supported.flatMap
  intro p hp
  apply (hparts p hp).supported.imp
  intro base hbase
  apply hbase.mono
  · exact fun x hx => mem_refs_combine.mpr ⟨p, hp, hx⟩
  · intro x hx
    simp only [combine, List.mem_eraseDups, List.mem_append, List.mem_flatMap]
    exact .inl ⟨p, hp, hx⟩

theorem sound_combine : (combine type parts symbols [] runtimeRefs).Sound r hint top where
  supported := by
    have h : Supported ((combine type parts symbols [] runtimeRefs).Gives r) (parts.flatMap (·.models)) :=
      supported_parts hparts []
    simpa only [combine, List.append_nil] using h
  nodup_bases k hk := by
    rw [combine, List.append_nil] at hk
    obtain ⟨p, hp, hk⟩ := List.mem_flatMap.mp hk
    exact (hparts p hp).nodup_bases k hk
  extends_hint k hk := by
    rw [combine, List.append_nil] at hk
    obtain ⟨p, hp, hk⟩ := List.mem_flatMap.mp hk
    exact (hparts p hp).extends_hint k hk
  fresh := by
    refine .inl fun k hk => ?_
    rw [combine, List.append_nil] at hk
    obtain ⟨p, hp, hk⟩ := List.mem_flatMap.mp hk
    exact (hparts p hp).fresh_of_inner k hk

theorem sound_combine_class {k : ClassDef} (hname : k.name = Schema.className r hint top) (hnodup : k.bases.Nodup)
    (hbases : ∀ base ∈ k.bases, (combine type parts symbols [k] runtimeRefs).Gives r base ∨
      ∃ k' ∈ parts.flatMap (·.models), k'.name = base ∧ digitEnd k.name < digitEnd base) :
    (combine type parts symbols [k] runtimeRefs).Sound r hint top where
  supported := (supported_parts hparts [k]).concat hbases
  nodup_bases k' hk' := by
    rcases List.mem_append.mp hk' with hk' | hk'
    · obtain ⟨p, hp, hk'⟩ := List.mem_flatMap.mp hk'
      exact (hparts p hp).nodup_bases k' hk'
    · exact List.mem_singleton.mp hk' ▸ hnodup
  extends_hint k' hk' := by
    rcases List.mem_append.mp hk' with hk' | hk'
    · obtain ⟨p, hp, hk'⟩ := List.mem_flatMap.mp hk'
      exact (hparts p hp).extends_hint k' hk'
    · rw [List.mem_singleton.mp hk', hname]
      exact extends_className r hint top
  fresh := by
    have hbefore : ∀ k' ∈ parts.flatMap (·.models), k'.name ∉ r.taken := by
      intro k' hk'
      obtain ⟨p, hp, hk'⟩ := List.mem_flatMap.mp hk'
      exact (hparts p hp).fresh_of_inner k' hk'
    cases htop : top with
    | true => exact .inr ⟨rfl, _, k, rfl, by rw [hname, Schema.className, htop, if_pos rfl], hbefore⟩
    | false =>
      refine .inl fun k' hk' => ?_
      rcases List.mem_append.mp hk' with hk' | hk'
      · exact hbefore k' hk'
      · rw [List.mem_singleton.mp hk', hname, Schema.className, htop, if_neg Bool.false_ne_true]
        exact free_notMem (by decide) _ _

end Combine

end Compiled

namespace Schema

variable {r : Registry} {hint : String} {top : Bool} {c : Compiled}

theorem symbols_markNullable (nullable : Bool) (c : Compiled) : c.symbols ⊆ (markNullable nullable c).symbols := by
  unfold markNullable Compiled.orNone
  split
  · split
    · exact List.Subset.refl _
    · exact fun x hx => List.mem_eraseDups.mpr (List.mem_append_left _ hx)
  · exact List.Subset.refl _

theorem sound_markNullable {nullable : Bool} (h : c.Sound r hint top) : (markNullable nullable c).Sound r hint top := by
  apply h.mono (models_markNullable nullable c) _ (symbols_markNullable nullable c)
  rw [refs_markNullable]
  exact List.Subset.refl _

section Members

variable {m : Marks} {members : List Schema} {parts : List Compiled}

theorem type_of_isModel {named : String → Bool} (hnamed : ∀ name, named name = true → r.nameIsModel name = true)
    {s : Schema} (hs : s.isModel named = true) (h : compileAt r s hint top = .ok c) :
    (∃ name e, r.get? name = some e ∧ named name = true ∧ name ∈ c.refs ∧ c.type = .named e.symbol ∧ c.models = []) ∨
      ∃ before k, c.models = before ++ [k] ∧ k.name = className r hint top ∧ c.type = .named k.name := by
  induction s using Schema.induction generalizing c with
  | ref m name =>
    obtain ⟨e, he, rfl⟩ := compileAt_ref h
    rw [Schema.isModel, Bool.and_eq_true, Bool.not_eq_true'] at hs
    rw [hs.1, markNullable_false]
    exact .inl ⟨name, e, he, hs.2, List.mem_singleton_self _, rfl, rfl⟩
  | object m properties required additional =>
    obtain ⟨draft, extra, doc, -, -, -, rfl⟩ := compileAt_object h
    rw [show m.nullable = false from nullable_of_isModel hs, markNullable_false]
    exact .inr ⟨_, _, rfl, rfl, rfl⟩
  | allOf m members ih =>
    obtain ⟨hnull, hne, hs⟩ := isModel_allOf_iff.mp hs
    rcases (nothing_or_single_or_several _).resolve_left hne with ⟨s, hmembers⟩ | hseveral
    · have hmem : s ∈ constraining members := hmembers ▸ List.mem_cons_self
      obtain ⟨c', hc', rfl⟩ := compileAt_allOf_single h hmembers
      rw [hnull, markNullable_false]
      exact ih s (mem_constraining.mp hmem).1 (hs s hmem) hc'
    · have hmodels : (constraining members).all r.isModel = true :=
        List.all_eq_true.mpr fun s hs' => isModel_mono hnamed s (hs s hs')
      obtain ⟨parts, doc, -, rfl⟩ := compileAt_inherits h hseveral hmodels
      rw [hnull, markNullable_false]
      exact .inr ⟨_, _, rfl, rfl, rfl⟩
  | union m kind members ih =>
    obtain ⟨hnull, s, rfl, hmodel⟩ := isModel_union_iff.mp hs
    obtain ⟨c', hc', rfl⟩ := compileAt_union_single h
    rw [hnull, markNullable_false]
    exact ih s List.mem_cons_self hmodel hc'
  | _ => cases hs

theorem extends_part (word : String) (k : ℕ) (hword : ∀ c ∈ word.toList.head?, c.isDigit = false) (hne : word ≠ "") :
    Extends (hint ++ word ++ toString k) hint := by
  rw [String.append_assoc]
  apply extends_append
  rwa [String.toList_append, List.head?_append_of_ne_nil _ (by simpa using hne)]

theorem parts_sound {word : String} (hword : ∀ c ∈ word.toList.head?, c.isDigit = false) (hne : word ≠ "")
    (hparts : MakesParts r hint word members parts)
    (hsound : ∀ s ∈ members, ∀ hint c, compileAt r s hint false = .ok c → c.Sound r hint false) :
    ∀ p ∈ parts, p.Sound r hint false := by
  intro p hp
  obtain ⟨s, hs, k, hp⟩ := hparts.exists_member hp
  exact (hsound s hs _ p hp).extends_trans (extends_part word k hword hne)

theorem inherits_sound {doc : Option String} (hmodels : (constraining members).all r.isModel = true)
    (hparts : MakesParts r hint "Part" (constraining members) parts) (hsound : ∀ p ∈ parts, p.Sound r hint false) :
    Compiled.Sound r hint top (.combine (.named (className r hint top)) parts []
      [⟨className r hint top, (parts.map (·.type.text)).eraseDups, doc, [], [], none⟩] []) := by
  apply Compiled.sound_combine_class hsound rfl (nodup_eraseDups _)
  intro base hbase
  obtain ⟨p, hp, rfl⟩ := List.mem_map.mp (List.mem_eraseDups.mp hbase)
  obtain ⟨s, hs, i, hp'⟩ := hparts.exists_member hp
  rcases type_of_isModel (fun _ hname => hname) (List.all_eq_true.mp hmodels s hs) hp' with
    ⟨name, e, he, hname, href, htype, -⟩ | ⟨before, own, hown, hname, htype⟩
  · exact .inl (.inr ⟨name, Compiled.mem_refs_combine.mpr ⟨p, hp, href⟩, e, he, hname, by rw [htype]; rfl⟩)
  · refine .inr ⟨own, List.mem_flatMap.mpr ⟨p, hp, by simp [hown]⟩, by rw [htype]; rfl, ?_⟩
    have hend : digitEnd own.name = (hint ++ "Part" ++ toString i).length := by
      rw [hname, className, if_neg Bool.false_ne_true, freeClassName, digitEnd_free, digitEnd_numbered]
    have hclass : digitEnd (className r hint top) ≤ hint.length := by
      unfold className freeClassName
      split
      · exact digitEnd_le hint
      · rw [digitEnd_free]
        exact digitEnd_le hint
    rw [htype, TypeExpr.text, hend, String.length_append, String.length_append]
    have hpart : "Part".length = 4 := by decide
    dsimp only
    omega

theorem finish_sound {draft : ClassDraft} {extra : Option Compiled} {doc : Option String} {isOpen : Bool}
    (hparts : ∀ p ∈ draft.parts ++ extra.toList, p.Sound r hint false) (hsymbols : "BaseModel" ∈ draft.symbols) :
    (draft.finish (className r hint top) doc isOpen extra).Sound r hint top := by
  unfold ClassDraft.finish
  apply Compiled.sound_combine_class hparts rfl (List.nodup_singleton _)
  intro base hbase
  refine .inl (.inl ⟨List.mem_singleton.mp hbase, ?_⟩)
  simp [Compiled.combine, hsymbols]

theorem compileAt_sound (s : Schema) (h : compileAt r s hint top = .ok c) : c.Sound r hint top := by
  replace h := compiles h
  induction h with
  | object doc hdraft hextra _ ih =>
    obtain ⟨hsymbols, hparts⟩ := object_parts hdraft hextra
    refine sound_markNullable (finish_sound (fun p hp => ?_) hsymbols)
    obtain ⟨s, hs, hint', hinside, hc⟩ := hparts p hp
    exact (ih s hs hint' p hc).extends_trans (hinside.extends.trans (extends_className r _ _))
  | array _ _ ih =>
    apply sound_markNullable
    exact (ih.extends_trans (extends_append _ (by simp))).mono rfl (List.Subset.refl _) (List.Subset.refl _)
  | allOf _ _ _ ih => exact sound_markNullable ih
  | union _ _ ih => exact sound_markNullable ih
  | inherits doc _ hmodels hparts _ ih =>
    have hsound := parts_sound (by simp) (by decide) hparts fun s hs => ih s (constraining_subset hs)
    exact sound_markNullable (inherits_sound hmodels hparts hsound)
  | checked _ _ hparts _ ih =>
    have hsound := parts_sound (by simp) (by decide) hparts fun s hs => ih s (constraining_subset hs)
    exact sound_markNullable (Compiled.sound_combine hsound)
  | any parts _ hparts _ ih =>
    obtain ⟨type, symbols, heq⟩ := combineAny_eq parts
    rw [heq]
    exact sound_markNullable (Compiled.sound_combine (parts_sound (by simp) (by decide) hparts ih))
  | _ => exact sound_markNullable (Compiled.sound_of_models_nil rfl)

end Members

end Schema

namespace NamedSchema

variable {r : Registry} {e : NamedSchema} {c : Compiled}

theorem models_of_compile (h : e.compile r = .ok c) :
    ∃ c', Schema.compileAt r e.schema e.symbol true = .ok c' ∧ c'.symbols ⊆ c.symbols ∧
      (∀ x ∈ c'.refs, x ∈ c.refs ∨ x = e.name) ∧
      (c.models = c'.models ∧ (∃ k ∈ c'.models, k.name = e.symbol) ∨
        (∀ k ∈ c'.models, k.name ≠ e.symbol) ∧ "RootModel" ∈ c.symbols ∧
          ∃ k, c.models = c'.models ++ [k] ∧ k.name = e.symbol ∧ k.bases = ["RootModel"]) := by
  obtain ⟨c', hc, h⟩ := compile_eq_ok h
  have hsymbols (more : List String) : c'.symbols ⊆ (c'.symbols ++ more).eraseDups :=
    fun x hx => List.mem_eraseDups.mpr (List.mem_append_left _ hx)
  refine ⟨c', hc, ?_⟩
  rcases h with ⟨hown, rfl⟩ | ⟨hnames, doc, -, ⟨-, rfl⟩ | ⟨-, rfl⟩⟩
  · exact ⟨List.Subset.refl _, fun x hx => .inl hx, .inl ⟨rfl, hown⟩⟩
  · refine ⟨hsymbols _, fun x hx => ?_, .inr ⟨hnames, by simp, _, rfl, rfl, rfl⟩⟩
    by_cases hx' : x = e.name
    · exact .inr hx'
    · exact .inl (List.mem_filter.mpr ⟨hx, by simpa using hx'⟩)
  · exact ⟨hsymbols _, fun x hx => .inl hx, .inr ⟨hnames, by simp, _, rfl, rfl, rfl⟩⟩

def Gives (r : Registry) (e : NamedSchema) (c : Compiled) (base : String) : Prop :=
  (base = "BaseModel" ∨ base = "RootModel") ∧ base ∈ c.symbols ∨
    ∃ x e', r.get? x = some e' ∧ r.nameIsModel x = true ∧ e'.symbol = base ∧ (x ∈ c.refs ∨ x = e.name)

theorem compile_last (he : e ∈ r.entries) (h : e.compile r = .ok c) :
    ∃ before k, c.models = before ++ [k] ∧ k.name = e.symbol ∧ ∀ k' ∈ before, k'.name ∉ r.taken := by
  obtain ⟨c', hc, -, -, hmodels⟩ := models_of_compile h
  rcases hmodels with ⟨heq, own, hown, hname⟩ | ⟨hnames, -, k, heq, hname, -⟩
  · rcases (Schema.compileAt_sound e.schema hc).fresh with hfresh | ⟨-, before, k, hlast, hk, hbefore⟩
    · exact absurd (Registry.symbol_mem_taken he) (hname ▸ hfresh own hown)
    · exact ⟨before, k, heq.trans hlast, hk, hbefore⟩
  · refine ⟨c'.models, k, heq, hname, ?_⟩
    rcases (Schema.compileAt_sound e.schema hc).fresh with hfresh | ⟨-, before, k', hlast, hk', -⟩
    · exact hfresh
    · exact absurd hk' (hnames k' (by simp [hlast]))

theorem compile_nodup_bases (h : e.compile r = .ok c) : ∀ k ∈ c.models, k.bases.Nodup := by
  obtain ⟨c', hc, -, -, ⟨hmodels, -⟩ | ⟨-, -, own, hmodels, -, hbases⟩⟩ := models_of_compile h
  · exact hmodels ▸ (Schema.compileAt_sound e.schema hc).nodup_bases
  · intro k hk
    rw [hmodels, List.mem_append, List.mem_singleton] at hk
    rcases hk with hk | rfl
    · exact (Schema.compileAt_sound e.schema hc).nodup_bases k hk
    · rw [hbases]
      exact List.nodup_singleton _

theorem compile_supported (h : e.compile r = .ok c) : Supported (e.Gives r c) c.models := by
  obtain ⟨c', hc, hsymbols, hrefs, hmodels⟩ := models_of_compile h
  have hsupported : Supported (e.Gives r c) c'.models := by
    apply (Schema.compileAt_sound e.schema hc).supported.imp
    rintro base (⟨rfl, hbase⟩ | ⟨x, hx, e', he', hname, hsymbol⟩)
    · exact .inl ⟨.inl rfl, hsymbols hbase⟩
    · exact .inr ⟨x, e', he', hname, hsymbol, hrefs x hx⟩
  rcases hmodels with ⟨heq, -⟩ | ⟨-, hroot, k, heq, -, hbases⟩
  · exact heq ▸ hsupported
  · rw [heq]
    apply hsupported.concat
    intro base hbase
    rw [hbases, List.mem_singleton] at hbase
    subst hbase
    exact .inl (.inl ⟨.inr rfl, hroot⟩)

end NamedSchema

end ClientForge
