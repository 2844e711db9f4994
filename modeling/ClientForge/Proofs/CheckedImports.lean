import ClientForge.Proofs.BareNames
import ClientForge.Proofs.BaseClasses
import ClientForge.Proofs.ModulePaths
import ClientForge.Proofs.ReferenceOrder

/-!
Intersections whose values are checked. What the checks refer to is needed when they run, at whatever depth of a schema
they stand, and the module of the schema has it by then.
-/

namespace ClientForge

open Outcome

namespace Schema

/-- The name stands in a check: the first of several schemas that are no classes to inherit from gives the type, and
each of the others is a check. -/
def ChecksWith (r : Registry) (s : Schema) (x : String) : Prop :=
  ∃ m members, Within (.allOf m members) s ∧ 1 < (constraining members).length ∧
    (constraining members).all r.isModel = false ∧ ∃ t ∈ (constraining members).tail, x ∈ t.references

variable {r : Registry} {s t : Schema} {m : Marks} {members : List Schema} {hint x : String} {top : Bool}
  {c p : Compiled} {parts : List Compiled}

theorem runtimeRefs_combine {type : TypeExpr} {symbols : List String} {models : List ClassDef}
    {runtimeRefs : List String} {nullable : Bool} (hp : p ∈ parts) : p.runtimeRefs ⊆
      (markNullable nullable (.combine type parts symbols models runtimeRefs)).runtimeRefs := by
  rw [runtimeRefs_markNullable]
  exact fun x hx => Compiled.mem_runtimeRefs_combine.mpr (.inl ⟨p, hp, hx⟩)

theorem exists_component_type (h : compileAt r s hint top = .ok c) (ht : t ∈ s.components)
    (hcounts : t.isUntyped = false) :
    ∃ hint' top' p, compileAt r t hint' top' = .ok p ∧ p.runtimeRefs ⊆ c.runtimeRefs := by
  cases compiles h with
  | @object _ _ _ _ _ _ draft extra doc hdraft hextra _ =>
    rcases List.mem_append.mp ht with ht | ht
    · obtain ⟨property, hproperty, rfl⟩ := List.mem_map.mp ht
      obtain ⟨-, parts, hparts, hall⟩ := compileProperties_eq_ok hdraft
      obtain ⟨p, hp, hint', -, hc⟩ := exists_right_of_mem hall hproperty
      have hmem : p ∈ draft.parts ++ extra.toList := List.mem_append_left _ (hparts ▸ List.mem_append_right _ hp)
      exact ⟨hint', false, p, hc, runtimeRefs_combine hmem⟩
    · obtain rfl := Option.mem_toList.mp ht
      rw [compileAdditional, hcounts, if_neg Bool.false_ne_true, map_eq_ok] at hextra
      obtain ⟨p, hc, rfl⟩ := hextra
      exact ⟨_, false, p, hc, runtimeRefs_combine (List.mem_append_right _ (List.mem_singleton_self _))⟩
  | array hc _ =>
    obtain rfl := List.mem_singleton.mp ht
    exact ⟨_, _, _, hc, by rw [runtimeRefs_markNullable]; exact List.Subset.refl _⟩
  | @allOf _ members _ _ _ _ hmembers hc _ =>
    have hmem : t ∈ constraining members := mem_constraining.mpr ⟨ht, hcounts⟩
    rw [hmembers, List.mem_singleton] at hmem
    subst hmem
    exact ⟨_, _, _, hc, by rw [runtimeRefs_markNullable]; exact List.Subset.refl _⟩
  | union hc _ =>
    obtain rfl := List.mem_singleton.mp ht
    exact ⟨_, _, _, hc, by rw [runtimeRefs_markNullable]; exact List.Subset.refl _⟩
  | inherits doc _ _ hparts _ =>
    obtain ⟨p, hp, k, hc⟩ := hparts.exists_part (mem_constraining.mpr ⟨ht, hcounts⟩)
    exact ⟨_, _, p, hc, runtimeRefs_combine hp⟩
  | checked _ _ hparts _ =>
    obtain ⟨p, hp, k, hc⟩ := hparts.exists_part (mem_constraining.mpr ⟨ht, hcounts⟩)
    exact ⟨_, _, p, hc, runtimeRefs_combine hp⟩
  | any parts _ hparts _ =>
    obtain ⟨p, hp, k, hc⟩ := hparts.exists_part ht
    obtain ⟨type, symbols, heq⟩ := combineAny_eq parts
    rw [heq]
    exact ⟨_, _, p, hc, runtimeRefs_combine hp⟩
  | blank hs => exact absurd (isUntyped_of_isBlank hs ht) (Bool.eq_false_iff.mp hcounts)
  | _ => cases ht

theorem mem_runtimeRefs_of_check (h : compileAt r (.allOf m members) hint top = .ok c)
    (hseveral : 1 < (constraining members).length) (hmodels : (constraining members).all r.isModel = false)
    (ht : t ∈ (constraining members).tail) : t.references ⊆ c.runtimeRefs := by
  obtain ⟨first, others, hparts, rfl⟩ := compileAt_checked h hseveral hmodels
  intro x hx
  rw [runtimeRefs_markNullable, Compiled.mem_runtimeRefs_combine, List.mem_eraseDups, List.mem_flatMap]
  have hgathers := hparts.forall₂ fun s _ hint p hc => gathers_of_compileAt hc
  cases hmembers : constraining members with
  | nil =>
    rw [hmembers] at ht
    cases ht
  | cons s checks =>
    rw [hmembers] at hgathers ht
    obtain ⟨p, hp, hc⟩ := exists_right_of_mem (List.forall₂_cons.mp hgathers).2 ht
    exact .inr ⟨p, hp, hc.refs ▸ hx⟩

theorem ChecksWith.mem_runtimeRefs (hx : s.ChecksWith r x) (h : compileAt r s hint top = .ok c) :
    x ∈ c.runtimeRefs := by
  obtain ⟨m, members, hwithin, hseveral, hmodels, t, ht, hx⟩ := hx
  -- From the check outwards: each schema around it needs all that its components need.
  induction hwithin generalizing hint top c with
  | self => exact mem_runtimeRefs_of_check h hseveral hmodels ht hx
  | @part s u hu hwithin ih =>
    have hcounts : u.isUntyped = false := by
      cases hwithin with
      | self => rfl
      | part hu' _ => cases u <;> first | rfl | cases hu'
    obtain ⟨hint', top', p, hp, hsubset⟩ := exists_component_type h hu hcounts
    exact hsubset (ih hp)

end Schema

namespace NamedSchema

variable {d : Document} {r : Registry} {e : NamedSchema} {c : Compiled} {x : String}

theorem mem_runtimeRefs_of_checksWith (hd : Registry.ofDocument d = .ok r) (he : e ∈ r.entries)
    (hx : e.schema.ChecksWith r x) (hc : e.compile r = .ok c) : x ∈ c.runtimeRefs := by
  obtain ⟨c', hc', h⟩ := compile_eq_ok hc
  have hmem := hx.mem_runtimeRefs hc'
  rcases h with ⟨-, rfl⟩ | ⟨hnames, doc, -, ⟨htext, rfl⟩ | ⟨-, rfl⟩⟩
  · exact hmem
  · have hword := (Registry.symbols_areIdentifiers hd e he).isWord
    have hcomes := Schema.comesDownTo_of_type hword hc' hnames (TypeExpr.eq_named_of_text hword htext)
    rw [(hcomes.type_eq hc').2.2] at hmem
    cases hmem
  · exact hmem

theorem runtimeRefs_subset_refs (hc : e.compile r = .ok c) : c.runtimeRefs ⊆ c.refs := by
  obtain ⟨c', hc', h⟩ := compile_eq_ok hc
  have hsubset := (Schema.gathers_of_compileAt hc').runtime
  rcases h with ⟨-, rfl⟩ | ⟨-, doc, -, ⟨-, rfl⟩ | ⟨-, rfl⟩⟩
  · exact hsubset
  · exact List.filter_subset _ hsubset
  · exact hsubset

end NamedSchema

namespace Package

variable {r : Registry} {naming : ModuleNaming} {reach : String → List String} {e target : NamedSchema} {m : Module}
  {c : Compiled} {x : String}

theorem not_takes_deferred (hr : r.WellFormed) (hm : schemaModule r naming reach e = .ok m) (hc : e.compile r = .ok c)
    (htarget : r.get? x = some target) (hruntime : x ∈ c.runtimeRefs) (source : ModuleName) :
    ¬m.Takes true source ⟨target.symbol, none⟩ := by
  obtain ⟨c', hc', -, htakes⟩ := takes_schemaModule hm
  obtain rfl := Except.ok.inj (hc.symm.trans hc')
  intro htake
  obtain ⟨i, hi, -, hdeferred, -, hsymbol⟩ := (htakes _ _ _).mp htake
  obtain ⟨-, -, hi, hd⟩ := mem_schemaImports.mp hi
  obtain ⟨hmem, hname⟩ := Registry.mem_of_get? hi
  obtain ⟨hmem', rfl⟩ := Registry.mem_of_get? htarget
  rw [← List.inj_on_of_nodup_map hr.symbols hmem' hmem hsymbol] at hname
  rw [← hdeferred, ← hname, List.contains_iff_mem.mpr hruntime, Bool.not_true, Bool.and_false] at hd
  cases hd

/-- The names in the checks of a schema are needed when values are checked. The module of the schema takes the classes
of all the others when it runs, and none of them for type checkers only. -/
theorem checks_at_hand {d : Document} (hd : Registry.ofDocument d = .ok r) (he : e ∈ r.entries)
    (hx : e.schema.ChecksWith r x) :
    (∀ c, e.compile r = .ok c → x ∈ c.runtimeRefs) ∧
      ∀ style package api ms, api.schemas = r → modules style package api = .ok ms →
        ∃ m ∈ ms, m.path = schemaPath e.module ∧ (x ≠ e.name → ∃ target, r.get? x = some target ∧
          (∃ source, m.Takes false source ⟨target.symbol, none⟩ ∧ ∃ t ∈ ms, t.path = schemaPath target.module ∧
            style.Calls package m.path.package source t.path.dotted) ∧
          ∀ source, ¬m.Takes true source ⟨target.symbol, none⟩) := by
  have hruntime {c : Compiled} (hc : e.compile r = .ok c) := NamedSchema.mem_runtimeRefs_of_checksWith hd he hx hc
  refine ⟨fun c hc => hruntime hc, ?_⟩
  rintro style package api ms rfl h
  have hr := Registry.wellFormed_of_ofDocument hd
  obtain ⟨b, hb, rfl⟩ := exists_build h
  obtain ⟨m, hm, hmade⟩ := exists_mem_of_mapM hb.ofSchemas he
  obtain ⟨c, hc, -⟩ := schemaModule_eq_ok hmade
  have hrefs := NamedSchema.runtimeRefs_subset_refs hc (hruntime hc)
  obtain ⟨target, htarget⟩ := Option.isSome_iff_exists.mp (NamedSchema.compile_refersTo hc x hrefs).2
  obtain ⟨t, ht, hpath, -⟩ := hb.exists_schemaModule htarget
  have hpackage : m.path.package = ["schemas"] := by
    rw [path_of_schemaModule hmade]
    exact ModulePath.package_inFolders _ _
  refine ⟨m, b.ofSchemas_subset api hm, path_of_schemaModule hmade, fun hne => ⟨target, htarget, ?_, ?_⟩⟩
  · refine ⟨_, takes_needed hmade hc hrefs hne htarget (.inr (hruntime hc)), t, b.ofSchemas_subset api ht, hpath, ?_⟩
    rw [hpackage, ← hpath]
    exact hb.calls_module hr _ (b.ofSchemas_subset api ht)
  · exact not_takes_deferred hr hmade hc htarget (hruntime hc)

theorem checks_at_hand_mutual : ∃ (d : Document) (r : Registry) (e : NamedSchema) (ms : List Module),
    Registry.ofDocument d = .ok r ∧ e ∈ r.entries ∧ e.schema.ChecksWith r "Key" ∧
      modules .relative none (bareApi r) = .ok ms ∧ (∃ c, e.compile r = .ok c ∧ "Key" ∈ c.runtimeRefs) ∧
      ∃ m ∈ ms, m.path = schemaPath e.module ∧ ∃ target, r.get? "Key" = some target ∧
        (∃ source, m.Takes false source ⟨target.symbol, none⟩ ∧ ∃ t ∈ ms, t.path = schemaPath target.module ∧
          ImportStyle.relative.Calls none m.path.package source t.path.dotted) ∧
        ∀ source, ¬m.Takes true source ⟨target.symbol, none⟩ := by
  let plain : Marks := ⟨false, .absent⟩
  let check : Schema := .allOf plain [.untyped plain, .primitive plain .string none, .ref plain "Key"]
  let door : NamedSchema := ⟨"Door", "Door", "door", .object plain [("keys", .array plain check)] [] none⟩
  let key : NamedSchema := ⟨"Key", "Key", "key", .object plain [("door", .ref plain "Door")] [] none⟩
  let r : Registry := ⟨[door, key]⟩
  have hd : Registry.ofDocument (.map [
      (.text "Door", Registry.objectOf [(.text "keys", .map [(.text "type", .text "array"), (.text "items",
        Registry.intersectionOf [.map [], .map [(.text "type", .text "string")], referenceTo "Key"])])]),
      (.text "Key", Registry.objectOf [(.text "door", referenceTo "Door")])]) = .ok r := rfl
  have he : door ∈ r.entries := List.mem_cons_self
  have hwithin : Schema.Within check door.schema :=
    .part (List.mem_singleton_self _) (.part (List.mem_singleton_self _) .self)
  have hx : door.schema.ChecksWith r "Key" := ⟨plain, _, hwithin, by decide, by decide +kernel, _,
    List.mem_singleton_self _, List.mem_singleton_self _⟩
  obtain ⟨c, hc⟩ := exists_of_isOk (x := door.compile r) (by decide +kernel)
  obtain ⟨ms, h⟩ := exists_of_isOk (x := modules .relative none (bareApi r)) (by decide +kernel)
  obtain ⟨hruntime, himports⟩ := checks_at_hand hd he hx
  obtain ⟨m, hm, hpath, htakes⟩ := himports .relative none (bareApi r) ms rfl h
  exact ⟨_, r, door, ms, hd, he, hx, h, ⟨c, hc, hruntime c hc⟩, m, hm, hpath, htakes (by decide)⟩

end Package

end ClientForge
