import ClientForge.Proofs.BareNames
import ClientForge.Proofs.ImportCycles
import ClientForge.Proofs.Inheritance
import ClientForge.Proofs.ModulePaths

/-!
Classes around nothing but another class. Going on from such a class to the one inside comes to an end unless schemas
stand for each other in a circle.
-/

namespace ClientForge

open Naming Outcome Relation

namespace Schema

/-- A schema that is nothing but another name for the named schema: a reference to it, a plain type that its class is
called like, or a composition all of whose parts come to it. -/
inductive StandsFor (r : Registry) (e : NamedSchema) : Schema → Prop
  | ref {m : Marks} {name : String} (hnull : m.nullable = false) (he : r.get? name = some e) :
    StandsFor r e (.ref m name)
  | primitive {m : Marks} {type : PrimitiveType} {format : Option String} (hnull : m.nullable = false)
    (hname : primitiveTypeName type format = e.symbol) : StandsFor r e (.primitive m type format)
  | allOf {m : Marks} {members : List Schema} {s : Schema} (hnull : m.nullable = false)
    (hmembers : constraining members = [s]) (h : StandsFor r e s) : StandsFor r e (.allOf m members)
  | union {m : Marks} {kind : UnionKind} {members : List Schema} (hnull : m.nullable = false) (hne : members ≠ [])
    (h : ∀ s ∈ members, StandsFor r e s) : StandsFor r e (.union m kind members)

variable {r : Registry} {e : NamedSchema} {s : Schema}

theorem StandsFor.comesDownTo (h : s.StandsFor r e) : s.ComesDownTo r e.symbol := by
  have hnever {m : Marks} (hnull : m.nullable = false) : m.nullable = true → e.symbol = "Any" :=
    fun hnull' => absurd (hnull.symm.trans hnull') Bool.false_ne_true
  induction h with
  | ref hnull he => exact .base (.ref (hnever hnull) he rfl)
  | primitive hnull hname => exact .base (.primitive (hnever hnull) hname)
  | allOf hnull hmembers _ ih => exact .allOf (hnever hnull) hmembers ih
  | union hnull hne _ ih => exact .union (hnever hnull) hne ih

theorem standsFor_iff (hr : r.Plain) (he : e ∈ r.entries) : s.StandsFor r e ↔ s.ComesDownTo r e.symbol := by
  refine ⟨StandsFor.comesDownTo, fun h => ?_⟩
  have hany : e.symbol ≠ "Any" := fun heq => hr.unreserved e he (heq ▸ by decide)
  have hnever {m : Marks} (hnull : m.nullable = true → e.symbol = "Any") : m.nullable = false :=
    Bool.eq_false_iff.mpr fun h => hany (hnull h)
  induction h with
  | base h =>
    cases h with
    | ref hnull he' hx =>
      obtain rfl := List.inj_on_of_nodup_map hr.symbols (Registry.mem_of_get? he').1 he hx
      exact .ref (hnever hnull) he'
    | primitive hnull hx => exact .primitive (hnever hnull) hx
    | blank hs hx => exact absurd hx hany
  | allOf hnull hmembers _ ih => exact .allOf (hnever hnull) hmembers ih
  | union hnull hne _ ih => exact .union (hnever hnull) hne ih

end Schema

namespace NamedSchema

variable {r : Registry} {e : NamedSchema} {c : Compiled} {k : ClassDef}

theorem wrapper_of_compile (hr : r.Plain) (h : e.compile r = .ok c) (hk : k ∈ c.models)
    (hroot : k.bases = ["RootModel"]) : ∃ c' doc, Schema.compileAt r e.schema e.symbol true = .ok c' ∧
      (∀ k' ∈ c'.models, k'.name ≠ e.symbol) ∧
        k = wrapper e.symbol doc (if c'.type.text = e.symbol then .any else c'.type) := by
  obtain ⟨c', hc, h⟩ := compile_eq_ok h
  have hinner : k ∉ c'.models := fun hk =>
    (Schema.compileAt_sound e.schema hc).root_notMem hr.unreserved k hk (by simp [hroot])
  rcases h with ⟨-, rfl⟩ | ⟨hnames, doc, -, ⟨htext, rfl⟩ | ⟨htext, rfl⟩⟩
  · exact absurd hk hinner
  · refine ⟨c', doc, hc, hnames, ?_⟩
    rw [if_pos htext]
    exact List.mem_singleton.mp ((List.mem_append.mp hk).resolve_left hinner)
  · refine ⟨c', doc, hc, hnames, ?_⟩
    rw [if_neg htext]
    exact List.mem_singleton.mp ((List.mem_append.mp hk).resolve_left hinner)

def Wraps (r : Registry) (e : NamedSchema) (t : TypeExpr) : Prop :=
  ∃ c before doc, e.compile r = .ok c ∧ c.models = before ++ [wrapper e.symbol doc t]

theorem wraps_of_compile {c' : Compiled} (h : e.compile r = .ok c)
    (hc' : Schema.compileAt r e.schema e.symbol true = .ok c') (hnames : ∀ k ∈ c'.models, k.name ≠ e.symbol) :
    e.Wraps r (if c'.type.text = e.symbol then .any else c'.type) := by
  obtain ⟨c'', hc'', h'⟩ := compile_eq_ok h
  obtain rfl := Except.ok.inj (hc'.symm.trans hc'')
  rcases h' with ⟨⟨k, hk, hname⟩, -⟩ | ⟨-, doc, -, ⟨htext, rfl⟩ | ⟨htext, rfl⟩⟩
  · exact absurd hname (hnames k hk)
  · rw [if_pos htext]
    exact ⟨_, _, doc, h, rfl⟩
  · rw [if_neg htext]
    exact ⟨_, _, doc, h, rfl⟩

theorem Wraps.exists_type {t : TypeExpr} (hr : r.Plain) (h : e.Wraps r t) :
    ∃ c', Schema.compileAt r e.schema e.symbol true = .ok c' ∧ (∀ k ∈ c'.models, k.name ≠ e.symbol) ∧
      t = if c'.type.text = e.symbol then .any else c'.type := by
  obtain ⟨c, before, doc, hc, hmodels⟩ := h
  have hlast : wrapper e.symbol doc t ∈ c.models := hmodels ▸ List.mem_append_right _ (List.mem_singleton_self _)
  obtain ⟨c', doc', hc', hnames, hwrapper⟩ := wrapper_of_compile hr hc hlast rfl
  have hfields := congrArg ClassDef.fields hwrapper
  exact ⟨c', hc', hnames, congrArg FieldDef.type (List.singleton_inj.mp hfields)⟩

end NamedSchema

namespace Registry

def Leads (r : Registry) (x y : String) : Prop :=
  ∃ schema k, r.Makes schema k ∧ k.name = x ∧ k.bases = ["RootModel"] ∧
    (∃ f ∈ k.fields, f.name = "root" ∧ f.type.text = y) ∧ y ∈ r.symbols

def Aliases (r : Registry) (a b : NamedSchema) : Prop :=
  a ∈ r.entries ∧ b ∈ r.entries ∧ a.name ≠ b.name ∧ a.schema.StandsFor r b

variable {r : Registry} {a b : NamedSchema} {x y : String}

theorem aliases_of_leads (hr : r.Plain) (hwords : ∀ e ∈ r.entries, IsWord e.symbol) (h : r.Leads x y) :
    ∃ a b, a.symbol = x ∧ b.symbol = y ∧ r.Aliases a b := by
  obtain ⟨schema, k, ⟨a, c, ha, hc, hk⟩, rfl, hbases, ⟨f, hf, -, rfl⟩, hy⟩ := h
  obtain ⟨b, hb, hsymbol⟩ := List.mem_map.mp hy
  obtain ⟨c', doc, hc', -, rfl⟩ := NamedSchema.wrapper_of_compile hr hc hk hbases
  have hfield := List.mem_singleton.mp hf
  rw [hfield] at hsymbol ⊢
  refine ⟨a, b, rfl, hsymbol, (mem_of_get? ha).1, hb, ?_⟩
  split at hsymbol
  · exact absurd (by decide) (hsymbol ▸ hr.unreserved b hb)
  · rename_i htext
    have hne : a.symbol ≠ b.symbol := fun heq => htext (hsymbol.symm.trans heq.symm)
    refine ⟨fun hname => ?_, ?_⟩
    · exact hne (congrArg _ (List.inj_on_of_nodup_map hr.names (mem_of_get? ha).1 hb hname))
    · have htype := TypeExpr.eq_named_of_text (hwords b hb) hsymbol.symm
      apply (Schema.standsFor_iff hr hb).mpr
      apply Schema.comesDownTo_of_type (hwords b hb) hc' _ htype
      exact Schema.names_ne_of_compileAt hc' (symbol_mem_taken hb) fun _ => hne

theorem leads_of_aliases (hr : r.Plain) (hok : ∀ e ∈ r.entries, (e.compile r).isOk = true) (h : r.Aliases a b) :
    r.Leads a.symbol b.symbol := by
  obtain ⟨ha, hb, hne, hstands⟩ := h
  obtain ⟨c, hc⟩ := exists_of_isOk (hok a ha)
  obtain ⟨c', hc', -⟩ := NamedSchema.compile_cases hc
  obtain ⟨htype, hmodels, -⟩ := hstands.comesDownTo.type_eq hc'
  have hsymbol : b.symbol ≠ a.symbol := fun heq =>
    hne (congrArg _ (List.inj_on_of_nodup_map hr.symbols ha hb heq.symm))
  have hwraps : a.Wraps r (.named b.symbol) := by
    have h := NamedSchema.wraps_of_compile hc hc' (by simp [hmodels])
    rwa [htype, if_neg (show (TypeExpr.named b.symbol).text ≠ a.symbol from hsymbol)] at h
  obtain ⟨c'', before, doc, hc'', hlast⟩ := hwraps
  have hwrapper := hlast ▸ List.mem_append_right _ (List.mem_singleton_self _)
  exact ⟨a.name, _, ⟨a, c'', hr.get?_name ha, hc'', hwrapper⟩, rfl, rfl, ⟨_, List.mem_singleton_self _, rfl, rfl⟩,
    List.mem_map_of_mem hb⟩

/-- Going on from class to class comes back to its start just when schemas stand for each other in a circle. -/
theorem leads_cyclic_iff {d : Document} (hd : ofDocument d = .ok r) (hok : ∀ e ∈ r.entries, (e.compile r).isOk = true) :
    (∃ x, TransGen r.Leads x x) ↔ ∃ e, TransGen r.Aliases e e := by
  have hr := plain_of_ofDocument hd
  have hwords : ∀ e ∈ r.entries, IsWord e.symbol := fun e he => (symbols_areIdentifiers hd e he).isWord
  apply transGen_cyclic_iff (M := fun e x => e ∈ r.entries ∧ e.symbol = x)
  · rintro e x y ⟨-, rfl⟩ ⟨-, rfl⟩
    rfl
  · rintro a b x ⟨ha, rfl⟩ ⟨hb, hsymbol⟩
    exact (List.inj_on_of_nodup_map hr.symbols hb ha hsymbol).symm
  · intro x y h
    obtain ⟨a, b, hx, hy, haliases⟩ := aliases_of_leads hr hwords h
    exact ⟨a, b, ⟨haliases.1, hx⟩, ⟨haliases.2.1, hy⟩, haliases⟩
  · intro a b h
    exact ⟨a.symbol, b.symbol, ⟨h.1, rfl⟩, ⟨h.2.1, rfl⟩, leads_of_aliases hr hok h⟩

theorem leads_cyclic_collapsed : ∃ (d : Document) (r : Registry), ofDocument d = .ok r ∧
    (∀ e ∈ r.entries, (e.compile r).isOk = true) ∧ ∃ x, TransGen r.Leads x x := by
  let first : NamedSchema := ⟨"A", "A", "a", .allOf plainMarks [.ref plainMarks "B", .untyped plainMarks]⟩
  let second : NamedSchema := ⟨"B", "B", "b", .union plainMarks .oneOf [.ref plainMarks "C", .ref plainMarks "C"]⟩
  let third : NamedSchema := ⟨"C", "C", "c", .ref plainMarks "A"⟩
  let r : Registry := ⟨[first, second, third]⟩
  have hd : ofDocument (.map [(.text "A", intersectionOf [referenceTo "B", .map []]),
      (.text "B", .map [(.text "oneOf", .list [referenceTo "C", referenceTo "C"])]),
      (.text "C", referenceTo "A")]) = .ok r := rfl
  have hok : ∀ e ∈ r.entries, (e.compile r).isOk = true := by decide +kernel
  have hab : r.Aliases first second := ⟨by simp [r], by simp [r], by decide, .allOf rfl rfl (.ref rfl rfl)⟩
  have hbc : r.Aliases second third := by
    refine ⟨by simp [r], by simp [r], by decide, .union rfl (by decide) fun s hs => ?_⟩
    rcases List.mem_pair.mp hs with rfl | rfl <;> exact .ref rfl rfl
  have hca : r.Aliases third first := ⟨by simp [r], by simp [r], by decide, .ref rfl rfl⟩
  exact ⟨_, r, hd, hok, (leads_cyclic_iff hd hok).mpr ⟨first, .tail (.tail (.single hab) hbc) hca⟩⟩

theorem leads_back : ∃ (d : Document) (r : Registry), ofDocument d = .ok r ∧
    (∀ e ∈ r.entries, (e.compile r).isOk = true) ∧ TransGen r.Leads "A" "A" := by
  let first : NamedSchema := ⟨"A", "A", "a", .ref plainMarks "B"⟩
  let second : NamedSchema := ⟨"B", "B", "b", .ref plainMarks "A"⟩
  let r : Registry := ⟨[first, second]⟩
  have hd : ofDocument (.map [(.text "A", referenceTo "B"), (.text "B", referenceTo "A")]) = .ok r := rfl
  have hok : ∀ e ∈ r.entries, (e.compile r).isOk = true := by decide +kernel
  have hr := plain_of_ofDocument hd
  have hab : r.Aliases first second := ⟨by simp [r], by simp [r], by decide, .ref rfl rfl⟩
  have hba : r.Aliases second first := ⟨by simp [r], by simp [r], by decide, .ref rfl rfl⟩
  exact ⟨_, r, hd, hok, .tail (.single (leads_of_aliases hr hok hab)) (leads_of_aliases hr hok hba)⟩

end Registry

end ClientForge
