import ClientForge.Proofs.ClassLists

/-!
Schemas whose type is nothing but a name for which no class is made along with it: the class of a named schema, a plain
type, or any value. Compositions that put nothing together are looked through.
-/

namespace ClientForge

open Naming Outcome

namespace TypeExpr

variable {types : List TypeExpr} {t : TypeExpr} {x : String}

theorem eq_named_of_text (hx : IsWord x) (h : t.text = x) : t = .named x := by
  have hbracket : '[' ∉ t.text.toList := by
    intro hmem
    have hchar := hx.2 '[' (h ▸ hmem)
    revert hchar
    decide
  cases t with
  | named name => exact congrArg _ h
  | _ => exact absurd (by simp [text]) hbracket

theorem eq_any_of_takesNone (hx : IsWord x) (h : (named x).takesNone = true) : x = "Any" := by
  rw [takesNone, Bool.or_eq_true, decide_eq_true_iff] at h
  refine h.resolve_right fun hoptional => ?_
  have hbegins : "Optional[".toList <+: x.toList := List.isPrefixOf_iff_prefix.mp hoptional
  have hchar := hx.2 '[' (hbegins.subset (by decide))
  revert hchar
  decide

theorem distinct_concat (types : List TypeExpr) (t : TypeExpr) : distinct (types ++ [t]) =
    if (distinct types).any fun d => d.text == t.text then distinct types else distinct types ++ [t] := by
  rw [distinct, List.foldl_append]
  rfl

theorem mem_of_mem_distinct (h : t ∈ distinct types) : t ∈ types := by
  induction types using List.reverseRecOn with
  | nil => exact h
  | append_singleton types t' ih =>
    rw [distinct_concat] at h
    split at h
    · exact List.mem_append_left _ (ih h)
    · rcases List.mem_append.mp h with h | h
      · exact List.mem_append_left _ (ih h)
      · exact List.mem_append_right _ h

theorem exists_mem_distinct (h : t ∈ types) : ∃ d ∈ distinct types, d.text = t.text := by
  induction types using List.reverseRecOn with
  | nil => cases h
  | append_singleton types t' ih =>
    rw [distinct_concat]
    rcases List.mem_append.mp h with h | h
    · obtain ⟨d, hd, htext⟩ := ih h
      refine ⟨d, ?_, htext⟩
      split
      · exact hd
      · exact List.mem_append_left _ hd
    · obtain rfl := List.mem_singleton.mp h
      split
      · rename_i hany
        obtain ⟨d, hd, htext⟩ := List.any_eq_true.mp hany
        exact ⟨d, hd, by simpa using htext⟩
      · exact ⟨t, List.mem_append_right _ (List.mem_singleton_self t), rfl⟩

theorem nodup_texts_distinct (types : List TypeExpr) : ((distinct types).map text).Nodup := by
  induction types using List.reverseRecOn with
  | nil => exact List.nodup_nil
  | append_singleton types t ih =>
    rw [distinct_concat]
    split
    · exact ih
    · rename_i hany
      rw [List.map_append, List.map_singleton, List.nodup_append]
      refine ⟨ih, List.nodup_singleton _, fun x hx y hy heq => hany ?_⟩
      obtain ⟨d, hd, rfl⟩ := List.mem_map.mp hx
      exact List.any_eq_true.mpr ⟨d, hd, by simpa using heq.trans (List.mem_singleton.mp hy)⟩

theorem distinct_eq_singleton (hne : types ≠ []) (h : ∀ t ∈ types, t.text = x) :
    ∃ t, distinct types = [t] ∧ t ∈ types := by
  obtain ⟨t, ht⟩ := List.exists_mem_of_ne_nil _ hne
  obtain ⟨d, hd, -⟩ := exists_mem_distinct ht
  have hnodup := nodup_texts_distinct types
  have hall : ∀ y ∈ (distinct types).map text, y = x := by
    intro y hy
    obtain ⟨d, hd, rfl⟩ := List.mem_map.mp hy
    exact h d (mem_of_mem_distinct hd)
  match hdistinct : distinct types with
  | [] =>
    rw [hdistinct] at hd
    cases hd
  | [t] => exact ⟨t, rfl, mem_of_mem_distinct (by simp [hdistinct])⟩
  | t :: t' :: rest =>
    rw [hdistinct] at hnodup hall
    have heq : t.text = t'.text := (hall _ (by simp)).trans (hall _ (by simp)).symm
    exact absurd hnodup (by simp [heq])

theorem text_of_distinct_eq_singleton {d : TypeExpr} (h : distinct types = [d]) (ht : t ∈ types) : t.text = d.text := by
  obtain ⟨d', hd', htext⟩ := exists_mem_distinct ht
  rw [h, List.mem_singleton] at hd'
  rw [← htext, hd']

end TypeExpr

namespace Schema

inductive ReducesTo (free : Prop) (P : Schema → Prop) : Schema → Prop
  | base {s : Schema} (h : P s) : ReducesTo free P s
  | allOf {m : Marks} {members : List Schema} {s : Schema} (hnull : m.nullable = true → free)
    (hmembers : constraining members = [s]) (h : ReducesTo free P s) : ReducesTo free P (.allOf m members)
  | union {m : Marks} {kind : UnionKind} {members : List Schema} (hnull : m.nullable = true → free)
    (hne : members ≠ []) (h : ∀ s ∈ members, ReducesTo free P s) : ReducesTo free P (.union m kind members)

theorem ReducesTo.imp {free free' : Prop} {P P' : Schema → Prop} {s : Schema} (h : s.ReducesTo free P)
    (hfree : free → free') (hP : ∀ s, P s → P' s) : s.ReducesTo free' P' := by
  induction h with
  | base h => exact .base (hP _ h)
  | allOf hnull hmembers _ ih => exact .allOf (fun h => hfree (hnull h)) hmembers ih
  | union hnull hne _ ih => exact .union (fun h => hfree (hnull h)) hne ih

/-- The type of a schema is a name by itself. Of all names only that of any value is left alone where a schema is
nullable. -/
inductive IsBare (r : Registry) (x : String) : Schema → Prop
  | ref {m : Marks} {name : String} {e : NamedSchema} (hnull : m.nullable = true → x = "Any")
    (he : r.get? name = some e) (hx : e.symbol = x) : IsBare r x (.ref m name)
  | primitive {m : Marks} {type : PrimitiveType} {format : Option String} (hnull : m.nullable = true → x = "Any")
    (hx : primitiveTypeName type format = x) : IsBare r x (.primitive m type format)
  | blank {s : Schema} (hs : s.isBlank = true) (hx : x = "Any") : IsBare r x s

def ComesDownTo (r : Registry) (x : String) : Schema → Prop := ReducesTo (x = "Any") (IsBare r x)

variable {r : Registry} {s : Schema} {x hint : String} {top : Bool} {m : Marks} {members : List Schema} {c : Compiled}
  {parts : List Compiled}

theorem compileAt_isBlank (hs : s.isBlank = true) (h : compileAt r s hint top = .ok c) :
    c = markNullable s.nullable .anything := by
  cases s with
  | enum m values =>
    obtain rfl := List.isEmpty_iff.mp hs
    rw [compileAt, map_eq_ok] at h
    obtain ⟨c', hc, rfl⟩ := h
    cases hc
    rfl
  | allOf m members => exact compileAt_allOf_nil h (constraining_eq_nil.mpr hs)
  | union m kind members =>
    obtain rfl := List.isEmpty_iff.mp hs
    exact compileAt_union_nil h
  | untyped m =>
    cases h
    rfl
  | _ => cases hs

theorem markNullable_of_named {nullable : Bool} (htype : c.type = .named x) (hnull : nullable = true → x = "Any") :
    markNullable nullable c = c := by
  cases nullable with
  | false => rfl
  | true =>
    have htakes : c.type.takesNone = true := by
      rw [htype, hnull rfl]
      rfl
    rw [markNullable, if_pos rfl, Compiled.orNone, if_pos htakes]

theorem named_of_markNullable (hx : IsWord x) {nullable : Bool} (h : (markNullable nullable c).type = .named x) :
    (nullable = true → x = "Any") ∧ c.type = .named x := by
  cases nullable with
  | false => exact ⟨fun hnull => absurd hnull Bool.false_ne_true, h⟩
  | true =>
    rw [markNullable, if_pos rfl, Compiled.orNone] at h
    split at h
    · rename_i htakes
      exact ⟨fun _ => TypeExpr.eq_any_of_takesNone hx (h ▸ htakes), h⟩
    · cases h

theorem IsBare.type_eq (h : s.IsBare r x) (hc : compileAt r s hint top = .ok c) :
    c.type = .named x ∧ c.models = [] ∧ c.runtimeRefs = [] := by
  cases h with
  | ref hnull he hx =>
    obtain ⟨e', he', rfl⟩ := compileAt_ref hc
    obtain rfl := Option.some.inj (he.symm.trans he')
    rw [markNullable_of_named (congrArg _ hx) hnull]
    exact ⟨congrArg _ hx, rfl, rfl⟩
  | primitive hnull hx =>
    rw [compileAt, markNullable_of_named (congrArg _ hx) hnull] at hc
    cases hc
    exact ⟨congrArg _ hx, rfl, rfl⟩
  | blank hs hx =>
    rw [compileAt_isBlank hs hc, markNullable_of_named rfl fun _ => rfl, hx]
    exact ⟨rfl, rfl, rfl⟩

theorem type_combineAny (hne : parts ≠ []) (h : ∀ p ∈ parts, p.type = .named x) :
    (combineAny parts).type = .named x := by
  have htypes : ∀ t ∈ parts.map (·.type), t = .named x := List.forall_mem_map.mpr h
  have htexts : ∀ t ∈ parts.map (·.type), t.text = x := fun t ht => congrArg TypeExpr.text (htypes t ht)
  obtain ⟨t, ht, hmem⟩ := TypeExpr.distinct_eq_singleton (mt List.map_eq_nil_iff.mp hne) htexts
  rw [combineAny, ht]
  exact htypes t hmem

theorem text_of_combineAny (h : (combineAny parts).type = .named x) {p : Compiled} (hp : p ∈ parts) :
    p.type.text = x := by
  unfold combineAny at h
  split at h
  · rename_i t ht
    have htext := TypeExpr.text_of_distinct_eq_singleton ht (List.mem_map_of_mem hp)
    rwa [show t = .named x from h] at htext
  · cases h

theorem ComesDownTo.type_eq (h : s.ComesDownTo r x) (hc : compileAt r s hint top = .ok c) :
    c.type = .named x ∧ c.models = [] ∧ c.runtimeRefs = [] := by
  induction h generalizing hint top c with
  | base h => exact h.type_eq hc
  | allOf hnull hmembers _ ih =>
    obtain ⟨c', hc', rfl⟩ := compileAt_allOf_single hc hmembers
    have hbare := ih hc'
    rwa [markNullable_of_named hbare.1 hnull]
  | @union m kind members hnull hne _ ih =>
    rcases (nothing_or_single_or_several members).resolve_left hne with ⟨s, rfl⟩ | hseveral
    · obtain ⟨c', hc', rfl⟩ := compileAt_union_single hc
      have hbare := ih s List.mem_cons_self hc'
      rwa [markNullable_of_named hbare.1 hnull]
    · obtain ⟨parts, hparts, rfl⟩ := compileAt_union_several hc hseveral
      have hall : ∀ p ∈ parts, p.type = .named x ∧ p.models = [] ∧ p.runtimeRefs = [] := by
        intro p hp
        obtain ⟨s, hs, k, hp⟩ := hparts.exists_member hp
        exact ih s hs hp
      have hparts_ne : parts ≠ [] := List.ne_nil_of_length_pos (by rw [← hparts.length_eq]; omega)
      have htype := type_combineAny hparts_ne fun p hp => (hall p hp).1
      have hmodels : parts.flatMap (·.models) = [] := List.flatMap_eq_nil_iff.mpr fun p hp => (hall p hp).2.1
      have hruntime : parts.flatMap (·.runtimeRefs) = [] := List.flatMap_eq_nil_iff.mpr fun p hp => (hall p hp).2.2
      rw [markNullable_of_named htype hnull]
      exact ⟨htype, by rw [models_combineAny, hmodels], by rw [runtimeRefs_combineAny, hruntime]; rfl⟩

theorem comesDownTo_of_type (hx : IsWord x) (h : compileAt r s hint top = .ok c) (hnames : ∀ k ∈ c.models, k.name ≠ x)
    (htype : c.type = .named x) : s.ComesDownTo r x := by
  have hown {k : ClassDef} {models : List ClassDef} {nullable : Bool} {c : Compiled} (hc : c.models = models ++ [k])
      (hname : c.type = .named k.name) (hnames : ∀ k ∈ (markNullable nullable c).models, k.name ≠ x) :
      (markNullable nullable c).type ≠ .named x := by
    intro htype
    have htype := (named_of_markNullable hx htype).2
    rw [hname] at htype
    rw [models_markNullable, hc] at hnames
    exact hnames k (List.mem_append_right _ (List.mem_singleton_self k)) (TypeExpr.named.inj htype)
  replace h := compiles h
  induction h with
  | ref he =>
    obtain ⟨hnull, hsymbol⟩ := named_of_markNullable hx htype
    exact .base (.ref hnull he (TypeExpr.named.inj hsymbol))
  | object doc _ _ _ _ => exact absurd htype (hown rfl rfl hnames)
  | array _ _ _ => cases (named_of_markNullable hx htype).2
  | literal => cases (named_of_markNullable hx htype).2
  | primitive =>
    obtain ⟨hnull, htype⟩ := named_of_markNullable hx htype
    exact .base (.primitive hnull (TypeExpr.named.inj htype))
  | blank hs => exact .base (.blank hs (TypeExpr.named.inj (named_of_markNullable hx htype).2).symm)
  | allOf hmembers _ _ ih =>
    obtain ⟨hnull, htype⟩ := named_of_markNullable hx htype
    rw [models_markNullable] at hnames
    exact .allOf hnull hmembers (ih hnames htype)
  | union _ _ ih =>
    obtain ⟨hnull, htype⟩ := named_of_markNullable hx htype
    rw [models_markNullable] at hnames
    exact .union hnull (List.cons_ne_nil _ _) (List.forall_mem_singleton.mpr (ih hnames htype))
  | inherits doc _ _ _ _ _ => exact absurd htype (hown rfl rfl hnames)
  | checked _ _ _ _ _ => cases (named_of_markNullable hx htype).2
  | any parts hseveral hparts _ ih =>
    obtain ⟨hnull, htype⟩ := named_of_markNullable hx htype
    rw [models_markNullable, models_combineAny] at hnames
    refine .union hnull (List.length_pos_iff.mp (by omega)) fun s hs => ?_
    -- The one text of all parts is the name, so that each member comes down to it.
    obtain ⟨p, hp, k, hc⟩ := hparts.exists_part hs
    refine ih s hs _ p hc (fun k hk => hnames k (List.mem_flatMap.mpr ⟨p, hp, hk⟩)) ?_
    exact TypeExpr.eq_named_of_text hx (text_of_combineAny htype hp)

theorem exists_compileMembers {counts : Schema → Bool} {hint : ℕ → String}
    (h : ∀ s ∈ members, counts s = true → ∀ hint top, ∃ c, compileAt r s hint top = .ok c) (k : ℕ) :
    ∃ parts, compileMembers r counts hint top k members = .ok parts := by
  induction members generalizing k with
  | nil => exact ⟨[], by rw [compileMembers]⟩
  | cons s members ih =>
    have ih := ih fun s' hs' => h s' (List.mem_cons_of_mem _ hs')
    rw [compileMembers]
    split
    · rename_i hs
      obtain ⟨c, hc⟩ := h s List.mem_cons_self hs (hint k) top
      obtain ⟨parts, hparts⟩ := ih (k + 1)
      rw [hc, hparts]
      exact ⟨_, rfl⟩
    · exact ih k

theorem exists_compileAt_allOf (hfew : (constraining members).length ≤ 1)
    (h : ∀ s ∈ constraining members, ∀ hint top, ∃ c, compileAt r s hint top = .ok c) :
    ∃ c, compileAt r (.allOf m members) hint top = .ok c := by
  obtain ⟨parts, hparts⟩ : ∃ parts, compileMembers r (!·.isUntyped)
      (memberHint hint "Part" (1 < (constraining members).length))
      (top && !decide (1 < (constraining members).length)) 1 members = .ok parts :=
    exists_compileMembers (fun s hs hcounts => h s (mem_constraining.mpr ⟨hs, by simpa using hcounts⟩)) 1
  have hlength := (compileMembers_eq_ok hparts).length_eq
  rw [← constraining, List.length_zipIdx] at hlength
  rw [compileAt]
  unfold memberHint at hparts
  rcases nothing_or_single_or_several parts with rfl | ⟨c, rfl⟩ | hseveral
  · exact ⟨_, bind_eq_ok.mpr ⟨_, hparts, rfl⟩⟩
  · exact ⟨_, bind_eq_ok.mpr ⟨_, hparts, rfl⟩⟩
  · omega

theorem exists_compileAt_union {kind : UnionKind} (h : ∀ s ∈ members, ∀ hint top, ∃ c, compileAt r s hint top = .ok c) :
    ∃ c, compileAt r (.union m kind members) hint top = .ok c := by
  obtain ⟨parts, hparts⟩ : ∃ parts, compileMembers r (fun _ => true) (memberHint hint "Option" (1 < members.length))
      (top && !decide (1 < members.length)) 1 members = .ok parts :=
    exists_compileMembers (fun s hs _ => h s hs) 1
  rw [compileAt]
  exact ⟨_, bind_eq_ok.mpr ⟨parts, hparts, rfl⟩⟩

theorem IsBare.exists_type (h : s.IsBare r x) (hint : String) (top : Bool) : ∃ c, compileAt r s hint top = .ok c := by
  cases h with
  | ref hnull he hx =>
    rw [compileAt, compileRef, he]
    exact ⟨_, rfl⟩
  | primitive hnull hx => exact ⟨_, by rw [compileAt]⟩
  | blank hs hx =>
    cases s with
    | enum m values =>
      obtain rfl := List.isEmpty_iff.mp hs
      rw [compileAt]
      exact ⟨_, rfl⟩
    | allOf m members =>
      have hnil := constraining_eq_nil.mpr hs
      exact exists_compileAt_allOf (by simp [hnil]) (by simp [hnil])
    | union m kind members =>
      obtain rfl := List.isEmpty_iff.mp hs
      exact exists_compileAt_union (by simp)
    | untyped m => exact ⟨_, by rw [compileAt]⟩
    | _ => cases hs

theorem ComesDownTo.exists_type (h : s.ComesDownTo r x) (hint : String) (top : Bool) :
    ∃ c, compileAt r s hint top = .ok c := by
  induction h generalizing hint top with
  | base h => exact h.exists_type hint top
  | allOf hnull hmembers _ ih =>
    refine exists_compileAt_allOf (by simp [hmembers]) fun s hs => ?_
    rw [hmembers, List.mem_singleton] at hs
    exact hs ▸ ih
  | union hnull hne _ ih => exact exists_compileAt_union ih

theorem names_ne_of_compileAt (h : compileAt r s hint top = .ok c) (hx : x ∈ r.taken) (htop : top = true → hint ≠ x) :
    ∀ k ∈ c.models, k.name ≠ x := by
  intro k hk hname
  rcases (compileAt_sound s h).fresh with hfresh | ⟨htrue, before, last, hmodels, hlast, hbefore⟩
  · exact hfresh k hk (hname ▸ hx)
  · rw [hmodels, List.mem_append, List.mem_singleton] at hk
    rcases hk with hk | rfl
    · exact hbefore k hk (hname ▸ hx)
    · exact htop htrue (hlast.symm.trans hname)

end Schema

end ClientForge
