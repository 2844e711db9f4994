import ClientForge.Proofs.Lists
import ClientForge.Proofs.ReferenceCycles

/-!
The references that a document is left with when its references are replaced, and when none is left.
-/

namespace ClientForge.Document

open Outcome Relation

variable {root d e result x : Document} {kept seen seen' : List String} {room : ℕ} {ref : String}
  {path : List PathStep}

theorem reference?_eq_some {entries : Entries} : reference? kept entries = some ref ↔
    Entries.get? entries "$ref" = some (.text ref) ∧ ∀ start ∈ kept, ¬ start.toList <+: ref.toList := by
  unfold reference?
  split
  · rename_i name hname
    rw [hname, Option.some.injEq, scalar.injEq, Scalar.text.injEq]
    split
    · rename_i hkept
      simp only [List.any_eq_true, List.isPrefixOf_iff_prefix] at hkept
      obtain ⟨start, hstart, hprefix⟩ := hkept
      refine iff_of_false nofun ?_
      rintro ⟨rfl, hopen⟩
      exact hopen start hstart hprefix
    · rename_i hkept
      simp only [List.any_eq_true, List.isPrefixOf_iff_prefix, not_exists, not_and] at hkept
      rw [Option.some.injEq, iff_self_and]
      rintro rfl
      exact hkept
  · rename_i hname
    exact iff_of_false nofun fun h => hname ref h.1

theorem referenceOf?_eq_some : d.referenceOf? kept = some ref ↔ ∃ entries, d = .map entries ∧
    Entries.get? entries "$ref" = some (.text ref) ∧ ∀ start ∈ kept, ¬ start.toList <+: ref.toList := by
  cases d with
  | map entries => simp [referenceOf?, reference?_eq_some]
  | _ => simp [referenceOf?]

/-- At the end of the path is a reference that is met inside of itself, or what stands in it beside its text. -/
def LeftAt (root : Document) (kept : List String) (path : List PathStep) (x : Document) : Prop :=
  ∃ before after seen d ref, path = before ++ after ∧ Walk root kept ⟨[], root⟩ before ⟨seen, d⟩ ∧
    d.referenceOf? kept = some ref ∧ ref ∈ seen ∧ d.at? after = some x

/-- At the end of the path is a mapping in which a reference stands for the text of a reference, and leads to it. -/
def NamedAt (root : Document) (kept : List String) (path : List PathStep) (ref : String) : Prop :=
  ∃ seen entries e first seen', Walk root kept ⟨[], root⟩ path ⟨seen, .map entries⟩ ∧
    Entries.get? entries "$ref" = some e ∧ e.referenceOf? kept = some first ∧
    Walk root kept ⟨seen, e⟩ [] ⟨seen', .text ref⟩ ∧ ∀ start ∈ kept, ¬ start.toList <+: ref.toList

theorem Walk.eq_of_plain {v : Visit} (h : Walk root kept ⟨seen, d⟩ [] v) (href : d.referenceOf? kept = none) :
    v = ⟨seen, d⟩ := by
  cases h with
  | here => rfl
  | target href' => cases href.symm.trans href'

theorem Resolves.walk_of_scalar {s : Scalar} (h : Resolves root kept room seen d (.scalar s)) :
    ∃ seen', Walk root kept ⟨seen, d⟩ [] ⟨seen', .scalar s⟩ := by
  obtain ⟨seen', e, hwalk, ⟨hplain, less, -, h⟩ | ⟨ref, href, -, rfl⟩⟩ := h.settle
  · cases h with
    | scalar s => exact ⟨seen', hwalk⟩
    | left href => cases href
    | target href => cases hplain.symm.trans href
  · cases href

theorem plain_of_named {entries : Entries} {first : String} (hget : Entries.get? entries "$ref" = some e)
    (href : e.referenceOf? kept = some first) : referenceOf? kept (.map entries) = none := by
  cases hplain : referenceOf? kept (.map entries) with
  | none => rfl
  | some ref =>
    obtain ⟨_, heq, htext, -⟩ := referenceOf?_eq_some.mp hplain
    cases heq
    cases hget.symm.trans htext
    cases href

theorem Resolves.reference_iff (h : Resolves root kept room [] root result) :
    (∃ x, result.at? path = some x ∧ x.referenceOf? kept = some ref) ↔
      (∃ x, LeftAt root kept path x ∧ x.referenceOf? kept = some ref) ∨ NamedAt root kept path ref := by
  constructor
  · rintro ⟨x, hx, href⟩
    obtain ⟨seen, d, hwalk, hplain, less, -, hd⟩ | ⟨before, after, hleft⟩ := h.at? hx
    · obtain ⟨results, rfl, htext, hopen⟩ := referenceOf?_eq_some.mp href
      obtain ⟨-, hnone⟩ | ⟨e, b, he, hb, hresult⟩ := hd.child hplain (.key "$ref")
      · cases htext.symm.trans hnone
      · cases htext.symm.trans hb
        obtain ⟨items, k, -, hstep, -⟩ | ⟨entries, name, rfl, hstep, hget⟩ := cases_of_child he
        · cases hstep
        · cases hstep
          obtain ⟨seen', hwalk'⟩ := hresult.walk_of_scalar
          cases hfirst : e.referenceOf? kept with
          | none =>
            -- The text stood there before, and then the mapping was a reference itself.
            cases hwalk'.eq_of_plain hfirst
            cases hplain.symm.trans (referenceOf?_eq_some.mpr ⟨entries, rfl, hget, hopen⟩)
          | some first => exact .inr ⟨seen, entries, e, first, seen', hwalk, hget, hfirst, hwalk', hopen⟩
    · exact .inl ⟨x, ⟨before, after, hleft⟩, href⟩
  · rintro (⟨x, ⟨before, after, seen, d, ref', rfl, hwalk, href', hseen, hx⟩, href⟩ |
      ⟨seen, entries, e, first, seen', hwalk, hget, hfirst, hwalk', hopen⟩)
    · obtain ⟨y, less, hy, -, hd⟩ := h.walk hwalk
      cases hd.left_eq href' hseen
      exact ⟨x, by rw [at?_append, hy, Option.bind_some, hx], href⟩
    · obtain ⟨y, less, hy, -, hd⟩ := h.walk hwalk
      obtain ⟨hnone, -⟩ | ⟨a, b, ha, hb, hab⟩ := hd.child (plain_of_named hget hfirst) (.key "$ref")
      · cases hget.symm.trans hnone
      · cases hget.symm.trans ha
        obtain ⟨_, _, hx, -, hend⟩ := hab.walk hwalk'
        cases hx
        cases hend.scalar_eq
        obtain ⟨items, k, -, hstep, -⟩ | ⟨results, name, rfl, hstep, htext⟩ := cases_of_child hb
        · cases hstep
        · cases hstep
          exact ⟨_, hy, referenceOf?_eq_some.mpr ⟨results, rfl, htext, hopen⟩⟩

theorem Meets.exists_at (h : Meets kept d ref) : ∃ path x, d.at? path = some x ∧ x.referenceOf? kept = some ref := by
  induction h with
  | here href => exact ⟨[], _, rfl, href⟩
  | part _ hchild _ ih =>
    obtain ⟨path, x, hx, href⟩ := ih
    exact ⟨_ :: path, x, at?_cons_eq_some.mpr ⟨_, hchild, hx⟩, href⟩

theorem resolves_self (hd : d.IsTree) (hplain : ∀ ref, ¬ Meets kept d ref) (hroom : 2 * d.depth ≤ room + 1) :
    Resolves root kept room seen d d := by
  induction hd generalizing room with
  | scalar s =>
    obtain ⟨less, rfl⟩ := exists_less (.scalar s) hroom
    exact .scalar s
  | list hitems ih =>
    obtain ⟨less, rfl⟩ := exists_less (.list hitems) hroom
    refine .list rfl fun a b hab => ?_
    obtain rfl := eq_of_mem_zip_self hab
    have ha := (List.of_mem_zip hab).1
    have hdepth := depth_le_of_mem_items ha
    obtain ⟨step, hchild⟩ := exists_index ha
    simp only [depth] at hroom
    exact ih a ha (fun ref hmeets => hplain ref (.part rfl hchild hmeets)) (by omega)
  | @map entries htexts hnodup hentries ih =>
    obtain ⟨less, rfl⟩ := exists_less (.map htexts hnodup hentries) hroom
    have href : referenceOf? kept (.map entries) = none :=
      Option.eq_none_iff_forall_ne_some.mpr fun ref href => hplain ref (.here href)
    refine .map href (List.forall₂_same.mpr fun _ _ => rfl) fun a b hab => ?_
    obtain rfl := eq_of_mem_zip_self hab
    have ha := (List.of_mem_zip hab).1
    have hdepth := depth_le_of_mem_entries ha
    obtain ⟨step, hchild⟩ := (IsTree.map htexts hnodup hentries).exists_key ha
    simp only [depth] at hroom
    exact ih a ha (fun ref hmeets => hplain ref (.part href hchild hmeets)) (by omega)

structure Settles (d : Document) (kept : List String) (result : Document) : Prop where
  references : ∀ path ref, (∃ x, result.at? path = some x ∧ x.referenceOf? kept = some ref) ↔
    (∃ x, LeftAt d kept path x ∧ x.referenceOf? kept = some ref) ∨ NamedAt d kept path ref
  left : ¬ IsCircular d kept → ∀ path x, ¬ LeftAt d kept path x
  plain : ¬ IsCircular d kept → (∀ path ref, ¬ NamedAt d kept path ref) →
    ∀ path x, result.at? path = some x → x.referenceOf? kept = none
  again : ¬ IsCircular d kept → (∀ path ref, ¬ NamedAt d kept path ref) → result.resolve kept = .ok result

theorem not_leftAt (hcircle : ¬ IsCircular root kept) : ¬ LeftAt root kept path x := by
  rintro ⟨before, after, seen, d, ref, -, hwalk, href, hseen, -⟩
  exact (ahead_root.walk hwalk).notMem hcircle href hseen

theorem resolve_eq_self (hd : d.IsTree) (hdepth : 2 * d.depth ≤ maxRoom)
    (hplain : ∀ path x, d.at? path = some x → x.referenceOf? kept = none) : d.resolve kept = .ok d := by
  rw [resolve, if_neg (Nat.not_lt.mpr hdepth), resolveIn_eq_ok_iff hd hd (List.Subset.refl _)]
  refine resolves_self hd (fun ref hmeets => ?_) (Nat.le_succ_of_le hdepth)
  obtain ⟨path, x, hx, href⟩ := hmeets.exists_at
  cases (hplain path x hx).symm.trans href

theorem settles_of_resolve (hd : d.IsTree) (h : d.resolve kept = .ok result) : Settles d kept result := by
  have hresult := resolves_of_resolve hd h
  have hplain (hcircle : ¬ IsCircular d kept) (hnamed : ∀ path ref, ¬ NamedAt d kept path ref)
      (path : List PathStep) (x : Document) (hx : result.at? path = some x) : x.referenceOf? kept = none := by
    cases href : x.referenceOf? kept with
    | none => rfl
    | some ref =>
      obtain ⟨y, hleft, -⟩ | hname := hresult.reference_iff.mp ⟨x, hx, href⟩
      · exact absurd hleft (not_leftAt hcircle)
      · exact absurd hname (hnamed path ref)
  refine ⟨fun path ref => hresult.reference_iff, fun hcircle path x => not_leftAt hcircle, hplain,
    fun hcircle hnamed => ?_⟩
  have hdepth := hresult.depth_le hcircle hd hd ahead_root
  rw [maxRoom] at hdepth
  exact resolve_eq_self (hresult.isTree hd hd) (by rw [maxRoom]; omega) (hplain hcircle hnamed)

/-- References are replaced in finitely many steps, and with enough room there is a result unless a reference points
nowhere. It is left with references that were met inside of themselves, with what stands beside their texts, and with
mappings for which a reference named the reference. -/
theorem resolve_settles (hd : d.IsTree) :
    Acc (fun inner outer => Visits d kept outer inner) ⟨[], d⟩ ∧
      (∀ room, ((references kept d).eraseDups.length + 1) * (2 * d.depth + 1) ≤ room →
        (∃ result, resolveIn room d kept d = .ok result) ∨
          ∃ fault, resolveIn room d kept d = .error (.description fault)) ∧
      ∀ result, d.resolve kept = .ok result → Settles d kept result :=
  ⟨visits_acc hd hd (List.Subset.refl _) (openBeside_nil _), fun _ hroom => resolveIn_ends hd hroom,
    fun _ h => settles_of_resolve hd h⟩

theorem resolve_settles_chained :
    let d : Document := .map [(.text "a", .map [(.text "$ref", .text "#/b")]),
      (.text "b", .map [(.text "next", .map [(.text "$ref", .text "#/c~1d")])]), (.text "c/d", .list [.int 1])]
    let kept := ["#/components/schemas/"]
    ∃ result, d.resolve kept = .ok result ∧ ¬ IsCircular d kept ∧ (∀ path ref, ¬ NamedAt d kept path ref) ∧
      Settles d kept result ∧ result.resolve kept = .ok result := by
  intro d kept
  have hd : d.IsTree := by simp [d, Entries.keys]
  have hcircle : ¬ IsCircular d kept :=
    not_isCircular_of_rank (fun ref => if ref = "#/b" then 1 else 0) hd (by decide +kernel)
  have hresult : d.resolve kept = .ok (.map [(.text "a", .map [(.text "next", .list [.int 1])]),
      (.text "b", .map [(.text "next", .list [.int 1])]), (.text "c/d", .list [.int 1])]) := by rfl
  have hsettles := (resolve_settles hd).2.2 _ hresult
  have hnamed (path : List PathStep) (ref : String) : ¬ NamedAt d kept path ref := fun hname => by
    obtain ⟨x, hx, href⟩ := (hsettles.references path ref).mpr (.inr hname)
    cases references_at hx (mem_references href)
  exact ⟨_, hresult, hcircle, hnamed, hsettles, hsettles.again hcircle hnamed⟩

theorem untouched_references :
    let kept := ["#/components/schemas/"]
    let b : Document := .map [(.text "$ref", .text "#/b")]
    let named : Document := .map [(.text "name", .text "#/b"), (.text "b", .int 1),
      (.text "x", .map [(.text "$ref", .map [(.text "$ref", .text "#/name")])])]
    let circle : Document := .map [(.text "a", .map [(.text "$ref", .text "#/a"), (.text "x", b)]), (.text "b", .int 1)]
    (named.IsTree ∧ ¬ IsCircular named kept ∧ (∀ path v, Walk named kept ⟨[], named⟩ path v → "#/b" ∉ v.seen) ∧
        ∃ result, named.resolve kept = .ok result ∧ result.at? [.key "x"] = some b ∧ result.resolve kept ≠ .ok result) ∧
      circle.IsTree ∧ (∀ path v, Walk circle kept ⟨[], circle⟩ path v → "#/b" ∉ v.seen) ∧
        ∃ result, circle.resolve kept = .ok result ∧ result.at? [.key "a", .key "x"] = some b := by
  intro kept b named circle
  have hnamed : named.IsTree := by simp [named, Entries.keys]
  have hcircle : circle.IsTree := by simp [circle, b, Entries.keys]
  refine ⟨⟨hnamed, not_isCircular_of_rank (fun _ => 0) hnamed (by decide +kernel), fun path v h hseen => ?_, ?_⟩,
    hcircle, fun path v h => ?_, circle, by rfl, by rfl⟩
  · have hrefs := h.seen_subset hnamed (List.nil_subset _) (List.Subset.refl _) hseen
    exact absurd hrefs (by decide +kernel)
  · let left : Document := .map [(.text "name", .text "#/b"), (.text "b", .int 1), (.text "x", b)]
    have hagain : left.resolve kept =
      .ok (.map [(.text "name", .text "#/b"), (.text "b", .int 1), (.text "x", .int 1)]) := by rfl
    exact ⟨left, by rfl, by rfl, fun h => absurd (hagain.symm.trans h) (by simp [left, b])⟩
  · let a : Document := .map [(.text "$ref", .text "#/a"), (.text "x", b)]
    have hlookup : Pointer.lookup "#/a" circle = .ok a := by rfl
    refine (h.induction (P := fun seen e => "#/b" ∉ seen ∧ (e = circle ∨ e = a ∨ e = .int 1)) ?_ ?_
      ⟨List.not_mem_nil, .inl rfl⟩).1
    · rintro seen d e step ⟨hseen, rfl | rfl | rfl⟩ href hchild
      · obtain ⟨items, k, heq, -⟩ | ⟨entries, name, heq, -, hget⟩ := cases_of_child hchild
        · simp [circle] at heq
        · obtain rfl := Document.map.inj heq
          have hmem := mem_of_get? hget
          simp only [List.mem_cons, Prod.mk.injEq, List.not_mem_nil, or_false] at hmem
          exact ⟨hseen, .inr (hmem.imp And.right And.right)⟩
      · cases href
      · cases hchild
    · rintro seen d e ref ⟨hseen, rfl | rfl | rfl⟩ href - hfound
      · cases href
      · cases href
        cases hlookup.symm.trans hfound
        exact ⟨by simp [hseen], .inr (.inl rfl)⟩
      · cases href

end ClientForge.Document
