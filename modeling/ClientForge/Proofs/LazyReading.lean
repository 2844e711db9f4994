import ClientForge.Proofs.ReferenceCycles

/-!
Documents read with their references looked up on the way, and documents whose references were replaced before. One
comes to the same values.
-/

namespace ClientForge.Document

variable {root d e result x : Document} {kept seen : List String} {path : List PathStep}

/-- The values that one comes to along a path when each reference on the way is looked up in `root`. -/
inductive Reaches (root : Document) (kept : List String) : Document → List PathStep → Document → Prop
  | here (d : Document) : Reaches root kept d [] d
  | part {d c e : Document} {step : PathStep} {path : List PathStep} (href : d.referenceOf? kept = none)
      (hchild : d.child? step = some c) (h : Reaches root kept c path e) : Reaches root kept d (step :: path) e
  | target {d c e : Document} {ref : String} {path : List PathStep} (href : d.referenceOf? kept = some ref)
      (hlookup : Pointer.lookup ref root = .ok c) (h : Reaches root kept c path e) : Reaches root kept d path e

theorem Walk.reaches {v v' : Visit} (h : Walk root kept v path v') : Reaches root kept v.value path v'.value := by
  induction h with
  | here v => exact .here _
  | part href hchild _ ih => exact .part href hchild ih
  | target href _ hlookup _ ih => exact .target href hlookup ih

theorem Reaches.walk (hcircle : ¬ IsCircular root kept) (h : Reaches root kept d path e)
    (hahead : Ahead root kept seen d) : ∃ seen', Walk root kept ⟨seen, d⟩ path ⟨seen', e⟩ := by
  induction h generalizing seen with
  | here d => exact ⟨seen, .here _⟩
  | part href hchild _ ih =>
    obtain ⟨seen', hwalk⟩ := ih (hahead.part href hchild)
    exact ⟨seen', .part href hchild hwalk⟩
  | target href hlookup _ ih =>
    obtain ⟨seen', hwalk⟩ := ih (hahead.target href hlookup)
    exact ⟨seen', .target href (hahead.notMem hcircle href) hlookup hwalk⟩

/-- Paths in `result` are the ways through `d`, and end at what the values there become. -/
structure ReadsAlike (d : Document) (kept : List String) (result : Document) : Prop where
  reached : ∀ path x, result.at? path = some x → ∃ e, Reaches d kept d path e ∧ e.referenceOf? kept = none
  resolved : ∀ path e, Reaches d kept d path e → ∃ x, result.at? path = some x ∧
    resolveIn maxRoom d kept e = .ok x ∧ ∀ s, e = .scalar s → x = .scalar s

theorem Resolves.reached (hcircle : ¬ IsCircular root kept) {room : ℕ} (h : Resolves root kept room [] root result)
    (hx : result.at? path = some x) : ∃ e, Reaches root kept root path e ∧ e.referenceOf? kept = none := by
  obtain ⟨seen, e, hwalk, hplain, -⟩ | ⟨before, after, seen, e, ref, -, hwalk, href, hseen, -⟩ := h.at? hx
  · exact ⟨e, hwalk.reaches, hplain⟩
  · exact absurd hseen ((ahead_root.walk hwalk).notMem hcircle href)

theorem Resolves.resolved (hcircle : ¬ IsCircular root kept) (hroot : root.IsTree)
    (h : Resolves root kept maxRoom [] root result) (he : Reaches root kept root path e) :
    ∃ x, result.at? path = some x ∧ resolveIn maxRoom root kept e = .ok x := by
  obtain ⟨seen, hwalk⟩ := he.walk hcircle ahead_root
  obtain ⟨x, less, hx, hless, hend⟩ := h.walk hwalk
  obtain ⟨place, hplace⟩ := hwalk.exists_at hroot ⟨[], rfl⟩
  have hahead := ahead_root.walk hwalk
  have hfirst := (hend.beside hcircle hroot (hroot.at? hplace) hahead hahead.forget).mono hless
  exact ⟨x, hx, (resolveIn_eq_ok_iff hroot (hroot.at? hplace) (references_at hplace)).mpr hfirst⟩

/-- To replace the references first or to look them up on the way makes no difference. -/
theorem resolve_readsAlike (hd : d.IsTree) (hcircle : ¬ IsCircular d kept) (h : d.resolve kept = .ok result) :
    ReadsAlike d kept result := by
  have hresult := resolves_of_resolve hd h
  refine ⟨fun path x hx => hresult.reached hcircle hx, fun path e he => ?_⟩
  obtain ⟨x, hx, hend⟩ := hresult.resolved hcircle hd he
  refine ⟨x, hx, hend, ?_⟩
  rintro s rfl
  exact (resolves_of_unfold hd (.scalar s) (List.nil_subset _) (openBeside_nil _) hend).scalar_eq

theorem resolve_readsAlike_shared :
    let kept := ["#/components/schemas/"]
    let d : Document := .map [
      (.text "a", .list [.map [(.text "$ref", .text "#/b")], .map [(.text "$ref", .text "#/b")]]),
      (.text "b", .map [(.text "$ref", .text "#/c~1d/0")]),
      (.text "c/d", .list [.map [(.text "e", .map [(.text "$ref", .text "#/components/schemas/Pet")])]])]
    ∃ result, d.resolve kept = .ok result ∧ ReadsAlike d kept result ∧
      result.at? [.key "a", .index 1, .key "e", .key "$ref"] = some (.text "#/components/schemas/Pet") := by
  intro kept d
  have hd : d.IsTree := by simp [d, Entries.keys]
  have hcircle : ¬ IsCircular d kept :=
    not_isCircular_of_rank (fun ref => if ref = "#/b" then 1 else 0) hd (by decide +kernel)
  let pet : Document := .map [(.text "e", .map [(.text "$ref", .text "#/components/schemas/Pet")])]
  have hresult : d.resolve kept =
    .ok (.map [(.text "a", .list [pet, pet]), (.text "b", pet), (.text "c/d", .list [pet])]) := by rfl
  exact ⟨_, hresult, resolve_readsAlike hd hcircle hresult, by rfl⟩

end ClientForge.Document
