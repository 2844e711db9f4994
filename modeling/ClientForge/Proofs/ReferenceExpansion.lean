import ClientForge.Proofs.DocumentPaths
import ClientForge.Proofs.Lists

/-!
The value that a value becomes when its references are replaced, told without a count of what is still open: a
reference is replaced unless it is inside of itself.
-/

namespace ClientForge.Document

open Outcome

def referenceOf? (kept : List String) : Document → Option String
  | .map entries => reference? kept entries
  | _ => none

/-- `Resolves root kept room seen d result`: with `room` for its parts `d` becomes `result`, inside of what the
references in `seen` point to. -/
inductive Resolves (root : Document) (kept : List String) : ℕ → List String → Document → Document → Prop
  | scalar {room : ℕ} {seen : List String} (s : Scalar) :
      Resolves root kept (room + 1) seen (.scalar s) (.scalar s)
  | list {room : ℕ} {seen : List String} {items results : List Document} (hlength : items.length = results.length)
      (h : ∀ d e, (d, e) ∈ items.zip results → Resolves root kept (room - 1) seen d e) :
      Resolves root kept (room + 1) seen (.list items) (.list results)
  | map {room : ℕ} {seen : List String} {entries results : Entries} (href : reference? kept entries = none)
      (hkeys : List.Forall₂ (fun a b => a.1 = b.1) entries results)
      (h : ∀ a b, (a, b) ∈ entries.zip results → Resolves root kept (room - 1) seen a.2 b.2) :
      Resolves root kept (room + 1) seen (.map entries) (.map results)
  | left {room : ℕ} {seen : List String} {d : Document} {ref : String} (href : d.referenceOf? kept = some ref)
      (hseen : ref ∈ seen) : Resolves root kept (room + 1) seen d d
  | target {room : ℕ} {seen : List String} {d e result : Document} {ref : String}
      (href : d.referenceOf? kept = some ref) (hseen : ref ∉ seen) (hlookup : Pointer.lookup ref root = .ok e)
      (h : Resolves root kept room (ref :: seen) e result) : Resolves root kept (room + 1) seen d result

structure OpenBeside (refs seen openRefs : List String) : Prop where
  nodup : openRefs.Nodup
  mem_iff : ∀ ref, ref ∈ openRefs ↔ ref ∈ refs ∧ ref ∉ seen

theorem openBeside_nil (refs : List String) : OpenBeside refs [] refs.eraseDups :=
  ⟨nodup_eraseDups refs, fun ref => by simp⟩

theorem OpenBeside.erase {refs seen openRefs : List String} (h : OpenBeside refs seen openRefs) (ref : String) :
    OpenBeside refs (ref :: seen) (openRefs.erase ref) := by
  refine ⟨h.nodup.erase ref, fun ref' => ?_⟩
  rw [h.nodup.mem_erase_iff, h.mem_iff, List.mem_cons, not_or]
  tauto

def target? (root : Document) (kept : List String) (fuel : ℕ) (openRefs : List String) (room : ℕ) (ref : String) :
    Option (Except Failure Document) :=
  if ref ∈ openRefs then some (do unfold root kept fuel room (openRefs.erase ref) (← Pointer.lookup ref root))
  else none

variable {root d e result : Document} {kept refs seen openRefs : List String} {fuel room room' : ℕ} {ref : String}
  {target : ℕ → String → Option (Except Failure Document)}

theorem unfold_succ : unfold root kept (fuel + 1) room openRefs d =
    replaceReferences kept (target? root kept fuel openRefs) room [] d := rfl

theorem target?_of_mem (h : ref ∈ openRefs) : target? root kept fuel openRefs room ref =
    some (((Pointer.lookup ref root).mapError .description) >>= unfold root kept fuel room (openRefs.erase ref)) := by
  rw [target?, if_pos h]
  rfl

theorem target?_of_notMem (h : ref ∉ openRefs) : target? root kept fuel openRefs room ref = none := if_neg h

mutual

theorem close_nil : ∀ d : Document, d.close [] = d
  | .scalar _ | .set _ | .again _ => rfl
  | .list items => by rw [close, closeItems_nil items]
  | .map entries => by rw [close, closeEntries_nil entries]
  | .pair a b => by rw [close, close_nil a, close_nil b]
  | .knot label whole => by rw [close, List.filter_nil, close_nil whole]

theorem closeItems_nil : ∀ items : List Document, closeItems [] items = items
  | [] => rfl
  | d :: rest => by rw [closeItems, close_nil d, closeItems_nil rest]

theorem closeEntries_nil : ∀ entries : Entries, closeEntries [] entries = entries
  | [] => rfl
  | (k, d) :: rest => by rw [closeEntries, close_nil d, closeEntries_nil rest]

end

theorem replaceInItems_eq (items : List Document) : replaceInItems kept target room [] items =
    items.mapM (replaceReferences kept target room []) := by
  induction items with
  | nil => rfl
  | cons d items ih => rw [replaceInItems, List.mapM_cons, ih]

theorem replaceInEntries_eq (entries : Entries) : replaceInEntries kept target room [] entries =
    entries.mapM fun e => (e.1, ·) <$> replaceReferences kept target room [] e.2 := by
  induction entries with
  | nil => rfl
  | cons e entries ih =>
    rw [replaceInEntries, List.mapM_cons, ih]
    cases replaceReferences kept target room [] e.2 <;> rfl

theorem replaceReferences_zero (hd : d.IsTree) : replaceReferences kept target 0 [] d = tooDeep := by
  cases hd <;> simp [replaceReferences]

theorem replaceReferences_scalar (s : Scalar) :
    replaceReferences kept target (room + 1) [] (.scalar s) = .ok (.scalar s) := by
  simp [replaceReferences, close]

theorem replaceReferences_list (items : List Document) : replaceReferences kept target (room + 1) [] (.list items) =
    .list <$> items.mapM (replaceReferences kept target (room - 1) []) := by
  simp [replaceReferences, replaceInItems_eq]

theorem replaceReferences_map {entries : Entries} (h : reference? kept entries = none) :
    replaceReferences kept target (room + 1) [] (.map entries) =
      .map <$> entries.mapM fun e => (e.1, ·) <$> replaceReferences kept target (room - 1) [] e.2 := by
  simp [replaceReferences, replaceInEntries_eq, h]

theorem replaceReferences_reference (h : d.referenceOf? kept = some ref) :
    replaceReferences kept target (room + 1) [] d = (target room ref).getD (.ok d) := by
  unfold referenceOf? at h
  split at h
  · simp [replaceReferences, h, close_nil]
  · cases h

theorem mem_references (h : d.referenceOf? kept = some ref) : ref ∈ references kept d := by
  unfold referenceOf? at h
  split at h
  · rw [references, h]
    exact List.mem_cons_self
  · cases h

theorem keys_eq {entries results : Entries} (h : List.Forall₂ (fun a b => a.1 = b.1) entries results) :
    entries.keys = results.keys := by
  induction h with
  | nil => rfl
  | cons hab _ ih => exact List.cons_eq_cons.mpr ⟨hab, ih⟩

theorem exists_room (hd : d.IsTree) (h : replaceReferences kept target room [] d = .ok result) :
    ∃ less, room = less + 1 := by
  cases room with
  | zero =>
    rw [replaceReferences_zero hd] at h
    cases h
  | succ less => exact ⟨less, rfl⟩

theorem resolves_of_replaced (hd : d.IsTree) (hrefs : references kept d ⊆ refs)
    (htarget : ∀ room ref result, target room ref = some (.ok result) → ref ∉ seen ∧
      ∃ e, Pointer.lookup ref root = .ok e ∧ Resolves root kept room (ref :: seen) e result)
    (hleft : ∀ room, ∀ ref ∈ refs, target room ref = none → ref ∈ seen)
    (h : replaceReferences kept target room [] d = .ok result) : Resolves root kept room seen d result := by
  -- What the references in the value become is left to `target`, so the value alone is what gets smaller.
  induction hd generalizing room result with
  | scalar s =>
    obtain ⟨room, rfl⟩ := exists_room (.scalar s) h
    rw [replaceReferences_scalar] at h
    cases h
    exact .scalar s
  | @list items hitems ih =>
    obtain ⟨room, rfl⟩ := exists_room (.list hitems) h
    rw [replaceReferences_list] at h
    obtain ⟨results, hresults, rfl⟩ := map_eq_ok.mp h
    obtain ⟨hlength, hzip⟩ := List.forall₂_iff_zip.mp (forall₂_of_mapM hresults)
    refine .list hlength fun a b hab => ?_
    have ha := (List.of_mem_zip hab).1
    exact ih a ha (fun ref href => hrefs (mem_itemReferences.mpr ⟨a, ha, href⟩)) (hzip hab)
  | @map entries htexts hnodup hentries ih =>
    obtain ⟨room, rfl⟩ := exists_room (.map htexts hnodup hentries) h
    cases href : reference? kept entries with
    | none =>
      rw [replaceReferences_map href] at h
      obtain ⟨results, hresults, rfl⟩ := map_eq_ok.mp h
      have hall := forall₂_of_mapM hresults
      refine .map href (hall.imp fun a b hab => ?_) fun a b hab => ?_
      · obtain ⟨v, -, rfl⟩ := map_eq_ok.mp hab
        rfl
      · have ha := (List.of_mem_zip hab).1
        obtain ⟨v, hv, rfl⟩ := map_eq_ok.mp ((List.forall₂_iff_zip.mp hall).2 hab)
        refine ih a ha (fun ref href => hrefs ?_) hv
        exact List.mem_append_right _ (mem_entryReferences.mpr ⟨a, ha, href⟩)
    | some ref =>
      have href : referenceOf? kept (.map entries) = some ref := href
      rw [replaceReferences_reference href] at h
      cases htaken : target room ref with
      | none =>
        rw [htaken] at h
        cases h
        exact .left href (hleft room ref (hrefs (mem_references href)) htaken)
      | some outcome =>
        rw [htaken] at h
        obtain rfl : outcome = .ok result := h
        obtain ⟨hseen, e, hlookup, hresult⟩ := htarget room ref result htaken
        exact .target href hseen hlookup hresult

theorem resolves_of_unfold (hroot : root.IsTree) (hd : d.IsTree) (hrefs : references kept d ⊆ references kept root)
    (hopen : OpenBeside (references kept root) seen openRefs) (h : unfold root kept fuel room openRefs d = .ok result) :
    Resolves root kept room seen d result := by
  induction fuel generalizing room seen openRefs d result with
  | zero => cases h
  | succ fuel ih =>
    rw [unfold_succ] at h
    apply resolves_of_replaced hd hrefs _ _ h
    · intro room ref result htaken
      by_cases href : ref ∈ openRefs
      · rw [target?_of_mem href, Option.some.injEq] at htaken
        obtain ⟨e, hlookup, hresult⟩ := bind_eq_ok.mp htaken
        have hlookup := mapError_eq_ok.mp hlookup
        obtain ⟨path, hpath⟩ := Pointer.lookup_eq_ok hroot hlookup
        exact ⟨((hopen.mem_iff ref).mp href).2, e, hlookup,
          ih (hroot.at? hpath) (references_at hpath) (hopen.erase ref) hresult⟩
      · rw [target?_of_notMem href] at htaken
        cases htaken
    · intro room ref href htaken
      by_contra hseen
      rw [target?_of_mem ((hopen.mem_iff ref).mpr ⟨href, hseen⟩)] at htaken
      cases htaken

theorem unfold_of_resolves (hroot : root.IsTree) (h : Resolves root kept room seen d result) (hd : d.IsTree)
    (hrefs : references kept d ⊆ references kept root) (hopen : OpenBeside (references kept root) seen openRefs)
    (hfuel : openRefs.length < fuel) : unfold root kept fuel room openRefs d = .ok result := by
  -- The fuel lasts since a reference that is looked up leaves one less open.
  induction h generalizing openRefs fuel with
  | scalar s =>
    cases fuel with
    | zero => cases hfuel
    | succ fuel => rw [unfold_succ, replaceReferences_scalar]
  | list hlength h ih =>
    cases fuel with
    | zero => cases hfuel
    | succ fuel =>
      rw [unfold_succ, replaceReferences_list, map_eq_ok]
      refine ⟨_, mapM_of_forall₂ (List.forall₂_iff_zip.mpr ⟨hlength, fun {a b} hab => ?_⟩), rfl⟩
      have ha := (List.of_mem_zip hab).1
      cases hd with
      | list hitems =>
        exact ih a b hab (hitems a ha) (fun ref href => hrefs (mem_itemReferences.mpr ⟨a, ha, href⟩)) hopen hfuel
  | @map room seen entries results href hkeys h ih =>
    cases fuel with
    | zero => cases hfuel
    | succ fuel =>
      rw [unfold_succ, replaceReferences_map href, map_eq_ok]
      obtain ⟨hlength, hkeys⟩ := List.forall₂_iff_zip.mp hkeys
      refine ⟨_, mapM_of_forall₂ (List.forall₂_iff_zip.mpr ⟨hlength, fun {a b} hab => ?_⟩), rfl⟩
      have ha := (List.of_mem_zip hab).1
      cases hd with
      | map _ _ hentries =>
        have hsub : references kept a.2 ⊆ references kept root :=
          fun ref href => hrefs (List.mem_append_right _ (mem_entryReferences.mpr ⟨a, ha, href⟩))
        have hkey : a.1 = b.1 := hkeys hab
        exact map_eq_ok.mpr ⟨b.2, ih a b hab (hentries a ha) hsub hopen hfuel, by rw [hkey]⟩
  | left href hseen =>
    cases fuel with
    | zero => cases hfuel
    | succ fuel =>
      have hclosed : _ ∉ openRefs := fun hmem => ((hopen.mem_iff _).mp hmem).2 hseen
      rw [unfold_succ, replaceReferences_reference href, target?_of_notMem hclosed]
      rfl
  | @target room seen d e result ref href hseen hlookup h ih =>
    cases fuel with
    | zero => cases hfuel
    | succ fuel =>
      have hmem : ref ∈ openRefs := (hopen.mem_iff ref).mpr ⟨hrefs (mem_references href), hseen⟩
      obtain ⟨path, hpath⟩ := Pointer.lookup_eq_ok hroot hlookup
      rw [unfold_succ, replaceReferences_reference href, target?_of_mem hmem, hlookup]
      apply ih (hroot.at? hpath) (references_at hpath) (hopen.erase ref)
      have hlength := List.length_erase_add_one hmem
      omega

theorem resolveIn_eq_ok_iff (hroot : root.IsTree) (hd : d.IsTree)
    (hrefs : references kept d ⊆ references kept root) :
    resolveIn room root kept d = .ok result ↔ Resolves root kept room [] d result :=
  ⟨resolves_of_unfold hroot hd hrefs (openBeside_nil _),
    fun h => unfold_of_resolves hroot h hd hrefs (openBeside_nil _) (Nat.lt_succ_self _)⟩

theorem resolves_of_resolve (hroot : root.IsTree) (h : root.resolve kept = .ok result) :
    Resolves root kept maxRoom [] root result := by
  unfold resolve at h
  split at h
  · cases h
  · exact (resolveIn_eq_ok_iff hroot hroot (List.Subset.refl _)).mp h

theorem Resolves.mono (h : Resolves root kept room seen d result) (hroom : room ≤ room') :
    Resolves root kept room' seen d result := by
  induction h generalizing room' with
  | scalar s =>
    obtain ⟨more, rfl⟩ := Nat.exists_eq_add_of_lt hroom
    exact .scalar s
  | list hlength h ih =>
    obtain ⟨more, rfl⟩ := Nat.exists_eq_add_of_lt hroom
    exact .list hlength fun a b hab => ih a b hab (by omega)
  | map href hkeys h ih =>
    obtain ⟨more, rfl⟩ := Nat.exists_eq_add_of_lt hroom
    exact .map href hkeys fun a b hab => ih a b hab (by omega)
  | left href hseen =>
    obtain ⟨more, rfl⟩ := Nat.exists_eq_add_of_lt hroom
    exact .left href hseen
  | target href hseen hlookup h ih =>
    obtain ⟨more, rfl⟩ := Nat.exists_eq_add_of_lt hroom
    exact .target href hseen hlookup (ih (by omega))

theorem exists_left_of_zip {α : Type} {l l' : List α} (hlength : l.length = l'.length) {b : α} (hb : b ∈ l') :
    ∃ a ∈ l, (a, b) ∈ l.zip l' :=
  exists_left_of_mem (R := fun a b => (a, b) ∈ l.zip l') (List.forall₂_iff_zip.mpr ⟨hlength, fun hab => hab⟩) hb

theorem Resolves.isTree (hroot : root.IsTree) (h : Resolves root kept room seen d result) (hd : d.IsTree) :
    result.IsTree := by
  induction h with
  | scalar s => exact .scalar s
  | list hlength h ih =>
    cases hd with
    | list hitems =>
      refine .list fun b hb => ?_
      obtain ⟨a, ha, hab⟩ := exists_left_of_zip hlength hb
      exact ih a b hab (hitems a ha)
  | map href hkeys h ih =>
    cases hd with
    | map htexts hnodup hentries =>
      rw [keys_eq hkeys] at hnodup
      refine .map (fun b hb => ?_) hnodup fun b hb => ?_
      · obtain ⟨a, ha, hab⟩ := exists_left_of_zip hkeys.length_eq hb
        have hkey : a.1 = b.1 := (List.forall₂_iff_zip.mp hkeys).2 hab
        exact hkey ▸ htexts a ha
      · obtain ⟨a, ha, hab⟩ := exists_left_of_zip hkeys.length_eq hb
        exact ih a b hab (hentries a ha)
  | left href hseen => exact hd
  | target href hseen hlookup h ih =>
    obtain ⟨path, hpath⟩ := Pointer.lookup_eq_ok hroot hlookup
    exact ih (hroot.at? hpath)

section Room

def IsOfPointer (f : Failure) : Prop := ∃ fault, f = .description fault

theorem exists_less (hd : d.IsTree) (hroom : 2 * d.depth ≤ room + 1) : ∃ less, room = less + 1 := by
  have hpos := hd.depth_pos
  exact Nat.exists_eq_add_one.mpr (by omega)

theorem replaced_fails (hd : d.IsTree) (hroom : room + 2 * d.depth ≤ room')
    (htarget : ∀ more, room ≤ more → ∀ ref outcome, target more ref = some outcome → FailsOnly IsOfPointer outcome) :
    FailsOnly IsOfPointer (replaceReferences kept target room' [] d) := by
  -- A level of the value takes two of the room, so that at each reference `room` is left at least.
  induction hd generalizing room' with
  | scalar s =>
    obtain ⟨less, rfl⟩ := exists_less (.scalar s) (by omega : _ ≤ room' + 1)
    rw [replaceReferences_scalar]
    exact failsOnly_ok _
  | list hitems ih =>
    obtain ⟨less, rfl⟩ := exists_less (.list hitems) (by omega : _ ≤ room' + 1)
    rw [replaceReferences_list]
    refine (failsOnly_mapM fun a ha => ih a ha ?_).map _
    have hdepth := depth_le_of_mem_items ha
    simp only [depth] at hroom
    omega
  | @map entries htexts hnodup hentries ih =>
    obtain ⟨less, rfl⟩ := exists_less (.map htexts hnodup hentries) (by omega : _ ≤ room' + 1)
    cases href : reference? kept entries with
    | none =>
      rw [replaceReferences_map href]
      refine (failsOnly_mapM fun a ha => (ih a ha ?_).map _).map _
      have hdepth := depth_le_of_mem_entries ha
      simp only [depth] at hroom
      omega
    | some ref =>
      have href : referenceOf? kept (.map entries) = some ref := href
      rw [replaceReferences_reference href]
      cases htaken : target less ref with
      | none => exact failsOnly_ok _
      | some outcome => exact htarget less (by simp only [depth] at hroom; omega) ref outcome htaken

theorem unfold_fails (hroot : root.IsTree) (hd : d.IsTree) (hdepth : d.depth ≤ root.depth)
    (hfuel : openRefs.length < fuel) (hroom : fuel * (2 * root.depth + 1) ≤ room) :
    FailsOnly IsOfPointer (unfold root kept fuel room openRefs d) := by
  induction fuel generalizing room openRefs d with
  | zero => cases hfuel
  | succ fuel ih =>
    rw [unfold_succ]
    have hpart : fuel * (2 * root.depth + 1) + 2 * d.depth ≤ room := by
      rw [Nat.succ_mul] at hroom
      omega
    apply replaced_fails hd hpart
    intro more hmore ref outcome htaken
    by_cases href : ref ∈ openRefs
    · rw [target?_of_mem href, Option.some.injEq] at htaken
      subst htaken
      apply FailsOnly.bind_of_eq
      · intro e he
        cases hlookup : Pointer.lookup ref root with
        | error fault =>
          rw [hlookup] at he
          cases he
          exact ⟨fault, rfl⟩
        | ok target =>
          rw [hlookup] at he
          cases he
      · intro e he
        obtain ⟨path, hpath⟩ := Pointer.lookup_eq_ok hroot (mapError_eq_ok.mp he)
        have hlength := List.length_erase_add_one href
        exact ih (hroot.at? hpath) (depth_at hpath) (by omega) hmore
    · rw [target?_of_notMem href] at htaken
      cases htaken

theorem resolveIn_ends (hroot : root.IsTree)
    (hroom : ((references kept root).eraseDups.length + 1) * (2 * root.depth + 1) ≤ room) :
    (∃ result, resolveIn room root kept root = .ok result) ∨
      ∃ fault, resolveIn room root kept root = .error (.description fault) := by
  have hfails : FailsOnly IsOfPointer (resolveIn room root kept root) :=
    unfold_fails hroot hroot (Nat.le_refl _) (Nat.lt_succ_self _) hroom
  cases houtcome : resolveIn room root kept root with
  | ok result => exact .inl ⟨result, rfl⟩
  | error e =>
    obtain ⟨fault, rfl⟩ := hfails e houtcome
    exact .inr ⟨fault, rfl⟩

end Room

end ClientForge.Document
