import ClientForge.Package.Writing
import ClientForge.Proofs.Outcomes
import ClientForge.Proofs.Workers

/-!
Writing a package stays in its directory. If an artifact leads out of it, no file is touched; otherwise the files of the
artifacts are written, and nothing else changes but that directories are made for them.
-/

namespace ClientForge.Package

open Outcome

/-- A path that leads, from `root` on, to no place strictly inside it. -/
def Leaves (root : Path) (path : String) : Prop := ¬∃ names, names ≠ [] ∧ Path.resolve root path = root ++ names

def contents (root : Path) (artifacts : List Artifact) : List (Path × List UInt8) :=
  artifacts.map fun a => (Path.resolve root a.path, Text.encodeUtf8 a.content)

def IsRefused (directory : Path) (output : String) (artifacts : List Artifact) : Prop :=
  '\x00' ∉ output.toList ∧ ∃ before a after, artifacts = before ++ a :: after ∧
    (∀ b ∈ before, '\x00' ∉ b.path.toList) ∧ '\x00' ∉ a.path.toList ∧ Leaves (Path.resolve directory output) a.path

/-- The files are as they were but for new contents below `root`. If no two places are the same, each has its content.
Every other file was there before, whatever else was there is as it was, and outside of `root` nothing is new but
directories that lead to it. -/
structure Fills (files after : FileTree) (root : Path) (contents : List (Path × List UInt8)) : Prop where
  written : (contents.map (·.1)).Nodup → ∀ e ∈ contents, after.get? e.1 = some (.file e.2)
  others : ∀ q content, after.get? q = some (.file content) →
    q ∈ contents.map (·.1) ∨ files.get? q = some (.file content)
  kept : ∀ q, q ∉ contents.map (·.1) → files.get? q ≠ none → after.get? q = files.get? q
  outside : ∀ q, ¬root <+: q → (q <+: root → files.get? q ≠ none) → after.get? q = files.get? q

variable {root directory : Path} {path output : String} {artifacts : List Artifact} {files start : FileTree}

theorem isBelow_iff {base p : Path} : Path.isBelow base p = true ↔ ∃ names, names ≠ [] ∧ p = base ++ names := by
  rw [Path.isBelow, Bool.and_eq_true, List.isPrefixOf_iff_prefix, decide_eq_true_iff]
  constructor
  · rintro ⟨⟨names, rfl⟩, hne⟩
    exact ⟨names, by simpa using hne, rfl⟩
  · rintro ⟨names, hne, rfl⟩
    exact ⟨List.prefix_append _ _, by simpa using hne⟩

theorem dots_notMem_resolve (h : ".." ∉ root) (s : String) : ".." ∉ Path.resolve root s := by
  have hsteps (names : List String) (p : Path) (hp : ".." ∉ p) : ".." ∉ names.foldl Path.step p := by
    induction names generalizing p with
    | nil => exact hp
    | cons name names ih =>
      refine ih _ ?_
      unfold Path.step
      split
      · exact fun hmem => hp (List.dropLast_subset p hmem)
      · rename_i hname
        simpa [hp] using Ne.symm hname
  refine hsteps _ _ ?_
  split
  · exact List.not_mem_nil
  · exact h

theorem target_of_null (hnull : '\x00' ∈ path.toList) : target root path = .error (.malformed .nullInPath) :=
  if_pos (List.contains_iff_mem.mpr hnull)

theorem target_of_leaves (hnull : '\x00' ∉ path.toList) (h : Leaves root path) :
    target root path = .error (.output (.escapes path root.text)) := by
  rw [target, if_neg (List.contains_iff_mem.not.mpr hnull), if_neg (isBelow_iff.not.mpr h)]

theorem target_of_stays (hnull : '\x00' ∉ path.toList) (h : ¬Leaves root path) :
    target root path = .ok (Path.resolve root path) := by
  rw [target, if_neg (List.contains_iff_mem.not.mpr hnull), if_pos (isBelow_iff.mpr (not_not.mp h))]

theorem target_eq_ok {p : Path} :
    target root path = .ok p ↔ '\x00' ∉ path.toList ∧ ¬Leaves root path ∧ p = Path.resolve root path := by
  by_cases hnull : '\x00' ∈ path.toList
  · rw [target_of_null hnull]
    exact iff_of_false nofun fun h => h.1 hnull
  · by_cases hleaves : Leaves root path
    · rw [target_of_leaves hnull hleaves]
      exact iff_of_false nofun fun h => h.2.1 hleaves
    · rw [target_of_stays hnull hleaves]
      simp [hnull, hleaves, eq_comm]

def targets (root : Path) (artifacts : List Artifact) : Except Failure (List Path) :=
  artifacts.mapM fun a => target root a.path

theorem targets_eq_ok {places : List Path} (h : targets root artifacts = .ok places) :
    (∀ a ∈ artifacts, ¬Leaves root a.path) ∧ places = artifacts.map fun a => Path.resolve root a.path := by
  constructor
  · intro a ha
    obtain ⟨p, -, hp⟩ := exists_mem_of_mapM h ha
    exact (target_eq_ok.mp hp).2.1
  · have hall := forall₂_of_mapM h
    clear h
    induction hall with
    | nil => rfl
    | cons ha _ ih => rw [List.map_cons, ← ih, (target_eq_ok.mp ha).2.2]

theorem targets_fails : FailsOnly (fun f => f = .malformed .nullInPath ∨ ∃ fault, f = .output fault)
    (targets root artifacts) := by
  refine failsOnly_mapM fun a _ => ?_
  by_cases hnull : '\x00' ∈ a.path.toList
  · rw [target_of_null hnull]
    exact failsOnly_error (.inl rfl)
  · by_cases hleaves : Leaves root a.path
    · rw [target_of_leaves hnull hleaves]
      exact failsOnly_error (.inr ⟨_, rfl⟩)
    · rw [target_of_stays hnull hleaves]
      exact failsOnly_ok _

theorem targets_refused_iff : (∃ fault, targets root artifacts = .error (.output fault)) ↔
    ∃ before a after, artifacts = before ++ a :: after ∧ (∀ b ∈ before, '\x00' ∉ b.path.toList) ∧
      '\x00' ∉ a.path.toList ∧ Leaves root a.path := by
  constructor
  · rintro ⟨fault, h⟩
    obtain ⟨before, a, after, heq, hbefore, ha⟩ := mapM_eq_error.mp h
    have hnull : '\x00' ∉ a.path.toList := fun hnull => by cases (target_of_null hnull).symm.trans ha
    refine ⟨before, a, after, heq, ?_, hnull, fun hstays => ?_⟩
    · intro b hb
      obtain ⟨p, hp⟩ := hbefore b hb
      exact (target_eq_ok.mp hp).1
    · cases (target_of_stays hnull (not_not.mpr hstays)).symm.trans ha
  · rintro ⟨before, a, after, rfl, hbefore, hnull, hleaves⟩
    unfold targets
    induction before with
    | nil => exact ⟨_, bind_eq_error.mpr (.inl (target_of_leaves hnull hleaves))⟩
    | cons b before ih =>
      rw [List.forall_mem_cons] at hbefore
      rw [List.cons_append, List.mapM_cons]
      by_cases hb : Leaves root b.path
      · exact ⟨_, bind_eq_error.mpr (.inl (target_of_leaves hbefore.1 hb))⟩
      · obtain ⟨fault, h⟩ := ih hbefore.2
        exact ⟨fault, bind_eq_error.mpr (.inr ⟨_, target_of_stays hbefore.1 hb, bind_eq_error.mpr (.inl h)⟩)⟩

section Writing

variable {token : String}

theorem write_of_null (h : '\x00' ∈ output.toList) :
    write files token directory output artifacts = (files, .error (.malformed .nullInPath)) := by
  rw [write, outputRoot, if_pos (List.contains_iff_mem.mpr h)]
  rfl

theorem write_of_error {fault : Failure} (hnull : '\x00' ∉ output.toList) (hroot : Path.resolve directory output = root)
    (h : targets root artifacts = .error fault) :
    write files token directory output artifacts = (files, .error fault) := by
  unfold targets at h
  rw [write, outputRoot, if_neg (List.contains_iff_mem.not.mpr hnull), hroot]
  simp only [bind, Except.bind]
  rw [h]

theorem write_of_targets {places : List Path} (hnull : '\x00' ∉ output.toList)
    (hroot : Path.resolve directory output = root) (h : targets root artifacts = .ok places) :
    write files token directory output artifacts =
      match writeBelow files token root (contents root artifacts) with
      | (files, none) => (files, .ok places)
      | (files, some fault) => (files, .error (blocked root fault)) := by
  have hzip : places.zip (artifacts.map fun a => Text.encodeUtf8 a.content) = contents root artifacts := by
    rw [(targets_eq_ok h).2]
    exact List.zip_map'
  unfold targets at h
  rw [write, outputRoot, if_neg (List.contains_iff_mem.not.mpr hnull), hroot]
  simp only [bind, Except.bind]
  rw [h, ← hzip]
  rfl

theorem write_of_leaving (h : ∃ a ∈ artifacts, Leaves (Path.resolve directory output) a.path) :
    ∃ fault, write files token directory output artifacts = (files, .error fault) ∧
      (fault = .malformed .nullInPath ∨ ∃ fault', fault = .output fault') ∧
      ((∃ fault', fault = .output fault') ↔ IsRefused directory output artifacts) := by
  by_cases hnull : '\x00' ∈ output.toList
  · exact ⟨_, write_of_null hnull, .inl rfl, iff_of_false nofun fun h => h.1 hnull⟩
  · cases htargets : targets (Path.resolve directory output) artifacts with
    | ok places =>
      obtain ⟨a, ha, hleaves⟩ := h
      exact absurd hleaves ((targets_eq_ok htargets).1 a ha)
    | error fault =>
      refine ⟨fault, write_of_error hnull rfl htargets, targets_fails fault htargets, ?_⟩
      rw [IsRefused, ← targets_refused_iff, htargets, and_iff_right hnull]
      simp

end Writing

section Filling

variable {token : String} {pool : Pool}

theorem of_mem_contents (hstays : ∀ a ∈ artifacts, ¬Leaves root a.path) {e : Path × List UInt8}
    (he : e ∈ contents root artifacts) : root <+: e.1 ∧ e.1 ≠ root := by
  obtain ⟨a, ha, rfl⟩ := List.mem_map.mp he
  obtain ⟨names, hne, heq⟩ := not_not.mp (hstays a ha)
  dsimp only
  rw [heq]
  exact ⟨List.prefix_append _ _, by simpa using hne⟩

theorem fills_of_run (hroot : ".." ∉ root) (hstays : ∀ a ∈ artifacts, ¬Leaves root a.path)
    (hmade : files.makeDirectories (.ofPath root) = (start, none))
    (hrun : Pool.Run (.waiting start (contents root artifacts)) pool)
    (hdone : ∀ w ∈ pool.workers, w.stage = .finished) :
    Fills files pool.tree root (contents root artifacts) := by
  obtain ⟨hwritten, hkept⟩ := Pool.run_finished hrun hdone
  have hmakes := (FileTree.makeDirectories_makes hroot hmade).1
  -- Besides the places, the making of the root and the run of the workers only add directories.
  have hkept' (q : Path) (hq : q ∉ (contents root artifacts).map (·.1)) : pool.tree.get? q = files.get? q ∨
      files.get? q = none ∧ pool.tree.get? q = some .directory ∧
        (q <+: root ∨ ∃ e ∈ contents root artifacts, q <+: Path.parent e.1) := by
    rcases hkept q hq with hsame | ⟨hstart, hnow, hleads⟩
    · rw [hsame]
      exact (hmakes.get?_cases q).imp_right fun ⟨hfiles, hnow, hleads⟩ => ⟨hfiles, hnow, .inl hleads⟩
    · rcases hmakes.get?_cases q with hfiles | ⟨-, hnow', -⟩
      · exact .inr ⟨hfiles.symm.trans hstart, hnow, .inr hleads⟩
      · cases hnow'.symm.trans hstart
  refine ⟨?_, ?_, ?_, ?_⟩
  · intro hnodup e he
    obtain ⟨e', he', hsame, hfile⟩ := hwritten e he
    rw [hfile, List.inj_on_of_nodup_map hnodup he' he hsame]
  · intro q content hfile
    by_cases hq : q ∈ (contents root artifacts).map (·.1)
    · exact .inl hq
    · rcases hkept' q hq with hsame | ⟨-, hnow, -⟩
      · exact .inr (hsame.symm.trans hfile)
      · cases hnow.symm.trans hfile
  · intro q hq hexists
    exact (hkept' q hq).resolve_right fun ⟨hfiles, _⟩ => hexists hfiles
  · intro q hout hexists
    have hq : q ∉ (contents root artifacts).map (·.1) := by
      intro hmem
      obtain ⟨e, he, rfl⟩ := List.mem_map.mp hmem
      exact hout (of_mem_contents hstays he).1
    rcases hkept' q hq with hsame | ⟨hfiles, -, hleads | ⟨e, he, hleads⟩⟩
    · exact hsame
    · exact absurd hfiles (hexists hleads)
    · have hbelow := (of_mem_contents hstays he).1
      rcases List.prefix_or_prefix_of_prefix (hleads.trans (List.dropLast_prefix e.1)) hbelow with habove | hin
      · exact absurd hfiles (hexists habove)
      · exact absurd hin hout

theorem isFresh_of_makes (hstays : ∀ a ∈ artifacts, ¬Leaves root a.path) (hmakes : FileTree.Makes root files start)
    (h : Pool.IsFresh token files (contents root artifacts)) : Pool.IsFresh token start (contents root artifacts) := by
  intro e he
  refine ⟨?_, (h e he).2⟩
  rcases hmakes.get?_cases (FileTree.temporary token e.1) with hsame | ⟨-, -, hleads⟩
  · exact hsame.trans (h e he).1
  · exact absurd (hleads.trans (of_mem_contents hstays he).1) ((h e he).2 e he)

theorem write_fills (hdirectory : ".." ∉ directory) (hroot : Path.resolve directory output = root) {paths : List Path}
    (hfresh : Pool.IsFresh token files (contents root artifacts))
    (h : (write files token directory output artifacts).2 = .ok paths) :
    paths = artifacts.map (fun a => Path.resolve root a.path) ∧
      Fills files (write files token directory output artifacts).1 root (contents root artifacts) := by
  by_cases hnull : '\x00' ∈ output.toList
  · rw [write_of_null hnull] at h
    cases h
  · cases htargets : targets root artifacts with
    | error fault =>
      rw [write_of_error hnull hroot htargets] at h
      cases h
    | ok places =>
      obtain ⟨hstays, hplaces⟩ := targets_eq_ok htargets
      have hdots := hroot ▸ dots_notMem_resolve hdirectory output
      rw [write_of_targets hnull hroot htargets] at h ⊢
      cases hbelow : writeBelow files token root (contents root artifacts) with
      | mk after fault =>
        rw [hbelow] at h
        cases fault with
        | some fault => cases h
        | none =>
          cases h
          refine ⟨hplaces, ?_⟩
          unfold writeBelow at hbelow
          split at hbelow
          · cases hbelow
          · rename_i start hmade
            -- The run in which each worker takes all its steps before the next one starts.
            have hstart : Pool.Run (.waiting start (contents root artifacts))
                ⟨start, [] ++ (Pool.waiting start (contents root artifacts)).workers⟩ := .refl
            have hfresh' := isFresh_of_makes hstays (FileTree.makeDirectories_makes hdots hmade).1 hfresh
            have hplaced : ∀ e ∈ contents root artifacts, ".." ∉ e.1 := by
              intro e he
              obtain ⟨a, -, rfl⟩ := List.mem_map.mp he
              exact dots_notMem_resolve hdots a.path
            obtain ⟨workers, hrun, hdone⟩ := Pool.run_replaceFiles hstart (by simp) hfresh' hplaced hbelow
            exact fills_of_run hdots hstays hmade hrun hdone

/-- If an artifact leads out of the directory, writing a package fails and leaves the files as they are; the fault is
one of the output unless a null character comes first. Otherwise the artifacts are written, by workers in any order or
one after another, and nothing else changes but that directories are made for them. -/
theorem write_contained (files : FileTree) (token : String) {directory : Path} (output : String)
    (artifacts : List Artifact) (hdirectory : ".." ∉ directory) :
    let root := Path.resolve directory output
    let placed := contents root artifacts
    ((∃ a ∈ artifacts, Leaves root a.path) →
      ∃ fault, write files token directory output artifacts = (files, .error fault) ∧
        (fault = .malformed .nullInPath ∨ ∃ fault', fault = .output fault') ∧
        ((∃ fault', fault = .output fault') ↔ IsRefused directory output artifacts)) ∧
      ((∀ a ∈ artifacts, ¬Leaves root a.path) →
        (∀ start pool, files.makeDirectories (.ofPath root) = (start, none) → Pool.Run (.waiting start placed) pool →
          (∀ w ∈ pool.workers, w.stage = .finished) → Fills files pool.tree root placed) ∧
        ∀ paths, (write files token directory output artifacts).2 = .ok paths → Pool.IsFresh token files placed →
          paths = artifacts.map (fun a => Path.resolve root a.path) ∧
            Fills files (write files token directory output artifacts).1 root placed) := by
  intro root placed
  refine ⟨write_of_leaving, fun hstays => ⟨?_, ?_⟩⟩
  · intro start pool hmade hrun hdone
    exact fills_of_run (dots_notMem_resolve hdirectory output) hstays hmade hrun hdone
  · exact fun paths h hfresh => write_fills hdirectory rfl hfresh h

theorem write_contained_nested :
    ".." ∉ (["project"] : Path) ∧
      Fills ⟨[(["project"], .directory)]⟩
        (write ⟨[(["project"], .directory)]⟩ "a" ["project"] "sdk" [⟨"a.py", "x", []⟩, ⟨"b/../c/d.py", "y", []⟩]).1
        (Path.resolve ["project"] "sdk")
        (contents (Path.resolve ["project"] "sdk") [⟨"a.py", "x", []⟩, ⟨"b/../c/d.py", "y", []⟩]) := by
  have hdirectory : ".." ∉ (["project"] : Path) := by decide
  have hbelow : ∀ a ∈ ([⟨"a.py", "x", []⟩, ⟨"b/../c/d.py", "y", []⟩] : List Artifact),
      Path.isBelow (Path.resolve ["project"] "sdk") (Path.resolve (Path.resolve ["project"] "sdk") a.path) = true := by
    decide +kernel
  have hwritten : (write ⟨[(["project"], .directory)]⟩ "a" ["project"] "sdk"
      [⟨"a.py", "x", []⟩, ⟨"b/../c/d.py", "y", []⟩]).2 =
      .ok [["project", "sdk", "a.py"], ["project", "sdk", "c", "d.py"]] := by decide +kernel
  have hfresh : Pool.IsFresh "a" ⟨[(["project"], .directory)]⟩
      (contents (Path.resolve ["project"] "sdk") [⟨"a.py", "x", []⟩, ⟨"b/../c/d.py", "y", []⟩]) := by
    unfold Pool.IsFresh
    decide +kernel
  exact ⟨hdirectory, (((write_contained _ _ _ _ hdirectory).2 fun a ha => not_not.mpr (isBelow_iff.mp (hbelow a ha))).2
    _ hwritten hfresh).2⟩

theorem null_character_first :
    Leaves (Path.resolve ["project"] "sdk") "../evil" ∧
      (write ⟨[(["project"], .directory)]⟩ "a" ["project"] "sdk" [⟨"a\x00b", "x", []⟩, ⟨"../evil", "y", []⟩]).2 =
        .error (.malformed .nullInPath) := by
  have hbelow : Path.isBelow (Path.resolve ["project"] "sdk")
      (Path.resolve (Path.resolve ["project"] "sdk") "../evil") = false := by decide +kernel
  refine ⟨fun h => ?_, by decide +kernel⟩
  rw [isBelow_iff.mpr h] at hbelow
  cases hbelow

end Filling

end ClientForge.Package
