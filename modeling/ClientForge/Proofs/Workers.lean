import ClientForge.Proofs.FileTrees
import Mathlib.Data.List.Nodup
import Mathlib.Data.List.Perm.Basic

/-!
Workers that put files into their places at the same time. Each makes the directories that are missing, fills a new file
beside the place of its own and moves it there. Whatever the order of their steps, when all of them have finished, each
file has the content that a worker has for it, and beside these files nothing is new but directories above them.
-/

namespace ClientForge

inductive Stage
  | waiting
  | opened (temp : Path)
  | filled (temp : Path)
  | finished

structure Worker where
  target : Path
  content : List UInt8
  stage : Stage

namespace Worker

def temp? (w : Worker) : Option Path :=
  match w.stage with
  | .opened temp => some temp
  | .filled temp => some temp
  | _ => none

/-- What one worker does next. A new file is made where nothing is, at a path that leads to no worker's place. -/
inductive Step (targets : List Path) : FileTree → Worker → FileTree → Worker → Prop
  | make {t p content} {q : Path} (hq : q <+: Path.parent p) (hnew : t.get? q = none)
      (hparent : t.isDirectory (Path.parent q) = true) :
      Step targets t ⟨p, content, .waiting⟩ (t.set q .directory) ⟨p, content, .waiting⟩
  | create {t p content} {temp : Path} (hbeside : Path.parent temp = Path.parent p)
      (hparent : t.isDirectory (Path.parent p) = true) (hnew : t.get? temp = none)
      (hfree : ∀ target ∈ targets, ¬temp <+: target) :
      Step targets t ⟨p, content, .waiting⟩ (t.set temp (.file [])) ⟨p, content, .opened temp⟩
  | fill {t p content temp} :
      Step targets t ⟨p, content, .opened temp⟩ (t.set temp (.file content)) ⟨p, content, .filled temp⟩
  | move {t t' p content temp} (hmoved : t.move temp p = .ok t') :
      Step targets t ⟨p, content, .filled temp⟩ t' ⟨p, content, .finished⟩

def Holds (w : Worker) (p : Path) : Prop := w.temp? = some p ∨ w.stage = .finished ∧ w.target = p

/-- What a step does to the files that are shared: the worker has one file and leaves the one it had, and beside it
nothing changes but that a directory may be new on the way to its place. -/
structure Advances (targets : List Path) (t : FileTree) (w : Worker) (t' : FileTree) (w' : Worker) : Prop where
  unfinished : w.stage ≠ .finished
  target : w'.target = w.target
  opened : ∀ temp, w'.temp? = some temp → (∃ content, t'.get? temp = some (.file content)) ∧
    (w.temp? = some temp ∨ t.get? temp = none ∧ ∀ p ∈ targets, ¬temp <+: p)
  filled : ∀ temp, w'.stage = .filled temp → t'.get? temp = some (.file w'.content)
  finished : w'.stage = .finished → t'.get? w'.target = some (.file w'.content)
  left : ∀ p, w.Holds p → ¬w'.Holds p → t'.get? p = none
  others : ∀ p, ¬w.Holds p → ¬w'.Holds p → t'.get? p = t.get? p ∨
    t.get? p = none ∧ t'.get? p = some .directory ∧ p <+: Path.parent w.target

theorem Advances.file {targets : List Path} {t t' : FileTree} {w w' : Worker} {p : Path} {content : List UInt8}
    (h : w.Advances targets t t' w') (hw : ¬w.Holds p) (hw' : ¬w'.Holds p) (hp : t.get? p = some (.file content)) :
    t'.get? p = some (.file content) := by
  rcases h.others p hw hw' with hsame | ⟨hnew, -⟩
  · exact hsame.trans hp
  · cases hnew.symm.trans hp

theorem temp?_of_filled {w : Worker} {temp : Path} (h : w.stage = .filled temp) : w.temp? = some temp := by
  rw [temp?, h]

theorem Step.advances {targets : List Path} {t t' : FileTree} {w w' : Worker} (h : w.Step targets t t' w')
    (hopened : ∀ temp, w.temp? = some temp → ∃ content, t.get? temp = some (.file content))
    (hfilled : ∀ temp, w.stage = .filled temp → t.get? temp = some (.file w.content)) :
    w.Advances targets t t' w' := by
  cases h with
  | @make p content q hq hnew hparent =>
    have hget (r : Path) := FileTree.get?_set_of_ne t q r .directory (by simp [hnew])
    refine ⟨nofun, rfl, nofun, nofun, nofun, fun r hr hr' => absurd hr hr', fun r _ _ => ?_⟩
    rw [hget]
    split
    · rename_i heq
      exact .inr ⟨heq ▸ hnew, rfl, heq ▸ hq⟩
    · exact .inl rfl
  | @create p content temp hbeside hparent hnew hfree =>
    have hget (r : Path) := FileTree.get?_set_of_ne t temp r (.file []) (by simp [hnew])
    refine ⟨nofun, rfl, ?_, nofun, nofun, ?_, ?_⟩
    · rintro _ ⟨⟩
      exact ⟨⟨[], by rw [hget, if_pos rfl]⟩, .inr ⟨hnew, hfree⟩⟩
    · rintro r (⟨⟨⟩⟩ | ⟨⟨⟩, -⟩)
    · intro r _ hr
      rw [hget, if_neg fun heq => hr (.inl (congrArg some heq.symm))]
      exact .inl rfl
  | @fill p content temp =>
    obtain ⟨before, hbefore⟩ := hopened temp rfl
    have hget (r : Path) := FileTree.get?_set_of_ne t temp r (.file content) (by simp [hbefore])
    refine ⟨nofun, rfl, ?_, ?_, nofun, ?_, ?_⟩
    · rintro _ ⟨⟩
      exact ⟨⟨content, by rw [hget, if_pos rfl]⟩, .inl rfl⟩
    · rintro _ ⟨⟩
      rw [hget, if_pos rfl]
    · rintro r (⟨⟨⟩⟩ | ⟨⟨⟩, -⟩) hr
      exact absurd (.inl rfl) hr
    · intro r _ hr
      rw [hget, if_neg fun heq => hr (.inl (congrArg some heq.symm))]
      exact .inl rfl
  | @move t' p content temp hmoved =>
    have hget (r : Path) := FileTree.get?_of_move (hfilled temp rfl) hmoved r
    refine ⟨nofun, rfl, nofun, nofun, fun _ => by rw [hget, if_pos rfl], ?_, ?_⟩
    · rintro r (⟨⟨⟩⟩ | ⟨⟨⟩, -⟩) hr
      rw [hget, if_neg fun heq => hr (.inr ⟨rfl, heq.symm⟩), if_pos rfl]
    · intro r hr hr'
      rw [hget, if_neg fun heq => hr' (.inr ⟨rfl, heq.symm⟩), if_neg fun heq => hr (.inl (congrArg some heq.symm))]
      exact .inl rfl

end Worker

structure Pool where
  tree : FileTree
  workers : List Worker

namespace Pool

def targets (pool : Pool) : List Path := pool.workers.map (·.target)

def contents (pool : Pool) : List (Path × List UInt8) := pool.workers.map fun w => (w.target, w.content)

inductive Step : Pool → Pool → Prop
  | mk {before after : List Worker} {w w' : Worker} {t t' : FileTree}
      (h : w.Step (targets ⟨t, before ++ w :: after⟩) t t' w') :
      Step ⟨t, before ++ w :: after⟩ ⟨t', before ++ w' :: after⟩

abbrev Run : Pool → Pool → Prop := Relation.ReflTransGen Step

def waiting (t : FileTree) (contents : List (Path × List UInt8)) : Pool :=
  ⟨t, contents.map fun e => ⟨e.1, e.2, .waiting⟩⟩

/-- A path is as it was at the start, or it was missing and is now a directory on the way to the place of a worker. -/
def Keeps (start : FileTree) (pool : Pool) (q : Path) : Prop :=
  pool.tree.get? q = start.get? q ∨
    start.get? q = none ∧ pool.tree.get? q = some .directory ∧ ∃ p ∈ pool.targets, q <+: Path.parent p

structure IsSound (start : FileTree) (pool : Pool) : Prop where
  temps_nodup : (pool.workers.filterMap Worker.temp?).Nodup
  temps_new : ∀ w ∈ pool.workers, ∀ temp, w.temp? = some temp →
    start.get? temp = none ∧ (∀ p ∈ pool.targets, ¬temp <+: p) ∧ ∃ content, pool.tree.get? temp = some (.file content)
  filled : ∀ w ∈ pool.workers, ∀ temp, w.stage = .filled temp → pool.tree.get? temp = some (.file w.content)
  kept : ∀ q, (∀ w ∈ pool.workers, ¬w.Holds q) → pool.Keeps start q
  finished : ∀ w ∈ pool.workers, w.stage = .finished → ∃ v ∈ pool.workers, v.stage = .finished ∧ v.target = w.target ∧
    pool.tree.get? w.target = some (.file v.content)

variable {start t t' : FileTree} {workers others : List Worker} {w w' : Worker} {p q : Path} {content : List UInt8}

namespace IsSound

theorem perm (h : IsSound start ⟨t, workers⟩) (hperm : workers.Perm others) : IsSound start ⟨t, others⟩ := by
  have htargets (p : Path) : p ∈ targets ⟨t, workers⟩ ↔ p ∈ targets ⟨t, others⟩ := (hperm.map _).mem_iff
  refine ⟨(hperm.filterMap _).nodup_iff.mp h.temps_nodup, ?_, ?_, ?_, ?_⟩
  · intro w hw temp htemp
    obtain ⟨hstart, hfree, hfile⟩ := h.temps_new w (hperm.mem_iff.mpr hw) temp htemp
    exact ⟨hstart, fun p hp => hfree p ((htargets p).mpr hp), hfile⟩
  · exact fun w hw => h.filled w (hperm.mem_iff.mpr hw)
  · intro q hq
    refine (h.kept q fun w hw => hq w (hperm.mem_iff.mp hw)).imp_right ?_
    rintro ⟨hstart, hnow, p, hp, hleads⟩
    exact ⟨hstart, hnow, p, (htargets p).mp hp, hleads⟩
  · intro w hw hstage
    obtain ⟨v, hv, hrest⟩ := h.finished w (hperm.mem_iff.mpr hw) hstage
    exact ⟨v, hperm.mem_iff.mp hv, hrest⟩

theorem start_missing (h : IsSound start ⟨t, workers⟩) (hnew : t.get? q = none) : start.get? q = none := by
  have hkept := h.kept q fun w hw => by
    rintro (htemp | ⟨hstage, rfl⟩)
    · obtain ⟨-, -, content, hfile⟩ := h.temps_new w hw q htemp
      cases hfile.symm.trans hnew
    · obtain ⟨v, -, -, -, hfile⟩ := h.finished w hw hstage
      cases hfile.symm.trans hnew
  rcases hkept with hsame | ⟨hstart, -⟩
  · exact hsame.symm.trans hnew
  · exact hstart

section Advance

variable {v : Worker} {temp : Path}

theorem targets_advance (hstep : w.Advances (targets ⟨t, w :: others⟩) t t' w') :
    targets ⟨t', w' :: others⟩ = targets ⟨t, w :: others⟩ := by
  rw [targets, targets, List.map_cons, List.map_cons, hstep.target]

theorem temp_new (h : IsSound start ⟨t, w :: others⟩) (hstep : w.Advances (targets ⟨t, w :: others⟩) t t' w')
    (hown : w'.temp? = some temp) :
    start.get? temp = none ∧ ∀ p ∈ targets ⟨t, w :: others⟩, ¬temp <+: p := by
  rcases (hstep.opened temp hown).2 with hold | ⟨hmissing, hfree⟩
  · obtain ⟨hstart, hfree, -⟩ := h.temps_new w List.mem_cons_self temp hold
    exact ⟨hstart, hfree⟩
  · exact ⟨h.start_missing hmissing, hfree⟩

theorem apart (h : IsSound start ⟨t, w :: others⟩) (hstep : w.Advances (targets ⟨t, w :: others⟩) t t' w')
    (hv : v ∈ others) (hown : v.temp? = some temp) : ¬w.Holds temp ∧ ¬w'.Holds temp := by
  obtain ⟨-, hfree, content, hcontent⟩ := h.temps_new v (List.mem_cons_of_mem _ hv) temp hown
  have hne : w.temp? ≠ some temp := by
    intro heq
    have hnodup := h.temps_nodup
    rw [List.filterMap_cons_some heq] at hnodup
    exact (List.nodup_cons.mp hnodup).1 (List.mem_filterMap.mpr ⟨v, hv, hown⟩)
  constructor
  · rintro (heq | ⟨hdone, -⟩)
    · exact hne heq
    · exact hstep.unfinished hdone
  · rintro (heq | ⟨-, rfl⟩)
    · rcases (hstep.opened temp heq).2 with hold | ⟨hmissing, -⟩
      · exact hne hold
      · cases hmissing.symm.trans hcontent
    · exact hfree _ (targets_advance hstep ▸ List.mem_cons_self) List.prefix_rfl

theorem place_apart (h : IsSound start ⟨t, w :: others⟩) (hstep : w.Advances (targets ⟨t, w :: others⟩) t t' w')
    (hv : v ∈ others) (hother : ¬(w'.stage = .finished ∧ w'.target = v.target)) :
    ¬w.Holds v.target ∧ ¬w'.Holds v.target := by
  have hplace : v.target ∈ targets ⟨t, w :: others⟩ := List.mem_map_of_mem (List.mem_cons_of_mem _ hv)
  constructor
  · rintro (heq | ⟨hdone, -⟩)
    · exact (h.temps_new w List.mem_cons_self _ heq).2.1 _ hplace List.prefix_rfl
    · exact hstep.unfinished hdone
  · rintro (heq | hown)
    · exact (h.temp_new hstep heq).2 _ hplace List.prefix_rfl
    · exact hother hown

theorem advance (h : IsSound start ⟨t, w :: others⟩) (hstep : w.Advances (targets ⟨t, w :: others⟩) t t' w') :
    IsSound start ⟨t', w' :: others⟩ := by
  -- Each part holds of the worker that moves on by what its step does, and of the others since theirs is apart from it.
  refine ⟨?_, ?_, ?_, ?_, ?_⟩
  · have hothers := h.temps_nodup.sublist ((List.sublist_cons_self w others).filterMap _)
    cases hown : w'.temp? with
    | none => rwa [List.filterMap_cons_none hown]
    | some temp =>
      rw [List.filterMap_cons_some hown]
      refine List.nodup_cons.mpr ⟨fun hmem => ?_, hothers⟩
      obtain ⟨v, hv, heq⟩ := List.mem_filterMap.mp hmem
      exact (h.apart hstep hv heq).2 (.inl hown)
  · rw [targets_advance hstep]
    refine List.forall_mem_cons.mpr ⟨fun temp hown => ?_, fun v hv temp hown => ?_⟩
    · obtain ⟨hstart, hfree⟩ := h.temp_new hstep hown
      exact ⟨hstart, hfree, (hstep.opened temp hown).1⟩
    · obtain ⟨hstart, hfree, content, hcontent⟩ := h.temps_new v (List.mem_cons_of_mem _ hv) temp hown
      obtain ⟨hw, hw'⟩ := h.apart hstep hv hown
      exact ⟨hstart, hfree, content, hstep.file hw hw' hcontent⟩
  · refine List.forall_mem_cons.mpr ⟨hstep.filled, fun v hv temp hstage => ?_⟩
    obtain ⟨hw, hw'⟩ := h.apart hstep hv (Worker.temp?_of_filled hstage)
    exact hstep.file hw hw' (h.filled v (List.mem_cons_of_mem _ hv) temp hstage)
  · intro q hq
    obtain ⟨hw', hothers⟩ := List.forall_mem_cons.mp hq
    rw [Keeps, targets_advance hstep]
    by_cases hw : w.Holds q
    · have hown : w.temp? = some q := hw.resolve_right fun hdone => hstep.unfinished hdone.1
      obtain ⟨hstart, -⟩ := h.temps_new w List.mem_cons_self q hown
      exact .inl ((hstep.left q hw hw').trans hstart.symm)
    · rcases hstep.others q hw hw' with hsame | ⟨hmissing, hnow, hleads⟩
      · dsimp only
        rw [hsame]
        exact h.kept q (List.forall_mem_cons.mpr ⟨hw, hothers⟩)
      · exact .inr ⟨h.start_missing hmissing, hnow, w.target, List.mem_cons_self, hleads⟩
  · intro v hv hdone
    by_cases hown : w'.stage = .finished ∧ w'.target = v.target
    · exact ⟨w', List.mem_cons_self, hown.1, hown.2, hown.2 ▸ hstep.finished hown.1⟩
    · have hv := (List.mem_cons.mp hv).resolve_left fun heq => hown ⟨heq ▸ hdone, heq ▸ rfl⟩
      obtain ⟨u, hu, hdone', htarget, hcontent⟩ := h.finished v (List.mem_cons_of_mem _ hv) hdone
      have hu := (List.mem_cons.mp hu).resolve_left fun heq => hstep.unfinished (heq ▸ hdone')
      obtain ⟨hw, hw'⟩ := h.place_apart hstep hv hown
      exact ⟨u, List.mem_cons_of_mem _ hu, hdone', htarget, hstep.file hw hw' hcontent⟩

end Advance

theorem step {pool pool' : Pool} (h : IsSound start pool) (hstep : Step pool pool') : IsSound start pool' := by
  cases hstep with
  | @mk before after w w' t t' hstep =>
    have hperm (v : Worker) : (before ++ v :: after).Perm (v :: (before ++ after)) := List.perm_middle
    -- The order of the workers does not matter, so the one that moves on may be the first.
    have hhead := h.perm (hperm w)
    refine IsSound.perm (hhead.advance ?_) (hperm w').symm
    have hadvances := hstep.advances (fun temp hown => (hhead.temps_new w List.mem_cons_self temp hown).2.2)
      (hhead.filled w List.mem_cons_self)
    refine { hadvances with opened := fun temp hown => (hadvances.opened temp hown).imp_right ?_ }
    exact Or.imp_right (And.imp_right fun hfree p hp => hfree p (((hperm w).map _).mem_iff.mpr hp))

theorem missing_of_idle {pool : Pool} (h : IsSound start pool) (hidle : ∀ w ∈ pool.workers, w.temp? = none)
    (hstart : start.get? q = none) (hfree : ∀ p ∈ pool.targets, ¬q <+: p) : pool.tree.get? q = none := by
  have hkept := h.kept q fun w hw => by
    rintro (htemp | ⟨-, rfl⟩)
    · cases (hidle w hw).symm.trans htemp
    · exact hfree _ (List.mem_map_of_mem hw) List.prefix_rfl
  rcases hkept with hsame | ⟨-, -, p, hp, hleads⟩
  · exact hsame.trans hstart
  · exact absurd (hleads.trans (List.dropLast_prefix p)) (hfree p hp)

theorem run {pool pool' : Pool} (h : IsSound start pool) (hrun : Run pool pool') : IsSound start pool' := by
  induction hrun with
  | refl => exact h
  | tail _ hstep ih => exact ih.step hstep

end IsSound

theorem isSound_waiting (t : FileTree) (contents : List (Path × List UInt8)) : IsSound t (waiting t contents) := by
  have hstage : ∀ w ∈ (waiting t contents).workers, w.stage = .waiting := by
    intro w hw
    obtain ⟨e, -, rfl⟩ := List.mem_map.mp hw
    rfl
  have htemp : ∀ w ∈ (waiting t contents).workers, w.temp? = none := fun w hw => by rw [Worker.temp?, hstage w hw]
  refine ⟨?_, ?_, ?_, ?_, ?_⟩
  · rw [List.filterMap_eq_nil_iff.mpr htemp]
    exact List.nodup_nil
  · intro w hw temp h
    cases (htemp w hw).symm.trans h
  · intro w hw temp h
    cases (hstage w hw).symm.trans h
  · exact fun q _ => .inl rfl
  · intro w hw h
    cases (hstage w hw).symm.trans h

theorem contents_step {pool pool' : Pool} (h : Step pool pool') : pool'.contents = pool.contents := by
  cases h with
  | mk hstep =>
    have hsame : ∀ {w w' : Worker} {t t' : FileTree} {targets : List Path}, w.Step targets t t' w' →
        (w'.target, w'.content) = (w.target, w.content) := by
      intro w w' t t' targets h
      cases h <;> rfl
    simp only [contents, List.map_append, List.map_cons, hsame hstep]

theorem contents_run {pool pool' : Pool} (h : Run pool pool') : pool'.contents = pool.contents := by
  induction h with
  | refl => rfl
  | tail _ hstep ih => exact (contents_step hstep).trans ih

theorem contents_waiting (t : FileTree) (contents : List (Path × List UInt8)) :
    (waiting t contents).contents = contents := by
  simp [waiting, Pool.contents, Function.comp_def]

theorem mem_contents_of_run {pool : Pool} {contents : List (Path × List UInt8)} (h : Run (waiting start contents) pool)
    (hw : w ∈ pool.workers) : (w.target, w.content) ∈ contents := by
  rw [← (contents_run h).trans (contents_waiting start contents)]
  exact List.mem_map_of_mem hw

theorem run_finished {pool : Pool} {contents : List (Path × List UInt8)} (hrun : Run (waiting t contents) pool)
    (hdone : ∀ w ∈ pool.workers, w.stage = .finished) :
    (∀ e ∈ contents, ∃ e' ∈ contents, e'.1 = e.1 ∧ pool.tree.get? e.1 = some (.file e'.2)) ∧
      ∀ q, q ∉ contents.map (·.1) → pool.tree.get? q = t.get? q ∨
        t.get? q = none ∧ pool.tree.get? q = some .directory ∧ ∃ e ∈ contents, q <+: Path.parent e.1 := by
  have hsound := (isSound_waiting t contents).run hrun
  have hcontents : pool.workers.map (fun w => (w.target, w.content)) = contents :=
    (contents_run hrun).trans (contents_waiting t contents)
  have htargets : pool.targets = contents.map (·.1) := by
    rw [← hcontents, List.map_map]
    rfl
  constructor
  · intro e he
    obtain ⟨w, hw, rfl⟩ := List.mem_map.mp (hcontents ▸ he)
    obtain ⟨v, hv, -, htarget, hfile⟩ := hsound.finished w hw (hdone w hw)
    exact ⟨(v.target, v.content), hcontents ▸ List.mem_map_of_mem hv, htarget, hfile⟩
  · intro q hq
    rw [← htargets] at hq
    have hkept := hsound.kept q fun w hw => by
      rintro (heq | ⟨-, rfl⟩)
      · rw [Worker.temp?, hdone w hw] at heq
        cases heq
      · exact hq (List.mem_map_of_mem hw)
    refine hkept.imp_right ?_
    rintro ⟨hstart, hnow, p, hp, hleads⟩
    obtain ⟨e, he, rfl⟩ := List.mem_map.mp (htargets ▸ hp)
    exact ⟨hstart, hnow, e, he, hleads⟩

section Sequence

variable {before after : List Worker} {token : String} {root : Path}

theorem run_makes (h : FileTree.Makes (Path.parent p) t t') :
    Run ⟨t, before ++ ⟨p, content, .waiting⟩ :: after⟩ ⟨t', before ++ ⟨p, content, .waiting⟩ :: after⟩ := by
  refine Relation.ReflTransGen.lift (fun t => Pool.mk t (before ++ ⟨p, content, .waiting⟩ :: after)) ?_ _ _ h
  rintro t t' ⟨q, hq, hnew, hparent, rfl⟩
  exact .mk (.make hq hnew hparent)

theorem run_replaceFile (h : t.replaceFile token p content = (t', none)) (hp : ".." ∉ p)
    (hnew : t.get? (FileTree.temporary token p) = none)
    (hfree : ∀ q ∈ targets ⟨t, before ++ ⟨p, content, .waiting⟩ :: after⟩, ¬FileTree.temporary token p <+: q) :
    Run ⟨t, before ++ ⟨p, content, .waiting⟩ :: after⟩ ⟨t', before ++ ⟨p, content, .finished⟩ :: after⟩ := by
  have hbeside : Path.parent (FileTree.temporary token p) = Path.parent p := List.dropLast_concat
  have hself : p ∈ targets ⟨t, before ++ ⟨p, content, .waiting⟩ :: after⟩ :=
    List.mem_map.mpr ⟨_, List.mem_append_right _ List.mem_cons_self, rfl⟩
  unfold FileTree.replaceFile at h
  split at h
  · cases h
  · rename_i t₁ hmakes
    obtain ⟨hmade, hparent⟩ := FileTree.makeDirectories_makes (fun hmem => hp (List.dropLast_subset p hmem)) hmakes
    have hnew₁ : t₁.get? (FileTree.temporary token p) = none := by
      rcases hmade.get?_cases (FileTree.temporary token p) with hsame | ⟨-, -, hleads⟩
      · exact hsame.trans hnew
      · exact absurd (hleads.trans (List.dropLast_prefix p)) (hfree p hself)
    dsimp only at h
    split at h
    · cases h
    · split at h
      · rename_i t₂ hmoved
        cases h
        refine (run_makes hmade).trans ?_
        refine .head (.mk (.create hbeside hparent hnew₁ hfree)) ?_
        refine .head (.mk .fill) ?_
        rw [FileTree.set_set]
        exact .single (.mk (.move hmoved))
      · cases h

def IsFresh (token : String) (t : FileTree) (contents : List (Path × List UInt8)) : Prop :=
  ∀ e ∈ contents, t.get? (FileTree.temporary token e.1) = none ∧
    ∀ e' ∈ contents, ¬FileTree.temporary token e.1 <+: e'.1

theorem run_replaceFiles {contents rest : List (Path × List UInt8)} {done : List Worker}
    (hrun : Run (waiting start contents) ⟨t, done ++ (waiting t rest).workers⟩)
    (hdone : ∀ w ∈ done, w.stage = .finished) (hfresh : IsFresh token start contents)
    (hdots : ∀ e ∈ contents, ".." ∉ e.1) (h : t.replaceFiles token rest = (t', none)) :
    ∃ workers, Run (waiting start contents) ⟨t', workers⟩ ∧ ∀ w ∈ workers, w.stage = .finished := by
  induction rest generalizing t done with
  | nil =>
    cases h
    exact ⟨done ++ [], hrun, by simpa using hdone⟩
  | cons e rest ih =>
    obtain ⟨p, content⟩ := e
    unfold FileTree.replaceFiles at h
    split at h
    · rename_i t₁ hreplace
      have hmem : (p, content) ∈ contents :=
        mem_contents_of_run (w := ⟨p, content, .waiting⟩) hrun (List.mem_append_right _ List.mem_cons_self)
      have hfree : ∀ q ∈ targets ⟨t, done ++ (waiting t ((p, content) :: rest)).workers⟩,
          ¬FileTree.temporary token p <+: q := by
        intro q hq
        obtain ⟨w, hw, rfl⟩ := List.mem_map.mp hq
        exact (hfresh _ hmem).2 _ (mem_contents_of_run hrun hw)
      have hidle : ∀ w ∈ done ++ (waiting t ((p, content) :: rest)).workers, w.temp? = none := by
        refine List.forall_mem_append.mpr ⟨fun w hw => ?_, List.forall_mem_map.mpr fun _ _ => rfl⟩
        rw [Worker.temp?, hdone w hw]
      have hnew := ((isSound_waiting start contents).run hrun).missing_of_idle hidle (hfresh _ hmem).1 hfree
      have hnext : Run (waiting start contents)
          ⟨t₁, (done ++ [⟨p, content, .finished⟩]) ++ (waiting t₁ rest).workers⟩ := by
        rw [List.append_assoc]
        exact hrun.trans (run_replaceFile hreplace (hdots _ hmem) hnew hfree)
      exact ih hnext (List.forall_mem_append.mpr ⟨hdone, List.forall_mem_singleton.mpr rfl⟩) h
    · cases h

end Sequence

end Pool

end ClientForge
