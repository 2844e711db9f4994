import ClientForge.Files.Tree
import Mathlib.Logic.Relation

namespace ClientForge.FileTree

variable {t t' : FileTree} {p q d : Path} {entry entry' : FileEntry} {content : List UInt8}

theorem put_put (entries : List (Path × FileEntry)) :
    put p entry' (put p entry entries) = put p entry' entries := by
  induction entries with
  | nil => exact if_pos rfl
  | cons e rest ih =>
    by_cases he : p = e.1
    · simp [put, he]
    · simp [put, he, ih]

theorem set_set : (t.set p entry).set p entry' = t.set p entry' := congrArg FileTree.mk (put_put t.entries)

theorem get?_nil (t : FileTree) : t.get? [] = some .directory := rfl

theorem ne_nil_of_get?_ne (h : t.get? p ≠ some .directory) : p ≠ [] := by
  rintro rfl
  exact h (get?_nil t)

theorem get?_set_of_ne (t : FileTree) (p q : Path) (entry : FileEntry) (h : t.get? p ≠ some .directory) :
    (t.set p entry).get? q = if q = p then some entry else t.get? q :=
  get?_set t p q entry (ne_nil_of_get?_ne h)

def MakesOne (d : Path) (t t' : FileTree) : Prop :=
  ∃ q : Path, q <+: d ∧ t.get? q = none ∧ t.isDirectory (Path.parent q) = true ∧ t' = t.set q .directory

abbrev Makes (d : Path) : FileTree → FileTree → Prop := Relation.ReflTransGen (MakesOne d)

theorem Makes.get?_cases (h : Makes d t t') (q : Path) :
    t'.get? q = t.get? q ∨ t.get? q = none ∧ t'.get? q = some .directory ∧ q <+: d := by
  induction h with
  | refl => exact .inl rfl
  | tail _ hstep ih =>
    obtain ⟨made, hmade, hnew, -, rfl⟩ := hstep
    rw [get?_set_of_ne _ _ _ _ (by simp [hnew])]
    split
    · rename_i heq
      rw [← heq] at hnew hmade
      rcases ih with h | ⟨-, h, -⟩
      · exact .inr ⟨h.symm.trans hnew, rfl, hmade⟩
      · cases h.symm.trans hnew
    · exact ih

theorem isDirectory_iff : t.isDirectory p = true ↔ t.get? p = some .directory := decide_eq_true_iff

theorem step_eq {name : String} (h : name ≠ "..") : Path.step p name = p ++ [name] := if_neg h

theorem of_way_found {p : Path} {names : List String} (hnames : ".." ∉ names) (h : t.way p names = .found q) :
    q = p ++ names := by
  induction names generalizing p with
  | nil =>
    cases h
    exact (List.append_nil _).symm
  | cons name names ih =>
    rw [List.mem_cons, not_or] at hnames
    rw [way, step_eq (Ne.symm hnames.1)] at h
    split at h
    · cases h
    · split at h
      · cases h
      · split at h
        · cases h
        · rw [ih hnames.2 h, List.append_assoc, List.singleton_append]

theorem of_way_missing {p : Path} {names rest : List String} (hnames : ".." ∉ names)
    (h : t.way p names = .missing q rest) : q ++ rest = p ++ names ∧ ".." ∉ rest ∧ t.isDirectory q = true := by
  induction names generalizing p with
  | nil => cases h
  | cons name names ih =>
    have htail : ".." ∉ names := fun hmem => hnames (List.mem_cons_of_mem _ hmem)
    have hname : name ≠ ".." := fun heq => hnames (heq ▸ List.mem_cons_self)
    rw [way, step_eq hname] at h
    split at h
    · cases h
    · rename_i hdirectory
      split at h
      · cases h
      · split at h
        · cases h
          exact ⟨rfl, hnames, by simpa using hdirectory⟩
        · obtain ⟨heq, hrest⟩ := ih htail h
          exact ⟨by rw [heq, List.append_assoc, List.singleton_append], hrest⟩

theorem makeBelow_makes {l : Location} {before names : List String} (hnames : ".." ∉ names)
    (hp : t.isDirectory p = true) (h : t.makeBelow l before p names = (t', none)) :
    Makes (p ++ names) t t' ∧ t'.isDirectory (p ++ names) = true := by
  induction names generalizing t before p with
  | nil =>
    cases h
    rw [List.append_nil]
    exact ⟨.refl, hp⟩
  | cons name names ih =>
    rw [List.mem_cons, not_or] at hnames
    have hnext : p ++ name :: names = (p ++ [name]) ++ names := by rw [List.append_assoc, List.singleton_append]
    unfold makeBelow at h
    dsimp only at h
    rw [step_eq (Ne.symm hnames.1)] at h
    rw [hnext]
    split at h
    · cases h
    · split at h
      · cases h
      · rename_i hdirectory
        exact ih hnames.2 (isDirectory_iff.mpr hdirectory) h
      · rename_i hnew
        have hmade : (t.set (p ++ [name]) .directory).isDirectory (p ++ [name]) = true := by
          rw [isDirectory_iff, get?_set _ _ _ _ (by simp), if_pos rfl]
        obtain ⟨hmakes, hdirectory⟩ := ih hnames.2 hmade h
        refine ⟨.head ⟨p ++ [name], List.prefix_append _ _, hnew, ?_, rfl⟩ hmakes, hdirectory⟩
        rw [Path.parent, List.dropLast_concat]
        exact hp

theorem makeDirectories_makes (hd : ".." ∉ d) (h : t.makeDirectories (.ofPath d) = (t', none)) :
    Makes d t t' ∧ t'.isDirectory d = true := by
  unfold makeDirectories at h
  split at h
  · cases h
  · split at h
    · rename_i q hway
      have hq : q = d := of_way_found hd hway
      split at h
      · rename_i hdirectory
        cases h
        exact ⟨.refl, hq ▸ hdirectory⟩
      · cases h
    · cases h
    · cases h
    · rename_i q rest hway
      obtain ⟨heq, hrest, hdirectory⟩ := of_way_missing hd hway
      split at h
      · cases h
      · have hmakes := makeBelow_makes hrest hdirectory h
        rwa [show q ++ rest = d from heq] at hmakes

theorem get?_of_move (hsource : t.get? p = some (.file content)) (h : t.move p q = .ok t') (r : Path) :
    t'.get? r = if r = q then some (.file content) else if r = p then none else t.get? r := by
  have hp : p ≠ [] := ne_nil_of_get?_ne fun hdirectory => by cases hsource.symm.trans hdirectory
  have hmoved : t.get? q ≠ some .directory ∧ t' = (t.remove p).set q (.file content) := by
    unfold move at h
    rw [hsource] at h
    split at h
    · cases h
    · rename_i heq hnot
      cases heq
      exact ⟨hnot, (Except.ok.inj h).symm⟩
    · cases ‹some _ = none›
  rw [hmoved.2, get?_set _ _ _ _ (ne_nil_of_get?_ne hmoved.1)]
  by_cases hr : r = []
  · rw [hr, if_neg (Ne.symm hp)]
    rfl
  · rw [get?_remove _ _ _ hr]

end ClientForge.FileTree
