import ClientForge.Command.Line
import ClientForge.Options.Resolution
import ClientForge.Proofs.JsonValues
import Mathlib.Data.List.SplitBy

namespace ClientForge

open Outcome

namespace Layer

def IsTyped (l : Layer) : Prop := ∀ e ∈ l, (e.1 = .jobs ∧ ∃ n, e.2 = .int n) ∨ (e.1 ≠ .jobs ∧ ∃ s, e.2 = .text s)

theorem isTyped_of_line {line : Line} {l : Layer} (h : line.layer = .ok l) : l.IsTyped := by
  obtain ⟨l', hl', h⟩ := bind_eq_ok.mp h
  have hl : l' = l := by
    split at h
    · exact pure_eq_ok.mp h
    · cases h
  intro e he
  obtain ⟨⟨s, text⟩, -, hmade⟩ := exists_of_mem_mapM hl' (hl ▸ he)
  obtain ⟨d, hd, rfl⟩ := map_eq_ok.mp hmade
  unfold Line.settingValue at hd
  split at hd
  · rename_i hs
    split at hd
    · cases hd
      exact .inl ⟨hs, _, rfl⟩
    · cases hd
  · rename_i hs
    cases hd
    exact .inr ⟨hs, _, rfl⟩

variable {l : Layer} {s : Setting} {d : Json.Value}

theorem get?_typed (hl : l.IsTyped) (h : l.get? s = some d) :
    (s = .jobs ∧ ∃ n, d = .int n) ∨ (s ≠ .jobs ∧ ∃ t, d = .text t) := by
  obtain ⟨e, he, hd⟩ := Option.bind_eq_some_iff.mp h
  have hs : e.1 = s := by simpa using List.find?_some he
  split at hd
  · cases hd
  · cases hd
    exact hs ▸ hl e (List.mem_of_find?_eq_some he)

theorem get?_filterMap (f : Setting → Option Json.Value) (s : Setting) :
    get? (Setting.all.filterMap fun s => (f s).map (s, ·)) s = (f s).filter (!·.isNull) := by
  have hfind (settings : List Setting) (hs : s ∈ settings ∨ f s = none) :
      (settings.filterMap fun s => (f s).map (s, ·)).find? (·.1 = s) = (f s).map (s, ·) := by
    induction settings with
    | nil => rw [hs.resolve_left List.not_mem_nil]; rfl
    | cons s' settings ih =>
      by_cases heq : s' = s
      · subst heq
        cases hf : f s' with
        | none =>
          rw [List.filterMap_cons_none (by rw [hf]; rfl), ih (.inr hf), hf]
        | some d =>
          rw [List.filterMap_cons_some (by rw [hf]; rfl)]
          simp
      · have hrest : s ∈ settings ∨ f s = none :=
          hs.imp_left fun hmem => (List.mem_cons.mp hmem).resolve_left (Ne.symm heq)
        cases hf : f s' with
        | none =>
          rw [List.filterMap_cons_none (by rw [hf]; rfl)]
          exact ih hrest
        | some d =>
          rw [List.filterMap_cons_some (by rw [hf]; rfl), List.find?_cons_of_neg (by simpa using heq)]
          exact ih hrest
  rw [get?, hfind _ (.inl (by cases s <;> decide))]
  cases f s with
  | none => rfl
  | some d => cases hd : d.isNull <;> simp [hd, Option.filter]

end Layer

namespace Options

open Text

def chosen (line : Layer) (e : Environment) (project : Json.Members) (s : Setting) : Json.Value :=
  match line.get? s with
  | some v => v
  | none =>
    match s.variableName?.bind e.given? with
    | some v => .text (points v)
    | none => (project.get? s.key).getD .null

theorem pick_eq_chosen (line : Layer) (e : Environment) (project : Json.Members) :
    pick [line, .ofEnvironment e, .ofMembers project] = chosen line e project := by
  funext s
  have hvariable : (Layer.ofEnvironment e).get? s = (s.variableName?.bind e.given?).map fun v => .text (points v) := by
    have h := Layer.get?_filterMap (fun s => (s.variableName?.bind e.given?).map fun v => Json.Value.text (points v)) s
    simp only [Option.map_map] at h
    exact h.trans (by cases s.variableName?.bind e.given? <;> rfl)
  have hproject : (Layer.ofMembers project).get? s = (project.get? s.key).filter (!·.isNull) :=
    Layer.get?_filterMap (fun s => project.get? s.key) s
  simp only [pick, chosen, List.findSome?_cons, List.findSome?_nil, hvariable, hproject]
  cases line.get? s with
  | some d => rfl
  | none =>
    cases s.variableName?.bind e.given? with
    | some v => rfl
    | none =>
      cases project.get? s.key with
      | none => rfl
      | some v => cases v <;> rfl

section Parts

variable {directory : Path} {layers : List Layer} {s : Setting} {fault : UsageFault} {v : Json.Value}
  {output name : List CodePoint} {e : Failure}

def IsUsage (f : Failure) : Prop := ∃ fault, f = .usage fault

theorem required_eq_ok {t : List CodePoint} :
    required layers s fault = .ok t ↔ (pick layers s).isGiven = true ∧ t = (pick layers s).display := by
  unfold required
  dsimp only
  split
  · rename_i hgiven
    simp [hgiven, eq_comm]
  · rename_i hgiven
    simp [hgiven]

theorem required_fails : FailsOnly IsUsage (required layers s fault) := by
  unfold required
  dsimp only
  split
  · exact failsOnly_ok _
  · exact failsOnly_error ⟨_, rfl⟩

theorem ofName?_eq_some {name : String} {style : ImportStyle} :
    ImportStyle.ofName? name = some style ↔ name = style.name := by
  cases style <;> simp only [ImportStyle.ofName?, ImportStyle.name, List.find?_cons, List.find?_nil] <;>
    by_cases hr : "relative" = name <;> by_cases ha : "absolute" = name <;> simp_all [eq_comm]

theorem importStyle_eq_ok {style : ImportStyle} :
    importStyle v = .ok style ↔ if v.isGiven then v = .text (points style.name) else style = .relative := by
  unfold importStyle
  cases hgiven : v.isGiven with
  | false => simp [eq_comm]
  | true =>
    simp only [Bool.not_true, Bool.false_eq_true, if_false, if_true]
    split
    · rename_i style' hknown
      split at hknown
      · obtain ⟨name, htext, hname⟩ := Option.bind_eq_some_iff.mp hknown
        rw [text?_eq_some_iff.mp htext, ofName?_eq_some.mp hname, Except.ok.injEq, Json.Value.text.injEq,
          points_injective.eq_iff]
        cases style <;> cases style' <;> simp [ImportStyle.name]
      · cases hknown
    · rename_i hknown
      refine iff_of_false (by simp) ?_
      rintro rfl
      have hstyle : (text? (points style.name)).bind ImportStyle.ofName? = none := hknown
      rw [text?_points, Option.bind_some, ofName?_eq_some.mpr rfl] at hstyle
      cases hstyle

theorem importStyle_fails : FailsOnly IsUsage (importStyle v) := by
  unfold importStyle
  dsimp only
  split
  · exact failsOnly_ok _
  · split
    · exact failsOnly_ok _
    · exact failsOnly_error ⟨_, rfl⟩

/-- A path without null characters and without halves of pairs, those apart that stand for bytes which are no text. -/
def IsPath (path : List CodePoint) : Prop :=
  ∀ n ∈ path, n.val ≠ 0 ∧ (0xD800 ≤ n.val → n.val < 0xE000 → 0xDC80 ≤ n.val ∧ n.val < 0xDD00)

theorem isUnencodable_eq_false_iff {n : CodePoint} : isUnencodable n = false ↔
    (0xD800 ≤ n.val → n.val < 0xE000 → 0xDC80 ≤ n.val ∧ n.val < 0xDD00) := by
  have hn := n.isLt
  simp only [isUnencodable, Nat.isValidChar, Bool.and_eq_false_iff, Bool.not_eq_false', decide_eq_true_eq,
    Bool.and_eq_true]
  omega

theorem nameFault?_eq_none_iff : nameFault? name = none ↔ IsPath name := by
  have hall : IsPath name ↔ name.any isUnencodable = false ∧ name.any (fun n => decide (n.val = 0)) = false := by
    simp only [IsPath, List.any_eq_false, Bool.not_eq_true, decide_eq_false_iff_not, ← isUnencodable_eq_false_iff]
    exact ⟨fun h => ⟨fun n hn => (h n hn).2, fun n hn => (h n hn).1⟩, fun h n hn => ⟨h.2 n hn, h.1 n hn⟩⟩
  rw [hall, nameFault?]
  cases name.any isUnencodable <;> cases name.any fun n => decide (n.val = 0) <;> simp

theorem pathFault?_eq_none_iff : pathFault? output = none ↔ IsPath output := by
  rw [pathFault?, List.findSome?_eq_none_iff]
  simp only [nameFault?_eq_none_iff]
  conv_rhs => rw [← List.flatten_splitBy (fun a _ => decide (a ≠ codePoint '/')) output]
  simp only [IsPath, List.mem_flatten]
  exact ⟨fun h n ⟨part, hpart, hn⟩ => h part hpart n hn, fun h part hpart n hn => h n ⟨part, hpart, hn⟩⟩

theorem packageOfOutput_eq_ok : packageOfOutput directory output = .ok name ↔
    IsPath output ∧ name = points (Path.resolve directory (ofPoints output)).name := by
  rw [← pathFault?_eq_none_iff, packageOfOutput]
  cases pathFault? output with
  | some fault => simp
  | none => simp [eq_comm]

theorem packageOfOutput_eq_error :
    (∃ fault, packageOfOutput directory output = .error (.malformed fault)) ↔ ¬IsPath output := by
  rw [← pathFault?_eq_none_iff, packageOfOutput]
  cases pathFault? output with
  | some fault => simp
  | none => simp

def uncheckedPackage (directory : Path) (output : List CodePoint) (v : Json.Value) :
    Except Failure (List CodePoint) :=
  if v.isGiven then
    match v with
    | .text name => pure name
    | _ => throw (.malformed .notText)
  else packageOfOutput directory output

theorem uncheckedPackage_eq_ok : uncheckedPackage directory output v = .ok name ↔
    v.isGiven = true ∧ v = .text name ∨
      v.isGiven = false ∧ IsPath output ∧ name = points (Path.resolve directory (ofPoints output)).name := by
  unfold uncheckedPackage
  cases hgiven : v.isGiven with
  | false => simp [packageOfOutput_eq_ok]
  | true =>
    simp only [if_true, Bool.true_eq_false, false_and, or_false, true_and]
    split
    · simp [pure, Except.pure]
    · rename_i hnot
      exact iff_of_false (by rintro ⟨⟩) (hnot name)

theorem uncheckedPackage_eq_error : (∃ fault, uncheckedPackage directory output v = .error (.malformed fault)) ↔
    (v.isGiven = true ∧ ∀ name, v ≠ .text name) ∨ (v.isGiven = false ∧ ¬IsPath output) := by
  unfold uncheckedPackage
  cases hgiven : v.isGiven with
  | false => simp [packageOfOutput_eq_error]
  | true =>
    simp only [if_true, Bool.true_eq_false, false_and, or_false, true_and]
    split
    · refine iff_of_false ?_ fun h => h _ rfl
      rintro ⟨fault, ⟨⟩⟩
    · rename_i hnot
      exact iff_of_true ⟨_, rfl⟩ hnot

theorem uncheckedPackage_fails :
    FailsOnly (fun f => IsUsage f ∨ ∃ fault, f = .malformed fault) (uncheckedPackage directory output v) := by
  unfold uncheckedPackage packageOfOutput
  split
  · split
    · exact failsOnly_ok _
    · exact failsOnly_error (.inr ⟨_, rfl⟩)
  · split
    · exact failsOnly_error (.inr ⟨_, rfl⟩)
    · exact failsOnly_ok _

theorem rootPackage_eq : rootPackage directory output v = uncheckedPackage directory output v >>= fun name =>
    if (text? name).any isPackageName then pure name else throw (.usage (.packageName (ofPoints name))) := by
  unfold rootPackage uncheckedPackage
  cases v.isGiven with
  | false => rfl
  | true => cases v <;> rfl

theorem rootPackage_eq_ok : rootPackage directory output v = .ok name ↔
    ∃ text, name = points text ∧ isPackageName text = true ∧ uncheckedPackage directory output v = .ok name := by
  have hname (name : List CodePoint) : (text? name).any isPackageName = true ↔
      ∃ text, name = points text ∧ isPackageName text = true := by
    simp only [Option.any_eq_true, text?_eq_some_iff]
  rw [rootPackage_eq, bind_eq_ok]
  constructor
  · rintro ⟨name', h, hchecked⟩
    split at hchecked
    · rename_i hpasses
      cases hchecked
      obtain ⟨text, htext, hpasses⟩ := (hname _).mp hpasses
      exact ⟨text, htext, hpasses, h⟩
    · cases hchecked
  · rintro ⟨text, htext, hpasses, h⟩
    exact ⟨name, h, if_pos ((hname _).mpr ⟨text, htext, hpasses⟩)⟩

theorem anyPackage_eq_ok {package : Option (List CodePoint)} : anyPackage v = .ok package ↔
    (v = .null ∧ package = none) ∨ ∃ name, v = .text name ∧ package = some name := by
  cases v <;> simp [anyPackage, eq_comm]

theorem anyPackage_fails : FailsOnly IsUsage (anyPackage v) := by
  unfold anyPackage
  split
  · exact failsOnly_ok _
  · exact failsOnly_ok _
  · exact failsOnly_error ⟨_, rfl⟩

theorem jobCount_eq_ok {n : ℕ} : jobCount v = .ok n ↔
    1 ≤ n ∧ if v.isNull then n = 4 else integer v = .ok (n : Int) := by
  unfold jobCount
  split
  · constructor
    · rintro ⟨⟩
      exact ⟨by decide, rfl⟩
    · rintro ⟨-, rfl⟩
      rfl
  · rw [bind_eq_ok]
    constructor
    · rintro ⟨k, hk, h⟩
      split at h
      · cases h
      · rename_i hle
        cases h
        refine ⟨by omega, ?_⟩
        rw [hk, Int.toNat_of_nonneg (by omega)]
    · rintro ⟨hle, hn⟩
      refine ⟨n, hn, ?_⟩
      rw [if_neg (by omega)]
      rfl

end Parts

section Layers

variable {directory : Path} {layers : List Layer} {o : Options}

def packageFor (directory : Path) (output : List CodePoint) (v : Json.Value) :
    ImportStyle → Except Failure (Option (List CodePoint))
  | .absolute => some <$> rootPackage directory output v
  | .relative => anyPackage v

theorem ofLayers_eq : ofLayers directory layers = required layers .input .noInput >>= fun input =>
    required layers .output .noOutput >>= fun output => importStyle (pick layers .importStyle) >>= fun style =>
    packageFor directory output (pick layers .packageName) style >>= fun package =>
    (jobCount (pick layers .jobs)).mapError (fun fault => Failure.usage (.option fault)) >>= fun jobs =>
    pure ⟨input, output, style, package, jobs⟩ := by
  unfold ofLayers
  refine bind_congr fun input => bind_congr fun output => bind_congr fun style => ?_
  cases style <;> rfl

structure MadeOf (directory : Path) (value : Setting → Json.Value) (o : Options) : Prop where
  input : (value .input).isGiven = true ∧ o.input = (value .input).display
  output : (value .output).isGiven = true ∧ o.output = (value .output).display
  style : importStyle (value .importStyle) = .ok o.style
  package : packageFor directory o.output (value .packageName) o.style = .ok o.package
  jobs : jobCount (value .jobs) = .ok o.jobs

theorem ofLayers_eq_ok : ofLayers directory layers = .ok o ↔ MadeOf directory (pick layers) o := by
  rw [ofLayers_eq]
  constructor
  · intro h
    obtain ⟨input, hinput, h⟩ := bind_eq_ok.mp h
    obtain ⟨output, houtput, h⟩ := bind_eq_ok.mp h
    obtain ⟨style, hstyle, h⟩ := bind_eq_ok.mp h
    obtain ⟨package, hpackage, h⟩ := bind_eq_ok.mp h
    obtain ⟨jobs, hjobs, h⟩ := bind_eq_ok.mp h
    cases pure_eq_ok.mp h
    exact ⟨required_eq_ok.mp hinput, required_eq_ok.mp houtput, hstyle, hpackage, mapError_eq_ok.mp hjobs⟩
  · rintro ⟨hinput, houtput, hstyle, hpackage, hjobs⟩
    refine bind_eq_ok.mpr ⟨o.input, required_eq_ok.mpr hinput, ?_⟩
    refine bind_eq_ok.mpr ⟨o.output, required_eq_ok.mpr houtput, ?_⟩
    refine bind_eq_ok.mpr ⟨o.style, hstyle, ?_⟩
    refine bind_eq_ok.mpr ⟨o.package, hpackage, ?_⟩
    exact bind_eq_ok.mpr ⟨o.jobs, mapError_eq_ok.mpr hjobs, rfl⟩

theorem ne_malformed {α : Type} {x : Except Failure α} {fault : Malformed} (hx : FailsOnly IsUsage x) :
    x ≠ .error (.malformed fault) := by
  intro h
  obtain ⟨fault', ⟨⟩⟩ := hx _ h

theorem packageFor_malformed_iff {output : List CodePoint} {v : Json.Value} {style : ImportStyle}
    {fault : Malformed} : packageFor directory output v style = .error (.malformed fault) ↔
      style = .absolute ∧ uncheckedPackage directory output v = .error (.malformed fault) := by
  cases style with
  | relative => exact iff_of_false (ne_malformed anyPackage_fails) (by rintro ⟨⟨⟩, -⟩)
  | absolute =>
    rw [packageFor, map_eq_error, rootPackage_eq, bind_eq_error]
    constructor
    · rintro (h | ⟨name, -, h⟩)
      · exact ⟨rfl, h⟩
      · split at h
        · cases h
        · cases h
    · exact fun h => .inl h.2

theorem ofLayers_malformed_iff {fault : Malformed} : ofLayers directory layers = .error (.malformed fault) ↔
    (pick layers .input).isGiven = true ∧ (pick layers .output).isGiven = true ∧
      importStyle (pick layers .importStyle) = .ok .absolute ∧
      uncheckedPackage directory (pick layers .output).display (pick layers .packageName) =
        .error (.malformed fault) := by
  rw [ofLayers_eq]
  constructor
  · intro h
    obtain ⟨input, hinput, h⟩ := (bind_eq_error.mp h).resolve_left (ne_malformed required_fails)
    obtain ⟨output, houtput, h⟩ := (bind_eq_error.mp h).resolve_left (ne_malformed required_fails)
    obtain ⟨style, hstyle, h⟩ := (bind_eq_error.mp h).resolve_left (ne_malformed importStyle_fails)
    obtain ⟨hgiven, rfl⟩ := required_eq_ok.mp houtput
    rcases bind_eq_error.mp h with h | ⟨package, -, h⟩
    · obtain ⟨rfl, hname⟩ := packageFor_malformed_iff.mp h
      exact ⟨(required_eq_ok.mp hinput).1, hgiven, hstyle, hname⟩
    · cases hjobs : jobCount (pick layers .jobs) <;> rw [hjobs] at h <;> cases h
  · rintro ⟨hinput, houtput, hstyle, hpackage⟩
    refine bind_eq_error.mpr (.inr ⟨_, required_eq_ok.mpr ⟨hinput, rfl⟩, ?_⟩)
    refine bind_eq_error.mpr (.inr ⟨_, required_eq_ok.mpr ⟨houtput, rfl⟩, ?_⟩)
    refine bind_eq_error.mpr (.inr ⟨_, hstyle, ?_⟩)
    exact bind_eq_error.mpr (.inl (packageFor_malformed_iff.mpr ⟨rfl, hpackage⟩))

theorem ofLayers_fails :
    FailsOnly (fun f => IsUsage f ∨ ∃ fault, f = .malformed fault) (ofLayers directory layers) := by
  have hpackage (output : List CodePoint) (v : Json.Value) (style : ImportStyle) :
      FailsOnly (fun f => IsUsage f ∨ ∃ fault, f = .malformed fault) (packageFor directory output v style) := by
    cases style with
    | relative => exact anyPackage_fails.imp fun f => .inl
    | absolute =>
      rw [packageFor, rootPackage_eq]
      refine FailsOnly.map (FailsOnly.bind uncheckedPackage_fails ?_) _
      intro name
      split
      · exact failsOnly_ok _
      · exact failsOnly_error (.inl ⟨_, rfl⟩)
  rw [ofLayers_eq]
  refine (required_fails.imp fun f => .inl).bind fun input => ?_
  refine (required_fails.imp fun f => .inl).bind fun output => ?_
  refine (importStyle_fails.imp fun f => .inl).bind fun style => ?_
  refine (hpackage _ _ _).bind fun package => ?_
  cases jobCount (pick layers .jobs) with
  | error fault => exact failsOnly_error (.inl ⟨_, rfl⟩)
  | ok jobs => exact failsOnly_ok _

end Layers

end Options

end ClientForge
