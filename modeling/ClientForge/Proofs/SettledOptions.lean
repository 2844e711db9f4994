import ClientForge.Proofs.Loading
import ClientForge.Proofs.PackageNames
import ClientForge.Proofs.Settings

/-!
What a run goes by. It follows the command line, the variables and the project's file, or ends with a fault of usage or
of that file; all else comes from a file that is nested too deep or from a bad name of the package.
-/

namespace ClientForge

open Outcome

namespace Project

def IsOfProject (f : Failure) : Prop := (∃ path fault, f = .config path fault) ∨ f = .malformed .endless

theorem exists_read (w : World) : ∃ content, w.read fileName = .ok content := by
  have hlocation : Location.ofText w.directory fileName = ⟨"", w.directory, [fileName]⟩ := by
    have hnames : Path.names fileName = [fileName] := by decide +kernel
    have habsolute : Path.isAbsolute fileName = false := by decide +kernel
    simp [Location.ofText, Location.openingOf, hnames, habsolute]
  have hshort : Location.isTooLong ⟨"", w.directory, [fileName]⟩ = false :=
    show Location.isTooLong ⟨"", [], [fileName]⟩ = false by decide +kernel
  have hname : ¬Location.maxName < fileName.utf8ByteSize := by decide +kernel
  have hnull : ¬[fileName].any (fun name => name.toList.contains '\x00') = true := by decide +kernel
  have hway : w.files.way w.directory [fileName] ≠ .nameTooLong := by
    rw [FileTree.way, if_neg hname, FileTree.way]
    split
    · exact nofun
    · split <;> exact nofun
  rw [World.read, hlocation, FileTree.read, hshort, if_neg hnull, if_neg Bool.false_ne_true]
  dsimp only
  split
  · exact ⟨_, rfl⟩
  · exact absurd ‹_› hway
  · exact ⟨_, rfl⟩

theorem readJson_fails {path content : String} : FailsOnly IsOfProject (readJson path content) := by
  unfold readJson
  split
  · exact failsOnly_ok _
  · exact failsOnly_error (.inl ⟨_, _, rfl⟩)
  · exact failsOnly_error (.inl ⟨_, _, rfl⟩)
  · exact failsOnly_error (.inr rfl)

theorem settings_fails {path : String} {bytes : List UInt8} : FailsOnly IsOfProject (settings path bytes) := by
  unfold settings
  refine FailsOnly.bind ?_ fun content => readJson_fails.bind fun d => ?_
  · cases World.textOf bytes with
    | error fault => exact failsOnly_error (.inl ⟨_, _, rfl⟩)
    | ok content => exact failsOnly_ok _
  · split
    · split
      · exact failsOnly_ok _
      · exact failsOnly_error (.inl ⟨_, _, rfl⟩)
    · exact failsOnly_error (.inl ⟨_, _, rfl⟩)

theorem load_fails (w : World) : FailsOnly IsOfProject (load w) := by
  obtain ⟨content, hcontent⟩ := exists_read w
  rw [load, hcontent]
  cases content with
  | none => exact failsOnly_ok _
  | some bytes => exact settings_fails.map _

end Project

namespace Options

open Text

def text? (o : Options) : Setting → Option (List CodePoint)
  | .input => some o.input
  | .output => some o.output
  | .importStyle => some (points o.style.name)
  | .packageName => o.package
  | .jobs => none

def Takes (directory : Path) (o : Options) (s : Setting) (v : Json.Value) : Prop :=
  match s with
  | .input => v.isGiven = true ∧ o.input = v.display
  | .output => v.isGiven = true ∧ o.output = v.display
  | .importStyle => if v.isGiven then v = .text (points o.style.name) else o.style = .relative
  | .packageName =>
    match o.style with
    | .relative => (v = .null ∧ o.package = none) ∨ ∃ name, v = .text name ∧ o.package = some name
    | .absolute =>
      if v.isGiven then ∃ name, v = .text name ∧ o.package = some name
      else o.package = some (points (Path.resolve directory (ofPoints o.output)).name)
  | .jobs => if v.isNull then o.jobs = 4 else integer v = .ok (o.jobs : Int)

/-- Options are those of the command line, the variables and the project, the first counting most, and can be used. -/
structure Follows (line : Layer) (e : Environment) (project : Json.Members) (directory : Path) (o : Options) :
    Prop where
  textsOfLine : ∀ s v, line.get? s = some (.text v) → v ≠ [] → o.text? s = some v
  jobsOfLine : ∀ n, line.get? .jobs = some (.int n) → (o.jobs : Int) = n
  ofVariables : ∀ s name v, line.get? s = none → s.variableName? = some name → e.given? name = some v →
    o.text? s = some (points v)
  ofProject : ∀ s, line.get? s = none → (∀ name, s.variableName? = some name → e.given? name = none) →
    o.Takes directory s ((project.get? s.key).getD .null)
  input_ne : o.input ≠ []
  output_ne : o.output ≠ []
  one_le_jobs : 1 ≤ o.jobs
  importable : o.style = .absolute → ∃ name, o.package = some (points name) ∧ IsImportable name

/-- A run gets options that follow what it is told, or ends with a fault of usage or of the project's file. -/
def Upholds (w : World) (line : Layer) : Prop :=
  (∃ fault, resolve w line = .error (.usage fault)) ∨ (∃ path fault, resolve w line = .error (.config path fault)) ∨
    ∃ o project, resolve w line = .ok o ∧ Project.load w = .ok project ∧
      Follows line w.environment (project.getD []) w.directory o

def IsNamed (directory : Path) (value : Setting → Json.Value) (name : List CodePoint) : Prop :=
  (value .packageName).isGiven = true ∧ value .packageName = .text name ∨
    (value .packageName).isGiven = false ∧ IsPath (value .output).display ∧
      name = points (Path.resolve directory (ofPoints (value .output).display)).name

structure HasBadPackage (directory : Path) (value : Setting → Json.Value) : Prop where
  input : (value .input).isGiven = true
  output : (value .output).isGiven = true
  style : value .importStyle = .text (points "absolute")
  package : ((value .packageName).isGiven = true ∧ ∀ name, value .packageName ≠ .text name) ∨
    ((value .packageName).isGiven = false ∧ ¬IsPath (value .output).display) ∨
    ∃ name parts, IsNamed directory value (points name) ∧ parts ≠ [] ∧ (∀ p ∈ parts, Naming.IsIdentifier p) ∧
      (name = ".".intercalate parts ++ "\n" ∨ name = ".".intercalate parts ∧ ∃ p ∈ parts, p ∈ Naming.keywords) ∧
      ((value .jobs).isNull = true ∨ ∃ n : Int, 1 ≤ n ∧ integer (value .jobs) = .ok n)

/-- What a run is told leads astray: the project's file is nested too deep, or a bad name of the package is chosen. -/
inductive Strays (w : World) (line : Layer) : Prop
  | tooDeep (h : Project.load w = .error (.malformed .endless))
  | badPackage {project : Option Json.Members} (h : Project.load w = .ok project)
      (hbad : HasBadPackage w.directory (chosen line w.environment (project.getD [])))

section Chosen

variable {line : Layer} {e : Environment} {project : Json.Members} {directory : Path} {o : Options} {s : Setting}

theorem isGiven_text {v : List CodePoint} : (Json.Value.text v).isGiven = true ↔ v ≠ [] := by
  rw [Json.Value.isGiven, Bool.not_eq_true', List.isEmpty_eq_false_iff]

namespace MadeOf

variable {value : Setting → Json.Value}

theorem uncheckedPackage_eq (h : MadeOf directory value o) (hstyle : o.style = .absolute) :
    ∃ name, o.package = some (points name) ∧ isPackageName name = true ∧
      uncheckedPackage directory (value .output).display (value .packageName) = .ok (points name) := by
  have hpackage := h.package
  rw [hstyle, h.output.2] at hpackage
  obtain ⟨name, hname, hsome⟩ := map_eq_ok.mp hpackage
  obtain ⟨text, rfl, hpasses, hunchecked⟩ := rootPackage_eq_ok.mp hname
  exact ⟨text, hsome.symm, hpasses, hunchecked⟩

theorem text?_eq (h : MadeOf directory value o) {v : List CodePoint} (hs : s ≠ .jobs)
    (hvalue : value s = .text v) (hv : v ≠ []) : o.text? s = some v := by
  have hgiven : (value s).isGiven = true := hvalue ▸ isGiven_text.mpr hv
  cases s with
  | input => rw [text?, h.input.2, hvalue]; rfl
  | output => rw [text?, h.output.2, hvalue]; rfl
  | importStyle =>
    have hstyle := importStyle_eq_ok.mp h.style
    rw [if_pos hgiven, hvalue] at hstyle
    cases hstyle
    rfl
  | packageName =>
    cases hstyle : o.style with
    | absolute =>
      obtain ⟨name, hname, -, hunchecked⟩ := h.uncheckedPackage_eq hstyle
      rw [hvalue, uncheckedPackage_eq_ok] at hunchecked
      rcases hunchecked with ⟨-, heq⟩ | ⟨hnot, -⟩
      · cases heq
        exact hname
      · rw [← hvalue, hgiven] at hnot
        cases hnot
    | relative =>
      have hpackage := h.package
      rw [hstyle, packageFor, hvalue, anyPackage_eq_ok] at hpackage
      obtain ⟨⟨⟩, -⟩ | ⟨name, heq, hname⟩ := hpackage
      cases heq
      exact hname
  | jobs => exact absurd rfl hs

theorem takes (h : MadeOf directory value o) : o.Takes directory s (value s) := by
  cases s with
  | input => exact h.input
  | output => exact h.output
  | importStyle => exact importStyle_eq_ok.mp h.style
  | packageName =>
    unfold Takes
    cases hstyle : o.style with
    | absolute =>
      obtain ⟨name, hname, -, hunchecked⟩ := h.uncheckedPackage_eq hstyle
      rcases uncheckedPackage_eq_ok.mp hunchecked with ⟨hgiven, hvalue⟩ | ⟨hgiven, -, hdirectory⟩
      · exact (if_pos hgiven).mpr ⟨points name, hvalue, hname⟩
      · dsimp only
        rw [hgiven, if_neg Bool.false_ne_true, hname, h.output.2, hdirectory]
    | relative =>
      have hpackage := h.package
      rw [hstyle, packageFor, anyPackage_eq_ok] at hpackage
      exact hpackage
  | jobs => exact (jobCount_eq_ok.mp h.jobs).2

end MadeOf

theorem isNamed_iff {value : Setting → Json.Value} {name : List CodePoint} : IsNamed directory value name ↔
    uncheckedPackage directory (value .output).display (value .packageName) = .ok name :=
  uncheckedPackage_eq_ok.symm

theorem exists_jobCount_iff {v : Json.Value} : (∃ n, jobCount v = .ok n) ↔
    v.isNull = true ∨ ∃ n : Int, 1 ≤ n ∧ integer v = .ok n := by
  simp only [jobCount_eq_ok]
  cases v.isNull with
  | true => exact iff_of_true ⟨4, by decide, rfl⟩ (.inl rfl)
  | false =>
    simp only [Bool.false_eq_true, if_false, false_or]
    constructor
    · rintro ⟨n, hle, hn⟩
      exact ⟨n, by omega, hn⟩
    · rintro ⟨n, hle, hn⟩
      exact ⟨n.toNat, by omega, by rw [hn, Int.toNat_of_nonneg (by omega)]⟩

theorem MadeOf.follows (hline : line.IsTyped) (h : MadeOf directory (chosen line e project) o)
    (hgood : ¬HasBadPackage directory (chosen line e project)) : Follows line e project directory o where
  textsOfLine s v hv hne := by
    have hs : s ≠ .jobs := by
      rcases Layer.get?_typed hline hv with ⟨-, n, ⟨⟩⟩ | ⟨hs, -⟩
      exact hs
    exact h.text?_eq hs (by rw [chosen, hv]) hne
  jobsOfLine n hn := by
    have hvalue : chosen line e project .jobs = .int n := by rw [chosen, hn]
    have hjobs := (jobCount_eq_ok.mp h.jobs).2
    rw [hvalue] at hjobs
    cases hjobs
    rfl
  ofVariables s name v hnone hname hv := by
    have hs : s ≠ .jobs := by
      rintro rfl
      cases hname
    have hne : v ≠ "" := of_decide_eq_true (Option.filter_eq_some_iff.mp hv).2
    exact h.text?_eq hs (by rw [chosen, hnone, hname, Option.bind_some, hv]) (points_ne_nil hne)
  ofProject s hnone hvariable := by
    have hvalue : chosen line e project s = (project.get? s.key).getD .null := by
      have hnot : s.variableName?.bind e.given? = none := Option.bind_eq_none_iff.mpr hvariable
      rw [chosen, hnone, hnot]
    exact hvalue ▸ h.takes
  input_ne := h.input.2 ▸ Json.Value.display_ne_nil h.input.1
  output_ne := h.output.2 ▸ Json.Value.display_ne_nil h.output.1
  one_le_jobs := (jobCount_eq_ok.mp h.jobs).1
  importable hstyle := by
    obtain ⟨name, hname, hpasses, hunchecked⟩ := h.uncheckedPackage_eq hstyle
    refine ⟨name, hname, ?_⟩
    by_contra hnot
    obtain ⟨parts, hne, hparts, hform⟩ := passes_unimportable_iff.mp ⟨hpasses, hnot⟩
    have hnamed := isNamed_iff.mpr hunchecked
    refine hgood ⟨h.input.1, h.output.1, ?_, .inr (.inr ⟨name, parts, hnamed, hne, hparts, hform, ?_⟩)⟩
    · have hvalue := importStyle_eq_ok.mp h.style
      rw [hstyle] at hvalue
      split at hvalue
      · exact hvalue
      · cases hvalue
    · exact exists_jobCount_iff.mp ⟨_, h.jobs⟩

theorem HasBadPackage.of_malformed {layers : List Layer} {fault : Malformed}
    (h : ofLayers directory layers = .error (.malformed fault)) : HasBadPackage directory (pick layers) := by
  obtain ⟨hinput, houtput, hstyle, hname⟩ := ofLayers_malformed_iff.mp h
  refine ⟨hinput, houtput, ?_, ?_⟩
  · rw [importStyle_eq_ok] at hstyle
    split at hstyle
    · exact hstyle
    · cases hstyle
  · exact (uncheckedPackage_eq_error.mp ⟨fault, hname⟩).imp_right .inl

theorem HasBadPackage.spoils {layers : List Layer} (h : HasBadPackage directory (pick layers)) :
    (∃ fault, ofLayers directory layers = .error (.malformed fault)) ∨
      ∃ o name, ofLayers directory layers = .ok o ∧ o.style = .absolute ∧ o.package = some (points name) ∧
        ¬IsImportable name := by
  have hstyle : importStyle (pick layers .importStyle) = .ok .absolute := by
    rw [h.style]
    rfl
  have hmalformed (hbad : ∃ fault, uncheckedPackage directory (pick layers .output).display
      (pick layers .packageName) = .error (.malformed fault)) :
      ∃ fault, ofLayers directory layers = .error (.malformed fault) := by
    obtain ⟨fault, hfault⟩ := hbad
    exact ⟨fault, ofLayers_malformed_iff.mpr ⟨h.input, h.output, hstyle, hfault⟩⟩
  rcases h.package with hvalue | hnull | ⟨name, parts, hname, hne, hparts, hform, hjobs⟩
  · exact .inl (hmalformed (uncheckedPackage_eq_error.mpr (.inl hvalue)))
  · exact .inl (hmalformed (uncheckedPackage_eq_error.mpr (.inr hnull)))
  · obtain ⟨hpasses, hnot⟩ := passes_unimportable_iff.mpr ⟨parts, hne, hparts, hform⟩
    obtain ⟨jobs, hjobs⟩ := exists_jobCount_iff.mpr hjobs
    let o : Options :=
      ⟨(pick layers .input).display, (pick layers .output).display, .absolute, some (points name), jobs⟩
    refine .inr ⟨o, name, ofLayers_eq_ok.mpr ?_, rfl, rfl, hnot⟩
    exact ⟨⟨h.input, rfl⟩, ⟨h.output, rfl⟩, hstyle,
      map_eq_ok.mpr ⟨_, rootPackage_eq_ok.mpr ⟨name, rfl, hpasses, isNamed_iff.mp hname⟩, rfl⟩, hjobs⟩

end Chosen

section Resolving

variable {w : World} {line : Layer} {project : Option Json.Members}

theorem resolve_eq : resolve w line = Project.load w >>= fun project =>
    ofLayers w.directory [line, .ofEnvironment w.environment, .ofMembers (project.getD [])] := rfl

theorem resolve_of_error {f : Failure} (hload : Project.load w = .error f) : resolve w line = .error f := by
  rw [resolve_eq, hload]
  rfl

theorem resolve_of_ok (hload : Project.load w = .ok project) : resolve w line =
    ofLayers w.directory [line, .ofEnvironment w.environment, .ofMembers (project.getD [])] := by
  rw [resolve_eq, hload]
  rfl

theorem strays_iff (hload : Project.load w = .ok project) :
    Strays w line ↔ HasBadPackage w.directory (chosen line w.environment (project.getD [])) := by
  constructor
  · rintro (h | ⟨h, hbad⟩)
    · cases hload.symm.trans h
    · cases hload.symm.trans h
      exact hbad
  · exact .badPackage hload

theorem not_upholds_of_bad (hload : Project.load w = .ok project)
    (hbad : HasBadPackage w.directory (chosen line w.environment (project.getD []))) : ¬Upholds w line := by
  rw [← pick_eq_chosen] at hbad
  rcases hbad.spoils with ⟨fault, h⟩ | ⟨o, name, h, hstyle, hname, hnot⟩
  · rw [← resolve_of_ok hload] at h
    rintro (⟨fault', h'⟩ | ⟨path, fault', h'⟩ | ⟨o, project', h', -⟩) <;> cases h.symm.trans h'
  · rw [← resolve_of_ok hload] at h
    rintro (⟨fault', h'⟩ | ⟨path, fault', h'⟩ | ⟨o', project', h', -, hfollows⟩)
    · cases h.symm.trans h'
    · cases h.symm.trans h'
    · cases h.symm.trans h'
      obtain ⟨name', hname', himportable⟩ := hfollows.importable hstyle
      have hsame : name = name' := points_injective (Option.some.inj (hname.symm.trans hname'))
      exact hnot (hsame ▸ himportable)

theorem upholds_of_good (hline : line.IsTyped) (hload : Project.load w = .ok project)
    (hgood : ¬HasBadPackage w.directory (chosen line w.environment (project.getD []))) : Upholds w line := by
  have hresolve : resolve w line = _ := resolve_of_ok hload
  cases hlayers : ofLayers w.directory [line, .ofEnvironment w.environment, .ofMembers (project.getD [])] with
  | error f =>
    rcases ofLayers_fails f hlayers with ⟨fault, rfl⟩ | ⟨fault, rfl⟩
    · exact .inl ⟨fault, hresolve.trans hlayers⟩
    · rw [← pick_eq_chosen] at hgood
      exact absurd (.of_malformed hlayers) hgood
  | ok o =>
    have hmade := ofLayers_eq_ok.mp hlayers
    rw [pick_eq_chosen] at hmade
    have hfollows := hmade.follows hline hgood
    exact .inr (.inr ⟨o, project, hresolve.trans hlayers, hload, hfollows⟩)

theorem upholds_iff (w : World) (hline : line.IsTyped) : Upholds w line ↔ ¬Strays w line := by
  cases hload : Project.load w with
  | error f =>
    have hresolve : resolve w line = .error f := resolve_of_error hload
    rcases Project.load_fails w f hload with ⟨path, fault, rfl⟩ | rfl
    · refine iff_of_true (.inr (.inl ⟨path, fault, hresolve⟩)) ?_
      rintro (h | ⟨h, -⟩)
      · cases hload.symm.trans h
      · cases hload.symm.trans h
    · refine iff_of_false ?_ fun h => h (.tooDeep hload)
      rintro (⟨fault, h⟩ | ⟨path, fault, h⟩ | ⟨o, project, h, -⟩) <;> cases hresolve.symm.trans h
  | ok project =>
    rw [strays_iff hload]
    constructor
    · exact fun hupholds hbad => not_upholds_of_bad hload hbad hupholds
    · exact upholds_of_good hline hload

/-- With a command line of texts and a whole number, as every command line is, the options of a run follow what it is
told and can be used, or it ends with a fault of usage or of the project's file, unless it is led astray. -/
theorem resolve_upholds_iff (w : World) :
    (∀ line : Layer, line.IsTyped → (Upholds w line ↔ ¬Strays w line)) ∧
      ∀ (line : Line) (layer : Layer), line.layer = .ok layer → layer.IsTyped :=
  ⟨fun _ hline => upholds_iff w hline, fun _ _ => Layer.isTyped_of_line⟩

def around (environment : Environment) (project : String) : World :=
  .holding environment Project.fileName (Text.encodeUtf8 project)

theorem resolve_upholds_iff_variable :
    Layer.IsTyped [(.input, .text (points "api.yaml")), (.jobs, .int 2)] ∧
      Upholds (around [("SDKING_IMPORT_STYLE", "relative")]
          "\x7b\"output\": \"sdk\", \"import_style\": \"absolute\"\x7d")
        [(.input, .text (points "api.yaml")), (.jobs, .int 2)] := by
  have hline : Layer.IsTyped [(.input, .text (points "api.yaml")), (.jobs, .int 2)] := by simp [Layer.IsTyped]
  refine ⟨hline, ((resolve_upholds_iff _).1 _ hline).mpr ?_⟩
  rintro (h | ⟨-, hbad⟩)
  · have hload : (Project.load (around [("SDKING_IMPORT_STYLE", "relative")]
        "\x7b\"output\": \"sdk\", \"import_style\": \"absolute\"\x7d")).isOk = true := by decide +kernel
    rw [h] at hload
    cases hload
  · have hstyle := hbad.style
    simp [chosen, Layer.get?, Setting.variableName?, around, World.holding, Environment.given?, Environment.get?,
      Option.filter] at hstyle
    exact absurd (points_injective hstyle) (by decide)

theorem number_for_package :
    ¬Upholds (around [] "\x7b\"package_name\": 5\x7d") [(.input, .text (points "api.yaml")),
      (.output, .text (points "sdk")), (.importStyle, .text (points "absolute"))] := by
  have hresolve : resolve (around [] "\x7b\"package_name\": 5\x7d") [(.input, .text (points "api.yaml")),
      (.output, .text (points "sdk")), (.importStyle, .text (points "absolute"))] =
      .error (.malformed .notText) := by decide +kernel
  rintro (⟨fault, h⟩ | ⟨path, fault, h⟩ | ⟨o, project, h, -⟩) <;> cases hresolve.symm.trans h

end Resolving

end Options

end ClientForge
