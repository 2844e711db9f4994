import ClientForge.Proofs.Encodings
import ClientForge.Proofs.YamlValues
import ClientForge.Source.Loading

/-!
How loading a description ends. A text or a file gives a mapping or a fault of the description, unless its bytes are no
text or one of its values is beyond what the readers of JSON and YAML can make of it.
-/

namespace ClientForge

open Outcome

def IsSettled (x : Except Failure Document) : Prop :=
  (∃ d entries, x = .ok d ∧ d.opened = .map entries) ∨ ∃ fault, x = .error (.description fault)

theorem not_isSettled_malformed (fault : Malformed) : ¬IsSettled (.error (.malformed fault)) := by
  rintro (⟨d, entries, h, -⟩ | ⟨fault, h⟩) <;> cases h

theorem isSettled_description (fault : DescriptionFault) : IsSettled (.error (.description fault)) := .inr ⟨fault, rfl⟩

namespace Content

/-- A text in which the reader that has to read it finds a value of which it makes nothing: a number of JSON with too
many digits, lists and mappings too deep inside each other, or a value of YAML that its tag does not fit. -/
inductive Overstrains (format : Format) (content : String) : Prop
  | tooManyDigits (hformat : format ≠ .yaml) {count : ℕ} (h : Json.read content = .error (.tooManyDigits count))
  | tooDeep (hformat : format ≠ .yaml) (h : Json.read content = .error .tooDeep)
  | yaml (hformat : format = .yaml ∨ format = .unknown ∧ ∃ fault, Json.read content = .error (.fault fault))
      {fault : Malformed} (h : Yaml.read content = .error (.malformed fault))

variable {format : Format} {content : String}

theorem overstrains_yaml_iff :
    Overstrains .yaml content ↔ ∃ fault, Yaml.read content = .error (.malformed fault) := by
  constructor
  · rintro (⟨h, -⟩ | ⟨h, -⟩ | ⟨-, h⟩)
    · exact absurd rfl h
    · exact absurd rfl h
    · exact ⟨_, h⟩
  · rintro ⟨fault, h⟩
    exact .yaml (.inl rfl) h

theorem overstrains_day_iff (w : Yaml.WrittenDay) :
    Overstrains .yaml (.ofList w.chars) ↔ w.date.isValid = false := by
  rw [overstrains_yaml_iff, w.read_chars]
  cases w.date.isValid <;> simp

theorem overstrains_escape {digits rest : List Char} {n : ℕ} (hlength : digits.length = 8)
    (hvalue : Yaml.hexValue? digits = some n) (hn : 0x10FFFF < n)
    (hallowed : (digits ++ rest).all Yaml.isAllowed = true) :
    Overstrains .yaml (.ofList (Yaml.longEscape digits rest)) :=
  overstrains_yaml_iff.mpr (Yaml.read_longEscape hlength hvalue hn hallowed)

theorem overstrains_empty {text : String} {isPlain : Bool}
    (h : Yaml.tokens content = [.tag (some "!!") "int", .scalar text isPlain, .textEnd])
    (hempty : Yaml.withoutUnderscores text.toList ∈ [[], ['-'], ['+']]) : Overstrains .yaml content :=
  overstrains_yaml_iff.mpr ⟨_, Yaml.read_empty h hempty⟩

example : Overstrains .yaml "!!int '-'" := by
  have htokens : Yaml.tokens "!!int '-'" = [.tag (some "!!") "int", .scalar "-" false, .textEnd] := by decide +kernel
  exact overstrains_empty htokens (by decide)

theorem mappingOnly_isSettled (d : Document) : IsSettled (mappingOnly d) := by
  unfold mappingOnly
  split
  · rename_i entries hmap
    exact .inl ⟨d, entries, rfl, hmap⟩
  · exact isSettled_description _

theorem readYaml_isSettled_iff {jsonFault : Option Json.Fault} :
    IsSettled (readYaml jsonFault content) ↔ ∀ fault, Yaml.read content ≠ .error (.malformed fault) := by
  unfold readYaml
  split
  · rename_i d hread
    exact iff_of_true (mappingOnly_isSettled d) fun fault h => by cases hread.symm.trans h
  · rename_i hread
    exact iff_of_true (isSettled_description _) fun fault h => by cases hread.symm.trans h
  · rename_i fault hread
    exact iff_of_false (not_isSettled_malformed fault) fun h => h fault hread

theorem read_isSettled_iff : IsSettled (read format content) ↔ ¬Overstrains format content := by
  unfold read
  split
  · rename_i hformat
    rw [readYaml_isSettled_iff]
    constructor
    · rintro h (⟨hnot, -⟩ | ⟨hnot, -⟩ | ⟨-, hyaml⟩)
      · exact hnot hformat
      · exact hnot hformat
      · exact h _ hyaml
    · exact fun h fault hyaml => h (.yaml (.inl hformat) hyaml)
  · rename_i hformat
    split
    · rename_i d hread
      refine iff_of_true (mappingOnly_isSettled d) ?_
      rintro (⟨-, h⟩ | ⟨-, h⟩ | ⟨hyaml | ⟨-, fault, h⟩, -⟩)
      · cases hread.symm.trans h
      · cases hread.symm.trans h
      · exact hformat hyaml
      · cases hread.symm.trans h
    · rename_i fault hread
      split
      · rename_i hjson
        refine iff_of_true (isSettled_description _) ?_
        rintro (⟨-, h⟩ | ⟨-, h⟩ | ⟨hyaml | ⟨hunknown, -⟩, -⟩)
        · cases hread.symm.trans h
        · cases hread.symm.trans h
        · exact hformat hyaml
        · cases hjson.symm.trans hunknown
      · rename_i hjson
        have hunknown : format = .unknown := by cases format <;> trivial
        rw [readYaml_isSettled_iff]
        constructor
        · rintro h (⟨-, hdigits⟩ | ⟨-, hdepth⟩ | ⟨-, hyaml⟩)
          · cases hread.symm.trans hdigits
          · cases hread.symm.trans hdepth
          · exact h _ hyaml
        · exact fun h fault' hyaml => h (.yaml (.inr ⟨hunknown, fault, hread⟩) hyaml)
    · rename_i hread
      exact iff_of_false (not_isSettled_malformed _) fun h => h (.tooManyDigits hformat hread)
    · rename_i hread
      exact iff_of_false (not_isSettled_malformed _) fun h => h (.tooDeep hformat hread)

end Content

namespace Text

def unified (s : String) : String := .ofList (unifyBreaks s.toList)

theorem all_isBlank_unifyBreaks (chars : List Char) : (unifyBreaks chars).all isBlank = chars.all isBlank := by
  have hreturn : isBlank '\r' = true := by decide
  have hfeed : isBlank '\n' = true := by decide
  fun_induction unifyBreaks chars with
  | case1 => rfl
  | case2 rest ih => rw [List.all_cons, List.all_cons, List.all_cons, ih, hreturn, hfeed, Bool.true_and, Bool.true_and]
  | case3 c rest hnot ih =>
    rw [List.all_cons, List.all_cons, ih]
    split
    · rename_i heq
      rw [heq, hreturn, hfeed]
    · rfl

theorem isVacant_unified (s : String) : (unified s).isVacant = s.isVacant := by
  rw [String.isVacant, unified, String.toList_ofList, all_isBlank_unifyBreaks]
  rfl

end Text

def World.holding (environment : Environment) (name : String) (bytes : List UInt8) : World where
  files := ⟨[(["project"], .directory), (["project", name], .file bytes)]⟩
  directory := ["project"]
  environment := environment
  system := "Linux"
  input := []
  request _ := .unexplained
  interactive := false
  token := "a"
  time := ""

namespace Source

variable {format : Format} {vacant : DescriptionFault} {bytes : List UInt8}

theorem textOf_encoded (s : String) : World.textOf (Text.encodeUtf8 s) = .ok (Text.unified s) := by
  rw [World.textOf, Text.decodeUtf8_eq_ok.mpr rfl]
  rfl

theorem textOf_fails (h : ∀ s, bytes ≠ Text.encodeUtf8 s) : ∃ fault, World.textOf bytes = .error fault := by
  rw [World.textOf]
  cases hdecode : Text.decodeUtf8 bytes with
  | error fault => exact ⟨fault, rfl⟩
  | ok s => exact absurd (Text.decodeUtf8_eq_ok.mp hdecode) (h s)

theorem readBytes_encoded (s : String) : readBytes format vacant (Text.encodeUtf8 s) =
    if s.isVacant then .error (.description vacant) else Content.read format (Text.unified s) := by
  rw [readBytes, textOf_encoded, ← Text.isVacant_unified]
  simp only [Except.mapError, bind, Except.bind]
  split <;> rfl

theorem readBytes_isSettled_iff : IsSettled (readBytes format vacant bytes) ↔
    ∃ s, bytes = Text.encodeUtf8 s ∧ (s.isVacant = true ∨ ¬Content.Overstrains format (Text.unified s)) := by
  by_cases h : ∃ s, bytes = Text.encodeUtf8 s
  · obtain ⟨s, rfl⟩ := h
    have hunique {s' : String} (h : Text.encodeUtf8 s = Text.encodeUtf8 s') : s' = s :=
      Except.ok.inj ((Text.decodeUtf8_eq_ok.mpr h).symm.trans (Text.decodeUtf8_eq_ok.mpr rfl))
    have hright : (∃ s', Text.encodeUtf8 s = Text.encodeUtf8 s' ∧
        (s'.isVacant = true ∨ ¬Content.Overstrains format (Text.unified s'))) ↔
        (s.isVacant = true ∨ ¬Content.Overstrains format (Text.unified s)) := by
      constructor
      · rintro ⟨s', hsame, h⟩
        exact hunique hsame ▸ h
      · exact fun h => ⟨s, rfl, h⟩
    rw [hright, readBytes_encoded]
    split
    · rename_i hvacant
      exact iff_of_true (isSettled_description _) (.inl hvacant)
    · rename_i hvacant
      rw [Content.read_isSettled_iff, or_iff_right hvacant]
  · obtain ⟨fault, hfault⟩ := textOf_fails (not_exists.mp h)
    refine iff_of_false ?_ fun ⟨s, hs, _⟩ => h ⟨s, hs⟩
    rw [readBytes, hfault]
    exact not_isSettled_malformed _

theorem load_file {w : World} {name : String} (h : w.read name = .ok (some bytes)) :
    load w (.file name) = readBytes (formatOfName name) (.emptyFile name) bytes := by
  rw [load, h]
  rfl

/-- A text gives a mapping or a fault of the description unless it overstrains its reader. So does a file whose bytes
are a text in UTF-8, and no other one. -/
theorem load_settles_iff (format : Format) (content : String) (w : World) (name : String) :
    (IsSettled (Content.read format content) ↔ ¬Content.Overstrains format content) ∧
      ∀ bytes, w.read name = .ok (some bytes) →
        (IsSettled (load w (.file name)) ↔ ∃ s, bytes = Text.encodeUtf8 s ∧
          (s.isVacant = true ∨ ¬Content.Overstrains (formatOfName name) (Text.unified s))) := by
  refine ⟨Content.read_isSettled_iff, ?_⟩
  intro bytes h
  rw [load_file h, readBytes_isSettled_iff]

theorem load_settles_iff_version :
    (World.holding [] "api.yaml" (Text.encodeUtf8 "openapi: 3.0.3")).read "api.yaml" =
        .ok (some (Text.encodeUtf8 "openapi: 3.0.3")) ∧
      IsSettled (load (.holding [] "api.yaml" (Text.encodeUtf8 "openapi: 3.0.3")) (.file "api.yaml")) := by
  have hread : (World.holding [] "api.yaml" (Text.encodeUtf8 "openapi: 3.0.3")).read "api.yaml" =
      .ok (some (Text.encodeUtf8 "openapi: 3.0.3")) := by decide +kernel
  refine ⟨hread, ((load_settles_iff .unknown "" _ "api.yaml").2 _ hread).mpr ⟨"openapi: 3.0.3", rfl, .inr ?_⟩⟩
  have hformat : formatOfName "api.yaml" = .yaml := by decide +kernel
  have hyaml : (Yaml.read (Text.unified "openapi: 3.0.3")).isOk = true := by decide +kernel
  rw [hformat]
  rintro (⟨h, -⟩ | ⟨h, -⟩ | ⟨-, h⟩)
  · exact h rfl
  · exact h rfl
  · rw [h] at hyaml
    cases hyaml

theorem invalid_day_and_byte :
    ¬IsSettled (Content.read .unknown "date: 2020-13-45") ∧
      ¬IsSettled (load (.holding [] "api.yaml" [0xFF]) (.file "api.yaml")) := by
  constructor
  · have hjson : Json.read "date: 2020-13-45" = .error (.fault ⟨.value, 1, 1, 0⟩) :=
      map_eq_error.mp (by decide +kernel : (fun _ => ()) <$> Json.read "date: 2020-13-45" = _)
    have hyaml : Yaml.read "date: 2020-13-45" = .error (.malformed .noSuchDay) :=
      map_eq_error.mp (by decide +kernel : (fun _ => ()) <$> Yaml.read "date: 2020-13-45" = _)
    rw [Content.read_isSettled_iff, not_not]
    exact .yaml (.inr ⟨rfl, _, hjson⟩) hyaml
  · have hread : (World.holding [] "api.yaml" [0xFF]).read "api.yaml" = .ok (some [0xFF]) := by decide +kernel
    have hdecode : Text.decodeUtf8 [0xFF] = .error ⟨.badStart, 0, 1, 0xFF⟩ := by decide +kernel
    rw [load_file hread, readBytes, World.textOf, hdecode]
    exact not_isSettled_malformed _

end Source

end ClientForge
