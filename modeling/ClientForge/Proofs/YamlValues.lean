import ClientForge.Proofs.YamlTexts
import Mathlib.Data.List.TakeWhile

/-!
Scalars of YAML that have no value although their tag fits their form: days that the calendar does not have, numbers
without anything behind their sign, and characters beyond the last one.
-/

namespace ClientForge.Yaml

open Outcome

section Dates

variable {c : Char} {s rest year month day : List Char}

theorem not_isOneOf {words : List String} (hc : c.isDigit = true)
    (h : words.all (fun w => w.toList.head?.any fun x => !x.isDigit) = true) : isOneOf words (c :: rest) = false := by
  rw [isOneOf, List.any_eq_false]
  intro w hw
  have hfirst := List.all_eq_true.mp h w hw
  cases hlist : w.toList with
  | nil => simp [hlist] at hfirst
  | cons x xs =>
    rw [hlist] at hfirst
    have hne : x ≠ c := by
      rintro rfl
      simp [hc] at hfirst
    simp [List.isPrefixOf?, hne]

theorem dropSign_digit (hc : c.isDigit = true) : dropSign (c :: rest) = c :: rest := by
  unfold dropSign
  split
  · rename_i heq; cases heq; cases hc
  · rename_i heq; cases heq; cases hc
  · rfl

theorem dropWhile_digits (hs : s.all Char.isDigit = true) (rest : List Char) :
    (s ++ '-' :: rest).dropWhile isDigitOrLine = '-' :: rest := by
  have hmark : isDigitOrLine '-' = false := by decide
  rw [List.dropWhile_append_of_pos]
  · simp [hmark]
  · exact fun c hc => by rw [isDigitOrLine, List.all_eq_true.mp hs c hc, Bool.true_or]

theorem not_isFloat (hs : s.all Char.isDigit = true) (hne : s ≠ []) : isFloat (s ++ '-' :: rest) = false := by
  obtain ⟨c, s', rfl⟩ := List.exists_cons_of_ne_nil hne
  have hc : c.isDigit = true := by simp at hs; exact hs.1
  have hdot : c ≠ '.' := by rintro rfl; cases hc
  have hafter := dropWhile_digits hs rest
  have hinf : isOneOf [".inf", ".Inf", ".INF"] (c :: (s' ++ '-' :: rest)) = false := not_isOneOf hc (by decide)
  have hnan : isOneOf [".nan", ".NaN", ".NAN"] (c :: (s' ++ '-' :: rest)) = false := not_isOneOf hc (by decide)
  rw [List.cons_append] at hafter ⊢
  simp only [isFloat, dropSign_digit hc, hafter, hinf, hnan]
  simp [afterSixtieths, sixtieths, hdot]

theorem not_atEnd (hs : s.all Char.isDigit = true) : atEnd (s ++ '-' :: rest) = false := by
  cases s with
  | nil => simp [atEnd]
  | cons c s =>
    have hc : c ≠ '\n' := by rintro rfl; simp at hs
    simp [atEnd, hc]

theorem not_isRun {p : Char → Bool} (hs : s.all Char.isDigit = true) (hmark : p '-' = false) :
    isRun p (s ++ '-' :: rest) = false := by
  have hdrop : atEnd ((s ++ '-' :: rest).dropWhile p) = false := by
    induction s with
    | nil => simp [hmark, atEnd]
    | cons c s ih =>
      rw [List.cons_append, List.dropWhile_cons]
      split
      · exact ih (by simp_all)
      · exact not_atEnd hs
  rw [isRun, hdrop, Bool.and_false]

theorem not_isInt (hs : s.all Char.isDigit = true) (hlength : 2 ≤ s.length) : isInt (s ++ '-' :: rest) = false := by
  obtain ⟨c, c', s', rfl⟩ : ∃ c c' s', s = c :: c' :: s' := by
    match s, hlength with
    | c :: c' :: s', _ => exact ⟨c, c', s', rfl⟩
  simp only [List.all_cons, Bool.and_eq_true] at hs
  obtain ⟨hc, hc', hs'⟩ := hs
  have htail : (c' :: s').all Char.isDigit = true := by simp [hc', hs']
  have hafter := dropWhile_digits htail rest
  have hend : atEnd ('-' :: rest) = false := by simp [atEnd]
  have hnone : afterSixtieths ('-' :: rest) = none := by simp [afterSixtieths, sixtieths]
  rw [isInt, List.cons_append, dropSign_digit hc]
  split
  · rename_i heq
    cases heq
    cases hc'
  · rename_i heq
    cases heq
    cases hc'
  · rename_i heq
    cases heq
    rw [not_atEnd htail, not_isRun htail (by decide), Bool.or_false]
  · rename_i heq
    cases heq
    rw [hafter, hend, hnone, Option.any_none, Bool.or_false, Bool.and_false]
  · rfl

theorem fewDigits?_eq {least most : ℕ} (hs : s.all Char.isDigit = true) (hleast : least ≤ s.length)
    (hmost : s.length = most) : fewDigits? least most (s ++ rest) = some (s, rest) := by
  have htake : (s ++ rest).take most = s := by rw [← hmost, List.take_left]
  have hwhile : s.takeWhile Char.isDigit = s := List.takeWhile_eq_self_iff.mpr fun c hc => List.all_eq_true.mp hs c hc
  rw [fewDigits?, htake, hwhile, if_neg (by omega), List.drop_left]

end Dates

structure WrittenDay where
  year : List Char
  month : List Char
  day : List Char
  length_year : year.length = 4
  length_month : month.length = 2
  length_day : day.length = 2
  year_digits : year.all Char.isDigit = true
  month_digits : month.all Char.isDigit = true
  day_digits : day.all Char.isDigit = true

namespace WrittenDay

def chars (w : WrittenDay) : List Char := w.year ++ '-' :: (w.month ++ '-' :: w.day)

def date (w : WrittenDay) : Date := ⟨number w.year, number w.month, number w.day⟩

variable (w : WrittenDay)

theorem read?_chars : Stamp.read? w.chars = some ⟨w.date.year, w.date.month, w.date.day, true, none, none⟩ := by
  have hd : w.day = w.day ++ [] := (List.append_nil w.day).symm
  rw [Stamp.read?, chars, fewDigits?_eq w.year_digits w.length_year.ge w.length_year]
  change (fewDigits? 1 2 (w.month ++ '-' :: w.day)).bind _ = _
  rw [fewDigits?_eq w.month_digits (by rw [w.length_month]; decide) w.length_month]
  change (fewDigits? 1 2 w.day).bind _ = _
  rw [hd, fewDigits?_eq w.day_digits (by rw [w.length_day]; decide) w.length_day]
  simp [atEnd, w.length_month, w.length_day, date]

theorem exists_cons : ∃ c rest, w.chars = c :: rest ∧ c.isDigit = true := by
  obtain ⟨c, rest, hyear⟩ := List.exists_cons_of_ne_nil (List.ne_nil_of_length_pos (by rw [w.length_year]; decide))
  have hdigits := w.year_digits
  rw [hyear, List.all_cons, Bool.and_eq_true] at hdigits
  exact ⟨c, _, by rw [chars, hyear]; rfl, hdigits.1⟩

theorem implicitTag_chars : implicitTag (.ofList w.chars) = tagOf "timestamp" := by
  obtain ⟨c, rest, hchars, hc⟩ := w.exists_cons
  have hyear : 2 ≤ w.year.length := by rw [w.length_year]; decide
  have hfloat : isFloat w.chars = false := not_isFloat w.year_digits (List.ne_nil_of_length_pos (by omega))
  have hint : isInt w.chars = false := not_isInt w.year_digits hyear
  have hstamp : isStamp w.chars = true := by
    rw [isStamp, read?_chars]
    rfl
  have hbool : isBool w.chars = false := hchars ▸ not_isOneOf hc (by decide +kernel)
  have hmerge : isOneOf ["<<"] w.chars = false := hchars ▸ not_isOneOf hc (by decide)
  have hnull : isNull w.chars = false := by
    rw [isNull, hchars, not_isOneOf hc (by decide)]
    rfl
  simp only [implicitTag, implicitForms, String.toList_ofList, List.find?_cons, hbool, hfloat, hint, hmerge, hnull,
    hstamp]
  rfl

theorem stampValue_chars : stampValue w.chars =
    if w.date.isValid then .ok (.date w.date) else .error (.malformed .noSuchDay) := by
  rw [stampValue, read?_chars]
  change orMalformed .noSuchDay (if w.date.isValid = true then some (Scalar.date w.date) else none) = _
  split <;> rfl

theorem isWord_chars : IsWord w.chars where
  chars := by
    have hname {s : List Char} (hs : s.all Char.isDigit = true) : s.all isNameChar = true :=
      List.all_eq_true.mpr fun c hc => by simp [isNameChar, Char.isAlphanum, List.all_eq_true.mp hs c hc]
    simp only [chars, List.all_append, List.all_cons, hname w.year_digits, hname w.month_digits, hname w.day_digits]
    decide
  first := by
    obtain ⟨c, rest, hchars, hc⟩ := w.exists_cons
    simp [hchars, Char.isAlphanum, hc]

theorem read_chars : read (.ofList w.chars) =
    if w.date.isValid then .ok (.scalar (.date w.date)) else .error (.malformed .noSuchDay) := by
  have hreader : scalarReader? (scalarTag none (.ofList w.chars) true) = some stampValue := by
    have htag : scalarTag none (.ofList w.chars) true = tagOf "timestamp" := w.implicitTag_chars
    rw [htag]
    rfl
  rw [read_scalar (tokens_word w.isWord_chars) hreader, String.toList_ofList, stampValue_chars]
  split <;> rfl

end WrittenDay

theorem read_longEscape {digits rest : List Char} {n : ℕ} (hlength : digits.length = 8)
    (hvalue : hexValue? digits = some n) (hn : 0x10FFFF < n) (hallowed : (digits ++ rest).all isAllowed = true) :
    ∃ f, read (.ofList (longEscape digits rest)) = .error (.malformed f) := by
  have hcharacter : ∃ f, characterOf n = .error (.malformed f) := by
    unfold characterOf
    split
    · exact ⟨_, rfl⟩
    · exact ⟨_, rfl⟩
  obtain ⟨f, hf⟩ := hcharacter
  exact ⟨f, read_broken (tokens_longEscape hlength hvalue hf hallowed)⟩

section Numbers

variable {s : List Char} {f : Malformed}

theorem orMalformed_eq_error {α : Type} {x : Option α} {f' : Malformed} (h : orMalformed f x = .error (.malformed f')) :
    f' = f := by
  cases x <;> cases h
  rfl

theorem decimalInt_ne (s : List Char) : decimalInt s ≠ .error (.malformed .emptyNumber) := by
  intro h
  rcases bind_eq_error.mp h with h | ⟨n, -, h⟩
  · cases orMalformed_eq_error h
  · split at h <;> cases h

theorem unsignedInt_eq_empty (h : unsignedInt s = .error (.malformed .emptyNumber)) : s = [] := by
  unfold unsignedInt at h
  split at h
  · rfl
  · cases h
  · cases orMalformed_eq_error h
  · cases orMalformed_eq_error h
  · cases orMalformed_eq_error h
  · split at h
    · rcases bind_eq_error.mp h with h | ⟨n, -, h⟩
      · obtain ⟨_, part, _, -, -, hpart⟩ := mapM_eq_error.mp h
        exact absurd hpart (decimalInt_ne part)
      · cases h
    · exact absurd h (decimalInt_ne _)

theorem intValue_eq_empty_iff : intValue s = .error (.malformed .emptyNumber) ↔
    withoutUnderscores s ∈ [[], ['-'], ['+']] := by
  constructor
  · intro h
    rcases bind_eq_error.mp h with h | ⟨⟨negative, digits⟩, hsign, h⟩
    · unfold splitSign at h
      split at h
      · simp [*]
      all_goals cases h
    · rcases bind_eq_error.mp h with h | ⟨n, -, h⟩
      · have hempty := unsignedInt_eq_empty h
        unfold splitSign at hsign
        split at hsign <;> cases hsign <;> simp_all
      · cases h
  · intro h
    simp only [List.mem_cons, List.not_mem_nil, or_false] at h
    rcases h with h | h | h <;> rw [intValue, h] <;> rfl

theorem read_empty {content text : String} {isPlain : Bool}
    (h : tokens content = [.tag (some "!!") "int", .scalar text isPlain, .textEnd])
    (hempty : withoutUnderscores text.toList ∈ [[], ['-'], ['+']]) :
    read content = .error (.malformed .emptyNumber) := by
  have hreader : scalarReader? (tagOf "int") = some intValue := rfl
  rw [read_tagged h hreader, intValue_eq_empty_iff.mpr hempty]
  rfl

end Numbers

end ClientForge.Yaml
