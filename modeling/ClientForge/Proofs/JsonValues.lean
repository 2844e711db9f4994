import ClientForge.Json.Reader
import ClientForge.Proofs.Outcomes

namespace ClientForge

namespace Text

variable {n : CodePoint} {c : Char} {s : String} {p : List CodePoint}

theorem char?_eq_some_iff : char? n = some c ↔ n = codePoint c := by
  constructor
  · intro h
    by_cases hvalid : n.val.isValidChar
    · rw [char?, dif_pos hvalid, Option.some_inj] at h
      exact h ▸ rfl
    · rw [char?, dif_neg hvalid] at h
      cases h
  · rintro rfl
    have hvalid : (codePoint c).val.isValidChar := c.valid
    rw [char?, dif_pos hvalid, Option.some_inj]
    exact Char.ext rfl

theorem mapM_char?_eq_some_iff {chars : List Char} : p.mapM char? = some chars ↔ p = chars.map codePoint := by
  induction p generalizing chars with
  | nil => cases chars <;> simp
  | cons n p ih =>
    cases chars with
    | nil => simp [List.mapM_cons, Option.bind_eq_some_iff]
    | cons c chars => simp [List.mapM_cons, Option.bind_eq_some_iff, char?_eq_some_iff, ih]

theorem text?_eq_some_iff : text? p = some s ↔ p = points s := by
  rw [text?, Option.map_eq_some_iff]
  constructor
  · rintro ⟨chars, hchars, rfl⟩
    rw [mapM_char?_eq_some_iff.mp hchars, points, String.toList_ofList]
  · rintro rfl
    exact ⟨s.toList, mapM_char?_eq_some_iff.mpr rfl, String.ofList_toList⟩

theorem text?_points (s : String) : text? (points s) = some s := text?_eq_some_iff.mpr rfl

theorem points_injective : Function.Injective points := fun s t h =>
  Option.some.inj ((text?_points s).symm.trans (h ▸ text?_points t))

theorem points_ne_nil (hs : s ≠ "") : points s ≠ [] := fun h => hs (points_injective h)

end Text

namespace Json.Value

variable {v : Value}

theorem append_ne_empty {s t : String} (h : s ≠ "" ∨ t ≠ "") : s ++ t ≠ "" := by simpa [imp_iff_not_or] using h

theorem decimal_ne_empty (form : Binary64.Layout) (digits : ℕ) (exponent : Int) :
    form.decimal digits exponent ≠ "" := by
  have hpoint (digits : String) (point : ℕ) : Binary64.withPoint digits point ≠ "" := by
    simp [Binary64.withPoint, String.ofList_eq_empty_iff]
  unfold Binary64.Layout.decimal
  dsimp only
  split
  · exact append_ne_empty (.inl (append_ne_empty (.inr (by decide))))
  · split
    · exact append_ne_empty (.inr (by decide))
    · split
      · exact hpoint _ _
      · exact append_ne_empty (.inl (append_ne_empty (.inl (by decide))))

theorem text_ne_empty (x : Binary64) : x.text ≠ "" := by
  cases x with
  | nan => decide
  | infinite negative => cases negative <;> decide
  | finite negative m e =>
    rw [Binary64.text]
    refine append_ne_empty (.inr ?_)
    split
    · decide
    · exact decimal_ne_empty _ _ _

theorem int_ne_empty (n : Int) : toString n ≠ "" := by
  have hnat (m : ℕ) : m.repr ≠ "" := by simp
  cases n with
  | ofNat m => exact hnat m
  | negSucc m => exact append_ne_empty (.inl (by decide))

theorem display_ne_nil (hgiven : v.isGiven = true) : v.display ≠ [] := by
  cases v with
  | null => cases hgiven
  | bool b => cases b <;> exact Text.points_ne_nil (by decide)
  | int n => exact Text.points_ne_nil (int_ne_empty n)
  | real x => exact Text.points_ne_nil (text_ne_empty x)
  | text s => exact List.isEmpty_eq_false_iff.mp (Bool.not_eq_true' _ ▸ hgiven)
  | list items => exact Text.points_ne_nil (append_ne_empty (.inl (append_ne_empty (.inl (by decide)))))
  | map members => exact Text.points_ne_nil (append_ne_empty (.inl (append_ne_empty (.inl (by decide)))))

end Json.Value

end ClientForge
