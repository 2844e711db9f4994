import ClientForge.Proofs.Outcomes
import ClientForge.Text.Utf8
import Mathlib.Tactic.SplitIfs

namespace ClientForge.Text

open Outcome

theorem toList_loop (data : ByteArray) (i : ℕ) (held : List UInt8) :
    ByteArray.toList.loop data i held = held.reverse ++ data.data.toList.drop i := by
  by_cases h : i < data.size
  · have hlt : i < data.data.toList.length := h
    have hget : data.get! i = data.data.toList[i] := by simp [ByteArray.get!, getElem!_pos, h]
    rw [ByteArray.toList.loop, if_pos h, toList_loop data (i + 1), List.drop_eq_getElem_cons hlt, hget]
    simp
  · have hle : data.data.toList.length ≤ i := Nat.not_lt.mp h
    rw [ByteArray.toList.loop, if_neg h, List.drop_eq_nil_of_le hle, List.append_nil]
termination_by data.size - i

theorem encodeUtf8_ofList (chars : List Char) : encodeUtf8 (.ofList chars) = chars.flatMap String.utf8EncodeChar := by
  have hbytes : (String.ofList chars).toUTF8 = (chars.flatMap String.utf8EncodeChar).toByteArray :=
    String.toByteArray_ofList
  rw [encodeUtf8, hbytes, ByteArray.toList, toList_loop]
  simp

inductive Spells : List UInt8 → Char → Prop
  | one {b : UInt8} (hb : b.toNat < 0x80) : Spells [b] (.ofNat b.toNat)
  | two {b c : UInt8} (hb : 0xC2 ≤ b.toNat ∧ b.toNat < 0xE0) (hc : isSecond b c = true) :
      Spells [b, c] (.ofNat (b.toNat % 32 * 64 + payload c))
  | three {b c d : UInt8} (hb : 0xE0 ≤ b.toNat ∧ b.toNat < 0xF0) (hc : isSecond b c = true)
      (hd : isContinuation d = true) : Spells [b, c, d] (.ofNat ((b.toNat % 16 * 64 + payload c) * 64 + payload d))
  | four {b c d e : UInt8} (hb : 0xF0 ≤ b.toNat ∧ b.toNat < 0xF5) (hc : isSecond b c = true)
      (hd : isContinuation d = true) (he : isContinuation e = true) :
      Spells [b, c, d, e] (.ofNat (((b.toNat % 8 * 64 + payload c) * 64 + payload d) * 64 + payload e))

section Bytes

variable {b c : UInt8} {n : ℕ}

theorem isContinuation_iff : isContinuation b = true ↔ 0x80 ≤ b.toNat ∧ b.toNat ≤ 0xBF := by
  rw [isContinuation, Bool.and_eq_true, decide_eq_true_iff, decide_eq_true_iff, UInt8.le_iff_toNat_le,
    UInt8.le_iff_toNat_le]
  rfl

theorem isSecond_iff : isSecond b c = true ↔ 0x80 ≤ c.toNat ∧ c.toNat ≤ 0xBF ∧
    (b.toNat = 0xE0 → 0xA0 ≤ c.toNat) ∧ (b.toNat = 0xED → c.toNat ≤ 0x9F) ∧ (b.toNat = 0xF0 → 0x90 ≤ c.toNat) ∧
    (b.toNat = 0xF4 → c.toNat ≤ 0x8F) := by
  have heq (n : UInt8) : b = n ↔ b.toNat = n.toNat := UInt8.toNat_inj.symm
  rw [isSecond, Bool.and_eq_true, decide_eq_true_iff, decide_eq_true_iff, UInt8.le_iff_toNat_le,
    UInt8.le_iff_toNat_le]
  unfold secondByteBounds
  simp only [heq, UInt8.reduceToNat]
  split_ifs <;> simp only [UInt8.reduceToNat] <;> omega

theorem toNat_ofNat_char (h : n.isValidChar) : (Char.ofNat n).val.toNat = n := by
  rw [Char.ofNat, dif_pos h]
  rfl

theorem ofNat_eq_byte (h : n = b.toNat) : UInt8.ofNat n = b := h ▸ UInt8.ofNat_toNat

theorem toNat_ofNat_byte (h : n < 256) : (UInt8.ofNat n).toNat = n := by rw [UInt8.toNat_ofNat', Nat.mod_eq_of_lt h]

theorem lead_iff : ¬b < 0x80 ∧ ¬(decide (b < 0xC2) || decide (0xF5 ≤ b)) = true ↔
    0xC2 ≤ b.toNat ∧ b.toNat < 0xF5 := by
  simp only [Bool.or_eq_true, decide_eq_true_iff, UInt8.lt_iff_toNat_lt, UInt8.le_iff_toNat_le, UInt8.reduceToNat]
  omega

end Bytes

variable {bytes rest : List UInt8} {c : Char} {chars : List Char} {position : ℕ}

theorem Spells.encode_eq (h : Spells bytes c) : String.utf8EncodeChar c = bytes := by
  unfold String.utf8EncodeChar
  cases h with
  | one hb =>
    rw [toNat_ofNat_char (by unfold Nat.isValidChar; omega), if_pos (by omega), ofNat_eq_byte rfl]
  | two hb hc =>
    rw [isSecond_iff] at hc
    unfold payload
    rw [toNat_ofNat_char (by unfold Nat.isValidChar; omega), if_neg (by omega), if_pos (by omega)]
    simp only [List.cons.injEq, and_true]
    exact ⟨ofNat_eq_byte (by omega), ofNat_eq_byte (by omega)⟩
  | three hb hc hd =>
    rw [isSecond_iff] at hc
    rw [isContinuation_iff] at hd
    unfold payload
    rw [toNat_ofNat_char (by unfold Nat.isValidChar; omega), if_neg (by omega), if_neg (by omega), if_pos (by omega)]
    simp only [List.cons.injEq, and_true]
    exact ⟨ofNat_eq_byte (by omega), ofNat_eq_byte (by omega), ofNat_eq_byte (by omega)⟩
  | four hb hc hd he =>
    rw [isSecond_iff] at hc
    rw [isContinuation_iff] at hd he
    unfold payload
    rw [toNat_ofNat_char (by unfold Nat.isValidChar; omega), if_neg (by omega), if_neg (by omega), if_neg (by omega)]
    simp only [List.cons.injEq, and_true]
    exact ⟨ofNat_eq_byte (by omega), ofNat_eq_byte (by omega), ofNat_eq_byte (by omega), ofNat_eq_byte (by omega)⟩

theorem spells_encode (c : Char) : Spells (String.utf8EncodeChar c) c := by
  have hvalid : c.val.toNat.isValidChar := c.valid
  have hback : Char.ofNat c.val.toNat = c := Char.ofNat_toNat c
  unfold String.utf8EncodeChar
  generalize c.val.toNat = v at hvalid hback
  subst hback
  unfold Nat.isValidChar at hvalid
  have htail (n : ℕ) : (UInt8.ofNat (n % 64 + 128)).toNat = n % 64 + 128 := toNat_ofNat_byte (by omega)
  have hcontinuation (n : ℕ) : isContinuation (.ofNat (n % 64 + 128)) = true := by
    rw [isContinuation_iff, htail]
    omega
  dsimp only
  split_ifs with h1 h2 h3
  · have hb := toNat_ofNat_byte (n := v) (by omega)
    have h := Spells.one (b := .ofNat v) (by omega)
    rwa [hb] at h
  · have hb := toNat_ofNat_byte (n := v / 64 % 32 + 192) (by omega)
    have hc : isSecond (.ofNat (v / 64 % 32 + 192)) (.ofNat (v % 64 + 128)) = true := by
      rw [isSecond_iff, hb, htail]
      omega
    have h := Spells.two (by omega) hc
    rwa [payload, hb, htail, show (v / 64 % 32 + 192) % 32 * 64 + (v % 64 + 128) % 64 = v by omega] at h
  · have hb := toNat_ofNat_byte (n := v / 4096 % 16 + 224) (by omega)
    have hc : isSecond (.ofNat (v / 4096 % 16 + 224)) (.ofNat (v / 64 % 64 + 128)) = true := by
      rw [isSecond_iff, hb, htail]
      omega
    have h := Spells.three (by omega) hc (hcontinuation v)
    rwa [payload, payload, hb, htail, htail, show ((v / 4096 % 16 + 224) % 16 * 64 + (v / 64 % 64 + 128) % 64) * 64 +
      (v % 64 + 128) % 64 = v by omega] at h
  · have hb := toNat_ofNat_byte (n := v / 262144 % 8 + 240) (by omega)
    have hc : isSecond (.ofNat (v / 262144 % 8 + 240)) (.ofNat (v / 4096 % 64 + 128)) = true := by
      rw [isSecond_iff, hb, htail]
      omega
    have h := Spells.four (by omega) hc (hcontinuation (v / 64)) (hcontinuation v)
    rwa [payload, payload, payload, hb, htail, htail, htail,
      show (((v / 262144 % 8 + 240) % 8 * 64 + (v / 4096 % 64 + 128) % 64) * 64 + (v / 64 % 64 + 128) % 64) * 64 +
        (v % 64 + 128) % 64 = v by omega] at h

theorem decode_spells (h : Spells bytes c) (rest : List UInt8) (position : ℕ) :
    decodeUtf8From position (bytes ++ rest) = (c :: ·) <$> decodeUtf8From (position + bytes.length) rest := by
  have hnot {holds : Bool} (h : holds = true) : ¬(!holds) = true := by simp [h]
  have hlong {b : UInt8} (h : 0xE0 ≤ b.toNat) : ¬b < 0xE0 := UInt8.lt_iff_toNat_lt.not.mpr (Nat.not_lt.mpr h)
  have hlonger {b : UInt8} (h : 0xF0 ≤ b.toNat) : ¬b < 0xF0 := UInt8.lt_iff_toNat_lt.not.mpr (Nat.not_lt.mpr h)
  rw [decodeUtf8From.eq_def]
  cases h with
  | one hb => exact if_pos (UInt8.lt_iff_toNat_lt.mpr hb)
  | two hb hc =>
    obtain ⟨h1, h2⟩ := lead_iff.mpr ⟨hb.1, by omega⟩
    simp only [List.cons_append, List.nil_append]
    rw [if_neg h1, if_neg h2, if_neg (hnot hc), if_pos (UInt8.lt_iff_toNat_lt.mpr hb.2)]
    rfl
  | three hb hc hd =>
    obtain ⟨h1, h2⟩ := lead_iff.mpr ⟨Nat.le_trans (by decide) hb.1, by omega⟩
    simp only [List.cons_append, List.nil_append]
    rw [if_neg h1, if_neg h2, if_neg (hnot hc), if_neg (hlong hb.1), if_neg (hnot hd),
      if_pos (UInt8.lt_iff_toNat_lt.mpr hb.2)]
    rfl
  | four hb hc hd he =>
    obtain ⟨h1, h2⟩ := lead_iff.mpr ⟨Nat.le_trans (by decide) hb.1, hb.2⟩
    simp only [List.cons_append, List.nil_append]
    rw [if_neg h1, if_neg h2, if_neg (hnot hc), if_neg (hlong (Nat.le_trans (by decide) hb.1)), if_neg (hnot hd),
      if_neg (hlonger hb.1), if_neg (hnot he)]
    rfl

theorem bytes_of_decode (h : decodeUtf8From position bytes = .ok chars) :
    bytes = chars.flatMap String.utf8EncodeChar := by
  have hstep {bytes rest : List UInt8} {c : Char} {chars : List Char} {position : ℕ} (hc : Spells bytes c)
      (ih : ∀ {chars}, decodeUtf8From position rest = .ok chars → rest = chars.flatMap String.utf8EncodeChar)
      (h : (c :: ·) <$> decodeUtf8From position rest = .ok chars) :
      bytes ++ rest = chars.flatMap String.utf8EncodeChar := by
    obtain ⟨chars, hrest, rfl⟩ := map_eq_ok.mp h
    rw [List.flatMap_cons, hc.encode_eq, ← ih hrest]
  have hpasses {holds : Bool} (h : ¬(!holds) = true) : holds = true := by simpa using h
  have hless {b n : UInt8} : b < n ↔ b.toNat < n.toNat := UInt8.lt_iff_toNat_lt
  -- A case is a sequence that has been read, or a fault.
  fun_induction decodeUtf8From position bytes generalizing chars with
  | case1 =>
    cases h
    rfl
  | case2 position b rest hb ih => exact hstep (.one (hless.mp hb)) ih h
  | case6 position b hb hlead c rest hc hlow ih =>
    exact hstep (.two ⟨(lead_iff.mp ⟨hb, hlead⟩).1, hless.mp hlow⟩ (hpasses hc)) ih h
  | case9 position b hb hlead c hc hlow d rest hd hhigh ih =>
    exact hstep (.three ⟨Nat.not_lt.mp (hless.not.mp hlow), hless.mp hhigh⟩ (hpasses hc) (hpasses hd)) ih h
  | case12 position b hb hlead c hc hlow d hd hhigh e rest he ih =>
    exact hstep (.four ⟨Nat.not_lt.mp (hless.not.mp hhigh), (lead_iff.mp ⟨hb, hlead⟩).2⟩ (hpasses hc) (hpasses hd)
      (hpasses he)) ih h
  | _ => cases h

theorem decode_encoded (chars : List Char) (position : ℕ) :
    decodeUtf8From position (chars.flatMap String.utf8EncodeChar) = .ok chars := by
  induction chars generalizing position with
  | nil => rfl
  | cons c chars ih =>
    rw [List.flatMap_cons, decode_spells (spells_encode c), ih]
    rfl

theorem decodeUtf8_eq_ok {s : String} : decodeUtf8 bytes = .ok s ↔ bytes = encodeUtf8 s := by
  have hencode : encodeUtf8 s = s.toList.flatMap String.utf8EncodeChar := by
    rw [← encodeUtf8_ofList, String.ofList_toList]
  rw [hencode, decodeUtf8, map_eq_ok]
  constructor
  · rintro ⟨chars, h, rfl⟩
    rw [String.toList_ofList]
    exact bytes_of_decode h
  · rintro rfl
    exact ⟨s.toList, decode_encoded _ _, String.ofList_toList⟩

end ClientForge.Text
