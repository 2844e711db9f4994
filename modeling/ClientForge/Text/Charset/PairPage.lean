import ClientForge.Text.Charset.Big5
import ClientForge.Text.Charset.Gbk
import ClientForge.Text.Charset.Jis
import ClientForge.Text.Charset.Uhc

/-!
Pages of pairs: ways to write thousands of characters, those beyond ASCII in two bytes each. In some a byte beyond ASCII
may stand alone, and some have further pairs behind a byte that announces them. The first byte of a pair counts 256
times in its number.
-/

namespace ClientForge.Text

structure PairPage where
  name : String
  others : List String
  single? : Nat → Option Char
  pair? : Nat → Option Char
  furtherPair? : Option (Nat → Option Char)

namespace PairPage

def find? (rows : List (Nat × Array Char)) (pair : Nat) : Option Char :=
  ((rows.find? fun (first, chars) => first ≤ pair && pair < first + chars.size).bind
    fun (first, chars) => chars[pair - first]?).filter (· ≠ '\ufffd')

def findInRuns? (runs : List (Nat × Nat × Nat)) (n : Nat) : Option Char :=
  (runs.find? fun (first, _, count) => first ≤ n && n < first + count).map
    fun (first, char, _) => Char.ofNat (char + (n - first))

def arrays (rows : List (Nat × String)) : List (Nat × Array Char) :=
  rows.map fun (first, s) => (first, s.toList.toArray)

def furtherMark : UInt8 := 0x8f

def numberOf (a b : UInt8) : Nat := a.toNat * 256 + b.toNat

def decode (p : PairPage) : List UInt8 → List Char
  | [] => []
  | a :: rest =>
    if a < 0x80 then Char.ofNat a.toNat :: decode p rest
    else match p.single? a.toNat with
      | some char => char :: decode p rest
      | none =>
        match p.furtherPair?.filter fun _ => a = furtherMark, rest with
        | some further?, b :: c :: more =>
          match further? (numberOf b c) with
          | some char => char :: decode p more
          | none => '\ufffd' :: decode p (b :: c :: more)
        | some _, _ => ['\ufffd']
        | none, b :: more =>
          match p.pair? (numberOf a b) with
          | some char => char :: decode p more
          | none => '\ufffd' :: decode p (b :: more)
        | none, [] => ['\ufffd']

def gbkArrays := arrays gbkRows

def gb2312Arrays := arrays gb2312Rows

def gb18030Arrays := arrays gb18030Rows

def big5Arrays := arrays big5Rows

def cp950Arrays := arrays cp950Rows

def jisArrays := arrays jisRows

def furtherJisArrays := arrays furtherJisRows

def cp932Arrays := arrays cp932Rows

def uhcArrays := arrays uhcRows

def isOld (pair : Nat) : Bool := 0xa1a1 ≤ pair && 0xa1 ≤ pair % 256

def newSigns : List (Nat × Nat) := [(0xa2a1, 0xa2aa), (0xa6e0, 0xa6f5), (0xa8bb, 0xa8c0)]

def gb2312? (pair : Nat) : Option Char :=
  if isOld pair && !newSigns.any fun (first, last) => first ≤ pair && pair ≤ last then
    (find? gb2312Arrays pair).or (find? gbkArrays pair)
  else none

def gb18030? (pair : Nat) : Option Char :=
  ((find? gbkArrays pair).or (find? gb18030Arrays pair)).or (findInRuns? gb18030Private pair)

def narrowSyllable? (n : Nat) : Option Char :=
  if 0xa1 ≤ n && n ≤ 0xdf then some (Char.ofNat (0xff61 + (n - 0xa1))) else none

def eucJp? (pair : Nat) : Option Char :=
  if pair / 256 = 0x8e then narrowSyllable? (pair % 256) else find? jisArrays pair

def foldedPair? (pair : Nat) : Option Nat :=
  let lead := pair / 256
  let trail := pair % 256
  let row := 2 * (if lead < 0xa0 then lead - 0x81 else lead - 0xc1)
  if lead < 0x81 || 0x9f < lead && lead < 0xe0 || trail < 0x40 || trail = 0x7f || 0xfc < trail then none
  else if 0x9f ≤ trail then some ((row + 1 + 0xa1) * 256 + (trail - 0x9f + 0xa1))
  else some ((row + 0xa1) * 256 + (trail - 0x40 - (if 0x7f < trail then 1 else 0) + 0xa1))

def shiftJis? (pair : Nat) : Option Char := (foldedPair? pair).bind (find? jisArrays)

def private? (pair : Nat) : Option Char :=
  let trail := pair % 256
  if 0xf040 ≤ pair && pair < 0xfa00 && 0x40 ≤ trail && trail ≠ 0x7f && trail ≤ 0xfc then
    some (Char.ofNat (0xe000 + (pair / 256 - 0xf0) * 188 + (trail - 0x40 - (if 0x7f < trail then 1 else 0))))
  else none

def cp932? (pair : Nat) : Option Char := ((find? cp932Arrays pair).or (private? pair)).or (shiftJis? pair)

def cp932Single? (n : Nat) : Option Char :=
  if n = 0x80 then some '\u0080'
  else if n = 0xa0 then some '\uf8f0'
  else if 0xfd ≤ n then some (Char.ofNat (0xf8f1 + (n - 0xfd)))
  else narrowSyllable? n

def all : List PairPage := [
  ⟨"gb2312", ["chinese", "csiso58gb231280", "euc_cn", "euccn", "eucgb2312_cn", "gb2312_1980", "gb2312_80", "iso_ir_58",
    "x_mac_simp_chinese"], fun _ => none, gb2312?, none⟩,
  ⟨"gbk", ["936", "cp936", "ms936"], fun _ => none, find? gbkArrays, none⟩,
  ⟨"big5", ["big5_tw", "csbig5", "x_mac_trad_chinese"], fun _ => none, find? big5Arrays, none⟩,
  ⟨"cp950", ["950", "ms950"], fun _ => none, fun pair => (find? cp950Arrays pair).or (find? big5Arrays pair), none⟩,
  ⟨"shift_jis", ["csshiftjis", "s_jis", "shiftjis", "sjis", "x_mac_japanese"], narrowSyllable?, shiftJis?, none⟩,
  ⟨"cp932", ["932", "ms932", "ms_kanji", "mskanji"], cp932Single?, cp932?, none⟩,
  ⟨"euc_jp", ["eucjp", "u_jis", "ujis"], fun _ => none, eucJp?, some (find? furtherJisArrays)⟩,
  ⟨"euc_kr", ["euckr", "korean", "ks_c_5601", "ks_c_5601_1987", "ks_x_1001", "ksc5601", "ksx1001", "x_mac_korean"],
    fun _ => none, fun pair => if isOld pair && pair ≠ 0xa4d4 then find? uhcArrays pair else none, none⟩,
  ⟨"cp949", ["949", "ms949", "uhc"], fun _ => none, find? uhcArrays, none⟩]

end PairPage

def quad? (a b c d : Nat) : Option Char :=
  let place := (((a - 0x81) * 10 + (b - 0x30)) * 126 + (c - 0x81)) * 10 + (d - 0x30)
  if a < 0x81 || c < 0x81 || d < 0x30 || 0x39 < d then none
  else if place < 39420 then PairPage.findInRuns? gb18030Quads place
  else if 0x90 ≤ a && place - 189000 ≤ 0xfffff then some (Char.ofNat (0x10000 + (place - 189000)))
  else none

def decodeGb18030 : List UInt8 → List Char
  | [] => []
  | a :: rest =>
    if a < 0x80 then Char.ofNat a.toNat :: decodeGb18030 rest
    else match rest with
      | [] => ['\ufffd']
      | b :: more =>
        if 0x30 ≤ b && b ≤ 0x39 then
          match more with
          | c :: d :: further =>
            match quad? a.toNat b.toNat c.toNat d.toNat with
            | some char => char :: decodeGb18030 further
            | none => '\ufffd' :: decodeGb18030 (b :: c :: d :: further)
          | _ => ['\ufffd']
        else match PairPage.gb18030? (PairPage.numberOf a b) with
          | some char => char :: decodeGb18030 more
          | none => '\ufffd' :: decodeGb18030 (b :: more)

end ClientForge.Text
