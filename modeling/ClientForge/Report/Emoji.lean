import ClientForge.Report.Emoji.Names
import ClientForge.Text.Pieces

namespace ClientForge.Emoji

def paired : List String → List (String × String)
  | name :: picture :: rest => (name, picture) :: paired rest
  | _ => []

def wordsOf (table : String) : List String := (table.split fun c => c = ' ' || c = '\n').toList.map (·.copy)

def pictures : List (String × String) :=
  [namesAToF, namesGToM, namesNToZ, namesOfFlags].flatMap fun table =>
    paired ((wordsOf table).filter (· ≠ ""))

def variants : List (List Char × Char) := [("-emoji".toList, '\ufe0f'), ("-text".toList, '\ufe0e')]

def named? (name : List Char) : Option (List Char) :=
  (pictures.find? (·.1 = (String.ofList name).toLower)).map (·.2.toList)

def picture? (inside : List Char) : Option (List Char) :=
  match variants.find? fun (ending, _) => ending.isSuffixOf inside with
  | some (ending, mark) => (named? (inside.take (inside.length - ending.length))).map (· ++ [mark])
  | none => named? inside

def enclosed? : List Char → Option (List Char × List Char)
  | [] => none
  | ':' :: rest => some ([], rest)
  | c :: rest => if Text.isBlank c then none else (enclosed? rest).map fun (inside, after) => (c :: inside, after)

theorem length_of_enclosed? {s inside after : List Char} (h : enclosed? s = some (inside, after)) :
    after.length < s.length := by
  induction s generalizing inside with
  | nil => simp [enclosed?] at h
  | cons c rest ih =>
    by_cases hc : c = ':'
    · subst hc
      simp only [enclosed?, Option.some.injEq, Prod.mk.injEq] at h
      simp [← h.2]
    · simp only [enclosed?] at h
      split at h
      · simp at h
      · simp only [Option.map_eq_some_iff, Prod.mk.injEq, Prod.exists] at h
        obtain ⟨i, a, he, _, rfl⟩ := h
        have := ih he
        simp only [List.length_cons]
        omega

def shown : List Char → List Char
  | [] => []
  | c :: rest =>
    if c = ':' then
      match h : enclosed? rest with
      | some (inside, after) =>
        have : after.length < rest.length := length_of_enclosed? h
        (picture? inside).getD (':' :: inside ++ [':']) ++ shown after
      | none => c :: shown rest
    else c :: shown rest
termination_by s => s.length

end ClientForge.Emoji
