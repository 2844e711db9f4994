import ClientForge.Proofs.TypeTexts

namespace ClientForge

open CodeReader Token

def Names (code : String) (P : String → Prop) : Prop := ∃ tokens, Reads code tokens ∧ ∀ x ∈ names tokens, P x

section Annotations

variable {name value : String} {t : TypeExpr} {ta tv : List Token} {P : String → Prop}

theorem reads_typed (hname : Naming.IsWord name) (ht : t.IsReadable) :
    Reads (name ++ ": " ++ t.text) (.word name :: .mark ':' :: t.tokens) := by
  have hcolon : Closed ": " [.mark ':'] := fun _ _ => by rfl
  exact ((reads_word hname).append_closed hcolon rfl).append_reads (t.reads_text ht)

theorem names_typed (hname : Naming.IsWord name) (ht : t.IsReadable) (hP : ∀ x ∈ t.names, P x) :
    Names (name ++ ": " ++ t.text) P := by
  refine ⟨_, reads_typed hname ht, fun x hx => ?_⟩
  rw [names, ← List.append_nil t.tokens, TypeExpr.readsAll_annotated, readsAll, List.append_nil] at hx
  exact hP x (t.mem_names_of_tokens hx)

theorem names_given (hname : Naming.IsWord name) (ht : t.IsReadable) (hP : ∀ x ∈ t.names, P x)
    (hv : Reads value tv) (hPv : ∀ x ∈ readsAll true .within tv, P x) :
    Names (name ++ ": " ++ t.text ++ " = " ++ value) P := by
  have hequals : Closed " = " [.mark '='] := fun _ _ => by rfl
  have hreads := ((reads_typed hname ht).append_closed hequals rfl).append_reads hv
  refine ⟨_, hreads, fun x hx => ?_⟩
  rw [names, List.append_assoc, List.singleton_append, List.cons_append, List.cons_append,
    TypeExpr.readsAll_annotated, List.mem_append] at hx
  exact hx.elim (fun hx => hP x (t.mem_names_of_tokens hx)) (hPv x)

end Annotations

namespace FieldDef

variable {f : FieldDef} {P : String → Prop}

def names (f : FieldDef) : List String := f.type.names ++ if f.dataName.isSome then ["Field"] else []

structure IsReadable (f : FieldDef) : Prop where
  name : Naming.IsWord f.name
  type : f.type.IsReadable
  default : ∀ value ∈ f.default, value = "None"

theorem closed_alias (name : String) : Closed ("Field(alias=" ++ name.quoted ++ ")")
    [.word "Field", .group '(' [.word "alias", .mark '=', .literal]] :=
  (reads_quoted name).call "Field(alias=" [.word "Field"] [.word "alias", .mark '='] fun _ _ => by rfl

theorem closed_default_alias (name : String) : Closed ("Field(default=None, alias=" ++ name.quoted ++ ")")
    [.word "Field", .group '(' [.word "default", .mark '=', .word "None", .mark ',', .word "alias", .mark '=',
      .literal]] :=
  (reads_quoted name).call "Field(default=None, alias=" [.word "Field"]
    [.word "default", .mark '=', .word "None", .mark ',', .word "alias", .mark '='] fun _ _ => by rfl

theorem names_line (h : f.IsReadable) (hP : ∀ x ∈ f.names, P x) : Names f.line P := by
  have htype : ∀ x ∈ f.type.names, P x := fun x hx => hP x (List.mem_append_left _ hx)
  have hfield (hdata : f.dataName.isSome) : P "Field" := hP _ (List.mem_append_right _ (by simp [hdata]))
  have hnone : ∀ x ∈ readsAll true .within [.word "None"], P x := by simp [readsAll, reads, isName, Naming.keywords]
  unfold line
  split
  · exact names_typed h.name h.type htype
  · rename_i value _ hvalue
    obtain rfl := h.default value hvalue
    exact names_given h.name h.type htype (reads_word (by decide)) hnone
  · rename_i dataName hdata _
    have hreads : readsAll true .within [.word "Field", .group '(' [.word "alias", .mark '=', .literal]] =
      ["Field"] := by decide
    have hnames := names_given h.name h.type htype (closed_alias dataName).reads fun x hx => by
      rw [hreads, List.mem_singleton] at hx
      exact hx ▸ hfield (by rw [hdata]; rfl)
    have hequals : " = Field(alias=" = " = " ++ "Field(alias=" := rfl
    change Names (f.name ++ ": " ++ f.type.text ++ " = Field(alias=" ++ dataName.quoted ++ ")") P
    simpa only [hequals, String.append_assoc] using hnames
  · rename_i dataName value hdata hvalue
    obtain rfl := h.default value hvalue
    have hreads : readsAll true .within [.word "Field", .group '(' [.word "default", .mark '=', .word "None",
      .mark ',', .word "alias", .mark '=', .literal]] = ["Field"] := by decide
    have hnames := names_given h.name h.type htype (closed_default_alias dataName).reads fun x hx => by
      rw [hreads, List.mem_singleton] at hx
      exact hx ▸ hfield (by rw [hdata]; rfl)
    have hequals (s : String) : " = Field(default=" ++ ("None" ++ (", alias=" ++ s)) =
        " = " ++ ("Field(default=None, alias=" ++ s) := by
      simp only [← String.append_assoc]
      rfl
    change Names (f.name ++ ": " ++ f.type.text ++ " = Field(default=" ++ "None" ++ ", alias=" ++ dataName.quoted
      ++ ")") P
    simpa only [hequals, String.append_assoc] using hnames

end FieldDef

theorem AdapterDef.names_text {a : AdapterDef} {P : String → Prop} (hname : Naming.IsWord a.name)
    (htype : a.type.IsReadable) (hP : ∀ x ∈ a.type.names, P x) (hadapter : P "TypeAdapter") :
    Names s!"{a.name} = TypeAdapter({a.type.text})" P := by
  have hequals : Closed " = " [.mark '='] := fun _ _ => by rfl
  have hcall : Closed ("TypeAdapter(" ++ a.type.text ++ ")") [.word "TypeAdapter", .group '(' a.type.tokens] :=
    (a.type.reads_text htype).call "TypeAdapter(" [.word "TypeAdapter"] [] fun _ _ => by rfl
  have hreads := ((reads_word hname).append_closed hequals rfl).append_reads hcall.reads
  have htext : s!"{a.name} = TypeAdapter({a.type.text})" =
      a.name ++ " = " ++ ("TypeAdapter(" ++ a.type.text ++ ")") := by
    have hliteral : " = TypeAdapter(" = " = " ++ "TypeAdapter(" := rfl
    change a.name ++ " = TypeAdapter(" ++ a.type.text ++ ")" = _
    simp only [hliteral, String.append_assoc]
  refine ⟨_, htext ▸ hreads, fun x hx => ?_⟩
  simp only [Token.names, readsAll, List.cons_append, List.nil_append, List.append_nil, List.mem_append] at hx
  rcases hx with hx | hx | hx | hx
  · simp [reads, isTarget, isMark] at hx
  · cases hx
  · exact (mem_reads_word hx).1 ▸ hadapter
  · exact hP x (a.type.mem_names_of_tokens (mem_reads_group hx))

namespace ClassDef

variable {k : ClassDef} {P : String → Prop}

def codeLines (k : ClassDef) : List String :=
  k.bases ++ (if k.config.isEmpty then [] else ["model_config = ConfigDict(" ++ ", ".intercalate k.config ++ ")"])
    ++ k.fieldLines

def names (k : ClassDef) : List String :=
  k.bases ++ (if k.config.isEmpty then [] else ["ConfigDict"]) ++ k.fields.flatMap FieldDef.names
    ++ k.extra.toList.flatMap TypeExpr.names

structure IsReadable (k : ClassDef) : Prop where
  bases : ∀ base ∈ k.bases, Naming.IsWord base
  config : k.config ⊆ ["populate_by_name=True", "extra=\"allow\""]
  fields : ∀ f ∈ k.fields, f.IsReadable
  extra : ∀ t ∈ k.extra, t.IsReadable

def configTokens (entry : String) : List Token :=
  if entry = "populate_by_name=True" then [.word "populate_by_name", .mark '=', .word "True"]
  else [.word "extra", .mark '=', .literal]

theorem reads_config {entry : String} (h : entry ∈ ["populate_by_name=True", "extra=\"allow\""]) :
    Reads entry (configTokens entry) := by
  rcases List.mem_pair.mp h with rfl | rfl
  · intro b d
    exact ⟨_, rfl, by rfl, by rfl⟩
  · have hclosed : Closed "extra=\"allow\"" [.word "extra", .mark '=', .literal] := fun _ _ => by rfl
    exact hclosed.reads

theorem names_config (h : k.config ⊆ ["populate_by_name=True", "extra=\"allow\""]) (hP : P "ConfigDict") :
    Names ("model_config = ConfigDict(" ++ ", ".intercalate k.config ++ ")") P := by
  have hentries : Reads (", ".intercalate (k.config.map id)) (joined (k.config.map configTokens)) :=
    reads_joined fun entry hentry => reads_config (h hentry)
  rw [List.map_id] at hentries
  have hreads := hentries.call "model_config = ConfigDict(" [.word "model_config", .mark '=', .word "ConfigDict"] []
    fun _ _ => by rfl
  refine ⟨_, hreads.reads, fun x hx => ?_⟩
  simp only [Token.names, readsAll, List.cons_append, List.append_nil, List.nil_append, List.mem_append] at hx
  rcases hx with hx | hx | hx | hx
  · simp [reads, isTarget, isMark] at hx
  · cases hx
  · exact (mem_reads_word hx).1 ▸ hP
  · obtain ⟨item, hitem, hx⟩ := mem_readsAll_joined (mem_reads_group hx)
    obtain ⟨entry, -, rfl⟩ := List.mem_map.mp hitem
    have hnone : readsAll true .start (configTokens entry) = [] := by
      unfold configTokens
      split <;> decide
    exact absurd (hnone ▸ hx) List.not_mem_nil

theorem names_codeLines (h : k.IsReadable) (hP : ∀ x ∈ k.names, P x) : ∀ line ∈ k.codeLines, Names line P := by
  simp only [names, List.mem_append, List.mem_flatMap] at hP
  intro line hline
  simp only [codeLines, fieldLines, List.mem_append, List.mem_map, Option.mem_toList, Option.map_eq_some_iff] at hline
  rcases hline with (hline | hline) | ⟨f, hf, rfl⟩ | ⟨t, ht, rfl⟩
  · refine ⟨_, reads_word (h.bases line hline), fun x hx => ?_⟩
    rw [Token.names, readsAll, readsAll, List.append_nil] at hx
    exact hP x (.inl (.inl (.inl ((mem_reads_word hx).1 ▸ hline))))
  · split at hline
    · cases hline
    · rename_i hconfig
      rw [List.mem_singleton.mp hline]
      exact names_config h.config (hP _ (.inl (.inl (.inr (by simp [hconfig])))))
  · exact FieldDef.names_line (h.fields f hf) fun x hx => hP x (.inl (.inr ⟨f, hf, hx⟩))
  · have htext : "__pydantic_extra__: " = "__pydantic_extra__" ++ ": " := rfl
    change Names ("__pydantic_extra__: " ++ t.text) P
    rw [htext]
    exact names_typed (by decide) (h.extra t ht) fun x hx => hP x (.inr ⟨t, Option.mem_toList.mpr ht, hx⟩)

end ClassDef

end ClientForge
