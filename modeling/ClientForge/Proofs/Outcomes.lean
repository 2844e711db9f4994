import ClientForge.Failure
import Mathlib.Data.List.Forall2

namespace ClientForge.Outcome

variable {ε ε' α β γ δ : Type}

theorem bind_eq_ok {x : Except ε α} {f : α → Except ε β} {b : β} :
    (x >>= f) = .ok b ↔ ∃ a, x = .ok a ∧ f a = .ok b := by
  cases x <;> simp [bind, Except.bind]

theorem bind_eq_error {x : Except ε α} {f : α → Except ε β} {e : ε} :
    (x >>= f) = .error e ↔ x = .error e ∨ ∃ a, x = .ok a ∧ f a = .error e := by
  cases x <;> simp [bind, Except.bind]

theorem map_eq_ok {x : Except ε α} {f : α → β} {b : β} : f <$> x = .ok b ↔ ∃ a, x = .ok a ∧ f a = b := by
  cases x <;> simp [Functor.map, Except.map]

theorem map_eq_error {x : Except ε α} {f : α → β} {e : ε} : f <$> x = .error e ↔ x = .error e := by
  cases x <;> simp [Functor.map, Except.map]

theorem pure_eq_ok {a b : α} : (pure a : Except ε α) = .ok b ↔ a = b := by simp [pure, Except.pure]

theorem mapError_eq_ok {x : Except ε α} {f : ε → ε'} {a : α} : x.mapError f = .ok a ↔ x = .ok a := by
  cases x <;> simp [Except.mapError]

theorem liftM_eq_ok {x : Except Malformed α} {a : α} : (liftM x : Except Failure α) = .ok a ↔ x = .ok a :=
  mapError_eq_ok

theorem elim_error_eq_ok {x : Option α} {f : ε} {a : α} :
    x.elim (.error f) Except.ok = .ok a ↔ x = some a := by
  cases x <;> simp

theorem elim_error_eq_error {x : Option α} {f f' : ε} (h : x.elim (.error f) Except.ok = .error f') :
    f' = f := by
  cases x <;> simp_all

theorem exists_of_isOk {x : Except ε α} (h : x.isOk = true) : ∃ a, x = .ok a := by
  cases x with
  | error e => cases h
  | ok a => exact ⟨a, rfl⟩

theorem forall₂_of_mapM {f : α → Except ε β} {l : List α} {l' : List β} (h : l.mapM f = .ok l') :
    List.Forall₂ (fun a b => f a = .ok b) l l' := by
  induction l generalizing l' with
  | nil =>
    rw [List.mapM_nil, pure_eq_ok] at h
    exact h ▸ .nil
  | cons a l ih =>
    rw [List.mapM_cons, bind_eq_ok] at h
    obtain ⟨b, hb, h⟩ := h
    obtain ⟨bs, hbs, h⟩ := bind_eq_ok.mp h
    rw [pure_eq_ok] at h
    exact h ▸ .cons hb (ih hbs)

theorem forall₂_of_mapM_some {f : α → Option β} {l : List α} {l' : List β} (h : l.mapM f = some l') :
    List.Forall₂ (fun a b => f a = some b) l l' := by
  induction l generalizing l' with
  | nil =>
    cases h
    exact .nil
  | cons a l ih =>
    rw [List.mapM_cons] at h
    obtain ⟨b, hb, h⟩ := Option.bind_eq_some_iff.mp h
    obtain ⟨bs, hbs, h⟩ := Option.bind_eq_some_iff.mp h
    cases h
    exact .cons hb (ih hbs)

theorem mapM_of_forall₂ {f : α → Except ε β} {l : List α} {l' : List β}
    (h : List.Forall₂ (fun a b => f a = .ok b) l l') : l.mapM f = .ok l' := by
  induction h with
  | nil => rfl
  | cons hab _ ih =>
    rw [List.mapM_cons, hab, ih]
    rfl

theorem exists_mapM {f : α → Except ε β} {l : List α} (h : ∀ a ∈ l, ∃ b, f a = .ok b) : ∃ l', l.mapM f = .ok l' := by
  induction l with
  | nil => exact ⟨[], rfl⟩
  | cons a l ih =>
    obtain ⟨b, hb⟩ := h a List.mem_cons_self
    obtain ⟨l', hl'⟩ := ih fun a' ha' => h a' (List.mem_cons_of_mem _ ha')
    exact ⟨b :: l', by rw [List.mapM_cons, hb, hl']; rfl⟩

theorem exists_left_of_mem {R : α → β → Prop} {l : List α} {l' : List β} (h : List.Forall₂ R l l') {b : β}
    (hb : b ∈ l') : ∃ a ∈ l, R a b := by
  induction h with
  | nil => cases hb
  | @cons a b' l l' ha hl ih =>
    rcases List.mem_cons.mp hb with rfl | hb
    · exact ⟨a, List.mem_cons_self, ha⟩
    · obtain ⟨a', ha', hr⟩ := ih hb
      exact ⟨a', List.mem_cons_of_mem _ ha', hr⟩

theorem exists_right_of_mem {R : α → β → Prop} {l : List α} {l' : List β} (h : List.Forall₂ R l l') {a : α}
    (ha : a ∈ l) : ∃ b ∈ l', R a b :=
  exists_left_of_mem (R := fun b a => R a b) h.flip ha

theorem exists_find?_zip {R : α → β → Prop} {l : List α} {l' : List β} (h : List.Forall₂ R l l') {p : β → Bool}
    {b : β} (hfound : l'.find? p = some b) : ∃ a, (l.zip l').find? (p ·.2) = some (a, b) ∧ R a b := by
  induction h with
  | nil => cases hfound
  | @cons a b' l l' hab _ ih =>
    rw [List.find?_cons] at hfound
    rw [List.zip_cons_cons, List.find?_cons]
    cases hp : p b' with
    | true =>
      rw [hp] at hfound
      cases hfound
      exact ⟨a, rfl, hab⟩
    | false =>
      rw [hp] at hfound
      exact ih hfound

theorem forall₂_trans {R : α → β → Prop} {S : β → γ → Prop} {T : α → γ → Prop} {as : List α} {bs : List β}
    {cs : List γ} (hR : List.Forall₂ R as bs) (hS : List.Forall₂ S bs cs) (hT : ∀ a b c, R a b → S b c → T a c) :
    List.Forall₂ T as cs := by
  induction hR generalizing cs with
  | nil =>
    cases hS
    exact .nil
  | cons hab _ ih =>
    cases hS with
    | cons hbc hS => exact .cons (hT _ _ _ hab hbc) (ih hS)

theorem exists_of_mem_mapM {f : α → Except ε β} {l : List α} {l' : List β} (h : l.mapM f = .ok l') {b : β}
    (hb : b ∈ l') : ∃ a ∈ l, f a = .ok b :=
  exists_left_of_mem (forall₂_of_mapM h) hb

theorem exists_mem_of_mapM {f : α → Except ε β} {l : List α} {l' : List β} (h : l.mapM f = .ok l') {a : α}
    (ha : a ∈ l) : ∃ b ∈ l', f a = .ok b :=
  exists_right_of_mem (forall₂_of_mapM h) ha

theorem mapM_eq_error {f : α → Except ε β} {l : List α} {e : ε} : l.mapM f = .error e ↔
    ∃ before a after, l = before ++ a :: after ∧ (∀ a' ∈ before, ∃ b, f a' = .ok b) ∧ f a = .error e := by
  induction l with
  | nil => simp [pure, Except.pure]
  | cons a l ih =>
    rw [List.mapM_cons, bind_eq_error]
    constructor
    · rintro (h | ⟨b, hb, h⟩)
      · exact ⟨[], a, l, rfl, by simp, h⟩
      · rcases bind_eq_error.mp h with h | ⟨bs, -, ⟨⟩⟩
        obtain ⟨before, a', after, rfl, hbefore, h⟩ := ih.mp h
        exact ⟨a :: before, a', after, rfl, List.forall_mem_cons.mpr ⟨⟨b, hb⟩, hbefore⟩, h⟩
    · rintro ⟨before, a', after, heq, hbefore, h⟩
      cases before with
      | nil =>
        cases heq
        exact .inl h
      | cons first before =>
        cases heq
        rw [List.forall_mem_cons] at hbefore
        obtain ⟨⟨b, hb⟩, hbefore⟩ := hbefore
        exact .inr ⟨b, hb, bind_eq_error.mpr (.inl (ih.mpr ⟨before, a', after, rfl, hbefore, h⟩))⟩

theorem filterAuxM_eq_ok {f : α → Except ε Bool} {p : α → Prop} [DecidablePred p] {l held kept : List α}
    (hp : ∀ a ∈ l, ∀ b, f a = .ok b → b = decide (p a)) (h : l.filterAuxM f held = .ok kept) :
    kept = (l.filter p).reverse ++ held := by
  induction l generalizing held with
  | nil => exact (pure_eq_ok.mp h).symm
  | cons a l ih =>
    obtain ⟨b, hb, h⟩ := bind_eq_ok.mp h
    rw [List.forall_mem_cons] at hp
    rw [ih hp.2 h, List.filter_cons, ← hp.1 b hb]
    cases b <;> simp

theorem filterM_eq_ok {f : α → Except ε Bool} {p : α → Prop} [DecidablePred p] {l kept : List α}
    (hp : ∀ a ∈ l, ∀ b, f a = .ok b → b = decide (p a)) (h : l.filterM f = .ok kept) : kept = l.filter p := by
  obtain ⟨reversed, hreversed, h⟩ := bind_eq_ok.mp h
  rw [← pure_eq_ok.mp h, filterAuxM_eq_ok hp hreversed, List.append_nil, List.reverse_reverse]

theorem foldlM_induction {P : β → Prop} {f : β → α → Except ε β} {l : List α} {start result : β}
    (h : l.foldlM f start = .ok result) (hstart : P start) (hstep : ∀ b a b', P b → f b a = .ok b' → P b') :
    P result := by
  induction l generalizing start with
  | nil =>
    rw [List.foldlM_nil, pure_eq_ok] at h
    exact h ▸ hstart
  | cons a l ih =>
    rw [List.foldlM_cons, bind_eq_ok] at h
    obtain ⟨b, hb, h⟩ := h
    exact ih h (hstep _ _ _ hstart hb)

def Alike (R : α → β → Prop) : Except ε α → Except ε β → Prop
  | .ok a, .ok b => R a b
  | .error e, .error e' => e = e'
  | _, _ => False

theorem Alike.bind {R : α → β → Prop} {S : γ → δ → Prop} {x : Except ε α} {y : Except ε β}
    {f : α → Except ε γ} {g : β → Except ε δ} (h : Alike R x y) (hf : ∀ a b, R a b → Alike S (f a) (g b)) :
    Alike S (x >>= f) (y >>= g) := by
  cases x <;> cases y
  · exact h
  · exact h.elim
  · exact h.elim
  · exact hf _ _ h

theorem Alike.imp {R S : α → β → Prop} {x : Except ε α} {y : Except ε β} (h : Alike R x y)
    (hRS : ∀ a b, x = .ok a → R a b → S a b) : Alike S x y := by
  cases x <;> cases y
  · exact h
  · exact h.elim
  · exact h.elim
  · exact hRS _ _ rfl h

theorem Alike.refl {R : α → α → Prop} (hR : ∀ a, R a a) (x : Except ε α) : Alike R x x := by
  cases x
  · rfl
  · exact hR _

theorem Alike.mapM {R : α → β → Prop} {f : γ → Except ε α} {g : γ → Except ε β} (l : List γ)
    (h : ∀ c ∈ l, Alike R (f c) (g c)) : Alike (List.Forall₂ R) (l.mapM f) (l.mapM g) := by
  induction l with
  | nil => exact .nil
  | cons c l ih =>
    rw [List.mapM_cons, List.mapM_cons]
    apply (h c List.mem_cons_self).bind
    intro a b hab
    apply (ih fun c hc => h c (List.mem_cons_of_mem _ hc)).bind
    intro as bs hs
    exact .cons hab hs

section Failing

variable {P Q : ε → Prop}

/-- If a computation fails, then for a reason of a certain kind. -/
def FailsOnly (P : ε → Prop) (x : Except ε α) : Prop := ∀ e, x = .error e → P e

theorem failsOnly_ok (a : α) : FailsOnly P (.ok a) := by
  intro e he
  cases he

theorem failsOnly_error {e : ε} (h : P e) : FailsOnly P (.error e : Except ε α) := by
  intro e' he
  cases he
  exact h

theorem FailsOnly.imp {x : Except ε α} (h : FailsOnly P x) (hPQ : ∀ e, P e → Q e) : FailsOnly Q x :=
  fun e he => hPQ e (h e he)

theorem FailsOnly.bind_of_eq {x : Except ε α} {f : α → Except ε β} (hx : FailsOnly P x)
    (hf : ∀ a, x = .ok a → FailsOnly P (f a)) : FailsOnly P (x >>= f) := by
  cases x with
  | error e => exact failsOnly_error (hx e rfl)
  | ok a => exact hf a rfl

theorem FailsOnly.bind {x : Except ε α} {f : α → Except ε β} (hx : FailsOnly P x) (hf : ∀ a, FailsOnly P (f a)) :
    FailsOnly P (x >>= f) :=
  hx.bind_of_eq fun a _ => hf a

theorem FailsOnly.map {x : Except ε α} (hx : FailsOnly P x) (f : α → β) : FailsOnly P (f <$> x) := by
  cases x with
  | error e => exact failsOnly_error (hx e rfl)
  | ok a => exact failsOnly_ok _

theorem failsOnly_mapM {f : α → Except ε β} {l : List α} (h : ∀ a ∈ l, FailsOnly P (f a)) :
    FailsOnly P (l.mapM f) := by
  induction l with
  | nil => exact failsOnly_ok _
  | cons a l ih =>
    rw [List.mapM_cons]
    apply (h a List.mem_cons_self).bind
    intro b
    apply (ih fun a' ha' => h a' (List.mem_cons_of_mem _ ha')).bind
    intro bs
    exact failsOnly_ok _

end Failing

end ClientForge.Outcome
