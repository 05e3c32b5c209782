import Mathlib.Data.List.Forall2

/-! Lists related element by element. -/
namespace FidoOnboard.Related

variable {α β : Type} {R : α → β → Prop} {as : List α} {bs : List β}

theorem exists_right (h : List.Forall₂ R as bs) {a : α} (ha : a ∈ as) : ∃ b ∈ bs, R a b := by
  induction h with
  | nil => exact absurd ha List.not_mem_nil
  | @cons a' b' as bs hab _ ih =>
      rcases List.mem_cons.mp ha with rfl | ha
      · exact ⟨b', List.mem_cons_self, hab⟩
      · rcases ih ha with ⟨b, hb, hR⟩
        exact ⟨b, List.mem_cons_of_mem b' hb, hR⟩

theorem exists_left (h : List.Forall₂ R as bs) {b : β} (hb : b ∈ bs) : ∃ a ∈ as, R a b :=
  exists_right h.flip hb

theorem of_forall (h : ∀ a ∈ as, ∃ b, R a b) : ∃ bs, List.Forall₂ R as bs := by
  induction as with
  | nil => exact ⟨[], .nil⟩
  | cons a as ih =>
      rcases h a List.mem_cons_self with ⟨b, hab⟩
      rcases ih fun a' ha' => h a' (List.mem_cons_of_mem a ha') with ⟨bs, hbs⟩
      exact ⟨b :: bs, .cons hab hbs⟩

theorem mono {S : α → β → Prop} (h : List.Forall₂ R as bs) (hRS : ∀ a ∈ as, ∀ b, R a b → S a b) :
    List.Forall₂ S as bs := by
  induction h with
  | nil => exact .nil
  | @cons a b as bs hab _ ih =>
      refine .cons (hRS a List.mem_cons_self b hab) (ih ?_)
      exact fun a' ha' => hRS a' (List.mem_cons_of_mem a ha')

/-- What holds between the elements of one list holds between those of the other. -/
theorem pairwise {p : α → α → Prop} {q : β → β → Prop} (h : List.Forall₂ R as bs) (hp : as.Pairwise p)
    (hpq : ∀ a ∈ as, ∀ a' ∈ as, ∀ b b', R a b → R a' b' → p a a' → q b b') : bs.Pairwise q := by
  induction h with
  | nil => exact .nil
  | @cons a b as bs hab hrest ih =>
      rw [List.pairwise_cons] at hp
      refine .cons ?_ (ih hp.2 fun a₁ h₁ a₂ h₂ => hpq a₁ (List.mem_cons_of_mem a h₁) a₂ (List.mem_cons_of_mem a h₂))
      intro b' hb'
      rcases exists_left hrest hb' with ⟨a', ha', hab'⟩
      exact hpq a List.mem_cons_self a' (List.mem_cons_of_mem a ha') b b' hab hab' (hp.1 a' ha')

/-- A relation between images is one between what they are images of. -/
theorem through {γ δ : Type} {S : γ → δ → Prop} {Q : β → δ → Prop} {T : α → γ → Prop} {cs : List γ}
    {ds : List δ} (h : List.Forall₂ R as bs) (h' : List.Forall₂ S cs ds) (hQ : List.Forall₂ Q bs ds)
    (hT : ∀ a ∈ as, ∀ c ∈ cs, ∀ b d, R a b → S c d → Q b d → T a c) : List.Forall₂ T as cs := by
  induction h generalizing cs ds with
  | nil =>
      cases hQ
      cases h'
      exact .nil
  | @cons a b as bs hab _ ih =>
      cases hQ with
      | cons hfirst hQ =>
          cases h' with
          | @cons c _ cs _ hcd h' =>
              refine .cons (hT a List.mem_cons_self c List.mem_cons_self b _ hab hcd hfirst) (ih h' hQ ?_)
              exact fun a' ha c' hc => hT a' (List.mem_cons_of_mem a ha) c' (List.mem_cons_of_mem c hc)

/-- The relations of the parts of pairs, taken together. -/
theorem of_parts {α₁ α₂ β₁ β₂ : Type} {R₁ : α₁ → β₁ → Prop} {R₂ : α₂ → β₂ → Prop}
    {as : List (α₁ × α₂)} {bs : List (β₁ × β₂)}
    (h : List.Forall₂ (fun a b => R₁ a.1 b.1 ∧ R₂ a.2 b.2) as bs) :
    List.Forall₂ R₁ (as.map Prod.fst) (bs.map Prod.fst) ∧ List.Forall₂ R₂ (as.map Prod.snd) (bs.map Prod.snd) := by
  induction h with
  | nil => exact ⟨.nil, .nil⟩
  | cons hab _ ih => exact ⟨.cons hab.1 ih.1, .cons hab.2 ih.2⟩

theorem to_parts {α₁ α₂ β₁ β₂ : Type} {R₁ : α₁ → β₁ → Prop} {R₂ : α₂ → β₂ → Prop}
    {as : List (α₁ × α₂)} {bs : List (β₁ × β₂)} (h₁ : List.Forall₂ R₁ (as.map Prod.fst) (bs.map Prod.fst))
    (h₂ : List.Forall₂ R₂ (as.map Prod.snd) (bs.map Prod.snd)) :
    List.Forall₂ (fun a b => R₁ a.1 b.1 ∧ R₂ a.2 b.2) as bs := by
  induction as generalizing bs with
  | nil =>
      rw [List.map_nil, List.forall₂_nil_left_iff, List.map_eq_nil_iff] at h₁
      rw [h₁]
      exact .nil
  | cons a as ih =>
      cases bs with
      | nil => cases h₁
      | cons b bs =>
          cases h₁ with
          | cons hfirst h₁ =>
              cases h₂ with
              | cons hsecond h₂ => exact .cons ⟨hfirst, hsecond⟩ (ih h₁ h₂)

end FidoOnboard.Related
