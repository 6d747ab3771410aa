import Mathlib.Data.List.Forall2

/-!
# Computations that can fail

When a computation in `Except` succeeds: one after another (`bind_eq_ok`), one behind a refusal
(`refusing_eq_ok`), one for each element of a list (`forM_eq_ok`, `mapM_eq_ok`), and one that
carries a state along a list (`foldlM_ok_induction`).

When it fails: the first error is the one that counts (`bind_eq_error`, `mapM_eq_error`).
`FailsOnly` says which errors there can be.
-/

namespace Interleave

variable {ε α β : Type}

theorem bind_eq_ok {x : Except ε α} {f : α → Except ε β} {b : β} :
    (x >>= f) = .ok b ↔ ∃ a, x = .ok a ∧ f a = .ok b := by
  cases x with
  | error e => exact ⟨fun h => (nomatch h), fun ⟨_, h, _⟩ => (nomatch h)⟩
  | ok a => exact ⟨fun h => ⟨a, rfl, h⟩, fun ⟨_, h, hf⟩ => by cases h; exact hf⟩

theorem bind_eq_error {x : Except ε α} {f : α → Except ε β} {e : ε} :
    (x >>= f) = .error e ↔ x = .error e ∨ ∃ a, x = .ok a ∧ f a = .error e := by
  cases x with
  | error e' =>
    constructor
    · intro h
      obtain rfl := Except.error.inj h
      exact .inl rfl
    · rintro (h | ⟨_, h, _⟩)
      · obtain rfl := Except.error.inj h
        rfl
      · nomatch h
  | ok a =>
    constructor
    · intro h
      exact .inr ⟨a, rfl, h⟩
    · rintro (h | ⟨_, h, hf⟩)
      · nomatch h
      · obtain rfl := Except.ok.inj h
        exact hf

/-- A computation can be run to see that it succeeds, and with what. -/
theorem exists_ok_of_any {x : Except ε α} {p : α → Bool} (h : x.toOption.any p = true) :
    ∃ a, x = .ok a ∧ p a = true := by
  cases x with
  | error e => nomatch h
  | ok a => exact ⟨a, rfl, h⟩

/-- Going on unless the condition is refused. -/
theorem refusing_eq_ok {p : Prop} [Decidable p] {e : ε} {f : α → Except ε β}
    {x : Except ε β} {b : β} :
    (if p then throw e >>= f else x) = .ok b ↔ ¬ p ∧ x = .ok b := by
  by_cases hp : p
  · rw [if_pos hp]
    exact ⟨fun h => (nomatch h), fun h => absurd hp h.1⟩
  · rw [if_neg hp]
    exact ⟨fun h => ⟨hp, h⟩, And.right⟩

theorem forM_eq_ok {l : List α} {f : α → Except ε Unit} :
    l.forM f = .ok () ↔ ∀ a ∈ l, f a = .ok () := by
  induction l with
  | nil => exact ⟨fun _ => by simp, fun _ => rfl⟩
  | cons a rest ih =>
    have hcons : (a :: rest).forM f = (f a >>= fun _ => rest.forM f) := rfl
    rw [hcons, bind_eq_ok, List.forall_mem_cons, ← ih]
    exact ⟨fun ⟨_, ha, h⟩ => ⟨ha, h⟩, fun ⟨ha, h⟩ => ⟨(), ha, h⟩⟩

theorem mapM_eq_ok {l : List α} {f : α → Except ε β} {bs : List β} :
    l.mapM f = .ok bs ↔ List.Forall₂ (fun a b => f a = .ok b) l bs := by
  induction l generalizing bs with
  | nil =>
    rw [List.mapM_nil, List.forall₂_nil_left_iff]
    exact ⟨fun h => (Except.ok.inj h).symm, fun h => h ▸ rfl⟩
  | cons a rest ih =>
    rw [List.mapM_cons, bind_eq_ok, List.forall₂_cons_left_iff]
    constructor
    · rintro ⟨b, hb, h⟩
      obtain ⟨bs', hbs', h⟩ := bind_eq_ok.1 h
      exact ⟨b, bs', hb, ih.1 hbs', (Except.ok.inj h).symm⟩
    · rintro ⟨b, bs', hb, hbs', rfl⟩
      exact ⟨b, hb, bind_eq_ok.2 ⟨bs', ih.2 hbs', rfl⟩⟩

/-- The first element that fails decides, and those behind it do not matter. -/
theorem mapM_eq_error {l : List α} {f : α → Except ε β} {e : ε} : l.mapM f = .error e ↔
    ∃ before a after, l = before ++ a :: after ∧ (∀ x ∈ before, ∃ b, f x = .ok b) ∧
      f a = .error e := by
  induction l with
  | nil =>
    constructor
    · intro h
      nomatch h
    · rintro ⟨before, a, after, hsplit, -⟩
      simp at hsplit
  | cons a rest ih =>
    rw [List.mapM_cons, bind_eq_error]
    constructor
    · rintro (h | ⟨b, hb, h⟩)
      · exact ⟨[], a, rest, rfl, by simp, h⟩
      · -- the results are only put together, so the failure is one of the rest
        have hrest : rest.mapM f = .error e := by
          rcases bind_eq_error.1 h with h | ⟨_, _, h⟩
          · exact h
          · nomatch h
        obtain ⟨before, c, after, rfl, hbefore, hc⟩ := ih.1 hrest
        exact ⟨a :: before, c, after, rfl, List.forall_mem_cons.2 ⟨⟨b, hb⟩, hbefore⟩, hc⟩
    · rintro ⟨before, c, after, hsplit, hbefore, hc⟩
      cases before with
      | nil =>
        obtain ⟨rfl, -⟩ := List.cons.inj hsplit
        exact .inl hc
      | cons x before =>
        obtain ⟨rfl, rfl⟩ := List.cons.inj hsplit
        obtain ⟨⟨b, hb⟩, hbefore⟩ := List.forall_mem_cons.1 hbefore
        have hrest : (before ++ c :: after).mapM f = .error e :=
          ih.2 ⟨before, c, after, rfl, hbefore, hc⟩
        exact .inr ⟨b, hb, bind_eq_error.2 (.inl hrest)⟩

/-- Each element has its result. -/
theorem exists_of_forall₂ {R : α → β → Prop} {l : List α} {bs : List β} (h : List.Forall₂ R l bs) :
    ∀ a ∈ l, ∃ b ∈ bs, R a b := by
  induction h with
  | nil => simp
  | cons hab _ ih =>
    refine List.forall_mem_cons.2 ⟨⟨_, List.mem_cons_self, hab⟩, fun a ha => ?_⟩
    obtain ⟨b, hb, hab⟩ := ih a ha
    exact ⟨b, List.mem_cons_of_mem _ hb, hab⟩

/-- What holds at the start and after each element holds at the end. The elements met so far may be
named. -/
theorem foldlM_ok_induction {f : β → α → Except ε β} {start : β} (P : List α → β → Prop)
    (hstart : P [] start) (hstep : ∀ {met b a b'}, P met b → f b a = .ok b' → P (met ++ [a]) b')
    {l : List α} {final : β} (h : l.foldlM f start = .ok final) : P l final := by
  -- the elements already met have to be general, as the induction is on those still to come
  suffices hmet : ∀ met b, P met b → l.foldlM f b = .ok final → P (met ++ l) final from
    List.nil_append l ▸ hmet [] start hstart h
  clear h
  induction l with
  | nil =>
    intro met b hb h
    rw [List.append_nil, ← Except.ok.inj h]
    exact hb
  | cons a rest ih =>
    intro met b hb h
    rw [List.foldlM_cons] at h
    obtain ⟨b', hb', h⟩ := bind_eq_ok.1 h
    rw [List.append_cons]
    exact ih _ _ (hstep hb hb') h

/-- Whatever error the computation ends with, `P` holds of it. -/
def FailsOnly (P : ε → Prop) (x : Except ε α) : Prop :=
  ∀ e, x = .error e → P e

namespace FailsOnly

variable {P : ε → Prop} {x : Except ε α} {e : ε}

theorem ok (a : α) : FailsOnly P (.ok a : Except ε α) :=
  fun _ h => nomatch h

theorem error (he : P e) : FailsOnly P (.error e : Except ε α) := by
  intro e' h
  obtain rfl := Except.error.inj h
  exact he

theorem bind {f : α → Except ε β} (hx : FailsOnly P x) (hf : ∀ a, FailsOnly P (f a)) :
    FailsOnly P (x >>= f) := by
  intro e h
  rcases bind_eq_error.1 h with h | ⟨a, -, h⟩
  · exact hx e h
  · exact hf a e h

theorem refusing {p : Prop} [Decidable p] {f : β → Except ε α} (he : P e) (hx : FailsOnly P x) :
    FailsOnly P (if p then throw e >>= f else x) := by
  split
  · exact error he
  · exact hx

theorem forM {l : List α} {f : α → Except ε Unit} (hf : ∀ a, FailsOnly P (f a)) :
    FailsOnly P (l.forM f) := by
  induction l with
  | nil => exact ok ()
  | cons a rest ih => exact bind (hf a) fun _ => ih

theorem foldlM {f : β → α → Except ε β} {l : List α} (hf : ∀ b a, FailsOnly P (f b a)) (b : β) :
    FailsOnly P (l.foldlM f b) := by
  induction l generalizing b with
  | nil => exact ok b
  | cons a rest ih =>
    rw [List.foldlM_cons]
    exact bind (hf b a) ih

end FailsOnly

end Interleave
