import NetworkService.Library.Fallible

/-!
# Two runs in lockstep

Two computations over different states are in lockstep along a relation when related states
lead to the same kind of end, with the same value or error and with related states.  The
rules follow the combinators of `Fallible`, so a program that reads only what the relation
fixes is in lockstep with itself.

Two computations over the same states agree up to `X` when each run of the first either is a
run of the second too or leaves an `X` state, from which it never comes back.
-/

namespace Fallible

variable {ε σ₁ σ₂ α β : Type}

/-- Ends of the same kind, with equal values and related states. -/
def EndsAlike (R : σ₁ → σ₂ → Prop) : EStateM.Result ε σ₁ α → EStateM.Result ε σ₂ α → Prop
  | .ok a t₁, .ok b t₂ => a = b ∧ R t₁ t₂
  | .error e t₁, .error f t₂ => e = f ∧ R t₁ t₂
  | _, _ => False

/-- From related states, `m₁` and `m₂` end alike. -/
def Lockstep (R : σ₁ → σ₂ → Prop) (m₁ : EStateM ε σ₁ α) (m₂ : EStateM ε σ₂ α) : Prop :=
  ∀ s₁ s₂, R s₁ s₂ → EndsAlike R (m₁ s₁) (m₂ s₂)

namespace Lockstep

variable {R : σ₁ → σ₂ → Prop}

theorem pure (a : α) : Lockstep R (pure a : EStateM ε σ₁ α) (pure a) :=
  fun _ _ h => ⟨rfl, h⟩

theorem throw (e : ε) : Lockstep R (throw e : EStateM ε σ₁ α) (throw e) :=
  fun _ _ h => ⟨rfl, h⟩

theorem bind {m₁ : EStateM ε σ₁ α} {m₂ : EStateM ε σ₂ α} {f₁ : α → EStateM ε σ₁ β}
    {f₂ : α → EStateM ε σ₂ β} (hm : Lockstep R m₁ m₂) (hf : ∀ a, Lockstep R (f₁ a) (f₂ a)) :
    Lockstep R (m₁ >>= f₁) (m₂ >>= f₂) := by
  intro s₁ s₂ hs
  have hends := hm s₁ s₂ hs
  rw [run_bind, run_bind]
  cases h₁ : m₁ s₁ with
  | ok a t₁ =>
    cases h₂ : m₂ s₂ with
    | ok b t₂ =>
      rw [h₁, h₂] at hends
      obtain ⟨rfl, ht⟩ := hends
      exact hf a t₁ t₂ ht
    | error f t₂ => rw [h₁, h₂] at hends; exact hends.elim
  | error e t₁ =>
    cases h₂ : m₂ s₂ with
    | ok b t₂ => rw [h₁, h₂] at hends; exact hends.elim
    | error f t₂ => rw [h₁, h₂] at hends; exact hends

theorem ite {c : Prop} [Decidable c] {m₁ m₁' : EStateM ε σ₁ α} {m₂ m₂' : EStateM ε σ₂ α}
    (hm : Lockstep R m₁ m₂) (hm' : Lockstep R m₁' m₂') :
    Lockstep R (if c then m₁ else m₁') (if c then m₂ else m₂') := by
  split
  · exact hm
  · exact hm'

theorem require (c : Bool) (e : ε) :
    Lockstep R (Fallible.require c e : EStateM ε σ₁ Unit) (Fallible.require c e) :=
  Lockstep.ite (Lockstep.pure ()) (Lockstep.throw e)

theorem when {c : Prop} [Decidable c] {m₁ : EStateM ε σ₁ Unit} {m₂ : EStateM ε σ₂ Unit}
    (hm : Lockstep R m₁ m₂) : Lockstep R (Fallible.when c m₁) (Fallible.when c m₂) :=
  Lockstep.ite hm (Lockstep.pure ())

/-- The states left behind are related. -/
theorem after {m₁ : EStateM ε σ₁ α} {m₂ : EStateM ε σ₂ α} (hm : Lockstep R m₁ m₂)
    {s₁ : σ₁} {s₂ : σ₂} (hs : R s₁ s₂) : R (Fallible.after m₁ s₁) (Fallible.after m₂ s₂) := by
  have hends := hm s₁ s₂ hs
  unfold Fallible.after
  cases h₁ : m₁ s₁ with
  | ok a t₁ =>
    cases h₂ : m₂ s₂ with
    | ok b t₂ => rw [h₁, h₂] at hends; exact hends.2
    | error f t₂ => rw [h₁, h₂] at hends; exact hends.elim
  | error e t₁ =>
    cases h₂ : m₂ s₂ with
    | ok b t₂ => rw [h₁, h₂] at hends; exact hends.elim
    | error f t₂ => rw [h₁, h₂] at hends; exact hends.2

end Lockstep

/-! ### Agreement -/

/-- `m` and `m'` do the same except where `m` leaves an `X` state; `X` states stay so. -/
structure Agrees {σ : Type} (X : σ → Prop) (m m' : EStateM ε σ α) : Prop where
  same : ∀ s, ¬X (Fallible.after m s) → m' s = m s
  keeps : Along (Keeping X) m

namespace Agrees

variable {σ : Type} {X : σ → Prop}

theorem refl {m : EStateM ε σ α} (hm : Along (Keeping X) m) : Agrees X m m :=
  ⟨fun _ _ => rfl, hm⟩

theorem pure (a : α) : Agrees X (pure a : EStateM ε σ α) (pure a) := .refl (Along.pure a)

theorem throw (e : ε) : Agrees X (throw e : EStateM ε σ α) (throw e) := .refl (Along.throw e)

theorem bind {m m' : EStateM ε σ α} {f f' : α → EStateM ε σ β} (hm : Agrees X m m')
    (hf : ∀ a, Agrees X (f a) (f' a)) : Agrees X (m >>= f) (m' >>= f') := by
  refine ⟨fun s hs => ?_, Along.bind hm.keeps fun a => (hf a).keeps⟩
  have hfirst : ¬X (Fallible.after m s) := by
    intro hX
    refine hs ?_
    unfold Fallible.after at hX ⊢
    rw [run_bind]
    cases hrun : m s with
    | error e t =>
      rw [hrun] at hX
      exact hX
    | ok a t =>
      rw [hrun] at hX
      have hkept := (hf a).keeps t hX
      unfold Fallible.after at hkept
      exact hkept
  rw [run_bind, run_bind, hm.same s hfirst]
  cases hrun : m s with
  | error e t => rfl
  | ok a t =>
    refine (hf a).same t fun hX => hs ?_
    unfold Fallible.after at hX ⊢
    rw [run_bind, hrun]
    exact hX

theorem ite {c : Prop} [Decidable c] {m₁ m₁' m₂ m₂' : EStateM ε σ α} (h₁ : Agrees X m₁ m₁')
    (h₂ : Agrees X m₂ m₂') : Agrees X (if c then m₁ else m₂) (if c then m₁' else m₂') := by
  split
  · exact h₁
  · exact h₂

theorem require (c : Bool) (e : ε) :
    Agrees X (Fallible.require c e : EStateM ε σ Unit) (Fallible.require c e) :=
  .ite (.pure ()) (.throw e)

theorem when {c : Prop} [Decidable c] {m m' : EStateM ε σ Unit} (h : Agrees X m m') :
    Agrees X (Fallible.when c m) (Fallible.when c m') := .ite h (.pure ())

theorem attempt {m m' : EStateM ε σ α} (h : Agrees X m m') :
    Agrees X (Fallible.attempt m) (Fallible.attempt m') := by
  refine ⟨fun s hs => ?_, Along.attempt h.keeps⟩
  rw [after_attempt] at hs
  unfold Fallible.attempt
  rw [h.same s hs]

theorem mapError {f : ε → ε} {m m' : EStateM ε σ α} (h : Agrees X m m') :
    Agrees X (Fallible.mapError f m) (Fallible.mapError f m') := by
  refine ⟨fun s hs => ?_, Along.mapError h.keeps⟩
  rw [after_mapError] at hs
  unfold Fallible.mapError
  rw [h.same s hs]

end Agrees

end Fallible
