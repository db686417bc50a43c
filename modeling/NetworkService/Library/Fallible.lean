import Mathlib.Order.Defs.Unbundled

/-!
# Stateful computations that may stop early

`EStateM ε σ α` is the shape of a C++ member function that returns `bool` with an error
text: it may stop at any point, and what it did to the state before it stopped is kept.
This file gives the few combinators such code uses and the rules to reason about it:

* `after` and `completes`: the state left behind, and whether the end was reached;
* `attempt`: a call whose failure is ignored by the caller;
* `wp`: weakest preconditions with one postcondition for each way to end;
* `Along`: a preorder on states that every execution follows (frame conditions are the
  preorders "this part is the same").

Nothing here knows what the state is.
-/

namespace Fallible

variable {ε σ α β : Type}

/-! ### Combinators -/

/-- The state a computation leaves behind, whichever way it ends. -/
def after (m : EStateM ε σ α) (s : σ) : σ :=
  match m s with
  | .ok _ t => t
  | .error _ t => t

/-- Whether a computation runs to its end. -/
def completes (m : EStateM ε σ α) (s : σ) : Bool :=
  match m s with
  | .ok _ _ => true
  | .error _ _ => false

/-- Run `m` and hand a failure over as a value. -/
def attempt (m : EStateM ε σ α) : EStateM ε σ (Except ε α) := fun s =>
  match m s with
  | .ok a t => .ok (.ok a) t
  | .error e t => .ok (.error e) t

/-- Stop with `e` unless `c` holds. -/
def require (c : Bool) (e : ε) : EStateM ε σ Unit :=
  if c then pure () else throw e

/-- Run `m` if `c` holds. -/
def when (c : Prop) [Decidable c] (m : EStateM ε σ Unit) : EStateM ε σ Unit :=
  if c then m else pure ()

/-- Replace the error a computation stops with. -/
def mapError (f : ε → ε) (m : EStateM ε σ α) : EStateM ε σ α := fun s =>
  match m s with
  | .ok a t => .ok a t
  | .error e t => .error (f e) t

/-! ### How the combinators run -/

@[simp] theorem run_pure (a : α) (s : σ) : (pure a : EStateM ε σ α) s = .ok a s := rfl

@[simp] theorem run_throw (e : ε) (s : σ) : (throw e : EStateM ε σ α) s = .error e s := rfl

@[simp] theorem run_bind (m : EStateM ε σ α) (f : α → EStateM ε σ β) (s : σ) :
    (m >>= f) s = match m s with
      | .ok a t => f a t
      | .error e t => .error e t := by
  show EStateM.bind m f s = _
  unfold EStateM.bind
  cases m s <;> rfl

@[simp] theorem run_require (c : Bool) (e : ε) (s : σ) :
    (require c e : EStateM ε σ Unit) s = if c then .ok () s else .error e s := by
  cases c <;> rfl

@[simp] theorem run_ite (c : Prop) [Decidable c] (m m' : EStateM ε σ α) (s : σ) :
    (if c then m else m') s = if c then m s else m' s := by
  split <;> rfl

theorem after_ok {m : EStateM ε σ α} {s t : σ} {a : α} (h : m s = .ok a t) : after m s = t := by
  simp only [after, h]

theorem after_error {m : EStateM ε σ α} {s t : σ} {e : ε} (h : m s = .error e t) :
    after m s = t := by
  simp only [after, h]

theorem run_of_completes {m : EStateM ε σ Unit} {s : σ} (h : completes m s = true) :
    m s = .ok () (after m s) := by
  unfold completes at h
  unfold after
  cases hm : m s with
  | ok u t => rfl
  | error e t => rw [hm] at h; exact nomatch h

theorem run_of_stopped {m : EStateM ε σ α} {s : σ} (h : completes m s = false) :
    ∃ e, m s = .error e (after m s) := by
  unfold completes at h
  unfold after
  cases hm : m s with
  | ok u t => rw [hm] at h; exact nomatch h
  | error e t => exact ⟨e, rfl⟩

@[simp] theorem after_attempt (m : EStateM ε σ α) (s : σ) : after (attempt m) s = after m s := by
  simp only [after, attempt]
  cases m s <;> rfl

@[simp] theorem after_mapError (f : ε → ε) (m : EStateM ε σ α) (s : σ) :
    after (mapError f m) s = after m s := by
  simp only [after, mapError]
  cases m s <;> rfl

/-- After an attempt the computation goes on from whatever state was left. -/
theorem after_attempt_bind (m : EStateM ε σ α) (f : EStateM ε σ β) (s : σ) :
    after (attempt m >>= fun _ => f) s = after f (after m s) := by
  unfold after
  rw [run_bind]
  unfold attempt
  cases m s <;> rfl

theorem run_attempt_bind {m : EStateM ε σ α} {f : Except ε α → EStateM ε σ β} {s t : σ} {a : α}
    (h : m s = .ok a t) : (attempt m >>= f) s = f (.ok a) t := by
  rw [run_bind]
  unfold attempt
  rw [h]

/-- What is left behind when the first part of a sequence has come to its end. -/
theorem after_bind_of_ok {m : EStateM ε σ α} {f : α → EStateM ε σ β} {s t : σ} {a : α}
    (h : m s = .ok a t) : after (m >>= f) s = after (f a) t := by
  unfold after
  rw [run_bind, h]

/-- A sequence that ended normally did so part by part. -/
theorem bind_eq_ok {m : EStateM ε σ α} {f : α → EStateM ε σ β} {s t : σ} {b : β}
    (h : (m >>= f) s = .ok b t) : ∃ a u, m s = .ok a u ∧ f a u = .ok b t := by
  rw [run_bind] at h
  cases hm : m s with
  | ok a u =>
    rw [hm] at h
    exact ⟨a, u, rfl, h⟩
  | error e u =>
    rw [hm] at h
    cases h

/-! ### Pre- and postconditions -/

/-- The weakest precondition for a normal end with `Q` and an early stop with `E`. -/
def wp (m : EStateM ε σ α) (Q : α → σ → Prop) (E : ε → σ → Prop) (s : σ) : Prop :=
  match m s with
  | .ok a t => Q a t
  | .error e t => E e t

instance (m : EStateM ε σ α) (Q : α → σ → Prop) (E : ε → σ → Prop) (s : σ)
    [∀ a t, Decidable (Q a t)] [∀ e t, Decidable (E e t)] : Decidable (wp m Q E s) :=
  match h : m s with
  | .ok a t => decidable_of_iff (Q a t) (by unfold wp; rw [h])
  | .error e t => decidable_of_iff (E e t) (by unfold wp; rw [h])

section Wp

variable {Q : α → σ → Prop} {E : ε → σ → Prop} {s : σ}

@[simp] theorem wp_pure {a : α} : wp (pure a) Q E s ↔ Q a s := Iff.rfl

@[simp] theorem wp_throw {e : ε} : wp (throw e) Q E s ↔ E e s := Iff.rfl

@[simp] theorem wp_bind {m : EStateM ε σ β} {f : β → EStateM ε σ α} :
    wp (m >>= f) Q E s ↔ wp m (fun b => wp (f b) Q E) E s := by
  unfold wp
  rw [run_bind]
  cases m s <;> exact Iff.rfl

@[simp] theorem wp_ite {c : Prop} [Decidable c] {m m' : EStateM ε σ α} :
    wp (if c then m else m') Q E s ↔ if c then wp m Q E s else wp m' Q E s := by
  split <;> exact Iff.rfl

/-- The two branches apart; the condition is not evaluated. -/
theorem wp_split {c : Prop} [Decidable c] {m m' : EStateM ε σ α} (h : c → wp m Q E s)
    (h' : ¬c → wp m' Q E s) : wp (if c then m else m') Q E s := by
  rw [wp_ite]
  split
  · next hc => exact h hc
  · next hc => exact h' hc

@[simp] theorem wp_require {c : Bool} {e : ε} {Q : Unit → σ → Prop} :
    wp (require c e) Q E s ↔ if c then Q () s else E e s := by
  cases c <;> exact Iff.rfl

@[simp] theorem wp_when {c : Prop} [Decidable c] {m : EStateM ε σ Unit} {Q : Unit → σ → Prop} :
    wp (when c m) Q E s ↔ if c then wp m Q E s else Q () s := by
  unfold when
  split <;> exact Iff.rfl

@[simp] theorem wp_attempt {m : EStateM ε σ α} {Q : Except ε α → σ → Prop} :
    wp (attempt m) Q E s ↔ wp m (fun a => Q (.ok a)) (fun e => Q (.error e)) s := by
  unfold wp attempt
  cases m s <;> exact Iff.rfl

@[simp] theorem wp_mapError {f : ε → ε} {m : EStateM ε σ α} :
    wp (mapError f m) Q E s ↔ wp m Q (fun e => E (f e)) s := by
  unfold wp mapError
  cases m s <;> exact Iff.rfl

theorem wp_mono {m : EStateM ε σ α} {Q' : α → σ → Prop} {E' : ε → σ → Prop}
    (h : wp m Q' E' s) (hQ : ∀ a t, Q' a t → Q a t) (hE : ∀ e t, E' e t → E e t) :
    wp m Q E s := by
  unfold wp at h ⊢
  cases hm : m s with
  | ok a t => rw [hm] at h; exact hQ a t h
  | error e t => rw [hm] at h; exact hE e t h

theorem wp_and {m : EStateM ε σ α} {Q' : α → σ → Prop} {E' : ε → σ → Prop}
    (h : wp m Q E s) (h' : wp m Q' E' s) :
    wp m (fun a t => Q a t ∧ Q' a t) (fun e t => E e t ∧ E' e t) s := by
  unfold wp at h h' ⊢
  cases hm : m s with
  | ok a t => rw [hm] at h h'; exact ⟨h, h'⟩
  | error e t => rw [hm] at h h'; exact ⟨h, h'⟩

/-- What is known of the state left behind holds at both ends. -/
theorem wp_of_after {m : EStateM ε σ α} {I : σ → Prop} (h : I (after m s)) :
    wp m (fun _ => I) (fun _ => I) s := by
  unfold after at h
  unfold wp
  cases hm : m s with
  | ok a t => rw [hm] at h; exact h
  | error e t => rw [hm] at h; exact h

/-- The two ends are told apart by `completes`. -/
theorem wp_completes (m : EStateM ε σ α) (s : σ) :
    wp m (fun _ _ => completes m s = true) (fun _ _ => completes m s = false) s := by
  unfold wp completes
  cases m s <;> rfl

/-- A computation that cannot stop early ends normally. -/
theorem run_of_wp {m : EStateM ε σ α} (h : wp m Q (fun _ _ => False) s) :
    ∃ a t, m s = .ok a t ∧ Q a t := by
  unfold wp at h
  cases hm : m s with
  | ok a t => rw [hm] at h; exact ⟨a, t, rfl, h⟩
  | error e t => rw [hm] at h; exact h.elim

/-- After an early stop the second postcondition holds. -/
theorem after_of_stopped {m : EStateM ε σ α} {I : σ → Prop} (h : wp m Q (fun _ => I) s)
    (hstopped : completes m s = false) : I (after m s) := by
  obtain ⟨e, hrun⟩ := run_of_stopped hstopped
  unfold wp at h
  rw [hrun] at h
  exact h

theorem completes_of_wp {m : EStateM ε σ α} (h : wp m Q (fun _ _ => False) s) :
    completes m s = true := by
  obtain ⟨a, t, hrun, -⟩ := run_of_wp h
  simp only [completes, hrun]

/-- What both ends guarantee holds of the state left behind. -/
theorem after_of_wp {m : EStateM ε σ α} {I : σ → Prop} (h : wp m (fun _ => I) (fun _ => I) s) :
    I (after m s) := by
  unfold wp at h
  unfold after
  cases hm : m s with
  | ok a t => rw [hm] at h; exact h
  | error e t => rw [hm] at h; exact h

end Wp

/-! ### Executions along a preorder -/

/-- Every execution goes up in `R`, also one that stops early. -/
def Along (R : σ → σ → Prop) (m : EStateM ε σ α) : Prop :=
  ∀ s, R s (after m s)

section Along

variable {R : σ → σ → Prop}

@[simp] theorem Along.pure [Std.Refl R] (a : α) : Along R (pure a : EStateM ε σ α) :=
  fun s => Std.Refl.refl s

@[simp] theorem Along.throw [Std.Refl R] (e : ε) : Along R (throw e : EStateM ε σ α) :=
  fun s => Std.Refl.refl s

/-- The first part may depend on the state it starts from. -/
theorem Along.bind_at [IsTrans σ R] {m : EStateM ε σ α} {f : α → EStateM ε σ β} {s : σ}
    (hm : R s (after m s)) (hf : ∀ a, Along R (f a)) : R s (after (m >>= f) s) := by
  unfold after at hm ⊢
  rw [run_bind]
  cases hms : m s with
  | ok a t =>
    rw [hms] at hm
    have h2 := hf a t
    unfold after at h2
    exact IsTrans.trans _ _ _ hm h2
  | error e t =>
    rw [hms] at hm
    exact hm

theorem Along.bind [IsTrans σ R] {m : EStateM ε σ α} {f : α → EStateM ε σ β}
    (hm : Along R m) (hf : ∀ a, Along R (f a)) : Along R (m >>= f) :=
  fun s => Along.bind_at (hm s) hf

/-- What follows a first part goes up from where that part has left off. -/
theorem Along.after_bind [Std.Refl R] {m : EStateM ε σ α} {f : α → EStateM ε σ β}
    (hf : ∀ a, Along R (f a)) (s : σ) : R (after m s) (after (m >>= f) s) := by
  have hrest : ∀ a t, R t (after (f a) t) := fun a t => hf a t
  unfold after at hrest ⊢
  rw [run_bind]
  cases m s with
  | ok a t => exact hrest a t
  | error e t => exact Std.Refl.refl t

theorem Along.split {c : Prop} [Decidable c] {m m' : EStateM ε σ α}
    (hm : c → Along R m) (hm' : ¬c → Along R m') : Along R (if c then m else m') := by
  by_cases h : c
  · rw [if_pos h]
    exact hm h
  · rw [if_neg h]
    exact hm' h

theorem Along.ite {c : Prop} [Decidable c] {m m' : EStateM ε σ α}
    (hm : Along R m) (hm' : Along R m') : Along R (if c then m else m') :=
  Along.split (fun _ => hm) (fun _ => hm')

@[simp] theorem Along.require [Std.Refl R] (c : Bool) (e : ε) :
    Along R (require c e : EStateM ε σ Unit) :=
  Along.ite (Along.pure ()) (Along.throw e)

/-- What follows a requirement may rely on it. -/
theorem Along.guard [Std.Refl R] {c : Bool} {e : ε} {f : Unit → EStateM ε σ α}
    (hf : c = true → Along R (f ())) : Along R (Fallible.require c e >>= f) := by
  cases c with
  | true => exact hf rfl
  | false => exact Along.throw e

theorem Along.when [Std.Refl R] {c : Prop} [Decidable c] {m : EStateM ε σ Unit}
    (hm : Along R m) : Along R (when c m) :=
  Along.ite hm (Along.pure ())

theorem Along.attempt {m : EStateM ε σ α} (hm : Along R m) : Along R (attempt m) := by
  intro s
  rw [after_attempt]
  exact hm s

theorem Along.mapError {f : ε → ε} {m : EStateM ε σ α} (hm : Along R m) :
    Along R (mapError f m) := by
  intro s
  rw [after_mapError]
  exact hm s

end Along

/-- The states from which `I` survives: an invariant as a preorder. -/
def Keeping (I : σ → Prop) (s t : σ) : Prop := I s → I t

instance (I : σ → Prop) : Std.Refl (Keeping I) := ⟨fun _ h => h⟩

instance (I : σ → Prop) : IsTrans σ (Keeping I) := ⟨fun _ _ _ h h' hs => h' (h hs)⟩

/-- The part `view` of the state is the same: a frame condition as a preorder. -/
def Framing {γ : Type} (view : σ → γ) (s t : σ) : Prop := view t = view s

instance {γ : Type} (view : σ → γ) : Std.Refl (Framing view) := ⟨fun _ => rfl⟩

instance {γ : Type} (view : σ → γ) : IsTrans σ (Framing view) :=
  ⟨fun _ _ _ h h' => Eq.trans h' h⟩

/-- As long as `I` holds it goes on to hold, and `R` is followed. -/
def Under (I : σ → Prop) (R : σ → σ → Prop) (s t : σ) : Prop := I s → I t ∧ R s t

instance (I : σ → Prop) (R : σ → σ → Prop) [Std.Refl R] : Std.Refl (Under I R) :=
  ⟨fun s hs => ⟨hs, Std.Refl.refl s⟩⟩

instance (I : σ → Prop) (R : σ → σ → Prop) [IsTrans σ R] : IsTrans σ (Under I R) := by
  constructor
  intro s t u hst htu hs
  obtain ⟨ht, hR⟩ := hst hs
  obtain ⟨hu, hR'⟩ := htu ht
  exact ⟨hu, IsTrans.trans _ _ _ hR hR'⟩

/-- What a computation leaves alone is known at both of its ends. -/
theorem wp_of_framing {γ : Type} {view : σ → γ} {m : EStateM ε σ α} {s : σ}
    {Q : α → σ → Prop} {E : ε → σ → Prop} (hm : Along (Framing view) m)
    (hQ : ∀ a t, view t = view s → Q a t) (hE : ∀ e t, view t = view s → E e t) :
    wp m Q E s := by
  have hview := hm s
  unfold after at hview
  unfold wp
  cases hrun : m s with
  | ok a t => rw [hrun] at hview; exact hQ a t hview
  | error e t => rw [hrun] at hview; exact hE e t hview

/-! ### Early stops that leave a trace -/

/-- `count` never goes down, and an early stop has raised it. -/
def Counted (count : σ → Nat) (m : EStateM ε σ α) : Prop :=
  ∀ s, wp m (fun _ t => count s ≤ count t) (fun _ t => count s < count t) s

section Counted

variable {count : σ → Nat}

theorem Counted.pure (a : α) : Counted count (pure a : EStateM ε σ α) := fun _ => Nat.le_refl _

theorem Counted.bind {m : EStateM ε σ α} {f : α → EStateM ε σ β} (hm : Counted count m)
    (hf : ∀ a, Counted count (f a)) : Counted count (m >>= f) := by
  intro s
  rw [wp_bind]
  refine wp_mono (hm s) (fun a t ht => ?_) (fun _ _ h => h)
  exact wp_mono (hf a t) (fun _ _ hu => Nat.le_trans ht hu) (fun _ _ hu => Nat.lt_of_le_of_lt ht hu)

theorem Counted.ite {c : Prop} [Decidable c] {m m' : EStateM ε σ α} (hm : Counted count m)
    (hm' : Counted count m') : Counted count (if c then m else m') := by
  split
  · exact hm
  · exact hm'

theorem Counted.when {c : Prop} [Decidable c] {m : EStateM ε σ Unit} (hm : Counted count m) :
    Counted count (when c m) := Counted.ite hm (Counted.pure ())

theorem Counted.require {c : Bool} {e : ε} (hc : c = true) :
    Counted count (Fallible.require c e : EStateM ε σ Unit) := by
  subst hc
  exact Counted.pure ()

theorem Counted.mapError {f : ε → ε} {m : EStateM ε σ α} (hm : Counted count m) :
    Counted count (mapError f m) := fun s => wp_mapError.mpr (hm s)

end Counted

/-! ### Early stops that need a reason -/

/-- The computation stops early only if `F`. -/
def StopsOnly (F : Prop) (m : EStateM ε σ α) : Prop :=
  ∀ s, wp m (fun _ _ => True) (fun _ _ => F) s

section StopsOnly

variable {F : Prop}

theorem StopsOnly.pure (a : α) : StopsOnly F (pure a : EStateM ε σ α) := fun _ => trivial

theorem StopsOnly.bind {m : EStateM ε σ α} {f : α → EStateM ε σ β} (hm : StopsOnly F m)
    (hf : ∀ a, StopsOnly F (f a)) : StopsOnly F (m >>= f) := by
  intro s
  rw [wp_bind]
  exact wp_mono (hm s) (fun a t _ => hf a t) (fun _ _ h => h)

theorem StopsOnly.ite {c : Prop} [Decidable c] {m m' : EStateM ε σ α} (hm : StopsOnly F m)
    (hm' : StopsOnly F m') : StopsOnly F (if c then m else m') := by
  split
  · exact hm
  · exact hm'

theorem StopsOnly.require {c : Bool} {e : ε} (hc : c = false → F) :
    StopsOnly F (Fallible.require c e : EStateM ε σ Unit) := by
  cases c with
  | true => exact StopsOnly.pure ()
  | false => exact fun _ => hc rfl

end StopsOnly

end Fallible
