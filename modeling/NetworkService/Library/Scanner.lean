import Mathlib.Algebra.Ring.Nat
import NetworkService.Library.Fallible

/-!
# Scanners

A scanner walks over a text by a position: it looks at single characters, it moves the position
forward, its loops go round until a turn says that they end, and it may call itself.  Nothing keeps
it from looking outside the text or from going round for ever.  A run that would do so stops with the
fault, and what it does on the way is written down.

`Meets` says that a scanner does neither.  Its rules follow the combinators, and the rule for loops
asks that every turn that goes on has moved the position.
-/

namespace Scanner

open Fallible

variable {κ ε δ α β : Type}

/-- Why a run stops. -/
inductive Fault (ε : Type)
  /-- the scanner itself gave up -/
  | rejected (e : ε)
  | outside (index : ℕ)
  /-- a loop or a recursion was cut off -/
  | stuck
  deriving DecidableEq

inductive Event
  | look (index : ℕ)
  | move (source target : ℕ)
  | turn (source target : ℕ) (rejected : Bool)
  | call (nested : ℕ)
  deriving DecidableEq

structure Cursor where
  pos : ℕ := 0
  /-- the calls that are open -/
  nested : ℕ := 0
  /-- the latest first -/
  events : List Event := []
  deriving DecidableEq

def Cursor.record (s : Cursor) (event : Event) : Cursor := { s with events := event :: s.events }

abbrev Scan (ε α : Type) := EStateM (Fault ε) Cursor α

/-! ### Single steps -/

def position : Scan ε ℕ := fun s => .ok s.pos s

def reject (e : ε) : Scan ε α := throw (.rejected e)

/-- `text[index]` -/
def look (text : List κ) (index : ℕ) : Scan ε κ := fun s =>
  match text[index]? with
  | some c => .ok c (s.record (.look index))
  | none => .error (.outside index) (s.record (.look index))

/-- `text.substr(start, count)`, which may end behind the text but not begin there. -/
def slice (text : List κ) (start count : ℕ) : Scan ε (List κ) := fun s =>
  if text.length < start then .error (.outside start) s
  else .ok ((text.drop start).take count) s

/-- `pos += count` -/
def advance (count : ℕ) : Scan ε Unit := fun s =>
  .ok () { s.record (.move s.pos (s.pos + count)) with pos := s.pos + count }

/-! ### Combinators -/

/-- One turn of a loop that is watched. -/
def turn (body : Scan ε α) : Scan ε α := fun s =>
  match body s with
  | .ok a t => .ok a (t.record (.turn s.pos t.pos false))
  | .error e t => .error e (t.record (.turn s.pos t.pos true))

/-- A call that counts as open until it returns. -/
def call (body : Scan ε α) : Scan ε α := fun s =>
  match body { s.record (.call (s.nested + 1)) with nested := s.nested + 1 } with
  | .ok a t => .ok a { t with nested := s.nested }
  | .error e t => .error e { t with nested := s.nested }

/-- `if (!m) return e;` -/
def orReturn (m : Scan δ α) (e : ε) : Scan ε α := fun s =>
  match m s with
  | .ok a t => .ok a t
  | .error (.rejected _) t => .error (.rejected e) t
  | .error (.outside index) t => .error (.outside index) t
  | .error .stuck t => .error .stuck t

/-- A turn answers what the next one starts from, or the result of the loop. -/
def loop (body : α → Scan ε (α ⊕ β)) : ℕ → α → Scan ε β
  | 0, _ => throw .stuck
  | turns + 1, a => do
    match ← body a with
    | .inl a => loop body turns a
    | .inr b => pure b

/-- `pos < text.size() && f(text[pos])` -/
def sees (text : List κ) (f : κ → Bool) : Scan ε Bool := do
  let pos ← position
  if pos < text.length then do
    let c ← look text pos
    pure (f c)
  else pure false

/-- `if (pos >= text.size()) return e;` and then `text[pos]`. -/
def here (text : List κ) (e : ε) : Scan ε κ := do
  let pos ← position
  if text.length ≤ pos then reject e else look text pos

/-- `pos < text.size() && f(text[pos])`, and then `++pos`. -/
def consume (text : List κ) (f : κ → Bool) : Scan ε Bool := do
  let seen ← sees text f
  when seen (advance 1)
  pure seen

/-- `if (pos >= text.size() || !f(text[pos])) return e;` and then `++pos`. -/
def pass (text : List κ) (f : κ → Bool) (e : ε) : Scan ε Unit := do
  let seen ← sees text f
  if seen then advance 1 else reject e

/-- `while (pos < text.size() && f(text[pos])) ++pos;` -/
def skipWhile (text : List κ) (f : κ → Bool) (turns : ℕ) : Scan ε Unit :=
  loop (fun _ => do
    let seen ← consume text f
    pure (if seen then .inl () else .inr ())) turns ()

/-! ### Runs within the text -/

/-- What a run within a text of this length does, with at most `limit` calls open.  A turn that gives
up may do so where it began. -/
def Event.Fits (length limit : ℕ) : Event → Prop
  | .look index => index < length
  | .move source target => source ≤ target ∧ target ≤ length
  | .turn source target rejected => source ≤ target ∧ (rejected = false → source < target)
  | .call nested => nested ≤ limit

/-- What a run from `s` to `t` does fits. -/
structure Within (text : List κ) (limit : ℕ) (s t : Cursor) : Prop where
  forward : s.pos ≤ t.pos
  inside : t.pos ≤ text.length
  nested : t.nested = s.nested
  events : (∀ event ∈ s.events, event.Fits text.length limit) →
    ∀ event ∈ t.events, event.Fits text.length limit

theorem Within.trans {text : List κ} {limit : ℕ} {s t u : Cursor} (h : Within text limit s t)
    (h' : Within text limit t u) : Within text limit s u where
  forward := Nat.le_trans h.forward h'.forward
  inside := h'.inside
  nested := h'.nested.trans h.nested
  events hs := h'.events (h.events hs)

/-- A step that is written down as `event`. -/
theorem Within.record {text : List κ} {limit : ℕ} {s t : Cursor} {event : Event}
    (h : Within text limit s t) (hfits : event.Fits text.length limit) :
    Within text limit s (t.record event) where
  forward := h.forward
  inside := h.inside
  nested := h.nested
  events hs := List.forall_mem_cons.mpr ⟨hfits, h.events hs⟩

theorem Within.self {text : List κ} {limit : ℕ} {s : Cursor} (h : s.pos ≤ text.length) :
    Within text limit s s :=
  ⟨Nat.le_refl _, h, rfl, id⟩

/-- **From position `p` of the text and with `k` calls open, the scanner ends within the text**: with
`Q` of its result and of the position it leaves, or giving up with an `e` of which `R` holds. -/
def Meets (text : List κ) (limit : ℕ) (m : Scan ε α) (k p : ℕ) (Q : α → ℕ → Prop)
    (R : ε → Prop) : Prop :=
  p ≤ text.length → ∀ s : Cursor, s.pos = p → s.nested = k →
    wp m (fun a t => Within text limit s t ∧ Q a t.pos)
      (fun fault t => Within text limit s t ∧ ∃ e, fault = .rejected e ∧ R e) s

section Rules

variable {text : List κ} {limit k p : ℕ} {Q : α → ℕ → Prop} {R : ε → Prop}

/-- Nothing is asked from outside the text. -/
theorem Meets.inside {m : Scan ε α} (h : p ≤ text.length → Meets text limit m k p Q R) :
    Meets text limit m k p Q R := fun hp => h hp hp

theorem Meets.pure {a : α} (h : Q a p) : Meets text limit (pure a : Scan ε α) k p Q R := by
  rintro hp s rfl -
  exact ⟨.self hp, h⟩

theorem Meets.reject {e : ε} (h : R e) : Meets text limit (reject e : Scan ε α) k p Q R := by
  rintro hp s rfl -
  exact ⟨.self hp, e, rfl, h⟩

/-- The first part may be known by a specification of its own. -/
theorem Meets.seq {m : Scan ε β} {f : β → Scan ε α} {Q' : β → ℕ → Prop} {R' : ε → Prop}
    (hm : Meets text limit m k p Q' R') (hR : ∀ e, R' e → R e)
    (hf : ∀ b q, p ≤ q → q ≤ text.length → Q' b q → Meets text limit (f b) k q Q R) :
    Meets text limit (m >>= f) k p Q R := by
  intro hp s hs hk
  rw [wp_bind]
  refine wp_mono (hm hp s hs hk) ?_ ?_
  · rintro b t ⟨hst, hQ⟩
    have hle := hst.forward
    have hnext := hf b t.pos (hs ▸ hle) hst.inside hQ hst.inside t rfl (hst.nested.trans hk)
    refine wp_mono hnext ?_ ?_
    · rintro a u ⟨htu, hQ⟩
      exact ⟨hst.trans htu, hQ⟩
    · rintro fault u ⟨htu, hR⟩
      exact ⟨hst.trans htu, hR⟩
  · rintro fault t ⟨hst, e, rfl, he⟩
    exact ⟨hst, e, rfl, hR e he⟩

theorem Meets.mono {m : Scan ε α} {Q' : α → ℕ → Prop} {R' : ε → Prop}
    (hm : Meets text limit m k p Q' R') (hR : ∀ e, R' e → R e)
    (hQ : ∀ a q, p ≤ q → q ≤ text.length → Q' a q → Q a q) : Meets text limit m k p Q R := by
  have h := hm.seq (f := Pure.pure) hR fun a q hle hq h => Meets.pure (hQ a q hle hq h)
  rwa [bind_pure] at h

/-- What comes next is the postcondition of the first part. -/
theorem Meets.bind {m : Scan ε β} {f : β → Scan ε α}
    (h : Meets text limit m k p (fun b q => Meets text limit (f b) k q Q R) R) :
    Meets text limit (m >>= f) k p Q R :=
  h.seq (fun _ he => he) fun _ _ _ _ hf => hf

theorem Meets.ite {c : Prop} [Decidable c] {m m' : Scan ε α} (h : c → Meets text limit m k p Q R)
    (h' : ¬c → Meets text limit m' k p Q R) : Meets text limit (if c then m else m') k p Q R := by
  split
  next hc => exact h hc
  next hc => exact h' hc

theorem Meets.when {c : Prop} [Decidable c] {m : Scan ε Unit} {Q : Unit → ℕ → Prop}
    (h : c → Meets text limit m k p Q R) (h' : ¬c → Q () p) :
    Meets text limit (when c m) k p Q R :=
  Meets.ite h fun hc => Meets.pure (h' hc)

theorem Meets.position {Q : ℕ → ℕ → Prop} (h : Q p p) :
    Meets text limit (position : Scan ε ℕ) k p Q R := by
  rintro hp s rfl -
  exact ⟨.self hp, h⟩

theorem Meets.look {index : ℕ} {c : κ} {Q : κ → ℕ → Prop} (hc : text[index]? = some c)
    (h : Q c p) : Meets text limit (look text index : Scan ε κ) k p Q R := by
  rintro hp s rfl -
  obtain ⟨hlt, -⟩ := List.getElem?_eq_some_iff.mp hc
  unfold wp Scanner.look
  rw [hc]
  exact ⟨(Within.self hp).record hlt, h⟩

theorem Meets.slice {start count : ℕ} {Q : List κ → ℕ → Prop} (hstart : start ≤ text.length)
    (h : Q ((text.drop start).take count) p) :
    Meets text limit (slice text start count : Scan ε (List κ)) k p Q R := by
  rintro hp s rfl -
  unfold wp Scanner.slice
  rw [if_neg (by omega)]
  exact ⟨.self hp, h⟩

theorem Meets.advance {count : ℕ} {Q : Unit → ℕ → Prop} (hcount : p + count ≤ text.length)
    (h : Q () (p + count)) : Meets text limit (advance count : Scan ε Unit) k p Q R := by
  rintro hp s rfl -
  have hfits : Event.Fits text.length limit (.move s.pos (s.pos + count)) :=
    ⟨Nat.le_add_right _ _, hcount⟩
  exact ⟨⟨Nat.le_add_right _ _, hcount, rfl, ((Within.self hp).record hfits).events⟩, h⟩

theorem Meets.turn {m : Scan ε α} (h : Meets text limit m k p (fun a q => p < q ∧ Q a q) R) :
    Meets text limit (turn m) k p Q R := by
  rintro hp s rfl hk
  have hrun := h hp s rfl hk
  unfold wp at hrun ⊢
  unfold Scanner.turn
  cases hm : m s with
  | ok a t =>
    rw [hm] at hrun
    obtain ⟨hst, hmoved, hQ⟩ := hrun
    exact ⟨hst.record ⟨hst.forward, fun _ => hmoved⟩, hQ⟩
  | error fault t =>
    rw [hm] at hrun
    obtain ⟨hst, hR⟩ := hrun
    exact ⟨hst.record ⟨hst.forward, nofun⟩, hR⟩

theorem Meets.call {m : Scan ε α} (hk : k < limit) (h : Meets text limit m (k + 1) p Q R) :
    Meets text limit (call m) k p Q R := by
  rintro hp s rfl rfl
  have hrun := h hp { s.record (.call (s.nested + 1)) with nested := s.nested + 1 } rfl rfl
  -- the call is written down first, and it is closed at the end
  have hwithin : ∀ t : Cursor,
      Within text limit { s.record (.call (s.nested + 1)) with nested := s.nested + 1 } t →
        Within text limit s { t with nested := s.nested } := by
    intro t ht
    refine ⟨ht.forward, ht.inside, rfl, fun hs => ht.events ?_⟩
    exact List.forall_mem_cons.mpr ⟨hk, hs⟩
  unfold wp at hrun ⊢
  unfold Scanner.call
  cases hm : m { s.record (.call (s.nested + 1)) with nested := s.nested + 1 } with
  | ok a t =>
    rw [hm] at hrun
    exact ⟨hwithin t hrun.1, hrun.2⟩
  | error fault t =>
    rw [hm] at hrun
    exact ⟨hwithin t hrun.1, hrun.2⟩

theorem Meets.orReturn {m : Scan δ α} {e : ε} {R' : δ → Prop}
    (h : Meets text limit m k p Q R') (hR : ∀ d, R' d → R e) :
    Meets text limit (orReturn m e) k p Q R := by
  intro hp s hs hk
  have hrun := h hp s hs hk
  unfold wp at hrun ⊢
  unfold Scanner.orReturn
  cases hm : m s with
  | ok a t =>
    rw [hm] at hrun
    exact hrun
  | error fault t =>
    rw [hm] at hrun
    obtain ⟨hst, d, rfl, hd⟩ := hrun
    exact ⟨hst, e, rfl, hR d hd⟩

/-- **A loop ends if every turn that goes on has moved the position.** -/
theorem Meets.loop {body : α → Scan ε (α ⊕ β)} {Q : β → ℕ → Prop} (I : α → ℕ → Prop)
    (hbody : ∀ a q, p ≤ q → q ≤ text.length → I a q → Meets text limit (body a) k q
      (fun next r => next.elim (fun a => q < r ∧ I a r) fun b => Q b r) R)
    {turns : ℕ} {a : α} (hturns : text.length < p + turns) (ha : I a p) :
    Meets text limit (loop body turns a) k p Q R := by
  have hrun : ∀ (turns : ℕ) (a : α) (q : ℕ), p ≤ q → text.length < q + turns → I a q →
      Meets text limit (Scanner.loop body turns a) k q Q R := by
    intro turns
    induction turns with
    | zero =>
      intro a q _ hturns _ hq
      exact absurd hq (by omega)
    | succ turns ih =>
      intro a q hpq hturns ha hq
      refine Meets.seq (hbody a q hpq hq ha) (fun _ he => he) ?_ hq
      intro next r hqr _ hnext
      cases next with
      | inl a => exact ih a r (by omega) (by have hmoved := hnext.1; omega) hnext.2
      | inr b => exact Meets.pure hnext
  exact hrun turns a p (Nat.le_refl p) hturns ha

end Rules

/-! ### What is left of the text -/

section Rest

variable {text rest : List κ} {limit k p q : ℕ} {c : κ} {R : ε → Prop}

theorem lt_of_drop (h : text.drop p = c :: rest) : p < text.length := by
  refine Nat.lt_of_not_le fun hle => ?_
  rw [List.drop_eq_nil_of_le hle] at h
  cases h

theorem getElem?_of_drop (h : text.drop p = c :: rest) : text[p]? = some c := by
  have hhead := congrArg List.head? h
  rwa [List.head?_drop] at hhead

theorem drop_succ (h : text.drop p = c :: rest) : text.drop (p + 1) = rest := by
  rw [← List.drop_drop, h]
  rfl

theorem le_of_drop_nil (h : text.drop p = []) : text.length ≤ p :=
  List.drop_eq_nil_iff.mp h

theorem drop_eq_nil_iff (hp : p ≤ text.length) : text.drop p = [] ↔ p = text.length :=
  List.drop_eq_nil_iff.trans ⟨fun h => Nat.le_antisymm hp h, fun h => Nat.le_of_eq h.symm⟩

/-- What is left tells the position. -/
theorem eq_of_drop (hp : p ≤ text.length) (hq : q ≤ text.length) (h : text.drop q = text.drop p) :
    q = p := by
  have hlength := congrArg List.length h
  rw [List.length_drop, List.length_drop] at hlength
  omega

/-- Whether a character of `f` comes next. -/
def startsWith (f : κ → Bool) : List κ → Bool
  | [] => false
  | c :: _ => f c

theorem Meets.sees {f : κ → Bool} {Q : Bool → ℕ → Prop} (h : Q (startsWith f (text.drop p)) p) :
    Meets text limit (sees text f : Scan ε Bool) k p Q R := by
  refine Meets.bind (Meets.position ?_)
  cases hrest : text.drop p with
  | nil =>
    rw [hrest] at h
    refine Meets.ite (fun hlt => ?_) fun _ => Meets.pure h
    exact absurd (le_of_drop_nil hrest) (by omega)
  | cons c rest =>
    rw [hrest] at h
    refine Meets.ite (fun _ => Meets.bind (Meets.look (getElem?_of_drop hrest) (Meets.pure h))) ?_
    intro hge
    exact absurd (lt_of_drop hrest) hge

theorem Meets.here {e : ε} {Q : κ → ℕ → Prop} (hnil : text.drop p = [] → R e)
    (hcons : ∀ c rest, text.drop p = c :: rest → Q c p) :
    Meets text limit (here text e) k p Q R := by
  refine Meets.bind (Meets.position (Meets.ite (fun hge => ?_) fun hlt => ?_))
  · exact Meets.reject (hnil (List.drop_eq_nil_of_le hge))
  · cases hrest : text.drop p with
    | nil => exact absurd (le_of_drop_nil hrest) hlt
    | cons c rest => exact Meets.look (getElem?_of_drop hrest) (hcons c rest hrest)

/-- `++pos` behind a character that is there. -/
theorem Meets.advance_one {Q : Unit → ℕ → Prop} (hrest : text.drop p = c :: rest)
    (h : text.drop (p + 1) = rest → Q () (p + 1)) :
    Meets text limit (Scanner.advance 1 : Scan ε Unit) k p Q R :=
  Meets.advance (lt_of_drop hrest) (h (drop_succ hrest))

theorem Meets.consume {f : κ → Bool} {Q : Bool → ℕ → Prop}
    (hno : startsWith f (text.drop p) = false → Q false p)
    (hyes : ∀ c rest, text.drop p = c :: rest → f c = true → text.drop (p + 1) = rest →
      Q true (p + 1)) :
    Meets text limit (consume text f : Scan ε Bool) k p Q R := by
  refine Meets.bind (Meets.sees (Meets.bind ?_))
  cases hseen : startsWith f (text.drop p) with
  | false => exact Meets.when nofun fun _ => Meets.pure (hno hseen)
  | true =>
    cases hrest : text.drop p with
    | nil =>
      rw [hrest] at hseen
      exact nomatch hseen
    | cons c rest =>
      rw [hrest] at hseen
      refine Meets.when (fun _ => Meets.advance_one hrest fun hnext => ?_) (absurd rfl)
      exact Meets.pure (hyes c rest hrest hseen hnext)

theorem Meets.pass {f : κ → Bool} {e : ε} {Q : Unit → ℕ → Prop}
    (hno : startsWith f (text.drop p) = false → R e)
    (hyes : ∀ c rest, text.drop p = c :: rest → f c = true → text.drop (p + 1) = rest →
      Q () (p + 1)) :
    Meets text limit (pass text f e) k p Q R := by
  refine Meets.bind (Meets.sees ?_)
  cases hseen : startsWith f (text.drop p) with
  | false => exact Meets.reject (hno hseen)
  | true =>
    cases hrest : text.drop p with
    | nil =>
      rw [hrest] at hseen
      exact nomatch hseen
    | cons c rest =>
      rw [hrest] at hseen
      exact Meets.advance_one hrest fun hnext => hyes c rest hrest hseen hnext

theorem Meets.skipWhile {f : κ → Bool} {turns : ℕ} {Q : Unit → ℕ → Prop}
    (hturns : text.length < p + turns)
    (h : ∀ q, p ≤ q → q ≤ text.length → text.drop q = (text.drop p).dropWhile f → Q () q) :
    Meets text limit (skipWhile text f turns : Scan ε Unit) k p Q R := by
  -- passing more of the run leaves what is behind it as it is
  refine Meets.loop (fun _ q => (text.drop q).dropWhile f = (text.drop p).dropWhile f) ?_ hturns rfl
  intro _ q hpq hq hsame
  refine Meets.bind (Meets.consume (fun hno => Meets.pure ?_) fun c rest hrest hc hnext => ?_)
  · refine h q hpq hq ?_
    rw [← hsame]
    cases hrest : text.drop q with
    | nil => rfl
    | cons c rest =>
      rw [hrest] at hno
      have hc : f c = false := hno
      rw [List.dropWhile_cons, hc]
      rfl
  · refine Meets.pure ⟨Nat.lt_succ_self q, ?_⟩
    show (text.drop (q + 1)).dropWhile f = _
    rw [hnext, ← hsame, hrest, List.dropWhile_cons, if_pos hc]

/-- A loop reads what a recursion over the rest of the text reads if every turn takes one step of it.
The recursion may be bounded, as long as it is not by less than what is left. -/
theorem Meets.loop_reads {ρ : Type} {body : α → Scan ε (α ⊕ β)} (read : ℕ → α → List κ → ρ)
    (done : β → List κ → ρ) (failed : ε → ρ)
    (hbody : ∀ n a q, p ≤ q → text.length < q + (n + 1) → Meets text limit (body a) k q
      (fun next r => next.elim
        (fun a' => q < r ∧ read n a' (text.drop r) = read (n + 1) a (text.drop q))
        fun b => read (n + 1) a (text.drop q) = done b (text.drop r))
      (fun e => read (n + 1) a (text.drop q) = failed e))
    {turns n : ℕ} {a : α} (hturns : text.length < p + turns) (hn : text.length < p + n) :
    Meets text limit (Scanner.loop body turns a) k p
      (fun b q => read n a (text.drop p) = done b (text.drop q))
      (fun e => read n a (text.drop p) = failed e) := by
  refine Meets.loop (fun a' q => ∃ n', text.length < q + n' ∧
    read n' a' (text.drop q) = read n a (text.drop p)) ?_ hturns ⟨n, hn, rfl⟩
  rintro a' q hpq hq ⟨n', hn', hsame⟩
  cases n' with
  | zero => exact absurd hn' (by omega)
  | succ n' =>
    refine Meets.mono (hbody n' a' q hpq hn') (fun e hfailed => hsame ▸ hfailed) ?_
    intro next r _ _ hnext
    cases next with
    | inl a'' => exact ⟨hnext.1, n', by have hmoved := hnext.1; omega, hnext.2.trans hsame⟩
    | inr b => exact hsame.symm.trans hnext

end Rest

/-! ### Whole runs -/

/-- A run over the whole text ends by itself, with a result or giving up.  It looks at characters of
the text only, its position goes forward up to the end of the text, every watched turn that does not
give up moves it, and no more than `limit` calls are ever open. -/
structure Bounded (text : List κ) (limit : ℕ) (m : Scan ε α) : Prop where
  ends : ∀ t, m {} ≠ .error .stuck t
  inside : ∀ index t, m {} ≠ .error (.outside index) t
  looks : ∀ index, Event.look index ∈ (after m {}).events → index < text.length
  moves : ∀ source target, Event.move source target ∈ (after m {}).events →
    source ≤ target ∧ target ≤ text.length
  turns : ∀ source target, Event.turn source target false ∈ (after m {}).events → source < target
  calls : ∀ nested, Event.call nested ∈ (after m {}).events → nested ≤ limit
  position : (after m {}).pos ≤ text.length

theorem Meets.bounded {text : List κ} {limit : ℕ} {m : Scan ε α} {Q : α → ℕ → Prop} {R : ε → Prop}
    (h : Meets text limit m 0 0 Q R) : Bounded text limit m := by
  have hrun := h (Nat.zero_le _) {} rfl rfl
  have hwithin : Within text limit {} (after m {}) :=
    after_of_wp (wp_mono hrun (fun _ _ h => h.1) fun _ _ h => h.1)
  have hfits := hwithin.events (List.forall_mem_nil _)
  have hrejects : ∀ fault t, m {} = .error fault t → ∃ e, fault = .rejected e := by
    intro fault t hm
    unfold wp at hrun
    rw [hm] at hrun
    obtain ⟨-, e, he, -⟩ := hrun
    exact ⟨e, he⟩
  constructor
  case ends =>
    intro t hm
    obtain ⟨e, he⟩ := hrejects _ t hm
    cases he
  case inside =>
    intro index t hm
    obtain ⟨e, he⟩ := hrejects _ t hm
    cases he
  case looks => exact fun index hmem => hfits _ hmem
  case moves => exact fun source target hmem => hfits _ hmem
  case turns => exact fun source target hmem => (hfits _ hmem).2 rfl
  case calls => exact fun nested hmem => hfits _ hmem
  case position => exact hwithin.inside

end Scanner
