import Mathlib.Algebra.Ring.Nat

/-!
# Cutting items off a stream

A cutter looks at the front of a stream and finds a whole item there, a mistake, or not enough to
decide.  What it has found stays found when the stream goes on, so the items of a stream do not
depend on the pieces in which it arrives: this is `Cuts.append`.  Where every item has one spelling,
`cuts_iff` says that the streams without a mistake are the spellings of their items one after the
other, with an undecided rest.
-/

namespace Cutting

variable {α β ε : Type}

/-- What is found at the front of a stream. -/
inductive Cut (α β ε : Type)
  | more
  | bad (e : ε)
  | item (a : α) (rest : List β)

/-- A look at the front of a stream that more of the stream does not change. -/
structure Cutter (α β ε : Type) where
  cut : List β → Cut α β ε
  shorter : ∀ {s a rest}, cut s = .item a rest → rest.length < s.length
  item_append : ∀ {s a rest} (t : List β), cut s = .item a rest → cut (s ++ t) = .item a (rest ++ t)
  bad_append : ∀ {s e} (t : List β), cut s = .bad e → cut (s ++ t) = .bad e

/-- The stream `s` begins with the items `as`; behind them comes `rest`, which is undecided or has
the mistake `e` at its front. -/
inductive Cuts (c : Cutter α β ε) : List β → List α → Option ε → List β → Prop
  | more {s : List β} (h : c.cut s = .more) : Cuts c s [] none s
  | bad {s : List β} {e : ε} (h : c.cut s = .bad e) : Cuts c s [] (some e) s
  | item {s t rest : List β} {a : α} {as : List α} {e : Option ε} (h : c.cut s = .item a t)
      (hrest : Cuts c t as e rest) : Cuts c s (a :: as) e rest

namespace Cuts

variable {c : Cutter α β ε} {s t rest rest' : List β} {as bs : List α} {e e' : Option ε}

/-- Every stream has a cutting. -/
theorem exists_cuts (c : Cutter α β ε) : ∀ s : List β, ∃ as e rest, Cuts c s as e rest := by
  intro s
  induction hn : s.length using Nat.strongRecOn generalizing s with
  | ind n ih =>
    cases h : c.cut s with
    | more => exact ⟨[], none, s, .more h⟩
    | bad e => exact ⟨[], some e, s, .bad h⟩
    | item a t =>
      have hlt := c.shorter h
      obtain ⟨as, e, rest, hrest⟩ := ih t.length (by omega) t rfl
      exact ⟨a :: as, e, rest, .item h hrest⟩

/-- A stream has one cutting. -/
theorem unique (h : Cuts c s as e rest) (h' : Cuts c s bs e' rest') :
    as = bs ∧ e = e' ∧ rest = rest' := by
  induction h generalizing bs with
  | more hs =>
    cases h' with
    | more _ => exact ⟨rfl, rfl, rfl⟩
    | bad hs' => cases hs.symm.trans hs'
    | item hs' _ => cases hs.symm.trans hs'
  | bad hs =>
    cases h' with
    | more hs' => cases hs.symm.trans hs'
    | bad hs' =>
      cases hs.symm.trans hs'
      exact ⟨rfl, rfl, rfl⟩
    | item hs' _ => cases hs.symm.trans hs'
  | item hs _ ih =>
    cases h' with
    | more hs' => cases hs.symm.trans hs'
    | bad hs' => cases hs.symm.trans hs'
    | item hs' hrest' =>
      cases hs.symm.trans hs'
      obtain ⟨rfl, he, hr⟩ := ih hrest'
      exact ⟨rfl, he, hr⟩

/-- The undecided rest is where the next piece of the stream is appended. -/
theorem append (h : Cuts c s as none rest) (h' : Cuts c (rest ++ t) bs e rest') :
    Cuts c (s ++ t) (as ++ bs) e rest' := by
  generalize hnone : (none : Option ε) = found at h
  induction h with
  | more _ => exact h'
  | bad _ => cases hnone
  | item hs _ ih => exact .item (c.item_append t hs) (ih h' hnone)

/-- Behind a mistake nothing counts. -/
theorem append_bad {e : ε} (t : List β) (h : Cuts c s as (some e) rest) :
    Cuts c (s ++ t) as (some e) (rest ++ t) := by
  generalize hsome : some e = found at h
  induction h with
  | more _ => cases hsome
  | bad hs =>
    cases hsome
    exact .bad (c.bad_append t hs)
  | item hs _ ih => exact .item (c.item_append t hs) (ih hsome)

/-- The beginning of a stream without a mistake has none, and its items are the first ones. -/
theorem of_append {es : Option ε} (h : Cuts c (s ++ t) bs none rest')
    (hs : Cuts c s as es rest) : es = none ∧ as <+: bs := by
  cases es with
  | some e =>
    obtain ⟨-, hnone, -⟩ := h.unique (hs.append_bad t)
    cases hnone
  | none =>
    obtain ⟨more, found, rest'', hmore⟩ := exists_cuts c (rest ++ t)
    obtain ⟨hitems, -, -⟩ := h.unique (hs.append hmore)
    exact ⟨rfl, more, hitems.symm⟩

/-- Every item takes at least one element of the stream. -/
theorem length_le (h : Cuts c s as e rest) : as.length + rest.length ≤ s.length := by
  induction h with
  | more _ => simp
  | bad _ => simp
  | item hs _ ih =>
    have hlt := c.shorter hs
    rw [List.length_cons]
    omega

/-- The rest of a cutting is cut no further. -/
theorem rest_cuts (h : Cuts c s as e rest) : Cuts c rest [] e rest := by
  induction h with
  | more hs => exact .more hs
  | bad hs => exact .bad hs
  | item _ _ ih => exact ih

end Cuts

/-! ### Items with one spelling -/

/-- Every item that is found is valid and stands in its spelling, and every spelling of a valid item
is found. -/
structure Spelling (c : Cutter α β ε) (valid : α → Prop) (spell : α → List β) : Prop where
  found : ∀ {s a rest}, c.cut s = .item a rest → valid a ∧ s = spell a ++ rest
  finds : ∀ {a}, valid a → ∀ rest, c.cut (spell a ++ rest) = .item a rest

/-- What a cutter finds at the front of a rest that it cuts no further. -/
def Cut.Ends (found : Cut α β ε) : Option ε → Prop
  | none => found = .more
  | some e => found = .bad e

/-- The streams that are cut into `as` are the spellings of `as`, with a rest that is no item. -/
theorem Spelling.cuts_iff {c : Cutter α β ε} {valid : α → Prop} {spell : α → List β}
    (h : Spelling c valid spell) {s rest : List β} {as : List α} {e : Option ε} :
    Cuts c s as e rest ↔
      (∀ a ∈ as, valid a) ∧ s = as.flatMap spell ++ rest ∧ (c.cut rest).Ends e := by
  constructor
  · intro hcuts
    induction hcuts with
    | more hs => exact ⟨by simp, rfl, hs⟩
    | bad hs => exact ⟨by simp, rfl, hs⟩
    | item hs _ ih =>
      obtain ⟨hvalid, hspell⟩ := h.found hs
      obtain ⟨hall, hrest, hends⟩ := ih
      refine ⟨List.forall_mem_cons.mpr ⟨hvalid, hall⟩, ?_, hends⟩
      rw [hspell, hrest, List.flatMap_cons, List.append_assoc]
  · rintro ⟨hall, rfl, hends⟩
    induction as with
    | nil =>
      cases e with
      | none => exact .more hends
      | some e => exact .bad hends
    | cons a as ih =>
      rw [List.forall_mem_cons] at hall
      rw [List.flatMap_cons, List.append_assoc]
      exact .item (h.finds hall.1 _) (ih hall.2)

end Cutting
