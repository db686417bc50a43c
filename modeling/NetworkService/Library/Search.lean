import Mathlib.Data.List.Infix

/-!
# Searching a text

The text from the first occurrence of a needle on, which is what a program keeps when it cuts a
text at the position `find` returns.
-/

namespace Search

variable {α : Type}

/-! ### Words without a separator -/

variable {s t : List α}

theorem prefix_of_prefix_append_cons {word : List α} {sep : α} (hsep : sep ∉ word)
    (h : word <+: s ++ sep :: t) : word <+: s := by
  rcases Nat.lt_or_ge s.length word.length with hlt | hge
  · have hbefore : s ++ [sep] <+: word :=
      List.prefix_of_prefix_length_le ⟨t, by simp⟩ h (by rw [List.length_append]; exact hlt)
    exact absurd (hbefore.subset (List.mem_append_right _ List.mem_cons_self)) hsep
  · exact List.prefix_of_prefix_length_le h (List.prefix_append _ _) hge

/-- A word without the separator stands on one side of it. -/
theorem infix_append_cons_iff {word : List α} {sep : α} (hsep : sep ∉ word) :
    word <:+: s ++ sep :: t ↔ word <:+: s ∨ word <:+: t := by
  refine ⟨fun h => ?_, fun h => h.elim (fun h => h.trans List.infix_append_left)
    fun h => h.trans ((List.suffix_cons sep t).isInfix.trans List.infix_append_right)⟩
  induction s with
  | nil =>
    rcases List.infix_cons_iff.mp h with hhere | hlater
    · exact .inl (prefix_of_prefix_append_cons hsep hhere).isInfix
    · exact .inr hlater
  | cons a s ih =>
    rcases List.infix_cons_iff.mp h with hhere | hlater
    · exact .inl (prefix_of_prefix_append_cons hsep hhere).isInfix
    · exact (ih hlater).imp (fun h => h.trans (List.suffix_cons a s).isInfix) id

/-! ### The first occurrence -/

variable [DecidableEq α]

/-- The text from the first occurrence of `needle` on. -/
def fromFirst (needle : List α) : List α → Option (List α)
  | [] => if needle = [] then some [] else none
  | a :: s => if needle <+: a :: s then some (a :: s) else fromFirst needle s

variable {needle : List α}

theorem fromFirst_of_infix (h : needle <:+: s) : ∃ t, fromFirst needle s = some t := by
  induction s with
  | nil =>
    rw [List.infix_nil.mp h]
    exact ⟨[], rfl⟩
  | cons a s ih =>
    unfold fromFirst
    split
    · exact ⟨_, rfl⟩
    next hnot =>
      rcases List.infix_cons_iff.mp h with hhere | hlater
      · exact absurd hhere hnot
      · exact ih hlater

/-- The first occurrence of one letter. -/
theorem fromFirst_letter {c : α} (hs : c ∉ s) : fromFirst [c] (s ++ c :: t) = some (c :: t) := by
  induction s with
  | nil => exact if_pos (List.prefix_append [c] t)
  | cons a s ih =>
    refine (if_neg fun hprefix => ?_).trans (ih fun hmem => hs (List.mem_cons_of_mem a hmem))
    exact hs ((List.cons_prefix_cons.mp hprefix).1 ▸ List.mem_cons_self)

end Search
