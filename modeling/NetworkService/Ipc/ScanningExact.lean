import NetworkService.Ipc.Scanning

/-!
# Phrases are passed exactly

On a text with a phrase of the grammar at its front, a scanner stops right behind the phrase, if the
phrase is not nested deeper than its levels reach; otherwise it fails.
-/

namespace NetworkService.Ipc

open Json

/-! ### The front of a phrase -/

theorem dense_cons {b : UInt8} (h : isSpace b = false) (s : Bytes) : Dense (b :: s) := by
  rintro c ⟨⟩
  exact h

theorem not_isSpace_of_digit {b : UInt8} (h : digit b = true) : isSpace b = false := by
  unfold digit at h
  unfold isSpace
  simp only [Bool.and_eq_true, decide_eq_true_eq, UInt8.le_iff_toNat_le] at h
  have h30 : (0x30 : UInt8).toNat = 48 := rfl
  have h0d : (0x0d : UInt8).toNat = 13 := rfl
  have hne : b ≠ 0x20 := by
    rintro rfl
    exact absurd h.1 (by decide)
  have hgt : ¬b ≤ 0x0d := by
    rw [UInt8.le_iff_toNat_le]
    omega
  simp [hne, hgt]

/-- The first byte of a value, which is never white space or a closing bracket. -/
structure FrontByte (b : UInt8) : Prop where
  dense : isSpace b = false
  bracket : b ≠ 0x5d
  brace : b ≠ 0x7d

theorem frontByte_of_digit {b : UInt8} (h : digit b = true) : FrontByte b where
  dense := not_isSpace_of_digit h
  bracket := by
    rintro rfl
    cases h
  brace := by
    rintro rfl
    cases h

/-- A number begins with a byte that no other value begins with. -/
theorem number_front {s rest : Bytes} (h : Number s rest) :
    ∃ b t, s = b :: t ∧ FrontByte b ∧ b ≠ quote ∧ b ≠ openBrace ∧ b ≠ ascii '[' ∧ b ≠ ascii 't' ∧
      b ≠ ascii 'f' ∧ b ≠ ascii 'n' := by
  have hdigit : ∀ b, digit b = true → b ≠ quote ∧ b ≠ openBrace ∧ b ≠ ascii '[' ∧ b ≠ ascii 't' ∧
      b ≠ ascii 'f' ∧ b ≠ ascii 'n' := by
    intro b hb
    refine ⟨?_, ?_, ?_, ?_, ?_, ?_⟩ <;> rintro rfl <;> cases hb
  obtain ⟨t, u, v, hsign, hinteger, -, -⟩ := h.parts
  cases hsign with
  | minus => exact ⟨_, _, rfl, ⟨by decide, by decide, by decide⟩, by decide⟩
  | none =>
    cases hinteger with
    | zero => exact ⟨_, _, rfl, ⟨by decide, by decide, by decide⟩, by decide⟩
    | digits hb _ _ => exact ⟨_, _, rfl, frontByte_of_digit hb, hdigit _ hb⟩

theorem literal_cases {l : Bytes} (h : l ∈ literals) :
    l = text "true" ∨ l = text "false" ∨ l = text "null" := by
  have hall : literals = [text "true", text "false", text "null"] := by decide
  rw [hall] at h
  simpa using h

theorem value_front {sp : UInt8 → Bool} {phrase : Phrase} {d : ℕ} {s rest : Bytes}
    (h : Derives sp phrase d s rest) (hphrase : phrase ≠ .members) :
    ∃ b t, s = b :: t ∧ FrontByte b := by
  induction h with
  | string _ => exact ⟨_, _, rfl, by decide, by decide, by decide⟩
  | number h =>
    obtain ⟨b, t, hs, hb, -⟩ := number_front h
    exact ⟨b, t, hs, hb⟩
  | @literal _ l rest h =>
    rcases literal_cases h with rfl | rfl | rfl
    all_goals exact ⟨_, _, rfl, by decide, by decide, by decide⟩
  | emptyArray _ => exact ⟨_, _, rfl, by decide, by decide, by decide⟩
  | array _ _ _ => exact ⟨_, _, rfl, by decide, by decide, by decide⟩
  | emptyObject _ => exact ⟨_, _, rfl, by decide, by decide, by decide⟩
  | object _ _ _ => exact ⟨_, _, rfl, by decide, by decide, by decide⟩
  | lastElement _ _ ih => exact ih (by decide)
  | nextElement _ _ _ _ ih _ => exact ih (by decide)
  | lastMember => exact absurd rfl hphrase
  | nextMember => exact absurd rfl hphrase

theorem members_front {sp : UInt8 → Bool} {d : ℕ} {s rest : Bytes}
    (h : Derives sp .members d s rest) : ∃ t, s = quote :: t := by
  cases h with
  | lastMember => exact ⟨_, rfl⟩
  | nextMember => exact ⟨_, rfl⟩

/-- What closes or separates items ends a number, with or without white space before it. -/
theorem endsNumber_of_span {sp : UInt8 → Bool} (hsp : ∀ b, sp b = true → isSpace b = true) {c : UInt8}
    (hc : c = 0x5d ∨ c = 0x7d ∨ c = 0x2c) {s rest : Bytes} (h : Span sp s (c :: rest)) :
    EndsNumber s := by
  obtain ⟨w, rfl, hw⟩ := h
  intro b hb
  cases w with
  | nil =>
    cases hb
    rcases hc with rfl | rfl | rfl <;> decide
  | cons b' w =>
    cases hb
    have hspace := hsp b (hw b List.mem_cons_self)
    refine ⟨?_, ?_, ?_, ?_⟩
    · cases hdigit : digit b with
      | false => rfl
      | true =>
        rw [not_isSpace_of_digit hdigit] at hspace
        cases hspace
    all_goals
      rintro rfl
      exact absurd hspace (by decide)

/-! ### One phrase after the other -/

/-- What the scanners do with a phrase. -/
def Passed : Phrase → ℕ → Bytes → Bytes → Prop
  | .value, d, s, rest => EndsNumber rest → skipValue d s = some rest
  | .elements, d, s, rest =>
    ∀ turns, s.length ≤ turns → skipItems (skipValue d) (ascii ']') turns s = some rest
  | .members, d, s, rest =>
    ∀ turns, s.length ≤ turns → skipItems (skipMember (skipValue d)) closeBrace turns s = some rest

section Passing

variable {sp : UInt8 → Bool} (hsp : ∀ b, sp b = true → isSpace b = true)

include hsp

/-- The last item of a bracket. -/
theorem skipItems_last {skipItem : Bytes → Option Bytes} {close : UInt8} {turns : ℕ}
    {s t rest : Bytes} (hitem : skipItem s = some t) (hclose : Span sp t (close :: rest))
    (hdense : isSpace close = false) : skipItems skipItem close (turns + 1) s = some rest := by
  rw [skipItems, hitem, Option.map_some, skipWs_of_span hsp hclose (dense_cons hdense _)]
  simp only [if_true]

/-- An item that another one follows. -/
theorem skipItems_next {skipItem : Bytes → Option Bytes} {close : UInt8} {turns : ℕ}
    {s t u v : Bytes} (hitem : skipItem s = some t) (hcomma : Span sp t (0x2c :: u))
    (hgap : Span sp u v) (hv : Dense v) (hclose : close ≠ 0x2c) :
    skipItems skipItem close (turns + 1) s = skipItems skipItem close turns v := by
  have hcomma' : (0x2c : UInt8) ≠ close := hclose.symm
  have hplain : ¬(0x2c : UInt8) ≠ ascii ',' := by decide
  rw [skipItems, hitem, Option.map_some, skipWs_of_span hsp hcomma (dense_cons (by decide) _)]
  simp only [if_neg hcomma', if_neg hplain]
  rw [skipWs_of_span hsp hgap hv]

theorem memberKey_quoted {pieces : List Piece} (hkey : ∀ piece ∈ pieces, piece.Valid)
    {s t u : Bytes} (hcolon : Span sp s (0x3a :: t)) (hgap : Span sp t u) (hu : Dense u) :
    memberKey (quoted pieces s) = some (pieces.map pieceByte, u) :=
  memberKey_eq_some.mpr ⟨pieces, s, t, hkey, rfl, rfl,
    skipWs_of_span hsp hcolon (dense_cons (by decide) _), (skipWs_of_span hsp hgap hu).symm⟩

theorem skipMember_quoted {pieces : List Piece} (hkey : ∀ piece ∈ pieces, piece.Valid) {d : ℕ}
    {s t u v : Bytes} (hcolon : Span sp s (0x3a :: t)) (hgap : Span sp t u) (hu : Dense u)
    (hvalue : skipValue d u = some v) : skipMember (skipValue d) (quoted pieces s) = some v :=
  Option.bind_eq_some_iff.mpr ⟨_, memberKey_quoted hsp hkey hcolon hgap hu, hvalue⟩

theorem skipBracketed_empty {skipItem : Bytes → Option Bytes} {start close : UInt8}
    (hdense : isSpace close = false) {s rest : Bytes} (h : Span sp s (close :: rest)) :
    skipBracketed skipItem start close (start :: s) = some rest := by
  refine Option.bind_eq_some_iff.mpr ⟨s, expect_cons_self _ _, ?_⟩
  simp only [skipWs_of_span hsp h (dense_cons hdense _), expect_cons_self]

theorem skipBracketed_items {skipItem : Bytes → Option Bytes} {start close b : UInt8}
    {s t : Bytes} (hgap : Span sp s (b :: t)) (hb : isSpace b = false) (hne : b ≠ close) :
    ∃ turns, (b :: t).length ≤ turns ∧
      skipBracketed skipItem start close (start :: s) = skipItems skipItem close turns (b :: t) := by
  have hnone : expect close (b :: t) = none := by
    rw [expect, if_neg hne]
  refine ⟨(start :: s).length, Nat.le_succ_of_le hgap.suffix.length_le, ?_⟩
  unfold skipBracketed
  rw [expect_cons_self]
  simp only [Option.bind_eq_bind, Option.bind_some, skipWs_of_span hsp hgap (dense_cons hb _), hnone]

/-- **A phrase is passed**, with the levels of its derivation. -/
theorem derives_passed {phrase : Phrase} {d : ℕ} {s rest : Bytes} (h : Derives sp phrase d s rest) :
    Passed phrase d s rest := by
  induction h with
  | @string d pieces rest h =>
    intro _
    have hself : skipWs (quoted pieces rest) = quoted pieces rest :=
      skipWs_eq_self (dense_cons (by decide) _)
    rw [skipValue, hself]
    show (parseString (quoted pieces rest)).map Prod.snd = some rest
    rw [parseString_eq_some.mpr ⟨pieces, h, rfl, rfl⟩]
    rfl
  | @number d s rest h =>
    intro hrest
    obtain ⟨b, t, rfl, hfront, h₁, h₂, h₃, h₄, h₅, h₆⟩ := number_front h
    rw [skipValue, skipWs_eq_self (dense_cons hfront.dense _)]
    simp only [if_neg h₁, if_neg h₂, if_neg h₃, if_neg h₄, if_neg h₅, if_neg h₆]
    exact skipNumber_complete h hrest
  | @literal d l rest h =>
    intro _
    have hpass : skipLiteral l (l ++ rest) = some rest := skipLiteral_eq_some.mpr rfl
    rcases literal_cases h with rfl | rfl | rfl
    all_goals exact hpass
  | @emptyArray d s rest h =>
    intro _
    rw [skipValue, skipWs_eq_self (dense_cons (by decide) _)]
    exact skipBracketed_empty hsp (by decide) h
  | @array d s t rest hgap h ih =>
    intro _
    obtain ⟨b, t', rfl, hfront⟩ := value_front h (by simp)
    rw [skipValue, skipWs_eq_self (dense_cons (by decide) _)]
    obtain ⟨turns, hturns, hitems⟩ := skipBracketed_items hsp hgap hfront.dense hfront.bracket
    exact hitems.trans (ih turns hturns)
  | @emptyObject d s rest h =>
    intro _
    rw [skipValue, skipWs_eq_self (dense_cons (by decide) _)]
    exact skipBracketed_empty hsp (by decide) h
  | @object d s t rest hgap h ih =>
    intro _
    obtain ⟨t', rfl⟩ := members_front h
    rw [skipValue, skipWs_eq_self (dense_cons (by decide) _)]
    obtain ⟨turns, hturns, hitems⟩ := skipBracketed_items hsp hgap (by decide)
      (show quote ≠ closeBrace by decide)
    exact hitems.trans (ih turns hturns)
  | @lastElement d s t rest hvalue hclose ih =>
    intro turns hturns
    obtain ⟨b, s', rfl, -⟩ := value_front hvalue (by simp)
    cases turns with
    | zero => cases hturns
    | succ turns =>
      exact skipItems_last hsp (ih (endsNumber_of_span hsp (.inl rfl) hclose)) hclose (by decide)
  | @nextElement d s t u v rest hvalue hcomma hgap h ih ih' =>
    intro turns hturns
    obtain ⟨b, v', rfl, hfront⟩ := value_front h (by simp)
    have h₁ := hvalue.printed.suffix.length_le
    have h₂ := hcomma.suffix.length_le
    have h₃ := hgap.suffix.length_le
    rw [List.length_cons] at h₂
    cases turns with
    | zero => omega
    | succ turns =>
      rw [skipItems_next hsp (ih (endsNumber_of_span hsp (.inr (.inr rfl)) hcomma)) hcomma hgap
        (dense_cons hfront.dense _) (by decide)]
      exact ih' turns (by omega)
  | @lastMember d pieces s t u v rest hkey hcolon hgap hvalue hclose ih =>
    intro turns hturns
    obtain ⟨b, u', rfl, hfront⟩ := value_front hvalue (by simp)
    cases turns with
    | zero => cases hturns
    | succ turns =>
      exact skipItems_last hsp (skipMember_quoted hsp hkey hcolon hgap (dense_cons hfront.dense _)
        (ih (endsNumber_of_span hsp (.inr (.inl rfl)) hclose))) hclose (by decide)
  | @nextMember d pieces s t u v w x rest hkey hcolon hgap hvalue hcomma hgap' h ih ih' =>
    intro turns hturns
    obtain ⟨b, u', rfl, hfront⟩ := value_front hvalue (by simp)
    obtain ⟨x', rfl⟩ := members_front h
    have hx : Dense (quote :: x') := dense_cons (by decide) _
    have h₀ := (quoted_printed sp hkey s).suffix.length_le
    have h₁ := hcolon.suffix.length_le
    have h₂ := hgap.suffix.length_le
    have h₃ := hvalue.printed.suffix.length_le
    have h₄ := hcomma.suffix.length_le
    have h₅ := hgap'.suffix.length_le
    rw [List.length_cons] at h₁ h₄
    cases turns with
    | zero => cases hturns
    | succ turns =>
      rw [skipItems_next hsp (skipMember_quoted hsp hkey hcolon hgap (dense_cons hfront.dense _)
        (ih (endsNumber_of_span hsp (.inr (.inr rfl)) hcomma))) hcomma hgap' hx (by decide)]
      exact ih' turns (by omega)

end Passing

/-! ### Levels -/

theorem skipItems_mono {f g : Bytes → Option Bytes} (hfg : ∀ s rest, f s = some rest → g s = some rest)
    {close : UInt8} (turns : ℕ) :
    ∀ s rest, skipItems f close turns s = some rest → skipItems g close turns s = some rest := by
  induction turns with
  | zero =>
    intro s rest h
    cases h
  | succ turns ih =>
    intro s rest h
    obtain ⟨t, hitem, hnext⟩ := skipItems_succ_eq_some h
    rw [skipItems, hfg s t hitem, Option.map_some]
    rw [skipItems, hitem, Option.map_some] at h
    rcases hnext with hclose | ⟨u, hcomma, hrest⟩
    · rw [hclose] at h ⊢
      simp only [if_true]
    · rw [hcomma] at h ⊢
      simp only at h ⊢
      by_cases hclose : (0x2c : UInt8) = close
      · rw [if_pos hclose] at h ⊢
        exact h
      · rw [if_neg hclose] at h ⊢
        exact ih _ _ hrest

theorem skipBracketed_mono {f g : Bytes → Option Bytes}
    (hfg : ∀ s rest, f s = some rest → g s = some rest) {start close : UInt8} {s rest : Bytes}
    (h : skipBracketed f start close s = some rest) : skipBracketed g start close s = some rest := by
  obtain ⟨t, hstart, h⟩ := Option.bind_eq_some_iff.mp h
  refine Option.bind_eq_some_iff.mpr ⟨t, hstart, ?_⟩
  simp only at h ⊢
  cases hclose : expect close (skipWs t) with
  | some empty =>
    rw [hclose] at h
    exact h
  | none =>
    rw [hclose] at h
    exact skipItems_mono hfg _ _ _ h

theorem skipValue_succ {levels : ℕ} :
    ∀ s rest, skipValue levels s = some rest → skipValue (levels + 1) s = some rest := by
  induction levels with
  | zero =>
    intro s rest h
    cases h
  | succ levels ih =>
    intro s rest h
    have hmember : ∀ s rest, skipMember (skipValue levels) s = some rest →
        skipMember (skipValue (levels + 1)) s = some rest := by
      intro s rest h
      obtain ⟨member, hkey, hvalue⟩ := Option.bind_eq_some_iff.mp h
      exact Option.bind_eq_some_iff.mpr ⟨member, hkey, ih _ _ hvalue⟩
    rw [skipValue] at h ⊢
    cases hws : skipWs s with
    | nil =>
      rw [hws] at h
      exact h
    | cons b t =>
      rw [hws] at h
      simp only at h ⊢
      by_cases hquote : b = quote
      · rw [if_pos hquote] at h ⊢
        exact h
      rw [if_neg hquote] at h ⊢
      by_cases hobject : b = openBrace
      · rw [if_pos hobject] at h ⊢
        exact skipBracketed_mono hmember h
      rw [if_neg hobject] at h ⊢
      by_cases harray : b = ascii '['
      · rw [if_pos harray] at h ⊢
        exact skipBracketed_mono ih h
      · rw [if_neg harray] at h ⊢
        exact h

theorem skipValue_mono {levels more : ℕ} (hle : levels ≤ more) {s rest : Bytes}
    (h : skipValue levels s = some rest) : skipValue more s = some rest := by
  induction hle with
  | refl => exact h
  | step _ ih => exact skipValue_succ _ _ ih

/-! ### Values of the standard -/

theorem isSpace_of_jsonSpace (b : UInt8) (h : jsonSpace b = true) : isSpace b = true := by
  unfold jsonSpace at h
  simp only [Bool.or_eq_true, beq_iff_eq] at h
  rcases h with ((rfl | rfl) | rfl) | rfl <;> decide

theorem jsonSpace_of_printed {b : UInt8} (hspace : isSpace b = true)
    (hprinted : jsonSpace b = true ∨ 0x20 ≤ b) : jsonSpace b = true := by
  rcases hprinted with h | h
  · exact h
  · unfold isSpace at hspace
    simp only [Bool.or_eq_true, Bool.and_eq_true, beq_iff_eq, decide_eq_true_eq] at hspace
    rcases hspace with rfl | ⟨_, hle⟩
    · decide
    · rw [UInt8.le_iff_toNat_le] at h hle
      have h20 : (0x20 : UInt8).toNat = 32 := rfl
      have h0d : (0x0d : UInt8).toNat = 13 := rfl
      omega

/-- A value is passed if the levels suffice. -/
theorem skipValue_of_derives {levels : ℕ} {value rest : Bytes}
    (h : Derives jsonSpace .value levels value []) (hrest : EndsNumber rest) :
    skipValue levels (value ++ rest) = some rest :=
  derives_passed isSpace_of_jsonSpace (h.append rest) hrest

/-- If a value is passed then the levels suffice, and the scanner stops right behind it. -/
theorem derives_of_skipValue {d levels : ℕ} {value rest found : Bytes}
    (h : Derives jsonSpace .value d value []) (hrest : EndsNumber rest)
    (hskip : skipValue levels (value ++ rest) = some found) :
    found = rest ∧ Derives jsonSpace .value levels value [] := by
  have hlevels : found = rest := by
    have hmore := skipValue_mono (Nat.le_max_right d levels) hskip
    have hexact := skipValue_of_derives (h.deeper (Nat.le_max_left d levels)) hrest
    exact Option.some.inj (hmore.symm.trans hexact)
  subst hlevels
  refine ⟨rfl, ?_⟩
  obtain ⟨b, v, rfl, hfront⟩ := value_front h (by decide)
  obtain ⟨s, hlead, hderives⟩ := skipValue_sound levels _ _ hskip
  have hs : s = b :: v ++ found := by
    obtain ⟨w, hw, hspace⟩ := hlead
    cases w with
    | nil => exact hw.symm
    | cons c w =>
      obtain ⟨rfl, -⟩ := List.cons.inj hw
      have hb := hspace b List.mem_cons_self
      rw [hfront.dense] at hb
      cases hb
  rw [hs] at hderives
  obtain ⟨t, ht, hexact⟩ := hderives.exact
  obtain rfl : b :: v = t := List.append_cancel_right ht
  refine hexact.respace fun c hc hspace => jsonSpace_of_printed hspace ?_
  obtain ⟨w, hw, hprinted⟩ := h.printed
  rw [List.append_nil] at hw
  exact hprinted c (hw ▸ hc)

end NetworkService.Ipc
