import NetworkService.Ipc.RequestText
import NetworkService.Library.Json

/-!
# The session's scanners and the grammar of JSON

A scanner that passes a text has a phrase of the grammar behind it, with the white space that
`std::isspace` admits.  The other way round, a phrase is passed exactly, as far as the levels of the
scanner reach.
-/

namespace NetworkService.Ipc

open Json

/-! ### White space and single bytes -/

theorem skipWs_span (s : Bytes) : Span isSpace s (skipWs s) := by
  induction s with
  | nil => exact .refl _ _
  | cons b rest ih =>
    unfold skipWs
    by_cases hb : isSpace b = true
    · rw [if_pos hb]
      exact .cons hb ih
    · rw [if_neg hb]
      exact .refl _ _

/-- The text does not begin with white space. -/
def Dense (s : Bytes) : Prop := ∀ b ∈ s.head?, isSpace b = false

theorem skipWs_eq_self {s : Bytes} (h : Dense s) : skipWs s = s := by
  cases s with
  | nil => rfl
  | cons b rest =>
    unfold skipWs
    rw [h b rfl]
    rfl

/-- White space of the grammar is passed up to what does not begin with any. -/
theorem skipWs_of_span {sp : UInt8 → Bool} (hsp : ∀ b, sp b = true → isSpace b = true)
    {s rest : Bytes} (h : Span sp s rest) (hrest : Dense rest) : skipWs s = rest := by
  obtain ⟨w, rfl, hw⟩ := h
  induction w with
  | nil => exact skipWs_eq_self hrest
  | cons b w ih =>
    obtain ⟨hb, hw⟩ := List.forall_mem_cons.mp hw
    rw [List.cons_append]
    unfold skipWs
    rw [if_pos (hsp b hb)]
    exact ih hw

theorem expect_eq_some {b : UInt8} {s rest : Bytes} : expect b s = some rest ↔ s = b :: rest := by
  cases s with
  | nil => simp [expect]
  | cons c s =>
    simp only [expect]
    by_cases hc : c = b
    · rw [if_pos hc, hc]
      simp
    · rw [if_neg hc]
      simp [hc]

theorem expect_cons_self (b : UInt8) (rest : Bytes) : expect b (b :: rest) = some rest :=
  expect_eq_some.mpr rfl

/-! ### Strings -/

/-- The byte that `parse_string` reads for a piece: a code point is not decoded. -/
def pieceByte : Piece → UInt8
  | .byte b => b
  | .escape e => (escapeValue e).getD 0
  | .unicode _ _ _ _ => ascii '?'

theorem isHexDigit_eq (b : UInt8) : isHexDigit b = (hexValue b).isSome := by
  unfold isHexDigit isDigit hexValue
  change ((decide (0x30 ≤ b) && decide (b ≤ 0x39)) || (decide (0x61 ≤ b) && decide (b ≤ 0x66)) ||
    (decide (0x41 ≤ b) && decide (b ≤ 0x46))) = _
  by_cases h₁ : 0x30 ≤ b ∧ b ≤ 0x39
  · simp [h₁]
  by_cases h₂ : 0x61 ≤ b ∧ b ≤ 0x66
  · simp [h₁, h₂]
  by_cases h₃ : 0x41 ≤ b ∧ b ≤ 0x46
  · simp [h₁, h₂, h₃]
  · simp only [if_neg h₁, if_neg h₂, if_neg h₃, Option.isSome_none]
    simp only [← Bool.decide_and, h₁, h₂, h₃, decide_false, Bool.or_false]

theorem simpleEscape_eq (e : UInt8) : simpleEscape e = escapeValue e := rfl

/-- A string that is read is made of pieces. -/
theorem parseStringBody_sound {value s read rest : Bytes}
    (h : parseStringBody value s = some (read, rest)) :
    ∃ pieces : List Piece, (∀ piece ∈ pieces, piece.Valid) ∧
      s = pieces.flatMap Piece.spell ++ 0x22 :: rest ∧ read = value ++ pieces.map pieceByte := by
  fun_induction parseStringBody value s with
  | case1 => cases h
  | case2 value rest' =>
    cases h
    exact ⟨[], by simp, rfl, by simp⟩
  | case3 => cases h
  | case4 value b rest' hquote hcontrol hplain ih =>
    obtain ⟨pieces, hvalid, hs, hread⟩ := ih h
    refine ⟨.byte b :: pieces, List.forall_mem_cons.mpr ⟨⟨?_, hquote, hplain⟩, hvalid⟩, ?_, ?_⟩
    · exact UInt8.not_lt.mp hcontrol
    · rw [hs]
      rfl
    · rw [hread, List.append_assoc]
      rfl
  | case5 => cases h
  | case6 value b hquote hcontrol hescape h₀ h₁ h₂ h₃ rest' hhex ih =>
    obtain ⟨pieces, hvalid, hs, hread⟩ := ih h
    simp only [isHexDigit_eq, Bool.and_eq_true, and_assoc] at hhex
    refine ⟨.unicode h₀ h₁ h₂ h₃ :: pieces, List.forall_mem_cons.mpr ⟨hhex, hvalid⟩, ?_, ?_⟩
    · rw [hs, Decidable.not_not.mp hescape]
      rfl
    · rw [hread, List.append_assoc]
      rfl
  | case7 => cases h
  | case8 => cases h
  | case9 value b hquote hcontrol hescape escaped rest' hu c hc ih =>
    obtain ⟨pieces, hvalid, hs, hread⟩ := ih h
    rw [simpleEscape_eq] at hc
    refine ⟨.escape escaped :: pieces, List.forall_mem_cons.mpr ⟨?_, hvalid⟩, ?_, ?_⟩
    · show (escapeValue escaped).isSome = true
      rw [hc]
      rfl
    · rw [hs, Decidable.not_not.mp hescape]
      rfl
    · rw [hread, List.append_assoc]
      show value ++ ([c] ++ _) = value ++ ((escapeValue escaped).getD 0 :: _)
      rw [hc]
      rfl
  | case10 => cases h

/-- Pieces are read one by one. -/
theorem parseStringBody_complete {pieces : List Piece} (h : ∀ piece ∈ pieces, piece.Valid)
    (value rest : Bytes) :
    parseStringBody value (pieces.flatMap Piece.spell ++ 0x22 :: rest) =
      some (value ++ pieces.map pieceByte, rest) := by
  have hbackslash : backslash ≠ quote ∧ ¬backslash < 0x20 ∧ ¬backslash ≠ backslash := by decide
  induction pieces generalizing value with
  | nil =>
    rw [List.map_nil, List.append_nil]
    show parseStringBody value (quote :: rest) = _
    unfold parseStringBody
    simp only [if_true]
  | cons piece pieces ih =>
    obtain ⟨hpiece, hpieces⟩ := List.forall_mem_cons.mp h
    have hrest := ih hpieces (value ++ [pieceByte piece])
    rw [List.append_assoc] at hrest
    rw [List.flatMap_cons, List.append_assoc]
    generalize pieces.flatMap Piece.spell ++ 0x22 :: rest = text at hrest ⊢
    rw [List.map_cons]
    refine Eq.trans ?_ hrest
    cases piece with
    | byte b =>
      obtain ⟨hcontrol, hquote, hplain⟩ := hpiece
      have hquote' : b ≠ quote := hquote
      have hplain' : b ≠ backslash := hplain
      show parseStringBody value (b :: text) = parseStringBody (value ++ [b]) text
      rw [parseStringBody.eq_def]
      simp only [if_neg hquote', if_neg (UInt8.not_lt.mpr hcontrol), if_pos hplain']
    | escape e =>
      obtain ⟨c, hc⟩ := Option.isSome_iff_exists.mp hpiece
      have hu : e ≠ ascii 'u' := by
        rintro rfl
        cases hc
      show parseStringBody value (backslash :: e :: text) =
        parseStringBody (value ++ [(escapeValue e).getD 0]) text
      rw [parseStringBody.eq_def]
      simp only [if_neg hbackslash.1, if_neg hbackslash.2.1, if_neg hbackslash.2.2, if_neg hu,
        simpleEscape_eq, hc, Option.getD_some]
    | unicode h₀ h₁ h₂ h₃ =>
      obtain ⟨v₀, v₁, v₂, v₃⟩ := hpiece
      show parseStringBody value (backslash :: ascii 'u' :: h₀ :: h₁ :: h₂ :: h₃ :: text) =
        parseStringBody (value ++ [ascii '?']) text
      rw [parseStringBody.eq_def]
      simp only [if_neg hbackslash.1, if_neg hbackslash.2.1, if_neg hbackslash.2.2, isHexDigit_eq,
        v₀, v₁, v₂, v₃, Bool.and_true, if_true]

theorem parseString_eq_some {s read rest : Bytes} :
    parseString s = some (read, rest) ↔
      ∃ pieces : List Piece, (∀ piece ∈ pieces, piece.Valid) ∧ s = quoted pieces rest ∧
        read = pieces.map pieceByte := by
  unfold parseString
  constructor
  · intro h
    obtain ⟨body, hbody, hread⟩ := Option.bind_eq_some_iff.mp h
    obtain ⟨pieces, hvalid, hs, hmap⟩ := parseStringBody_sound hread
    refine ⟨pieces, hvalid, ?_, hmap⟩
    rw [expect_eq_some.mp hbody, hs]
    rfl
  · rintro ⟨pieces, hvalid, rfl, rfl⟩
    refine Option.bind_eq_some_iff.mpr ⟨_, expect_cons_self _ _, ?_⟩
    exact parseStringBody_complete hvalid [] rest

/-! ### Numbers -/

theorem isDigit_eq (b : UInt8) : isDigit b = digit b := rfl

theorem skipDigits_span (s : Bytes) : Span digit s (skipDigits s) := by
  induction s with
  | nil => exact .refl _ _
  | cons b rest ih =>
    unfold skipDigits
    by_cases hb : isDigit b = true
    · rw [if_pos hb]
      exact .cons hb ih
    · rw [if_neg hb]
      exact .refl _ _

theorem skipDigits_of_span {s rest : Bytes} (h : Span digit s rest)
    (hrest : ∀ b ∈ rest.head?, digit b = false) : skipDigits s = rest := by
  obtain ⟨w, rfl, hw⟩ := h
  induction w with
  | nil =>
    cases rest with
    | nil => rfl
    | cons b rest =>
      rw [List.nil_append, skipDigits, isDigit_eq, hrest b rfl]
      rfl
  | cons b w ih =>
    obtain ⟨hb, hw⟩ := List.forall_mem_cons.mp hw
    rw [List.cons_append, skipDigits, isDigit_eq, if_pos hb]
    exact ih hw

theorem skipDigits1_sound {s rest : Bytes} (h : skipDigits1 s = some rest) : Digits s rest := by
  cases s with
  | nil => cases h
  | cons b s =>
    rw [skipDigits1] at h
    by_cases hb : isDigit b = true
    · rw [if_pos hb] at h
      cases h
      exact .mk hb (skipDigits_span s)
    · rw [if_neg hb] at h
      cases h

theorem skipDigits1_complete {s rest : Bytes} (h : Digits s rest)
    (hrest : ∀ b ∈ rest.head?, digit b = false) : skipDigits1 s = some rest := by
  cases h with
  | mk hb h => rw [skipDigits1, isDigit_eq, if_pos hb, skipDigits_of_span h hrest]

theorem skipNumber_sound {s rest : Bytes} (h : skipNumber s = some rest) : Number s rest := by
  obtain ⟨u, hinteger, h⟩ := Option.bind_eq_some_iff.mp h
  obtain ⟨v, hfraction, hexponent⟩ := Option.bind_eq_some_iff.mp h
  refine ⟨skipMinus s, u, v, ?_, ?_, ?_, ?_⟩
  · cases s with
    | nil => exact .none
    | cons b s =>
      rw [skipMinus]
      by_cases hb : b = ascii '-'
      · rw [if_pos hb, hb]
        exact .minus
      · rw [if_neg hb]
        exact .none
  · generalize skipMinus s = t at hinteger ⊢
    cases t with
    | nil => cases hinteger
    | cons b t =>
      rw [skipInteger] at hinteger
      by_cases hzero : b = ascii '0'
      · rw [if_pos hzero] at hinteger
        cases hinteger
        rw [hzero]
        exact .zero
      · rw [if_neg hzero] at hinteger
        by_cases hout : b < ascii '1' ∨ ascii '9' < b
        · rw [if_pos hout] at hinteger
          cases hinteger
        · rw [if_neg hout] at hinteger
          cases hinteger
          refine .digits ?_ hzero (skipDigits_span t)
          change ¬(b < 0x31 ∨ 0x39 < b) at hout
          unfold digit
          rw [Bool.and_eq_true, decide_eq_true_eq, decide_eq_true_eq]
          rw [not_or, UInt8.not_lt, UInt8.not_lt] at hout
          exact ⟨UInt8.le_trans (by decide) hout.1, hout.2⟩
  · cases u with
    | nil =>
      cases hfraction
      exact .none
    | cons b u =>
      rw [skipFraction] at hfraction
      by_cases hb : b = ascii '.'
      · rw [if_pos hb] at hfraction
        rw [hb]
        exact .digits (skipDigits1_sound hfraction)
      · rw [if_neg hb] at hfraction
        cases hfraction
        exact .none
  · cases v with
    | nil =>
      cases hexponent
      exact .none
    | cons b v =>
      rw [skipExponent] at hexponent
      by_cases hb : b = ascii 'e' ∨ b = ascii 'E'
      · rw [if_pos hb] at hexponent
        refine .digits hb ?_ (skipDigits1_sound hexponent)
        cases v with
        | nil => exact .none
        | cons c v =>
          rw [skipSign]
          by_cases hc : c = ascii '+' ∨ c = ascii '-'
          · rw [if_pos hc]
            rcases hc with rfl | rfl
            · exact .plus
            · exact .minus
          · rw [if_neg hc]
            exact .none
      · rw [if_neg hb] at hexponent
        cases hexponent
        exact .none

/-- The exponent, and what it leaves to the fraction before it. -/
theorem skipExponent_complete {v rest : Bytes} (h : Exponent v rest) (hrest : EndsNumber rest) :
    skipExponent v = some rest ∧ ∀ b ∈ v.head?, digit b = false ∧ b ≠ 0x2e := by
  cases h with
  | none =>
    refine ⟨?_, fun b hb => ⟨(hrest b hb).1, (hrest b hb).2.1⟩⟩
    cases v with
    | nil => rfl
    | cons b v =>
      obtain ⟨_, _, he, hE⟩ := hrest b rfl
      rw [skipExponent, if_neg]
      rintro (h | h)
      · exact he h
      · exact hE h
  | @digits e s t _ he hsign hdigits =>
    refine ⟨?_, ?_⟩
    · have hskip : skipSign s = t := by
        cases hsign with
        | plus => rfl
        | minus => rfl
        | none =>
          cases hdigits with
          | @mk b _ _ hb _ =>
            rw [skipSign, if_neg]
            rintro (rfl | rfl)
            · cases hb
            · cases hb
      have he' : e = ascii 'e' ∨ e = ascii 'E' := he
      rw [skipExponent, if_pos he', hskip]
      exact skipDigits1_complete hdigits fun b hb => (hrest b hb).1
    · rintro b ⟨⟩
      rcases he with rfl | rfl <;> decide

/-- The fraction, and what it leaves to the integer before it. -/
theorem skipFraction_complete {u v : Bytes} (h : Fraction u v)
    (hv : ∀ b ∈ v.head?, digit b = false ∧ b ≠ 0x2e) :
    skipFraction u = some v ∧ ∀ b ∈ u.head?, digit b = false := by
  cases h with
  | none =>
    refine ⟨?_, fun b hb => (hv b hb).1⟩
    cases u with
    | nil => rfl
    | cons b u =>
      have hb : b ≠ ascii '.' := (hv b rfl).2
      rw [skipFraction, if_neg hb]
  | digits hdigits =>
    refine ⟨?_, ?_⟩
    · show skipDigits1 _ = some v
      exact skipDigits1_complete hdigits fun b hb => (hv b hb).1
    · rintro b ⟨⟩
      rfl

theorem skipInteger_complete {t u : Bytes} (h : Integer t u)
    (hu : ∀ b ∈ u.head?, digit b = false) : skipInteger t = some u := by
  cases h with
  | zero => rfl
  | @digits b s _ hb hne hspan =>
    have hin : ¬(b < ascii '1' ∨ ascii '9' < b) := by
      change ¬(b < 0x31 ∨ 0x39 < b)
      unfold digit at hb
      simp only [Bool.and_eq_true, decide_eq_true_eq, UInt8.le_iff_toNat_le,
        UInt8.lt_iff_toNat_lt] at hb ⊢
      have hne' : b.toNat ≠ 48 := fun h => hne (UInt8.toNat_inj.mp h)
      have h30 : (0x30 : UInt8).toNat = 48 := rfl
      have h31 : (0x31 : UInt8).toNat = 49 := rfl
      omega
    have hzero : b ≠ ascii '0' := hne
    rw [skipInteger, if_neg hzero, if_neg hin, skipDigits_of_span hspan hu]

theorem skipMinus_complete {s t u : Bytes} (hsign : Sign s t) (hinteger : Integer t u) :
    skipMinus s = t := by
  cases hsign with
  | minus => rfl
  | none =>
    cases hinteger with
    | zero => rfl
    | digits hb _ _ =>
      rw [skipMinus, if_neg]
      rintro rfl
      cases hb

theorem skipNumber_complete {s rest : Bytes} (h : Number s rest) (hrest : EndsNumber rest) :
    skipNumber s = some rest := by
  obtain ⟨t, u, v, hsign, hinteger, hfraction, hexponent⟩ := h.parts
  obtain ⟨hskip₃, hv⟩ := skipExponent_complete hexponent hrest
  obtain ⟨hskip₂, hu⟩ := skipFraction_complete hfraction hv
  unfold skipNumber
  rw [skipMinus_complete hsign hinteger, skipInteger_complete hinteger hu]
  show (skipFraction u).bind skipExponent = _
  rw [hskip₂]
  exact hskip₃

/-! ### Values -/

theorem skipLiteral_eq_some {literal s rest : Bytes} :
    skipLiteral literal s = some rest ↔ s = literal ++ rest := by
  unfold skipLiteral
  constructor
  · intro h
    split at h
    next hpre =>
      cases h
      obtain ⟨t, rfl⟩ := List.isPrefixOf_iff_prefix.mp hpre
      rw [List.drop_left]
    · cases h
  · rintro rfl
    rw [if_pos (List.isPrefixOf_iff_prefix.mpr (List.prefix_append literal rest)), List.drop_left]

/-- The key and the colon of a member, and where its value begins. -/
theorem memberKey_eq_some {s key value : Bytes} :
    memberKey s = some (key, value) ↔
      ∃ (pieces : List Piece) (t u : Bytes), (∀ piece ∈ pieces, piece.Valid) ∧ s = quoted pieces t ∧
        key = pieces.map pieceByte ∧ skipWs t = 0x3a :: u ∧ value = skipWs u := by
  unfold memberKey
  constructor
  · intro h
    obtain ⟨⟨read, t⟩, hstring, h⟩ := Option.bind_eq_some_iff.mp h
    obtain ⟨u, hcolon, h⟩ := Option.bind_eq_some_iff.mp h
    obtain ⟨pieces, hvalid, hs, hread⟩ := parseString_eq_some.mp hstring
    cases h
    exact ⟨pieces, t, u, hvalid, hs, hread, expect_eq_some.mp hcolon, rfl⟩
  · rintro ⟨pieces, t, u, hvalid, hs, rfl, hcolon, rfl⟩
    refine Option.bind_eq_some_iff.mpr
      ⟨(pieces.map pieceByte, t), parseString_eq_some.mpr ⟨pieces, hvalid, hs, rfl⟩, ?_⟩
    exact Option.bind_eq_some_iff.mpr ⟨u, expect_eq_some.mpr hcolon, rfl⟩

/-- A phrase of the grammar with the white space of the scanners before it. -/
def Reads (phrase : Phrase) (d : ℕ) (s rest : Bytes) : Prop :=
  ∃ t, Span isSpace s t ∧ Derives isSpace phrase d t rest

/-- One turn of the loop over the items of a bracket. -/
theorem skipItems_succ_eq_some {skipItem : Bytes → Option Bytes} {close : UInt8} {turns : ℕ}
    {s rest : Bytes} (h : skipItems skipItem close (turns + 1) s = some rest) :
    ∃ t, skipItem s = some t ∧ (skipWs t = close :: rest ∨
      ∃ u, skipWs t = 0x2c :: u ∧ skipItems skipItem close turns (skipWs u) = some rest) := by
  rw [skipItems] at h
  cases hitem : skipItem s with
  | none =>
    rw [hitem] at h
    cases h
  | some t =>
    rw [hitem, Option.map_some] at h
    refine ⟨t, rfl, ?_⟩
    cases hws : skipWs t with
    | nil =>
      rw [hws] at h
      cases h
    | cons b u =>
      rw [hws] at h
      simp only at h
      by_cases hclose : b = close
      · rw [if_pos hclose] at h
        cases h
        exact .inl (by rw [hclose])
      · rw [if_neg hclose] at h
        by_cases hcomma : b ≠ ascii ','
        · rw [if_pos hcomma] at h
          cases h
        · rw [if_neg hcomma] at h
          exact .inr ⟨u, by rw [Decidable.not_not.mp hcomma]; rfl, h⟩

theorem skipElements_sound {skipElement : Bytes → Option Bytes} {d : ℕ}
    (hitem : ∀ s rest, skipElement s = some rest → Reads .value d s rest) :
    ∀ (turns : ℕ) (s rest : Bytes), skipItems skipElement (ascii ']') turns s = some rest →
      Reads .elements d s rest := by
  intro turns
  induction turns with
  | zero =>
    intro s rest h
    cases h
  | succ turns ih =>
    intro s rest h
    obtain ⟨t, hvalue, hnext⟩ := skipItems_succ_eq_some h
    obtain ⟨s', hlead, hvalue⟩ := hitem s t hvalue
    have hgap := skipWs_span t
    rcases hnext with hclose | ⟨u, hcomma, hrest⟩
    · rw [hclose] at hgap
      exact ⟨s', hlead, .lastElement hvalue hgap⟩
    · rw [hcomma] at hgap
      obtain ⟨v, hlead', helements⟩ := ih _ _ hrest
      exact ⟨s', hlead, .nextElement hvalue hgap ((skipWs_span u).trans hlead') helements⟩

theorem skipMembers_sound {skipElement : Bytes → Option Bytes} {d : ℕ}
    (hitem : ∀ s rest, skipElement s = some rest → Reads .value d s rest) :
    ∀ (turns : ℕ) (s rest : Bytes),
      skipItems (skipMember skipElement) closeBrace turns s = some rest →
        Derives isSpace .members d s rest := by
  intro turns
  induction turns with
  | zero =>
    intro s rest h
    cases h
  | succ turns ih =>
    intro s rest h
    obtain ⟨t, hmember, hnext⟩ := skipItems_succ_eq_some h
    obtain ⟨⟨key, value⟩, hkey, hvalue⟩ := Option.bind_eq_some_iff.mp hmember
    obtain ⟨pieces, k, u, hvalid, rfl, -, hcolon, rfl⟩ := memberKey_eq_some.mp hkey
    obtain ⟨v, hlead, hvalue⟩ := hitem _ _ hvalue
    have hcolon' := skipWs_span k
    rw [hcolon] at hcolon'
    have hgap := skipWs_span t
    rcases hnext with hclose | ⟨w, hcomma, hrest⟩
    · rw [hclose] at hgap
      exact .lastMember hvalid hcolon' ((skipWs_span u).trans hlead) hvalue hgap
    · rw [hcomma] at hgap
      exact .nextMember hvalid hcolon' ((skipWs_span u).trans hlead) hvalue hgap (skipWs_span w)
        (ih _ _ hrest)

/-- An empty bracket, or one with items. -/
theorem skipBracketed_eq_some {skipItem : Bytes → Option Bytes} {start close : UInt8}
    {s rest : Bytes} (h : skipBracketed skipItem start close s = some rest) :
    ∃ t, s = start :: t ∧ (skipWs t = close :: rest ∨
      skipItems skipItem close s.length (skipWs t) = some rest) := by
  obtain ⟨t, hstart, h⟩ := Option.bind_eq_some_iff.mp h
  refine ⟨t, expect_eq_some.mp hstart, ?_⟩
  simp only at h
  cases hclose : expect close (skipWs t) with
  | some empty =>
    rw [hclose] at h
    cases h
    exact .inl (expect_eq_some.mp hclose)
  | none =>
    rw [hclose] at h
    exact .inr h

/-- **What the scanner passes is a value**, with the white space of the C library. -/
theorem skipValue_sound (levels : ℕ) :
    ∀ s rest, skipValue levels s = some rest → Reads .value levels s rest := by
  induction levels with
  | zero =>
    intro s rest h
    cases h
  | succ levels ih =>
    intro s rest h
    have hgap := skipWs_span s
    rw [skipValue] at h
    cases hws : skipWs s with
    | nil =>
      rw [hws] at h
      cases h
    | cons b t =>
      rw [hws] at h hgap
      simp only at h
      refine ⟨b :: t, hgap, ?_⟩
      by_cases hquote : b = quote
      · rw [if_pos hquote] at h
        obtain ⟨⟨read, _⟩, hstring, rfl⟩ := Option.map_eq_some_iff.mp h
        obtain ⟨pieces, hvalid, hs, -⟩ := parseString_eq_some.mp hstring
        rw [hs]
        exact .string hvalid
      rw [if_neg hquote] at h
      by_cases hobject : b = openBrace
      · rw [if_pos hobject] at h
        obtain ⟨u, hu, hclose | hmembers⟩ := skipBracketed_eq_some h
        · have hspan := skipWs_span u
          rw [hclose] at hspan
          rw [hu]
          exact .emptyObject hspan
        · rw [hu]
          exact .object (skipWs_span u) (skipMembers_sound ih _ _ _ hmembers)
      rw [if_neg hobject] at h
      by_cases harray : b = ascii '['
      · rw [if_pos harray] at h
        obtain ⟨u, hu, hclose | helements⟩ := skipBracketed_eq_some h
        · have hspan := skipWs_span u
          rw [hclose] at hspan
          rw [hu]
          exact .emptyArray hspan
        · obtain ⟨v, hlead, helements⟩ := skipElements_sound ih _ _ _ helements
          rw [hu]
          exact .array ((skipWs_span u).trans hlead) helements
      rw [if_neg harray] at h
      by_cases htrue : b = ascii 't'
      · rw [if_pos htrue] at h
        rw [skipLiteral_eq_some.mp h]
        exact .literal (by decide)
      rw [if_neg htrue] at h
      by_cases hfalse : b = ascii 'f'
      · rw [if_pos hfalse] at h
        rw [skipLiteral_eq_some.mp h]
        exact .literal (by decide)
      rw [if_neg hfalse] at h
      by_cases hnull : b = ascii 'n'
      · rw [if_pos hnull] at h
        rw [skipLiteral_eq_some.mp h]
        exact .literal (by decide)
      · rw [if_neg hnull] at h
        exact .number (skipNumber_sound h)

end NetworkService.Ipc
