import NetworkService.Ipc.BusinessDispatch
import NetworkService.Ipc.Decoding
import NetworkService.Ipc.ScanningExact
import NetworkService.Library.JsonMeaning

/-!
# The dispatcher's reader and the grammar of JSON

`JsonReader` is a second reader of the same texts.  It decodes the code points of a string, so it
fails on an escape that is half a surrogate pair, in whatever string that stands; apart from this it
passes every phrase of the grammar that its levels reach, and `find_member` finds the only member of
a name.
-/

namespace NetworkService.Ipc.JsonReader

open Json

/-! ### Strings -/

theorem hexValue_eq (b : UInt8) : hexValue b = Json.hexValue b := by
  have hsub : ∀ k : UInt8, k ≤ b → (b - k).toNat = b.toNat - k.toNat := fun k hk =>
    UInt8.toNat_sub_of_le b k hk
  unfold hexValue Json.hexValue
  change (if 0x30 ≤ b ∧ b ≤ 0x39 then _ else if 0x61 ≤ b ∧ b ≤ 0x66 then _
    else if 0x41 ≤ b ∧ b ≤ 0x46 then _ else _) = _
  split
  next h => exact congrArg some (hsub 0x30 h.1)
  split
  next h => exact congrArg some (congrArg (· + 10) (hsub 0x61 h.1))
  split
  next h => exact congrArg some (congrArg (· + 10) (hsub 0x41 h.1))
  rfl

theorem hexValue_lt {b : UInt8} {v : ℕ} (h : Json.hexValue b = some v) : v < 16 := by
  unfold Json.hexValue at h
  simp only [UInt8.le_iff_toNat_le] at h
  have h39 : (0x39 : UInt8).toNat = 57 := rfl
  have h66 : (0x66 : UInt8).toNat = 102 := rfl
  have h46 : (0x46 : UInt8).toNat = 70 := rfl
  split at h
  next => cases h; omega
  split at h
  next => cases h; omega
  split at h
  next => cases h; omega
  cases h

theorem parseHex4_eq {h₀ h₁ h₂ h₃ : UInt8} (h : (Piece.unicode h₀ h₁ h₂ h₃).Valid) :
    parseHex4 h₀ h₁ h₂ h₃ = some (Piece.unicode h₀ h₁ h₂ h₃).unit := by
  obtain ⟨hv₀, hv₁, hv₂, hv₃⟩ := h
  obtain ⟨v₀, hv₀⟩ := Option.isSome_iff_exists.mp hv₀
  obtain ⟨v₁, hv₁⟩ := Option.isSome_iff_exists.mp hv₁
  obtain ⟨v₂, hv₂⟩ := Option.isSome_iff_exists.mp hv₂
  obtain ⟨v₃, hv₃⟩ := Option.isSome_iff_exists.mp hv₃
  have hor : ∀ {x y : ℕ}, y < 16 → x <<< 4 ||| y = x * 16 + y := by
    intro x y hy
    rw [Nat.shiftLeft_eq]
    exact shift_or_eq_add 4 hy
  unfold parseHex4 Piece.unit
  simp only [hexValue_eq, hv₀, hv₁, hv₂, hv₃, Option.getD_some]
  show some (((v₀ <<< 4 ||| v₁) <<< 4 ||| v₂) <<< 4 ||| v₃) = _
  rw [hor (hexValue_lt hv₁), hor (hexValue_lt hv₂), hor (hexValue_lt hv₃)]

/-- **`append_utf8` pushes the UTF-8 of a scalar value.** -/
theorem appendUtf8_eq {scalar : ℕ} (h : scalar.isValidChar) :
    appendUtf8 scalar = some (scalarBytes scalar) := by
  have hmod : ∀ x : ℕ, x &&& 0x3f = x % 64 := fun x => Nat.and_two_pow_sub_one_eq_mod x 6
  have hor : ∀ {k y : ℕ} (n : ℕ), y < 2 ^ n → k * 2 ^ n ||| y = k * 2 ^ n + y := fun n hy =>
    shift_or_eq_add n hy
  have hlow : ∀ x : ℕ, 0x80 ||| x &&& 0x3f = x % 64 + 0x80 := by
    intro x
    rw [hmod]
    exact (hor (k := 2) 6 (Nat.mod_lt x (by decide))).trans (Nat.add_comm _ _)
  have hvalue : (Char.ofNat scalar).val.toNat = scalar := toNat_ofNat h
  unfold appendUtf8 scalarBytes String.utf8EncodeChar
  rw [hvalue, if_neg (by unfold Nat.isValidChar at h; omega)]
  simp only [hlow, Nat.shiftRight_eq_div_pow]
  split
  · rfl
  split
  next hle =>
    have hfirst : 0xc0 ||| scalar / 2 ^ 6 = scalar / 64 % 32 + 0xc0 := by
      refine (hor (k := 6) 5 (by omega)).trans ?_
      omega
    rw [hfirst]
  split
  next hle =>
    have hfirst : 0xe0 ||| scalar / 2 ^ 12 = scalar / 4096 % 16 + 0xe0 := by
      refine (hor (k := 14) 4 (by omega)).trans ?_
      omega
    rw [hfirst]
  next hle =>
    have hfirst : 0xf0 ||| scalar / 2 ^ 18 = scalar / 262144 % 8 + 0xf0 := by
      unfold Nat.isValidChar at h
      refine (hor (k := 30) 3 (by omega)).trans ?_
      omega
    rw [hfirst]

theorem appendUtf8_low {scalar : ℕ} (h : isLow scalar = true) : appendUtf8 scalar = none := by
  rw [isLow_iff] at h
  unfold appendUtf8
  rw [if_pos (.inr (by omega))]

theorem unit_lt {h₀ h₁ h₂ h₃ : UInt8} (h : (Piece.unicode h₀ h₁ h₂ h₃).Valid) :
    (Piece.unicode h₀ h₁ h₂ h₃).unit < 0x10000 := by
  obtain ⟨hv₀, hv₁, hv₂, hv₃⟩ := h
  obtain ⟨v₀, hv₀⟩ := Option.isSome_iff_exists.mp hv₀
  obtain ⟨v₁, hv₁⟩ := Option.isSome_iff_exists.mp hv₁
  obtain ⟨v₂, hv₂⟩ := Option.isSome_iff_exists.mp hv₂
  obtain ⟨v₃, hv₃⟩ := Option.isSome_iff_exists.mp hv₃
  have h₀ := hexValue_lt hv₀
  have h₁ := hexValue_lt hv₁
  have h₂ := hexValue_lt hv₂
  have h₃ := hexValue_lt hv₃
  unfold Piece.unit
  simp only [hv₀, hv₁, hv₂, hv₃, Option.getD_some]
  omega

theorem backslash_plain : backslash ≠ quote ∧ ¬backslash < 0x20 ∧ ¬backslash ≠ backslash := by
  decide

theorem body_quote (out rest : Bytes) : parseStringBody out (0x22 :: rest) = some (out, rest) := by
  delta parseStringBody
  exact if_pos rfl

theorem body_byte {b : UInt8} (h : (Piece.byte b).Valid) (out rest : Bytes) :
    parseStringBody out (b :: rest) = parseStringBody (out ++ [b]) rest := by
  obtain ⟨hcontrol, hquote, hplain⟩ := h
  delta parseStringBody
  exact (if_neg hquote).trans ((if_neg (UInt8.not_lt.mpr hcontrol)).trans (if_pos hplain))

theorem body_escape {e : UInt8} (h : (Piece.escape e).Valid) (out rest : Bytes) :
    parseStringBody out (0x5c :: e :: rest) =
      parseStringBody (out ++ [(escapeValue e).getD 0]) rest := by
  obtain ⟨c, hc⟩ := Option.isSome_iff_exists.mp h
  have hu : e ≠ ascii 'u' := escape_ne_unicode h
  show parseStringBody out (backslash :: e :: rest) = _
  delta parseStringBody
  simp only [if_neg backslash_plain.1, if_neg backslash_plain.2.1, if_neg backslash_plain.2.2,
    if_neg hu, simpleEscape_eq, hc, Option.getD_some]

/-- The code points outside the surrogates. -/
theorem body_unicode {h₀ h₁ h₂ h₃ : UInt8} (h : (Piece.unicode h₀ h₁ h₂ h₃).Valid)
    (hhigh : ¬isHigh (Piece.unicode h₀ h₁ h₂ h₃).unit = true)
    (hlow : ¬isLow (Piece.unicode h₀ h₁ h₂ h₃).unit = true) (out rest : Bytes) :
    parseStringBody out (0x5c :: 0x75 :: h₀ :: h₁ :: h₂ :: h₃ :: rest) =
      parseStringBody (out ++ scalarBytes (Piece.unicode h₀ h₁ h₂ h₃).unit) rest := by
  have hscalar := isValidChar_unit (unit_lt h) hhigh hlow
  rw [isHigh_iff] at hhigh
  show parseStringBody out (backslash :: ascii 'u' :: h₀ :: h₁ :: h₂ :: h₃ :: rest) = _
  delta parseStringBody
  simp only [if_neg backslash_plain.1, if_neg backslash_plain.2.1, if_neg backslash_plain.2.2,
    if_true, parseHex4_eq h, if_neg hhigh, appendUtf8_eq hscalar]

theorem body_low {h₀ h₁ h₂ h₃ : UInt8} (h : (Piece.unicode h₀ h₁ h₂ h₃).Valid)
    (hlow : isLow (Piece.unicode h₀ h₁ h₂ h₃).unit = true) (out rest : Bytes) :
    parseStringBody out (0x5c :: 0x75 :: h₀ :: h₁ :: h₂ :: h₃ :: rest) = none := by
  have hhigh : ¬(0xd800 ≤ (Piece.unicode h₀ h₁ h₂ h₃).unit ∧
      (Piece.unicode h₀ h₁ h₂ h₃).unit ≤ 0xdbff) := by
    rw [isLow_iff] at hlow
    omega
  show parseStringBody out (backslash :: ascii 'u' :: h₀ :: h₁ :: h₂ :: h₃ :: rest) = _
  delta parseStringBody
  simp only [if_neg backslash_plain.1, if_neg backslash_plain.2.1, if_neg backslash_plain.2.2,
    if_true, parseHex4_eq h, if_neg hhigh, appendUtf8_low hlow]

/-- A pair of surrogates. -/
theorem body_pair {h₀ h₁ h₂ h₃ l₀ l₁ l₂ l₃ : UInt8} (h : (Piece.unicode h₀ h₁ h₂ h₃).Valid)
    (l : (Piece.unicode l₀ l₁ l₂ l₃).Valid)
    (hhigh : isHigh (Piece.unicode h₀ h₁ h₂ h₃).unit = true)
    (hlow : isLow (Piece.unicode l₀ l₁ l₂ l₃).unit = true) (out rest : Bytes) :
    parseStringBody out (0x5c :: 0x75 :: h₀ :: h₁ :: h₂ :: h₃ ::
        0x5c :: 0x75 :: l₀ :: l₁ :: l₂ :: l₃ :: rest) =
      parseStringBody (out ++ scalarBytes (pairValue (Piece.unicode h₀ h₁ h₂ h₃).unit
        (Piece.unicode l₀ l₁ l₂ l₃).unit)) rest := by
  have hscalar := isValidChar_pair hhigh hlow
  rw [isHigh_iff] at hhigh
  rw [isLow_iff] at hlow
  have hsecond : ¬((Piece.unicode l₀ l₁ l₂ l₃).unit < 0xdc00 ∨
      0xdfff < (Piece.unicode l₀ l₁ l₂ l₃).unit) := by omega
  have hvalue : 0x10000 + ((Piece.unicode h₀ h₁ h₂ h₃).unit - 0xd800) <<< 10 +
      ((Piece.unicode l₀ l₁ l₂ l₃).unit - 0xdc00) =
        pairValue (Piece.unicode h₀ h₁ h₂ h₃).unit (Piece.unicode l₀ l₁ l₂ l₃).unit := by
    rw [Nat.shiftLeft_eq]
    rfl
  show parseStringBody out (backslash :: ascii 'u' :: h₀ :: h₁ :: h₂ :: h₃ ::
    backslash :: ascii 'u' :: l₀ :: l₁ :: l₂ :: l₃ :: rest) = _
  delta parseStringBody
  refine (if_neg backslash_plain.1).trans ((if_neg backslash_plain.2.1).trans
    ((if_neg backslash_plain.2.2).trans ((if_pos rfl).trans ?_)))
  -- one branch at a time: the arithmetic of the others is never evaluated
  with_reducible conv => lhs; whnf
  rw [parseHex4_eq h]
  with_reducible conv => lhs; whnf
  refine (if_pos hhigh).trans ((if_neg (by decide)).trans ?_)
  rw [parseHex4_eq l]
  with_reducible conv => lhs; whnf
  refine (if_neg hsecond).trans ?_
  rw [hvalue, appendUtf8_eq hscalar]

/-- A high surrogate that no low one follows. -/
theorem body_high {h₀ h₁ h₂ h₃ : UInt8} (h : (Piece.unicode h₀ h₁ h₂ h₃).Valid)
    (hhigh : isHigh (Piece.unicode h₀ h₁ h₂ h₃).unit = true) {rest : Bytes}
    (hrest : ∀ l₀ l₁ l₂ l₃ t, rest = 0x5c :: 0x75 :: l₀ :: l₁ :: l₂ :: l₃ :: t →
      (Piece.unicode l₀ l₁ l₂ l₃).Valid ∧ ¬isLow (Piece.unicode l₀ l₁ l₂ l₃).unit = true)
    (out : Bytes) :
    parseStringBody out (0x5c :: 0x75 :: h₀ :: h₁ :: h₂ :: h₃ :: rest) = none := by
  rw [isHigh_iff] at hhigh
  show parseStringBody out (backslash :: ascii 'u' :: h₀ :: h₁ :: h₂ :: h₃ :: rest) = _
  delta parseStringBody
  refine (if_neg backslash_plain.1).trans ((if_neg backslash_plain.2.1).trans
    ((if_neg backslash_plain.2.2).trans ((if_pos rfl).trans ?_)))
  with_reducible conv => lhs; whnf
  rw [parseHex4_eq h]
  with_reducible conv => lhs; whnf
  refine (if_pos hhigh).trans ?_
  rcases rest with _ | ⟨b, _ | ⟨u, _ | ⟨l₀, _ | ⟨l₁, _ | ⟨l₂, _ | ⟨l₃, t⟩⟩⟩⟩⟩⟩
  case cons.cons.cons.cons.cons.cons =>
    by_cases hescape : b ≠ backslash ∨ u ≠ ascii 'u'
    · exact if_pos hescape
    · obtain ⟨hb, hu⟩ := not_or.mp hescape
      obtain ⟨hl, hlow⟩ := hrest l₀ l₁ l₂ l₃ t
        (by rw [Decidable.not_not.mp hb, Decidable.not_not.mp hu]; rfl)
      rw [isLow_iff] at hlow
      refine (if_neg hescape).trans ?_
      rw [parseHex4_eq hl]
      with_reducible conv => lhs; whnf
      exact if_pos (by omega)
  all_goals rfl

/-- **A string is read as the bytes it denotes.** -/
theorem parseStringBody_eq {pieces : List Piece} (h : ∀ piece ∈ pieces, piece.Valid)
    (out rest : Bytes) :
    parseStringBody out (pieces.flatMap Piece.spell ++ 0x22 :: rest) =
      (stringBytes pieces).map fun read => (out ++ read, rest) := by
  -- what is read first stands before what is read later
  have hmap : ∀ (out read : Bytes) (later : Option Bytes),
      (later.map fun read' => (out ++ read ++ read', rest)) =
        (later.map (read ++ ·)).map fun read' => (out ++ read', rest) := by
    intro out read later
    cases later with
    | none => rfl
    | some read' => exact congrArg (fun x => some (x, rest)) (List.append_assoc out read read')
  fun_induction stringBytes pieces generalizing out with
  | case1 =>
    refine (body_quote out rest).trans ?_
    rw [Option.map_some, List.append_nil]
  | case2 b pieces ih =>
    obtain ⟨hb, hpieces⟩ := List.forall_mem_cons.mp h
    exact (body_byte hb out _).trans ((ih hpieces _).trans (hmap out [b] _))
  | case3 e pieces ih =>
    obtain ⟨he, hpieces⟩ := List.forall_mem_cons.mp h
    exact (body_escape he out _).trans ((ih hpieces _).trans (hmap out [_] _))
  | case4 h₀ h₁ h₂ h₃ first hhigh l₀ l₁ l₂ l₃ pieces second hlow ih =>
    obtain ⟨hfirst, hlater⟩ := List.forall_mem_cons.mp h
    obtain ⟨hsecond, hpieces⟩ := List.forall_mem_cons.mp hlater
    exact (body_pair hfirst hsecond hhigh hlow out _).trans ((ih hpieces _).trans (hmap out _ _))
  | case5 h₀ h₁ h₂ h₃ first hhigh l₀ l₁ l₂ l₃ pieces second hlow =>
    obtain ⟨hfirst, hlater⟩ := List.forall_mem_cons.mp h
    obtain ⟨hsecond, -⟩ := List.forall_mem_cons.mp hlater
    refine body_high hfirst hhigh (fun l₀' l₁' l₂' l₃' t heq => ?_) out
    cases heq
    exact ⟨hsecond, hlow⟩
  | case6 h₀ h₁ h₂ h₃ pieces first hhigh hnot =>
    obtain ⟨hfirst, hlater⟩ := List.forall_mem_cons.mp h
    refine body_high hfirst hhigh (fun l₀ l₁ l₂ l₃ t heq => ?_) out
    exact absurd heq (spell_ne_unicode hlater hnot rest _)
  | case7 h₀ h₁ h₂ h₃ pieces first hhigh hlow =>
    exact body_low (List.forall_mem_cons.mp h).1 hlow out _
  | case8 h₀ h₁ h₂ h₃ pieces first hhigh hlow ih =>
    obtain ⟨hfirst, hpieces⟩ := List.forall_mem_cons.mp h
    exact (body_unicode hfirst hhigh hlow out _).trans ((ih hpieces _).trans (hmap out _ _))

theorem parseString_quoted {pieces : List Piece} (h : ∀ piece ∈ pieces, piece.Valid) (rest : Bytes) :
    parseString (quoted pieces rest) = (stringBytes pieces).map fun read => (read, rest) :=
  parseStringBody_eq h [] rest

/-! ### Numbers -/

theorem skipInteger_complete {t u : Bytes} (h : Integer t u)
    (hu : ∀ b ∈ u.head?, digit b = false) : skipInteger t = some u := by
  cases h with
  | zero =>
    cases u with
    | nil => rfl
    | cons c u =>
      have hc : ¬isDigit c = true := by
        rw [isDigit_eq, hu c rfl]
        decide
      exact if_neg hc
  | @digits b s _ hb hne hspan =>
    have hzero : b ≠ ascii '0' := hne
    refine (if_neg hzero).trans ((if_pos ((isDigit_eq b).trans hb)).trans ?_)
    rw [skipDigits_of_span hspan hu]

theorem skipNumber_complete {s rest : Bytes} (h : Number s rest) (hrest : EndsNumber rest) :
    skipNumber s = some rest := by
  obtain ⟨t, u, v, hsign, hinteger, hfraction, hexponent⟩ := h.parts
  obtain ⟨hskip₃, hv⟩ := skipExponent_complete hexponent hrest
  obtain ⟨hskip₂, hu⟩ := skipFraction_complete hfraction hv
  unfold skipNumber
  rw [skipMinus_complete hsign hinteger, skipInteger_complete hinteger hu]
  show (skipFraction u).bind skipExponent = _
  rw [hskip₂]
  exact hskip₃

/-! ### One phrase after the other -/

/-- What the reader makes of a phrase between `s` and `rest`: it passes it, unless an escape in it is
half a pair. -/
inductive Outcome (s rest : Bytes) : Option Bytes → Prop
  | passed (h : pairedEscapes s = pairedEscapes rest) : Outcome s rest (some rest)
  | failed (h : pairedEscapes s = false) : Outcome s rest none

/-- Text before the phrase that holds no escape. -/
theorem Outcome.before {s t rest : Bytes} {read : Option Bytes}
    (hs : pairedEscapes s = pairedEscapes t) (h : Outcome t rest read) : Outcome s rest read := by
  cases h with
  | passed h => exact .passed (hs.trans h)
  | failed h => exact .failed (hs.trans h)

theorem Outcome.string {pieces : List Piece} (h : ∀ piece ∈ pieces, piece.Valid) (rest : Bytes) :
    Outcome (quoted pieces rest) rest ((parseString (quoted pieces rest)).map Prod.snd) := by
  have hpaired := pairedEscapes_quoted h rest
  rw [parseString_quoted h]
  cases hbytes : stringBytes pieces with
  | some read =>
    rw [hbytes, Option.isSome_some, Bool.true_and] at hpaired
    exact .passed hpaired
  | none =>
    rw [hbytes] at hpaired
    exact .failed hpaired

/-- What the reader makes of a phrase, whatever its turns. -/
def Scanned : Phrase → ℕ → Bytes → Bytes → Prop
  | .value, d, s, rest => EndsNumber rest → Outcome s rest (skipValue d s)
  | .elements, d, s, rest =>
    ∀ turns, s.length ≤ turns → Outcome s rest (skipItems (skipValue d) (ascii ']') turns s)
  | .members, d, s, rest =>
    ∀ turns, s.length ≤ turns →
      Outcome s rest (skipItems (skipMember (skipValue d)) closeBrace turns s)

section Scanning

variable {sp : UInt8 → Bool} (hsp : ∀ b, sp b = true → isSpace b = true)

include hsp

theorem paired_gap {s rest : Bytes} (h : Span sp s rest) : pairedEscapes s = pairedEscapes rest := by
  refine pairedEscapes_span ?_ h
  cases hslash : sp 0x5c with
  | false => rfl
  | true => exact absurd (hsp _ hslash) (by decide)

theorem paired_gap_mark {b : UInt8} (hb : b ≠ 0x5c) {s rest : Bytes} (h : Span sp s (b :: rest)) :
    pairedEscapes s = pairedEscapes rest := (paired_gap hsp h).trans (pairedEscapes_cons hb rest)

theorem Outcome.last {skipItem : Bytes → Option Bytes} {close : UInt8} {turns : ℕ} {s t rest : Bytes}
    (h : Outcome s t (skipItem s)) (hclose : Span sp t (close :: rest))
    (hdense : isSpace close = false) (hplain : close ≠ 0x5c) :
    Outcome s rest (skipItems skipItem close (turns + 1) s) := by
  generalize hread : skipItem s = read at h
  cases h with
  | passed h =>
    rw [skipItems_last hsp hread hclose hdense]
    exact .passed (h.trans (paired_gap_mark hsp hplain hclose))
  | failed h =>
    rw [skipItems, hread]
    exact .failed h

theorem Outcome.next {skipItem : Bytes → Option Bytes} {close : UInt8} {turns : ℕ}
    {s t u v rest : Bytes} (h : Outcome s t (skipItem s)) (hcomma : Span sp t (0x2c :: u))
    (hgap : Span sp u v) (hv : Dense v) (hclose : close ≠ 0x2c)
    (hlater : Outcome v rest (skipItems skipItem close turns v)) :
    Outcome s rest (skipItems skipItem close (turns + 1) s) := by
  generalize hread : skipItem s = read at h
  cases h with
  | passed h =>
    rw [skipItems_next hsp hread hcomma hgap hv hclose]
    exact hlater.before (h.trans ((paired_gap_mark hsp (by decide) hcomma).trans (paired_gap hsp hgap)))
  | failed h =>
    rw [skipItems, hread]
    exact .failed h

theorem memberKey_quoted {pieces : List Piece} (hkey : ∀ piece ∈ pieces, piece.Valid)
    {s t u : Bytes} (hcolon : Span sp s (0x3a :: t)) (hgap : Span sp t u) (hu : Dense u) :
    memberKey (quoted pieces s) = (stringBytes pieces).map fun read => (read, u) := by
  unfold memberKey
  rw [parseString_quoted hkey]
  cases stringBytes pieces with
  | none => rfl
  | some read =>
    show (expect (ascii ':') (skipWs s)).bind (fun rest => some (read, skipWs rest)) = some (read, u)
    rw [skipWs_of_span hsp hcolon (dense_cons (by decide) _)]
    show some (read, skipWs t) = _
    rw [skipWs_of_span hsp hgap hu]

theorem Outcome.member {pieces : List Piece} (hkey : ∀ piece ∈ pieces, piece.Valid) {d : ℕ}
    {s t u v : Bytes} (hcolon : Span sp s (0x3a :: t)) (hgap : Span sp t u) (hu : Dense u)
    (hvalue : Outcome u v (skipValue d u)) :
    Outcome (quoted pieces s) v (skipMember (skipValue d) (quoted pieces s)) := by
  have hpaired := pairedEscapes_quoted hkey s
  have hmember := memberKey_quoted hsp hkey hcolon hgap hu
  unfold skipMember
  rw [hmember]
  cases hbytes : stringBytes pieces with
  | none =>
    rw [hbytes] at hpaired
    exact .failed hpaired
  | some read =>
    rw [hbytes, Option.isSome_some, Bool.true_and] at hpaired
    exact hvalue.before
      (hpaired.trans ((paired_gap_mark hsp (by decide) hcolon).trans (paired_gap hsp hgap)))

theorem Outcome.bracketed {skipItem : Bytes → Option Bytes} {start close b : UInt8}
    (hstart : start ≠ 0x5c) {s t rest : Bytes} (hgap : Span sp s (b :: t)) (hb : isSpace b = false)
    (hne : b ≠ close)
    (h : ∀ turns, (b :: t).length ≤ turns →
      Outcome (b :: t) rest (skipItems skipItem close turns (b :: t))) :
    Outcome (start :: s) rest (skipBracketed skipItem start close (start :: s)) := by
  obtain ⟨turns, hturns, hitems⟩ := skipBracketed_items hsp hgap hb hne
  rw [hitems]
  exact (h turns hturns).before ((pairedEscapes_cons hstart s).trans (paired_gap hsp hgap))

theorem Outcome.bracketed_empty {skipItem : Bytes → Option Bytes} {start close : UInt8}
    (hstart : start ≠ 0x5c) (hdense : isSpace close = false) (hclose : close ≠ 0x5c)
    {s rest : Bytes} (h : Span sp s (close :: rest)) :
    Outcome (start :: s) rest (skipBracketed skipItem start close (start :: s)) := by
  rw [skipBracketed_empty hsp hdense h]
  exact .passed ((pairedEscapes_cons hstart s).trans (paired_gap_mark hsp hclose h))

/-- **A phrase is passed unless it holds half a pair**, with the levels of its derivation. -/
theorem derives_scanned {phrase : Phrase} {d : ℕ} {s rest : Bytes} (h : Derives sp phrase d s rest) :
    Scanned phrase d s rest := by
  induction h with
  | string h => exact fun _ => Outcome.string h _
  | @number d s rest h =>
    intro hrest
    obtain ⟨b, t, rfl, -, h₁, h₂, h₃, h₄, h₅, h₆⟩ := number_front h
    rw [skipValue]
    simp only [if_neg h₁, if_neg h₂, if_neg h₃, if_neg h₄, if_neg h₅, if_neg h₆]
    rw [skipNumber_complete h hrest]
    exact .passed h.paired
  | @literal d l rest h =>
    intro _
    have hpass : Outcome (l ++ rest) rest (skipLiteral l (l ++ rest)) := by
      rw [skipLiteral_eq_some.mpr rfl]
      exact .passed (literal_paired h rest)
    rcases literal_cases h with rfl | rfl | rfl
    all_goals exact hpass
  | emptyArray h => exact fun _ => Outcome.bracketed_empty hsp (by decide) (by decide) (by decide) h
  | array hgap h ih =>
    intro _
    obtain ⟨b, t', rfl, hfront⟩ := value_front h (by simp)
    exact Outcome.bracketed hsp (by decide) hgap hfront.dense hfront.bracket ih
  | emptyObject h => exact fun _ => Outcome.bracketed_empty hsp (by decide) (by decide) (by decide) h
  | object hgap h ih =>
    intro _
    obtain ⟨t', rfl⟩ := members_front h
    exact Outcome.bracketed hsp (by decide) hgap (by decide) (by decide) ih
  | @lastElement d s t rest hvalue hclose ih =>
    intro turns hturns
    obtain ⟨b, s', rfl, -⟩ := value_front hvalue (by simp)
    cases turns with
    | zero => cases hturns
    | succ turns =>
      exact Outcome.last hsp (ih (endsNumber_of_span hsp (.inl rfl) hclose)) hclose (by decide)
        (by decide)
  | @nextElement d s t u v rest hvalue hcomma hgap h ih ih' =>
    intro turns hturns
    obtain ⟨b, v', rfl, hfront⟩ := value_front h (by simp)
    have h₁ := hvalue.printed.suffix.length_le
    have h₂ := hcomma.suffix.length_le
    have h₃ := hgap.suffix.length_le
    rw [List.length_cons] at h₂
    cases turns with
    | zero => omega
    | succ turns =>
      exact Outcome.next hsp (ih (endsNumber_of_span hsp (.inr (.inr rfl)) hcomma)) hcomma hgap
        (dense_cons hfront.dense _) (by decide) (ih' turns (by omega))
  | @lastMember d pieces s t u v rest hkey hcolon hgap hvalue hclose ih =>
    intro turns hturns
    obtain ⟨b, u', rfl, hfront⟩ := value_front hvalue (by simp)
    cases turns with
    | zero => cases hturns
    | succ turns =>
      exact Outcome.last hsp (Outcome.member hsp hkey hcolon hgap (dense_cons hfront.dense _)
        (ih (endsNumber_of_span hsp (.inr (.inl rfl)) hclose))) hclose (by decide) (by decide)
  | @nextMember d pieces s t u v w x rest hkey hcolon hgap hvalue hcomma hgap' h ih ih' =>
    intro turns hturns
    obtain ⟨b, u', rfl, hfront⟩ := value_front hvalue (by simp)
    obtain ⟨x', rfl⟩ := members_front h
    have h₀ := (quoted_printed sp hkey s).suffix.length_le
    have h₁ := hcolon.suffix.length_le
    have h₂ := hgap.suffix.length_le
    have h₃ := hvalue.printed.suffix.length_le
    have h₄ := hcomma.suffix.length_le
    have h₅ := hgap'.suffix.length_le
    rw [List.length_cons] at h₁ h₄
    cases turns with
    | zero => cases hturns
    | succ turns =>
      exact Outcome.next hsp (Outcome.member hsp hkey hcolon hgap (dense_cons hfront.dense _)
        (ih (endsNumber_of_span hsp (.inr (.inr rfl)) hcomma))) hcomma hgap' (dense_cons (by decide) _)
        (by decide) (ih' turns (by omega))

end Scanning

/-! ### The members of a name -/

/-- The values of the members of a name. -/
def valuesOf (wanted : Bytes) (members : List Member) : List Bytes :=
  (named wanted members).map Member.value

/-- What the loop has found: nothing yet, the value of the only member, or one too many. -/
def onlyValue : List Bytes → Option (Option Bytes)
  | [] => some none
  | [value] => some (some value)
  | _ => none

theorem onlyValue_twice (v w : Bytes) (values : List Bytes) : onlyValue (v :: w :: values) = none := rfl

theorem valuesOf_cons_self {wanted : Bytes} {m : Member} (h : stringBytes m.key = some wanted)
    (members : List Member) : valuesOf wanted (m :: members) = m.value :: valuesOf wanted members := by
  unfold valuesOf
  rw [named_cons_self h, List.map_cons]

theorem valuesOf_cons_ne {wanted : Bytes} {m : Member} (h : stringBytes m.key ≠ some wanted)
    (members : List Member) : valuesOf wanted (m :: members) = valuesOf wanted members := by
  unfold valuesOf
  rw [named_cons_ne h]

/-- What the loop holds behind a member. -/
def foundAfter (wanted read : Bytes) (value : Bytes) (found : Option Bytes) : Option Bytes :=
  if read = wanted then some value else found

theorem onlyValue_member {wanted read : Bytes} {m : Member} (h : stringBytes m.key = some read)
    (found : Option Bytes) (members : List Member) :
    onlyValue (found.toList ++ valuesOf wanted (m :: members)) =
      if read = wanted ∧ found.isSome = true then none
      else onlyValue ((foundAfter wanted read m.value found).toList ++ valuesOf wanted members) := by
  unfold foundAfter
  by_cases hread : read = wanted
  · rw [valuesOf_cons_self (hread ▸ h), if_pos hread]
    cases found with
    | none => rw [if_neg (by simp)]; rfl
    | some f =>
      rw [if_pos ⟨hread, rfl⟩]
      exact onlyValue_twice f m.value _
  · have hne : stringBytes m.key ≠ some wanted := by
      rw [h]
      exact fun heq => hread (Option.some.inj heq)
    rw [valuesOf_cons_ne hne, if_neg hread, if_neg fun hboth => hread hboth.1]

/-- One turn of the loop, on a member that is read. -/
theorem findMembers_turn {s read value v : Bytes} (hmember : memberKey s = some (read, value ++ v))
    (hskip : skipValue (kMaxJsonDepth + 1) (value ++ v) = some v) (wanted : Bytes) (turns : ℕ)
    (found : Option Bytes) :
    findMembers wanted (turns + 1) found s =
      if read = wanted ∧ found.isSome = true then none
      else
        match skipWs v with
        | [] => none
        | b :: rest =>
          if b = closeBrace then some (foundAfter wanted read value found, rest)
          else if b ≠ ascii ',' then none
          else findMembers wanted turns (foundAfter wanted read value found) (skipWs rest) := by
  have htake : (value ++ v).take ((value ++ v).length - v.length) = value := by
    rw [List.length_append, Nat.add_sub_cancel, List.take_left]
  rw [findMembers, hmember]
  show (skipValue (kMaxJsonDepth + 1) (value ++ v)).bind _ = _
  rw [hskip]
  simp only [Option.bind_some, htake]
  rfl

section Members

variable {sp : UInt8 → Bool} (hsp : ∀ b, sp b = true → isSpace b = true)

include hsp

/-- One member in the loop: its key and its value are passed, or the loop fails. -/
theorem member_scanned {d : ℕ} (hd : d ≤ kMaxJsonDepth + 1) {m : Member} {s t v : Bytes}
    (hkey : ∀ piece ∈ m.key, piece.Valid) (hcolon : Span sp s (0x3a :: t))
    (hgap : Span sp t (m.value ++ v)) (hvalue : Derives sp .value d m.value []) (hv : EndsNumber v) :
    (∃ read, stringBytes m.key = some read ∧
      memberKey (quoted m.key s) = some (read, m.value ++ v) ∧
        skipValue (kMaxJsonDepth + 1) (m.value ++ v) = some v ∧
          pairedEscapes (quoted m.key s) = pairedEscapes v) ∨
      (pairedEscapes (quoted m.key s) = false ∧
        ∀ wanted turns found, findMembers wanted turns found (quoted m.key s) = none) := by
  have hderives : Derives sp .value (kMaxJsonDepth + 1) (m.value ++ v) v :=
    (hvalue.deeper hd).append v
  obtain ⟨b, u, hfront, hb⟩ := value_front hderives (by decide)
  have hmember := memberKey_quoted hsp hkey hcolon hgap (hfront ▸ dense_cons hb.dense u)
  have hpaired := pairedEscapes_quoted hkey s
  rw [(paired_gap_mark hsp (by decide) hcolon).trans (paired_gap hsp hgap)] at hpaired
  -- the loop stops at whatever it does not read
  have hfail : (memberKey (quoted m.key s)).bind
      (fun member => skipValue (kMaxJsonDepth + 1) member.2) = none →
        ∀ wanted turns found, findMembers wanted turns found (quoted m.key s) = none := by
    intro hnone wanted turns found
    cases turns with
    | zero => rfl
    | succ turns =>
      rw [findMembers]
      cases hread : memberKey (quoted m.key s) with
      | none => rfl
      | some member =>
        rw [hread, Option.bind_some] at hnone
        show (skipValue (kMaxJsonDepth + 1) member.2).bind _ = none
        rw [hnone]
        rfl
  cases hbytes : stringBytes m.key with
  | none =>
    rw [hbytes] at hmember hpaired
    exact .inr ⟨hpaired, hfail (by rw [hmember]; rfl)⟩
  | some read =>
    rw [hbytes, Option.isSome_some, Bool.true_and] at hpaired
    rw [hbytes, Option.map_some] at hmember
    generalize hskip : skipValue (kMaxJsonDepth + 1) (m.value ++ v) = passed
    have hscanned : Outcome (m.value ++ v) v passed := hskip ▸ derives_scanned hsp hderives hv
    cases hscanned with
    | passed h => exact .inl ⟨read, rfl, hmember, rfl, hpaired.trans h⟩
    | failed h => exact .inr ⟨hpaired.trans h, hfail (by rw [hmember]; exact hskip)⟩

/-- **The loop finds the only value of a name**, unless there is half a pair. -/
theorem findMembers_eq {d : ℕ} (hd : d ≤ kMaxJsonDepth + 1) {members : List Member} {s rest : Bytes}
    (h : MembersOf sp d members s rest) (hrest : pairedEscapes rest = true) (wanted : Bytes) :
    ∀ turns found, s.length ≤ turns →
      findMembers wanted turns found s =
        if pairedEscapes s then
          (onlyValue (found.toList ++ valuesOf wanted members)).map fun found => (found, rest)
        else none := by
  induction h with
  | @last m s t v rest hkey hcolon hgap hvalue hclose =>
    intro turns found hturns
    have hv := endsNumber_of_span hsp (.inr (.inl rfl)) hclose
    obtain ⟨b, s', hs⟩ : ∃ b s', quoted m.key s = b :: s' := ⟨_, _, rfl⟩
    rcases member_scanned hsp hd hkey hcolon hgap hvalue hv with
      ⟨read, hbytes, hmember, hskip, hpaired⟩ | ⟨hpaired, hfail⟩
    · cases turns with
      | zero => cases hturns
      | succ turns =>
        rw [if_pos (hpaired.trans ((paired_gap_mark hsp (by decide) hclose).trans hrest)),
          findMembers_turn hmember hskip, onlyValue_member hbytes]
        by_cases htwice : read = wanted ∧ found.isSome = true
        · rw [if_pos htwice, if_pos htwice]
          rfl
        · rw [if_neg htwice, if_neg htwice, skipWs_of_span hsp hclose (dense_cons (by decide) _)]
          cases foundAfter wanted read m.value found <;> rfl
    · rw [hfail, hpaired]
      rfl
  | @next m members s t v w x rest hkey hcolon hgap hvalue hcomma hgap' h ih =>
    intro turns found hturns
    have hv := endsNumber_of_span hsp (.inr (.inr rfl)) hcomma
    rcases member_scanned hsp hd hkey hcolon hgap hvalue hv with
      ⟨read, hbytes, hmember, hskip, hpaired⟩ | ⟨hpaired, hfail⟩
    · have h₀ := (quoted_printed sp hkey s).suffix.length_le
      have h₁ := hcolon.suffix.length_le
      have h₂ := hgap.suffix.length_le
      have h₃ := hcomma.suffix.length_le
      have h₄ := hgap'.suffix.length_le
      rw [List.length_cons] at h₁ h₃
      rw [List.length_append] at h₂
      obtain ⟨x', hx⟩ := members_front h.derives
      have hdense : Dense x := hx ▸ dense_cons (by decide) x'
      have hlater : pairedEscapes (quoted m.key s) = pairedEscapes x :=
        hpaired.trans ((paired_gap_mark hsp (by decide) hcomma).trans (paired_gap hsp hgap'))
      cases turns with
      | zero => cases hturns
      | succ turns =>
        rw [findMembers_turn hmember hskip, onlyValue_member hbytes, hlater]
        by_cases htwice : read = wanted ∧ found.isSome = true
        · rw [if_pos htwice, if_pos htwice, Option.map_none, ite_self]
        · rw [if_neg htwice, if_neg htwice, skipWs_of_span hsp hcomma (dense_cons (by decide) _)]
          show findMembers wanted turns _ (skipWs w) = _
          rw [skipWs_of_span hsp hgap' hdense]
          exact ih hrest turns _ (by omega)
    · rw [hfail, hpaired]
      rfl

/-- **The reader finds the value of the only member of a name**, in an object whose escapes are
paired. -/
theorem findMember_eq {d : ℕ} (hd : d ≤ kMaxJsonDepth + 1) {members : List Member} {payload : Bytes}
    (h : ObjectOf sp d members payload) (wanted : Bytes) :
    findMember payload wanted =
      if pairedEscapes payload then (onlyValue (valuesOf wanted members)).join else none := by
  unfold findMember
  cases h with
  | @empty _ s t hopen hclose hend =>
    rw [skipWs_of_span hsp hopen (dense_cons (by decide) _)]
    show (if (expect closeBrace (skipWs s)).isSome = true then none else _) = _
    rw [skipWs_of_span hsp hclose (dense_cons (by decide) _)]
    exact (if_pos rfl).trans (ite_self none).symm
  | @members _ _ s t u hopen hgap hmembers hend =>
    obtain ⟨t', ht⟩ := members_front hmembers.derives
    have hnone : expect closeBrace t = none := by
      rw [ht]
      rfl
    have hpaired : pairedEscapes payload = pairedEscapes t :=
      (paired_gap_mark hsp (by decide) hopen).trans (paired_gap hsp hgap)
    have hlength : t.length ≤ payload.length := by
      have h₁ := hopen.suffix.length_le
      have h₂ := hgap.suffix.length_le
      rw [List.length_cons] at h₁
      omega
    have hblank : skipWs u = [] := skipWs_of_span hsp hend (by rintro b ⟨⟩)
    rw [skipWs_of_span hsp hopen (dense_cons (by decide) _)]
    show (if (expect closeBrace (skipWs s)).isSome = true then none else
      (findMembers wanted payload.length none (skipWs s)).bind _) = _
    rw [skipWs_of_span hsp hgap (ht ▸ dense_cons (by decide) t'), hnone, if_neg (by decide),
      findMembers_eq hsp hd hmembers (paired_gap hsp hend) wanted _ _ hlength, hpaired]
    by_cases hall : pairedEscapes t = true
    · rw [if_pos hall, if_pos hall, Option.toList_none, List.nil_append]
      cases onlyValue (valuesOf wanted members) with
      | none => rfl
      | some found => exact if_pos hblank
    · rw [if_neg hall, if_neg hall]
      rfl

end Members

end NetworkService.Ipc.JsonReader
