import Mathlib.Data.List.Forall2
import NetworkService.Library.Json

/-!
# The meaning of JSON texts

A value of RFC 8259 whose strings are sequences of Unicode scalar values, and the texts that denote
it: with any white space, any order of members, any spelling of a number and of the characters of a
string.  A string by itself may hold half a surrogate pair, which denotes no character;
`pairedEscapes` looks for such halves in a whole text.
-/

namespace Json

/-! ### Characters -/

def utf8 (chars : List Char) : Text := chars.flatMap String.utf8EncodeChar

theorem utf8_inj {chars chars' : List Char} (h : utf8 chars = utf8 chars') : chars = chars' := by
  have hbytes : (String.ofList chars).toByteArray = (String.ofList chars').toByteArray := by
    rw [String.toByteArray_ofList, String.toByteArray_ofList]
    exact congrArg List.toByteArray h
  exact String.ofList_injective (String.toByteArray_inj.mp hbytes)

/-- A leading unit of a surrogate pair. -/
def isHigh (unit : ℕ) : Bool := 0xd800 ≤ unit && unit ≤ 0xdbff

def isLow (unit : ℕ) : Bool := 0xdc00 ≤ unit && unit ≤ 0xdfff

/-- The scalar value of a surrogate pair. -/
def pairValue (high low : ℕ) : ℕ := 0x10000 + (high - 0xd800) * 0x400 + (low - 0xdc00)

theorem isHigh_iff (unit : ℕ) : isHigh unit = true ↔ 0xd800 ≤ unit ∧ unit ≤ 0xdbff := by
  unfold isHigh
  rw [Bool.and_eq_true, decide_eq_true_iff, decide_eq_true_iff]

theorem isLow_iff (unit : ℕ) : isLow unit = true ↔ 0xdc00 ≤ unit ∧ unit ≤ 0xdfff := by
  unfold isLow
  rw [Bool.and_eq_true, decide_eq_true_iff, decide_eq_true_iff]

/-- A code unit outside the surrogates is a scalar value. -/
theorem isValidChar_unit {unit : ℕ} (hunit : unit < 0x10000) (hhigh : ¬isHigh unit = true)
    (hlow : ¬isLow unit = true) : unit.isValidChar := by
  rw [isHigh_iff] at hhigh
  rw [isLow_iff] at hlow
  unfold Nat.isValidChar
  omega

theorem isValidChar_pair {high low : ℕ} (hhigh : isHigh high = true) (hlow : isLow low = true) :
    (pairValue high low).isValidChar := by
  rw [isHigh_iff] at hhigh
  rw [isLow_iff] at hlow
  unfold Nat.isValidChar pairValue
  omega

/-- The pieces of a string that spell one character. -/
inductive SpellsChar : List Piece → Char → Prop
  | plain {c : Char} (hcontrol : 0x20 ≤ c.toNat) (hquote : c ≠ '"') (hescape : c ≠ '\\') :
      SpellsChar ((String.utf8EncodeChar c).map .byte) c
  | escape {e b : UInt8} (h : escapeValue e = some b) :
      SpellsChar [.escape e] (Char.ofNat b.toNat)
  | unicode {h₀ h₁ h₂ h₃ : UInt8} {c : Char} (hvalid : (Piece.unicode h₀ h₁ h₂ h₃).Valid)
      (hc : (Piece.unicode h₀ h₁ h₂ h₃).unit = c.toNat) : SpellsChar [.unicode h₀ h₁ h₂ h₃] c
  | pair {h₀ h₁ h₂ h₃ l₀ l₁ l₂ l₃ : UInt8} {c : Char}
      (hfirst : (Piece.unicode h₀ h₁ h₂ h₃).Valid) (hsecond : (Piece.unicode l₀ l₁ l₂ l₃).Valid)
      (hhigh : isHigh (Piece.unicode h₀ h₁ h₂ h₃).unit = true)
      (hlow : isLow (Piece.unicode l₀ l₁ l₂ l₃).unit = true)
      (hc : pairValue (Piece.unicode h₀ h₁ h₂ h₃).unit (Piece.unicode l₀ l₁ l₂ l₃).unit = c.toNat) :
      SpellsChar [.unicode h₀ h₁ h₂ h₃, .unicode l₀ l₁ l₂ l₃] c

/-- The pieces of a string that spell these characters. -/
inductive Spells : List Piece → List Char → Prop
  | nil : Spells [] []
  | cons {pieces rest : List Piece} {c : Char} {chars : List Char} (hc : SpellsChar pieces c)
      (h : Spells rest chars) : Spells (pieces ++ rest) (c :: chars)

/-! ### The bytes of a string -/

/-- The UTF-8 bytes of a scalar value. -/
def scalarBytes (scalar : ℕ) : Text := String.utf8EncodeChar (Char.ofNat scalar)

/-- The bytes that a string denotes, whether or not its own bytes are UTF-8; none if an escape is
half a pair. -/
def stringBytes : List Piece → Option Text
  | [] => some []
  | .byte b :: rest => (stringBytes rest).map (b :: ·)
  | .escape e :: rest => (stringBytes rest).map ((escapeValue e).getD 0 :: ·)
  | .unicode h₀ h₁ h₂ h₃ :: rest =>
    let first := (Piece.unicode h₀ h₁ h₂ h₃).unit
    if isHigh first then
      match rest with
      | .unicode l₀ l₁ l₂ l₃ :: rest =>
        let second := (Piece.unicode l₀ l₁ l₂ l₃).unit
        if isLow second then (stringBytes rest).map (scalarBytes (pairValue first second) ++ ·)
        else none
      | _ => none
    else if isLow first then none
    else (stringBytes rest).map (scalarBytes first ++ ·)

theorem char_not_surrogate (c : Char) : isHigh c.toNat = false ∧ isLow c.toNat = false := by
  have hvalid := c.valid
  unfold isHigh isLow
  simp only [UInt32.isValidChar, Nat.isValidChar] at hvalid
  show (decide (0xd800 ≤ c.val.toNat) && decide (c.val.toNat ≤ 0xdbff)) = false ∧
    (decide (0xdc00 ≤ c.val.toNat) && decide (c.val.toNat ≤ 0xdfff)) = false
  simp only [Bool.and_eq_false_iff, decide_eq_false_iff_not]
  omega

/-- The bytes of an escape are ASCII. -/
theorem escapeValue_lt {e b : UInt8} (h : escapeValue e = some b) : b.toNat < 0x80 := by
  unfold escapeValue at h
  split at h
  next he =>
    cases h
    rcases he with rfl | rfl | rfl <;> decide
  split at h
  next => cases h; decide
  split at h
  next => cases h; decide
  split at h
  next => cases h; decide
  split at h
  next => cases h; decide
  split at h
  next => cases h; decide
  cases h

theorem toNat_ofNat {scalar : ℕ} (h : scalar.isValidChar) : (Char.ofNat scalar).toNat = scalar := by
  unfold Char.ofNat
  rw [dif_pos h]
  rfl

theorem utf8EncodeChar_ascii {c : Char} (h : c.toNat < 0x80) :
    String.utf8EncodeChar c = [UInt8.ofNat c.toNat] := if_pos (Nat.le_of_lt_succ h)

/-- The bytes of a character that a string may hold as it is stand for themselves. -/
theorem utf8EncodeChar_valid {c : Char} (hcontrol : 0x20 ≤ c.toNat) (hquote : c ≠ '"')
    (hescape : c ≠ '\\') : ∀ b ∈ String.utf8EncodeChar c, (Piece.byte b).Valid := by
  -- a byte from 0x80 on is none of the bytes that are excluded
  have hlarge : ∀ n, 0x80 ≤ n → n < 0x100 → (Piece.byte (UInt8.ofNat n)).Valid := by
    intro n hlow hhigh
    have hn : (UInt8.ofNat n).toNat = n := UInt8.toNat_ofNat_of_lt' hhigh
    refine ⟨?_, ?_, ?_⟩
    · rw [UInt8.le_iff_toNat_le, hn]
      show 32 ≤ n
      omega
    all_goals
      intro heq
      rw [heq] at hn
      have : (0x22 : UInt8).toNat = 34 := rfl
      have : (0x5c : UInt8).toNat = 92 := rfl
      omega
  intro b hb
  unfold String.utf8EncodeChar at hb
  dsimp only at hb
  split at hb
  next hle =>
    obtain rfl := List.mem_singleton.mp hb
    have hn : (UInt8.ofNat c.val.toNat).toNat = c.toNat :=
      UInt8.toNat_ofNat_of_lt' (show c.val.toNat < 256 by omega)
    refine ⟨?_, ?_, ?_⟩
    · rw [UInt8.le_iff_toNat_le, hn]
      exact hcontrol
    · intro heq
      rw [heq] at hn
      exact hquote (Char.toNat_inj.mp hn.symm)
    · intro heq
      rw [heq] at hn
      exact hescape (Char.toNat_inj.mp hn.symm)
  next =>
    split at hb
    · simp only [List.mem_cons, List.not_mem_nil, or_false] at hb
      rcases hb with rfl | rfl <;> exact hlarge _ (by omega) (by omega)
    · split at hb
      · simp only [List.mem_cons, List.not_mem_nil, or_false] at hb
        rcases hb with rfl | rfl | rfl <;> exact hlarge _ (by omega) (by omega)
      · simp only [List.mem_cons, List.not_mem_nil, or_false] at hb
        rcases hb with rfl | rfl | rfl | rfl <;> exact hlarge _ (by omega) (by omega)

theorem SpellsChar.valid {pieces : List Piece} {c : Char} (h : SpellsChar pieces c) :
    ∀ piece ∈ pieces, piece.Valid := by
  cases h with
  | plain hcontrol hquote hescape =>
    intro piece hpiece
    obtain ⟨b, hb, rfl⟩ := List.mem_map.mp hpiece
    exact utf8EncodeChar_valid hcontrol hquote hescape b hb
  | escape h =>
    intro piece hpiece
    obtain rfl := List.mem_singleton.mp hpiece
    exact Option.isSome_iff_exists.mpr ⟨_, h⟩
  | unicode hvalid _ => exact List.forall_mem_singleton.mpr hvalid
  | pair hfirst hsecond _ _ _ =>
    exact List.forall_mem_cons.mpr ⟨hfirst, List.forall_mem_singleton.mpr hsecond⟩

theorem Spells.valid {pieces : List Piece} {chars : List Char} (h : Spells pieces chars) :
    ∀ piece ∈ pieces, piece.Valid := by
  induction h with
  | nil => exact fun _ h => absurd h List.not_mem_nil
  | cons hc _ ih => exact fun piece h => (List.mem_append.mp h).elim (hc.valid piece) (ih piece)

/-- Characters that stand for themselves. -/
theorem Spells.plain {chars : List Char}
    (h : ∀ c ∈ chars, 0x20 ≤ c.toNat ∧ c ≠ '"' ∧ c ≠ '\\') : Spells ((utf8 chars).map .byte) chars := by
  induction chars with
  | nil => exact .nil
  | cons c chars ih =>
    obtain ⟨⟨hcontrol, hquote, hescape⟩, hchars⟩ := List.forall_mem_cons.mp h
    have hbytes : (utf8 (c :: chars)).map Piece.byte =
        (String.utf8EncodeChar c).map .byte ++ (utf8 chars).map .byte := List.map_append
    rw [hbytes]
    exact .cons (.plain hcontrol hquote hescape) (ih hchars)

theorem stringBytes_bytes (bytes : Text) (rest : List Piece) :
    stringBytes (bytes.map .byte ++ rest) = (stringBytes rest).map (bytes ++ ·) := by
  induction bytes with
  | nil => cases h : stringBytes rest <;> simp [h]
  | cons b bytes ih =>
    rw [List.map_cons, List.cons_append, stringBytes, ih, Option.map_map]
    rfl

theorem SpellsChar.stringBytes {pieces : List Piece} {c : Char} (h : SpellsChar pieces c)
    (rest : List Piece) :
    stringBytes (pieces ++ rest) = (stringBytes rest).map (String.utf8EncodeChar c ++ ·) := by
  cases h with
  | plain _ _ _ => exact stringBytes_bytes _ rest
  | @escape e b h =>
    have hb := escapeValue_lt h
    have hc : String.utf8EncodeChar (Char.ofNat b.toNat) = [b] := by
      have hvalid : b.toNat.isValidChar := .inl (by omega)
      rw [utf8EncodeChar_ascii (by rw [toNat_ofNat hvalid]; exact hb), toNat_ofNat hvalid,
        UInt8.ofNat_toNat]
    rw [hc, List.singleton_append, Json.stringBytes, h]
    rfl
  | unicode _ hc =>
    obtain ⟨hhigh, hlow⟩ := char_not_surrogate c
    rw [List.singleton_append, Json.stringBytes.eq_def]
    simp only [hc, hhigh, hlow, Bool.false_eq_true, if_false]
    rw [scalarBytes, Char.ofNat_toNat]
  | pair _ _ hhigh hlow hc =>
    rw [List.cons_append, List.singleton_append, Json.stringBytes]
    simp only [hhigh, hlow, if_true, hc]
    rw [scalarBytes, Char.ofNat_toNat]

/-- **The bytes of a string are the UTF-8 of its characters.** -/
theorem Spells.stringBytes {pieces : List Piece} {chars : List Char} (h : Spells pieces chars) :
    stringBytes pieces = some (utf8 chars) := by
  induction h with
  | nil => rfl
  | cons hc _ ih =>
    rw [hc.stringBytes, ih]
    rfl

/-! ### Escapes in pairs -/

/-- No escape of the text is half a surrogate pair.  In a JSON text a backslash begins an escape of a
string. -/
def pairedEscapes : Text → Bool
  | [] => true
  | b :: rest =>
    if b ≠ 0x5c then pairedEscapes rest
    else
      match rest with
      | [] => true
      | e :: rest =>
        if e ≠ 0x75 then pairedEscapes rest
        else
          match rest with
          | h₀ :: h₁ :: h₂ :: h₃ :: rest =>
            if isHigh (Piece.unicode h₀ h₁ h₂ h₃).unit then
              match rest with
              | b :: u :: l₀ :: l₁ :: l₂ :: l₃ :: rest =>
                if b = 0x5c ∧ u = 0x75 ∧ isLow (Piece.unicode l₀ l₁ l₂ l₃).unit then
                  pairedEscapes rest
                else false
              | _ => false
            else if isLow (Piece.unicode h₀ h₁ h₂ h₃).unit then false
            else pairedEscapes rest
          | _ => true

theorem pairedEscapes_cons {b : UInt8} (hb : b ≠ 0x5c) (rest : Text) :
    pairedEscapes (b :: rest) = pairedEscapes rest := by
  rw [pairedEscapes.eq_def]
  exact if_pos hb

theorem pairedEscapes_escape {e : UInt8} (he : e ≠ 0x75) (rest : Text) :
    pairedEscapes (0x5c :: e :: rest) = pairedEscapes rest := by
  rw [pairedEscapes.eq_def]
  exact (if_neg (by decide)).trans (if_pos he)

theorem pairedEscapes_unicode (h₀ h₁ h₂ h₃ : UInt8) (rest : Text) :
    pairedEscapes (0x5c :: 0x75 :: h₀ :: h₁ :: h₂ :: h₃ :: rest) =
      if isHigh (Piece.unicode h₀ h₁ h₂ h₃).unit then
        match rest with
        | b :: u :: l₀ :: l₁ :: l₂ :: l₃ :: rest =>
          if b = 0x5c ∧ u = 0x75 ∧ isLow (Piece.unicode l₀ l₁ l₂ l₃).unit then pairedEscapes rest
          else false
        | _ => false
      else if isLow (Piece.unicode h₀ h₁ h₂ h₃).unit then false
      else pairedEscapes rest := by
  rw [pairedEscapes.eq_def]
  exact (if_neg (by decide)).trans (if_neg (by decide))

/-- A text that does not begin with an escape of a code unit has no second half for a high one. -/
theorem no_low_half (s : Text) :
    (∀ t, s ≠ 0x5c :: 0x75 :: t) →
      (match s with
        | b :: u :: l₀ :: l₁ :: l₂ :: l₃ :: rest =>
          if b = 0x5c ∧ u = 0x75 ∧ isLow (Piece.unicode l₀ l₁ l₂ l₃).unit then pairedEscapes rest
          else false
        | _ => false) = false := by
  intro h
  split
  · exact if_neg fun heq => h _ (by rw [heq.1, heq.2.1])
  · rfl

theorem escape_ne_unicode {e : UInt8} (h : (Piece.escape e).Valid) : e ≠ 0x75 := by
  rintro rfl
  cases h

/-- What follows a high half in a string, unless it is an escape of a code unit. -/
theorem spell_ne_unicode {pieces : List Piece} (h : ∀ piece ∈ pieces, piece.Valid)
    (hnot : ∀ l₀ l₁ l₂ l₃ rest, pieces ≠ .unicode l₀ l₁ l₂ l₃ :: rest) (rest t : Text) :
    pieces.flatMap Piece.spell ++ 0x22 :: rest ≠ 0x5c :: 0x75 :: t := by
  cases pieces with
  | nil =>
    intro heq
    exact absurd (List.cons.inj heq).1 (by decide)
  | cons piece pieces =>
    have hvalid := h piece List.mem_cons_self
    cases piece with
    | byte b => exact fun heq => hvalid.2.2 (List.cons.inj heq).1
    | escape e =>
      exact fun heq => escape_ne_unicode hvalid (List.cons.inj (List.cons.inj heq).2).1
    | unicode l₀ l₁ l₂ l₃ => exact absurd rfl (hnot l₀ l₁ l₂ l₃ pieces)

/-- **A string's escapes are paired exactly if it denotes bytes.** -/
theorem pairedEscapes_spell {pieces : List Piece} (h : ∀ piece ∈ pieces, piece.Valid) (rest : Text) :
    pairedEscapes (pieces.flatMap Piece.spell ++ 0x22 :: rest) =
      ((stringBytes pieces).isSome && pairedEscapes rest) := by
  fun_induction stringBytes pieces with
  | case1 => exact pairedEscapes_cons (by decide) rest
  | case2 b pieces ih =>
    obtain ⟨hb, hpieces⟩ := List.forall_mem_cons.mp h
    rw [Option.isSome_map, ← ih hpieces]
    exact pairedEscapes_cons hb.2.2 _
  | case3 e pieces ih =>
    obtain ⟨he, hpieces⟩ := List.forall_mem_cons.mp h
    rw [Option.isSome_map, ← ih hpieces]
    exact pairedEscapes_escape (escape_ne_unicode he) _
  | case4 h₀ h₁ h₂ h₃ first hhigh l₀ l₁ l₂ l₃ pieces second hlow ih =>
    obtain ⟨-, hpieces⟩ := List.forall_mem_cons.mp (List.forall_mem_cons.mp h).2
    rw [Option.isSome_map, ← ih hpieces]
    refine (pairedEscapes_unicode h₀ h₁ h₂ h₃ _).trans ((if_pos hhigh).trans ?_)
    exact if_pos ⟨rfl, rfl, hlow⟩
  | case5 h₀ h₁ h₂ h₃ first hhigh l₀ l₁ l₂ l₃ pieces second hlow =>
    refine (pairedEscapes_unicode h₀ h₁ h₂ h₃ _).trans ((if_pos hhigh).trans ?_)
    exact if_neg fun heq => hlow heq.2.2
  | case6 h₀ h₁ h₂ h₃ pieces first hhigh hnot =>
    refine (pairedEscapes_unicode h₀ h₁ h₂ h₃ _).trans ((if_pos hhigh).trans ?_)
    exact no_low_half _ (spell_ne_unicode (List.forall_mem_cons.mp h).2 hnot rest)
  | case7 h₀ h₁ h₂ h₃ pieces first hhigh hlow =>
    exact (pairedEscapes_unicode h₀ h₁ h₂ h₃ _).trans ((if_neg hhigh).trans (if_pos hlow))
  | case8 h₀ h₁ h₂ h₃ pieces first hhigh hlow ih =>
    rw [Option.isSome_map, ← ih (List.forall_mem_cons.mp h).2]
    exact (pairedEscapes_unicode h₀ h₁ h₂ h₃ _).trans ((if_neg hhigh).trans (if_neg hlow))

theorem pairedEscapes_quoted {pieces : List Piece} (h : ∀ piece ∈ pieces, piece.Valid) (rest : Text) :
    pairedEscapes (quoted pieces rest) = ((stringBytes pieces).isSome && pairedEscapes rest) :=
  (pairedEscapes_cons (by decide) _).trans (pairedEscapes_spell h rest)

/-- Text without a backslash does not matter. -/
theorem pairedEscapes_append {s : Text} (h : ∀ b ∈ s, b ≠ 0x5c) (rest : Text) :
    pairedEscapes (s ++ rest) = pairedEscapes rest := by
  induction s with
  | nil => rfl
  | cons b s ih =>
    obtain ⟨hb, hs⟩ := List.forall_mem_cons.mp h
    exact (pairedEscapes_cons hb _).trans (ih hs)

theorem pairedEscapes_span {p : UInt8 → Bool} (hp : p 0x5c = false) {s rest : Text}
    (h : Span p s rest) : pairedEscapes s = pairedEscapes rest := by
  obtain ⟨w, rfl, hw⟩ := h
  refine pairedEscapes_append (fun b hb heq => ?_) rest
  have hpb := hw b hb
  rw [heq, hp] at hpb
  cases hpb

theorem Digits.paired {s rest : Text} (h : Digits s rest) : pairedEscapes s = pairedEscapes rest := by
  cases h with
  | mk hb h =>
    refine (pairedEscapes_cons ?_ _).trans (pairedEscapes_span (by decide) h)
    rintro rfl
    cases hb

theorem Number.paired {s rest : Text} (h : Number s rest) : pairedEscapes s = pairedEscapes rest := by
  obtain ⟨t, u, v, hsign, hinteger, hfraction, hexponent⟩ := h.parts
  have hs : pairedEscapes s = pairedEscapes t := by
    cases hsign with
    | none => rfl
    | minus => exact pairedEscapes_cons (by decide) _
  have ht : pairedEscapes t = pairedEscapes u := by
    cases hinteger with
    | zero => exact pairedEscapes_cons (by decide) _
    | digits hb _ h => exact (Digits.mk hb h).paired
  have hu : pairedEscapes u = pairedEscapes v := by
    cases hfraction with
    | none => rfl
    | digits h => exact (pairedEscapes_cons (by decide) _).trans h.paired
  have hv : pairedEscapes v = pairedEscapes rest := by
    cases hexponent with
    | none => rfl
    | digits he hsign h =>
      refine (pairedEscapes_cons ?_ _).trans (Eq.trans ?_ h.paired)
      · rcases he with rfl | rfl <;> decide
      · cases hsign with
        | none => rfl
        | plus => exact pairedEscapes_cons (by decide) _
        | minus => exact pairedEscapes_cons (by decide) _
  rw [hs, ht, hu, hv]

theorem literal_paired {l : Text} (h : l ∈ literals) (rest : Text) :
    pairedEscapes (l ++ rest) = pairedEscapes rest := by
  have hall : ∀ l ∈ literals, ∀ b ∈ l, b ≠ (0x5c : UInt8) := by decide +kernel
  exact pairedEscapes_append (hall l h) rest

/-! ### Values -/

/-- The number that a run of digits denotes. -/
def digitsValue (digits : Text) : ℕ := digits.foldl (fun n b => 10 * n + (b.toNat - 0x30)) 0

/-- The exponent behind its letter. -/
def exponentValue : Text → Int
  | [] => 0
  | b :: digits =>
    if b = 0x2d then -(digitsValue digits : Int)
    else if b = 0x2b then digitsValue digits
    else digitsValue (b :: digits)

/-- The number that an unsigned number text denotes: the digits without their point, and as many
decimal places as stood behind it. -/
def unsignedValue (number : Text) : Rat :=
  let places := ((number.dropWhile digit).drop 1).takeWhile digit
  let exponent := number.dropWhile fun b => b ≠ 0x65 && b ≠ 0x45
  if (number.dropWhile digit).head? = some 0x2e then
    (digitsValue (number.takeWhile digit ++ places) : Rat) * 10 ^ (-(places.length : Int)) *
      10 ^ exponentValue (exponent.drop 1)
  else (digitsValue (number.takeWhile digit) : Rat) * 10 ^ exponentValue (exponent.drop 1)

def numberValue (number : Text) : Rat :=
  if number.head? = some 0x2d then -unsignedValue (number.drop 1) else unsignedValue number

/-- A value of JSON. -/
inductive Value
  | null
  | bool (b : Bool)
  | number (n : Rat)
  | string (chars : List Char)
  | array (elements : List Value)
  | object (members : List (List Char × Value))

mutual

/-- How deep the brackets of a value are nested. -/
def Value.depth : Value → ℕ
  | .array elements => depths elements + 1
  | .object members => memberDepths members + 1
  | _ => 0

def depths : List Value → ℕ
  | [] => 0
  | v :: elements => max v.depth (depths elements)

def memberDepths : List (List Char × Value) → ℕ
  | [] => 0
  | (_, v) :: members => max v.depth (memberDepths members)

end

example : (Value.object [(['a'], .array [.null]), (['b'], .object [])]).depth = 2 := by decide

/-- What a phrase of the grammar means: a value, the elements or the members of a bracket. -/
inductive Meaning
  | value (v : Value)
  | elements (vs : List Value)
  | members (ms : List (List Char × Value))

def Meaning.phrase : Meaning → Phrase
  | value _ => .value
  | elements _ => .elements
  | members _ => .members

/-- The levels that a phrase takes: a value by itself takes one. -/
def Meaning.levels : Meaning → ℕ
  | value v => v.depth + 1
  | elements vs => depths vs + 1
  | members ms => memberDepths ms + 1

/-- The text begins with a phrase of this meaning, in any spelling that the standard allows. -/
inductive Denotes : Meaning → Text → Text → Prop
  | null {rest : Text} : Denotes (.value .null) ([0x6e, 0x75, 0x6c, 0x6c] ++ rest) rest
  | true {rest : Text} : Denotes (.value (.bool true)) ([0x74, 0x72, 0x75, 0x65] ++ rest) rest
  | false {rest : Text} :
      Denotes (.value (.bool false)) ([0x66, 0x61, 0x6c, 0x73, 0x65] ++ rest) rest
  | number {number rest : Text} (h : Number number []) :
      Denotes (.value (.number (numberValue number))) (number ++ rest) rest
  | string {pieces : List Piece} {chars : List Char} {rest : Text} (h : Spells pieces chars) :
      Denotes (.value (.string chars)) (quoted pieces rest) rest
  | emptyArray {s rest : Text} (h : Span jsonSpace s (0x5d :: rest)) :
      Denotes (.value (.array [])) (0x5b :: s) rest
  | array {vs : List Value} {s t rest : Text} (hgap : Span jsonSpace s t)
      (h : Denotes (.elements vs) t rest) : Denotes (.value (.array vs)) (0x5b :: s) rest
  | emptyObject {s rest : Text} (h : Span jsonSpace s (0x7d :: rest)) :
      Denotes (.value (.object [])) (0x7b :: s) rest
  | object {ms : List (List Char × Value)} {s t rest : Text} (hgap : Span jsonSpace s t)
      (h : Denotes (.members ms) t rest) : Denotes (.value (.object ms)) (0x7b :: s) rest
  | lastElement {v : Value} {s t rest : Text} (hvalue : Denotes (.value v) s t)
      (hclose : Span jsonSpace t (0x5d :: rest)) : Denotes (.elements [v]) s rest
  | nextElement {v : Value} {vs : List Value} {s t u w rest : Text}
      (hvalue : Denotes (.value v) s t) (hcomma : Span jsonSpace t (0x2c :: u))
      (hgap : Span jsonSpace u w) (h : Denotes (.elements vs) w rest) :
      Denotes (.elements (v :: vs)) s rest
  | lastMember {pieces : List Piece} {name : List Char} {v : Value} {s t u w rest : Text}
      (hname : Spells pieces name) (hcolon : Span jsonSpace s (0x3a :: t))
      (hgap : Span jsonSpace t u) (hvalue : Denotes (.value v) u w)
      (hclose : Span jsonSpace w (0x7d :: rest)) : Denotes (.members [(name, v)]) (quoted pieces s) rest
  | nextMember {pieces : List Piece} {name : List Char} {v : Value} {ms : List (List Char × Value)}
      {s t u w x y rest : Text} (hname : Spells pieces name) (hcolon : Span jsonSpace s (0x3a :: t))
      (hgap : Span jsonSpace t u) (hvalue : Denotes (.value v) u w)
      (hcomma : Span jsonSpace w (0x2c :: x)) (hgap' : Span jsonSpace x y)
      (h : Denotes (.members ms) y rest) : Denotes (.members ((name, v) :: ms)) (quoted pieces s) rest

/-- A text of a value, with white space around it. -/
def TextOf (v : Value) (text : Text) : Prop :=
  ∃ s t, Span jsonSpace text s ∧ Denotes (.value v) s t ∧ Span jsonSpace t []

/-- What has a meaning is a phrase of the grammar. -/
theorem Denotes.derives {m : Meaning} {s rest : Text} (h : Denotes m s rest) :
    Derives jsonSpace m.phrase m.levels s rest := by
  induction h with
  | null => exact .literal (by decide)
  | true => exact .literal (by decide)
  | false => exact .literal (by decide)
  | number h => exact .number (h.append _)
  | string h => exact .string h.valid
  | emptyArray h => exact .emptyArray h
  | array hgap _ ih => exact .array hgap ih
  | emptyObject h => exact .emptyObject h
  | object hgap _ ih => exact .object hgap ih
  | @lastElement v s t rest _ hclose ih =>
    exact .lastElement (ih.deeper (Nat.succ_le_succ (Nat.le_max_left _ _))) hclose
  | nextElement _ hcomma hgap _ ih ih' =>
    exact .nextElement (ih.deeper (Nat.succ_le_succ (Nat.le_max_left _ _))) hcomma hgap
      (ih'.deeper (Nat.succ_le_succ (Nat.le_max_right _ _)))
  | lastMember hname hcolon hgap _ hclose ih =>
    exact .lastMember hname.valid hcolon hgap
      (ih.deeper (Nat.succ_le_succ (Nat.le_max_left _ _))) hclose
  | nextMember hname hcolon hgap _ hcomma hgap' _ ih ih' =>
    exact .nextMember hname.valid hcolon hgap
      (ih.deeper (Nat.succ_le_succ (Nat.le_max_left _ _))) hcomma hgap'
      (ih'.deeper (Nat.succ_le_succ (Nat.le_max_right _ _)))

theorem Spells.paired {pieces : List Piece} {chars : List Char} (h : Spells pieces chars)
    (rest : Text) : pairedEscapes (quoted pieces rest) = pairedEscapes rest := by
  rw [pairedEscapes_quoted h.valid, h.stringBytes, Option.isSome_some, Bool.true_and]

theorem paired_blank {s rest : Text} (h : Span jsonSpace s rest) :
    pairedEscapes s = pairedEscapes rest := pairedEscapes_span (by decide) h

theorem paired_mark {b : UInt8} (hb : b ≠ 0x5c) {s rest : Text} (h : Span jsonSpace s (b :: rest)) :
    pairedEscapes s = pairedEscapes rest := (paired_blank h).trans (pairedEscapes_cons hb rest)

/-- **What has a meaning has no half of a surrogate pair.** -/
theorem Denotes.paired {m : Meaning} {s rest : Text} (h : Denotes m s rest) :
    pairedEscapes s = pairedEscapes rest := by
  induction h with
  | null => exact literal_paired (by decide) _
  | true => exact literal_paired (by decide) _
  | false => exact literal_paired (by decide) _
  | number h => exact (h.append _).paired
  | string h => exact h.paired _
  | emptyArray h => exact (pairedEscapes_cons (by decide) _).trans (paired_mark (by decide) h)
  | array hgap _ ih =>
    exact (pairedEscapes_cons (by decide) _).trans ((paired_blank hgap).trans ih)
  | emptyObject h => exact (pairedEscapes_cons (by decide) _).trans (paired_mark (by decide) h)
  | object hgap _ ih =>
    exact (pairedEscapes_cons (by decide) _).trans ((paired_blank hgap).trans ih)
  | lastElement _ hclose ih => exact ih.trans (paired_mark (by decide) hclose)
  | nextElement _ hcomma hgap _ ih ih' =>
    exact ih.trans ((paired_mark (by decide) hcomma).trans ((paired_blank hgap).trans ih'))
  | lastMember hname hcolon hgap _ hclose ih =>
    exact (hname.paired _).trans ((paired_mark (by decide) hcolon).trans
      ((paired_blank hgap).trans (ih.trans (paired_mark (by decide) hclose))))
  | nextMember hname hcolon hgap _ hcomma hgap' _ ih ih' =>
    exact (hname.paired _).trans ((paired_mark (by decide) hcolon).trans
      ((paired_blank hgap).trans (ih.trans ((paired_mark (by decide) hcomma).trans
        ((paired_blank hgap').trans ih')))))

/-! ### The members of an object -/

/-- The member of a text that spells a name and denotes its value. -/
structure SpellsMember (entry : List Char × Value) (member : Member) : Prop where
  name : Spells member.key entry.1
  value : Denotes (.value entry.2) member.value []

/-- The members whose name denotes these bytes. -/
def named (wanted : Text) (members : List Member) : List Member :=
  members.filter fun m => stringBytes m.key = some wanted

theorem named_cons_self {wanted : Text} {m : Member} (h : stringBytes m.key = some wanted)
    (members : List Member) : named wanted (m :: members) = m :: named wanted members :=
  List.filter_cons_of_pos (by simpa using h)

theorem named_cons_ne {wanted : Text} {m : Member} (h : stringBytes m.key ≠ some wanted)
    (members : List Member) : named wanted (m :: members) = named wanted members :=
  List.filter_cons_of_neg (by simpa using h)

/-- The members of a name, in the object and in its text. -/
theorem named_spell {entries : List (List Char × Value)} {members : List Member}
    (h : List.Forall₂ SpellsMember entries members) (name : List Char) :
    List.Forall₂ SpellsMember (entries.filter fun entry => entry.1 = name)
      (named (utf8 name) members) := by
  induction h with
  | nil => exact .nil
  | @cons entry member entries members hmember _ ih =>
    have hbytes := hmember.name.stringBytes
    by_cases hname : entry.1 = name
    · rw [List.filter_cons_of_pos (by simpa using hname), named_cons_self (hname ▸ hbytes)]
      exact .cons hmember ih
    · have hne : stringBytes member.key ≠ some (utf8 name) := by
        rw [hbytes]
        exact fun heq => hname (utf8_inj (Option.some.inj heq))
      rw [List.filter_cons_of_neg (by simpa using hname), named_cons_ne hne]
      exact ih

/-- What a phrase takes of its text, by itself. -/
theorem Denotes.unappend {m : Meaning} {s r : Text} (h : Denotes m s r) :
    ∀ {rest u : Text}, r = rest ++ u → ∃ t, s = t ++ u ∧ Denotes m t rest := by
  induction h with
  | null =>
    rintro rest u rfl
    exact ⟨_ ++ rest, (List.append_assoc _ rest u).symm, .null⟩
  | true =>
    rintro rest u rfl
    exact ⟨_ ++ rest, (List.append_assoc _ rest u).symm, .true⟩
  | false =>
    rintro rest u rfl
    exact ⟨_ ++ rest, (List.append_assoc _ rest u).symm, .false⟩
  | number h =>
    rintro rest u rfl
    exact ⟨_ ++ rest, (List.append_assoc _ rest u).symm, .number h⟩
  | string h =>
    rintro rest u rfl
    exact ⟨quoted _ rest, (quoted_append _ rest u).symm, .string h⟩
  | emptyArray h =>
    rintro rest u rfl
    obtain ⟨t, rfl, ht⟩ := Span.unappend (r := 0x5d :: rest) h
    exact ⟨_ :: t, rfl, .emptyArray ht⟩
  | array hgap _ ih =>
    intro rest u hr
    obtain ⟨t, rfl, ht⟩ := ih hr
    obtain ⟨v, rfl, hv⟩ := hgap.unappend
    exact ⟨_ :: v, rfl, .array hv ht⟩
  | emptyObject h =>
    rintro rest u rfl
    obtain ⟨t, rfl, ht⟩ := Span.unappend (r := 0x7d :: rest) h
    exact ⟨_ :: t, rfl, .emptyObject ht⟩
  | object hgap _ ih =>
    intro rest u hr
    obtain ⟨t, rfl, ht⟩ := ih hr
    obtain ⟨v, rfl, hv⟩ := hgap.unappend
    exact ⟨_ :: v, rfl, .object hv ht⟩
  | lastElement _ hclose ih =>
    rintro rest u rfl
    obtain ⟨t, rfl, ht⟩ := Span.unappend (r := 0x5d :: rest) hclose
    obtain ⟨v, rfl, hv⟩ := ih rfl
    exact ⟨v, rfl, .lastElement hv ht⟩
  | nextElement _ hcomma hgap _ ih ih' =>
    intro rest u hr
    obtain ⟨t, rfl, ht⟩ := ih' hr
    obtain ⟨v, rfl, hv⟩ := hgap.unappend
    obtain ⟨w, rfl, hw⟩ := Span.unappend (r := 0x2c :: v) hcomma
    obtain ⟨x, rfl, hx⟩ := ih rfl
    exact ⟨x, rfl, .nextElement hx hw hv ht⟩
  | lastMember hname hcolon hgap _ hclose ih =>
    rintro rest u rfl
    obtain ⟨t, rfl, ht⟩ := Span.unappend (r := 0x7d :: rest) hclose
    obtain ⟨v, rfl, hv⟩ := ih rfl
    obtain ⟨w, rfl, hw⟩ := hgap.unappend
    obtain ⟨x, rfl, hx⟩ := Span.unappend (r := 0x3a :: w) hcolon
    exact ⟨quoted _ x, (quoted_append _ x u).symm, .lastMember hname hx hw hv ht⟩
  | nextMember hname hcolon hgap _ hcomma hgap' _ ih ih' =>
    intro rest u hr
    obtain ⟨t, rfl, ht⟩ := ih' hr
    obtain ⟨v, rfl, hv⟩ := hgap'.unappend
    obtain ⟨w, rfl, hw⟩ := Span.unappend (r := 0x2c :: v) hcomma
    obtain ⟨x, rfl, hx⟩ := ih rfl
    obtain ⟨y, rfl, hy⟩ := hgap.unappend
    obtain ⟨z, rfl, hz⟩ := Span.unappend (r := 0x3a :: y) hcolon
    exact ⟨quoted _ z, (quoted_append _ z u).symm, .nextMember hname hz hy hx hw hv ht⟩

/-- The members that a bracket denotes, one by one. -/
theorem Denotes.membersOf {m : Meaning} {s rest : Text} (h : Denotes m s rest) :
    ∀ {entries : List (List Char × Value)} {d : ℕ}, m = .members entries →
      memberDepths entries < d →
      ∃ members, MembersOf jsonSpace d members s rest ∧ List.Forall₂ SpellsMember entries members := by
  induction h with
  | @lastMember pieces name v s t u w rest hname hcolon hgap hvalue hclose ih =>
    rintro entries d heq hdepth
    cases heq
    obtain ⟨value, rfl, hexact⟩ := hvalue.unappend (List.nil_append w).symm
    have hlevels : v.depth + 1 ≤ d :=
      Nat.lt_of_le_of_lt (Nat.le_max_left v.depth (memberDepths [])) hdepth
    exact ⟨_, .last (m := ⟨pieces, value⟩) hname.valid hcolon hgap (hexact.derives.deeper hlevels) hclose,
      .cons ⟨hname, hexact⟩ .nil⟩
  | @nextMember pieces name v ms s t u w x y rest hname hcolon hgap hvalue hcomma hgap' _ _ ih' =>
    rintro entries d heq hdepth
    cases heq
    obtain ⟨value, rfl, hexact⟩ := hvalue.unappend (List.nil_append w).symm
    have hlevels : v.depth + 1 ≤ d :=
      Nat.lt_of_le_of_lt (Nat.le_max_left v.depth (memberDepths ms)) hdepth
    obtain ⟨members, hmembers, hall⟩ :=
      ih' rfl (Nat.lt_of_le_of_lt (Nat.le_max_right v.depth (memberDepths ms)) hdepth)
    exact ⟨_, .next (m := ⟨pieces, value⟩) hname.valid hcolon hgap (hexact.derives.deeper hlevels) hcomma
      hgap' hmembers, .cons ⟨hname, hexact⟩ hall⟩
  | _ => exact fun heq => nomatch heq

/-- **The text of an object is that of its members**, in their order. -/
theorem TextOf.objectOf {entries : List (List Char × Value)} {payload : Text} {d : ℕ}
    (h : TextOf (.object entries) payload) (hdepth : memberDepths entries < d) :
    ∃ members, ObjectOf jsonSpace d members payload ∧ List.Forall₂ SpellsMember entries members := by
  obtain ⟨s, t, hlead, hvalue, hend⟩ := h
  cases hvalue with
  | emptyObject hclose => exact ⟨[], .empty hlead hclose hend, .nil⟩
  | object hgap hmembers =>
    obtain ⟨members, hof, hall⟩ := hmembers.membersOf rfl hdepth
    exact ⟨members, .members hlead hgap hof hend, hall⟩

/-! ### Where a member stands -/

/-- Among the members of this text, the key of `m` stands before `rest`, which holds its value. -/
inductive KeyIn (sp : UInt8 → Bool) : List Member → Text → Member → Text → Prop
  | here {m : Member} {members : List Member} {s t v : Text} (hcolon : Span sp s (0x3a :: t))
      (hgap : Span sp t (m.value ++ v)) : KeyIn sp (m :: members) (quoted m.key s) m s
  | later {m m' : Member} {members : List Member} {s t v w x rest : Text}
      (hcolon : Span sp s (0x3a :: t)) (hgap : Span sp t (m.value ++ v))
      (hcomma : Span sp v (0x2c :: w)) (hgap' : Span sp w x) (h : KeyIn sp members x m' rest) :
      KeyIn sp (m :: members) (quoted m.key s) m' rest

/-- In the text of an object, the key of `m` stands before `rest`. -/
def KeyAt (sp : UInt8 → Bool) (members : List Member) (payload : Text) (m : Member) (rest : Text) :
    Prop :=
  ∃ s t, Span sp payload (0x7b :: s) ∧ Span sp s t ∧ KeyIn sp members t m rest

theorem KeyIn.mem {sp : UInt8 → Bool} {members : List Member} {t rest : Text} {m : Member}
    (h : KeyIn sp members t m rest) : m ∈ members := by
  induction h with
  | here _ _ => exact List.mem_cons_self
  | later _ _ _ _ _ ih => exact List.mem_cons_of_mem _ ih

theorem KeyIn.value {sp : UInt8 → Bool} {members : List Member} {t rest : Text} {m : Member}
    (h : KeyIn sp members t m rest) :
    ∃ u v, Span sp rest (0x3a :: u) ∧ Span sp u (m.value ++ v) := by
  induction h with
  | here hcolon hgap => exact ⟨_, _, hcolon, hgap⟩
  | later _ _ _ _ _ ih => exact ih

theorem KeyIn.suffix {sp : UInt8 → Bool} {members : List Member} {t rest : Text} {m : Member}
    (h : KeyIn sp members t m rest) : quoted m.key rest <:+ t := by
  induction h with
  | here _ _ => exact List.suffix_rfl
  | @later m m' members s t v w x rest hcolon hgap hcomma hgap' _ ih =>
    have hkey : s <:+ quoted m.key s :=
      ((List.suffix_cons 0x22 s).trans (List.suffix_append _ _)).trans (List.suffix_cons 0x22 _)
    have hcolon' : t <:+ s := (List.suffix_cons _ _).trans hcolon.suffix
    have hvalue : v <:+ t := (List.suffix_append _ _).trans hgap.suffix
    have hcomma' : w <:+ v := (List.suffix_cons _ _).trans hcomma.suffix
    exact ih.trans (hgap'.suffix.trans (hcomma'.trans (hvalue.trans (hcolon'.trans hkey))))

/-- Every member stands somewhere. -/
theorem MembersOf.keyIn {sp : UInt8 → Bool} {d : ℕ} {members : List Member} {t rest : Text}
    (h : MembersOf sp d members t rest) {m : Member} (hm : m ∈ members) :
    ∃ s, KeyIn sp members t m s := by
  induction h with
  | last _ hcolon hgap _ _ =>
    obtain rfl := List.mem_singleton.mp hm
    exact ⟨_, .here hcolon hgap⟩
  | next _ hcolon hgap _ hcomma hgap' _ ih =>
    rcases List.mem_cons.mp hm with rfl | hm
    · exact ⟨_, .here hcolon hgap⟩
    · obtain ⟨s, hs⟩ := ih hm
      exact ⟨s, .later hcolon hgap hcomma hgap' hs⟩

theorem ObjectOf.keyAt {sp : UInt8 → Bool} {d : ℕ} {members : List Member} {payload : Text}
    (h : ObjectOf sp d members payload) {m : Member} (hm : m ∈ members) :
    ∃ s, KeyAt sp members payload m s := by
  cases h with
  | empty _ _ _ => exact absurd hm List.not_mem_nil
  | members hopen hgap hmembers _ =>
    obtain ⟨s, hs⟩ := hmembers.keyIn hm
    exact ⟨s, _, _, hopen, hgap, hs⟩

theorem KeyAt.suffix {sp : UInt8 → Bool} {members : List Member} {payload rest : Text} {m : Member}
    (h : KeyAt sp members payload m rest) : quoted m.key rest <:+ payload := by
  obtain ⟨s, t, hopen, hgap, hkey⟩ := h
  exact hkey.suffix.trans (hgap.suffix.trans ((List.suffix_cons _ _).trans hopen.suffix))

theorem TextOf.paired {v : Value} {text : Text} (h : TextOf v text) : pairedEscapes text = true := by
  obtain ⟨s, t, hlead, hvalue, hend⟩ := h
  rw [paired_blank hlead, hvalue.paired, paired_blank hend]
  rfl

end Json
