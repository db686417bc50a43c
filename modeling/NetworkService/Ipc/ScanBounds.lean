import NetworkService.Ipc.IndexedScanners

/-!
# The session's scanners stay within the text

From every position of the text a scanner ends, within bounds, and reads what its counterpart over
the rest of the text reads.  One specification for each scanner; the callers use nothing else of it.
-/

namespace NetworkService.Ipc.Indexed

open Fallible Scanner

/-! ### The counterparts -/

theorem skipWs_eq_dropWhile (s : Bytes) : Ipc.skipWs s = s.dropWhile isSpace := by
  induction s with
  | nil => rfl
  | cons b rest ih =>
    unfold Ipc.skipWs
    rw [List.dropWhile_cons, ih]

theorem skipDigits_eq_dropWhile (s : Bytes) : Ipc.skipDigits s = s.dropWhile isDigit := by
  induction s with
  | nil => rfl
  | cons b rest ih =>
    unfold Ipc.skipDigits
    rw [List.dropWhile_cons, ih]

/-- Four hexadecimal digits are passed. -/
def passHex4 : Bytes → Option Bytes
  | h₀ :: h₁ :: h₂ :: h₃ :: rest =>
    if isHexDigit h₀ && isHexDigit h₁ && isHexDigit h₂ && isHexDigit h₃ then some rest else none
  | _ => none

def passUnicode (s : Bytes) : Option (Bytes × Bytes) :=
  (passHex4 s).map fun rest => ([ascii '?'], rest)

/-- What follows a backslash, where a `\u` appends what `unicode` reads. -/
def readEscaped (unicode : Bytes → Option (Bytes × Bytes)) (value : Bytes) :
    Bytes → Option (Bytes × Bytes)
  | [] => none
  | escaped :: rest =>
    if escaped = ascii 'u' then (unicode rest).map fun read => (value ++ read.1, read.2)
    else (simpleEscape escaped).map fun b => (value ++ [b], rest)

/-- What the loops of both `parse_string` have in common. -/
structure StringLoop (body : Bytes → Bytes → Option (Bytes × Bytes))
    (unicode : Bytes → Option (Bytes × Bytes)) : Prop where
  nil : ∀ value, body value [] = none
  cons : ∀ value ch rest, body value (ch :: rest) =
    if ch = quote then some (value, rest)
    else if ch < 0x20 then none
    else if ch ≠ backslash then body (value ++ [ch]) rest
    else (readEscaped unicode value rest).bind fun read => body read.1 read.2

theorem parseStringBody_loop : StringLoop parseStringBody passUnicode where
  nil value := rfl
  cons value ch rest := by
    rw [parseStringBody.eq_def]
    refine ite_congr rfl (fun _ => rfl) fun _ => ite_congr rfl (fun _ => rfl) fun _ =>
      ite_congr rfl (fun _ => rfl) fun _ => ?_
    cases rest with
    | nil => rfl
    | cons escaped rest =>
      rw [readEscaped]
      by_cases hu : escaped = ascii 'u'
      · simp only [if_pos hu]
        unfold passUnicode
        rcases rest with _ | ⟨h₀, _ | ⟨h₁, _ | ⟨h₂, _ | ⟨h₃, rest⟩⟩⟩⟩
        case cons.cons.cons.cons =>
          rw [passHex4]
          dsimp only
          split <;> rfl
        all_goals rfl
      · simp only [if_neg hu]
        cases simpleEscape escaped <;> rfl

/-- A digit comes first, so the run of digits is not empty. -/
theorem skipDigits1_eq (s : Bytes) :
    Ipc.skipDigits1 s = if Ipc.skipDigits s = s then none else some (Ipc.skipDigits s) := by
  cases s with
  | nil => rfl
  | cons b rest =>
    rw [Ipc.skipDigits1, Ipc.skipDigits]
    by_cases hb : isDigit b = true
    · have hshorter := (List.dropWhile_suffix isDigit (l := rest)).length_le
      have hne : Ipc.skipDigits rest ≠ b :: rest := by
        intro h
        rw [← skipDigits_eq_dropWhile, h, List.length_cons] at hshorter
        omega
      rw [if_pos hb, if_pos hb, if_neg hne]
    · rw [if_neg hb, if_neg hb, if_pos rfl]

theorem isDigit_of_range {b : UInt8} (h : ¬(b < ascii '1' ∨ ascii '9' < b)) : isDigit b = true := by
  rw [not_or, UInt8.not_lt, UInt8.not_lt] at h
  have hle : ascii '0' ≤ b := UInt8.le_trans (by decide) h.1
  unfold isDigit
  rw [decide_eq_true hle, decide_eq_true h.2]
  rfl

/-- What stands behind an item: `true` and the rest of the text behind the closing byte, or `false` and
the next item. -/
def afterItem (close : UInt8) (s : Bytes) : Option (Bool × Bytes) :=
  match Ipc.skipWs s with
  | [] => none
  | b :: rest =>
    if b = close then some (true, rest)
    else if b ≠ ascii ',' then none
    else some (false, Ipc.skipWs rest)

/-- The rest of the text behind the last item, or what the next turn makes of the next one. -/
def goOn {ρ : Type} (done next : Bytes → ρ) (failed : ρ) : Option (Bool × Bytes) → ρ
  | none => failed
  | some (true, rest) => done rest
  | some (false, rest) => next rest

theorem goOn_afterItem {ρ : Type} (done next : Bytes → ρ) (failed : ρ) (close : UInt8) (s : Bytes) :
    goOn done next failed (afterItem close s) =
      match Ipc.skipWs s with
      | [] => failed
      | b :: rest =>
        if b = close then done rest
        else if b ≠ ascii ',' then failed
        else next (Ipc.skipWs rest) := by
  unfold afterItem
  cases Ipc.skipWs s with
  | nil => rfl
  | cons b rest =>
    by_cases hclose : b = close
    · simp only [if_pos hclose, goOn]
    · by_cases hcomma : b = ascii ','
      · simp only [if_neg hclose, if_neg (not_not_intro hcomma), goOn]
      · simp only [if_neg hclose, if_pos hcomma, goOn]

theorem skipItems_step (skipItem : Bytes → Option Bytes) (close : UInt8) (n : ℕ) (s : Bytes) :
    skipItems skipItem close (n + 1) s = (skipItem s).bind fun rest =>
      goOn some (skipItems skipItem close n) none (afterItem close rest) := by
  rw [skipItems]
  cases skipItem s with
  | none => rfl
  | some rest =>
    rw [Option.map_some, Option.bind_some, goOn_afterItem]
    cases Ipc.skipWs rest <;> rfl

theorem skipBracketed_eq (skipItem : Bytes → Option Bytes) (start close : UInt8) (s : Bytes) :
    Ipc.skipBracketed skipItem start close s = (Ipc.expect start s).bind fun rest =>
      match Ipc.expect close (Ipc.skipWs rest) with
      | some rest => some rest
      | none => skipItems skipItem close s.length (Ipc.skipWs rest) := rfl

/-- The key that `read` reads, and the value behind its colon. -/
def keyBehind (read : Bytes → Option (Bytes × Bytes)) (s : Bytes) : Option (Bytes × Bytes) :=
  (read s).bind fun read => (Ipc.expect (ascii ':') (Ipc.skipWs read.2)).bind fun rest =>
    some (read.1, Ipc.skipWs rest)

theorem expect_eq_none {b : UInt8} {s : Bytes} (h : startsWith (· == b) s = false) :
    Ipc.expect b s = none := by
  cases s with
  | nil => rfl
  | cons c rest => exact if_neg (beq_eq_false_iff_ne.mp h)

theorem expect_cons {b c : UInt8} {rest : Bytes} (h : (c == b) = true) :
    Ipc.expect b (c :: rest) = some rest := if_pos (beq_iff_eq.mp h)

theorem expect_isSome (b : UInt8) (s : Bytes) :
    (Ipc.expect b s).isSome = startsWith (· == b) s := by
  cases hs : startsWith (· == b) s with
  | false => rw [expect_eq_none hs]; rfl
  | true =>
    cases s with
    | nil => exact nomatch hs
    | cons c rest => rw [expect_cons hs]; rfl

section Specifications

variable {ε : Type} {payload : Bytes} {turns limit k p : ℕ} {R : ε → Prop}

theorem skipWs_meets (hturns : payload.length < turns) {Q : Unit → ℕ → Prop}
    (h : ∀ q, p ≤ q → q ≤ payload.length → payload.drop q = Ipc.skipWs (payload.drop p) → Q () q) :
    Meets payload limit (skipWs payload turns : Scan ε Unit) k p Q R := by
  refine Meets.skipWhile (by omega) fun q hpq hq hrest => h q hpq hq ?_
  rw [hrest, skipWs_eq_dropWhile]

/-! ### Strings -/

theorem hexDigitAt_meets {index : ℕ} {c : UInt8} {Q : Unit → ℕ → Prop} {R : Unit → Prop}
    (hc : payload[index]? = some c) (hno : isHexDigit c = false → R ())
    (hyes : isHexDigit c = true → Q () p) :
    Meets payload limit (hexDigitAt payload index) k p Q R := by
  refine Meets.bind (Meets.look hc (Meets.ite (fun hhex => Meets.pure (hyes hhex)) fun hhex => ?_))
  exact Meets.reject (hno (Bool.eq_false_iff.mpr hhex))

/-- Four bytes are left, or the text is too short for a `\u`. -/
theorem four_left (payload : Bytes) (p : ℕ) :
    payload.length < p + 4 ∧ (payload.drop p).length < 4 ∨
      ∃ h₀ h₁ h₂ h₃ rest, payload.drop p = h₀ :: h₁ :: h₂ :: h₃ :: rest := by
  by_cases hshort : payload.length < p + 4
  · exact .inl ⟨hshort, by rw [List.length_drop]; omega⟩
  · have hlength : 4 ≤ (payload.drop p).length := by
      rw [List.length_drop]
      omega
    generalize payload.drop p = left at hlength ⊢
    rcases left with _ | ⟨h₀, _ | ⟨h₁, _ | ⟨h₂, _ | ⟨h₃, rest⟩⟩⟩⟩
    case cons.cons.cons.cons => exact .inr ⟨h₀, h₁, h₂, h₃, rest, rfl⟩
    all_goals simp at hlength

theorem passHex4_short {s : Bytes} (h : s.length < 4) : passHex4 s = none := by
  rcases s with _ | ⟨h₀, _ | ⟨h₁, _ | ⟨h₂, _ | ⟨h₃, rest⟩⟩⟩⟩
  case cons.cons.cons.cons =>
    simp only [List.length_cons] at h
    omega
  all_goals rfl

theorem skipHex4_meets :
    Meets payload limit (skipHex4 payload) k p
      (fun _ q => passHex4 (payload.drop p) = some (payload.drop q))
      (fun _ => passHex4 (payload.drop p) = none) := by
  refine Meets.bind (Meets.position ?_)
  obtain ⟨hlength, hfew⟩ | ⟨h₀, h₁, h₂, h₃, rest, hrest⟩ := four_left payload p
  · exact Meets.ite (fun _ => Meets.reject (passHex4_short hfew)) fun hnot => absurd hlength hnot
  · have hrest₁ := drop_succ hrest
    have hrest₂ := drop_succ hrest₁
    have hrest₃ := drop_succ hrest₂
    have hlast := lt_of_drop hrest₃
    rw [hrest, passHex4]
    refine Meets.ite (fun hshort => absurd hshort (by omega)) fun _ => ?_
    refine Meets.bind (hexDigitAt_meets (getElem?_of_drop hrest) (fun hhex₀ => ?_) fun hhex₀ => ?_)
    · simp [hhex₀]
    refine Meets.bind (hexDigitAt_meets (getElem?_of_drop hrest₁) (fun hhex₁ => ?_) fun hhex₁ => ?_)
    · simp [hhex₁]
    refine Meets.bind (hexDigitAt_meets (getElem?_of_drop hrest₂) (fun hhex₂ => ?_) fun hhex₂ => ?_)
    · simp [hhex₂]
    refine Meets.bind (hexDigitAt_meets (getElem?_of_drop hrest₃) (fun hhex₃ => ?_) fun hhex₃ => ?_)
    · simp [hhex₃]
    refine Meets.advance (by omega) ?_
    have hrest₄ : payload.drop (p + 4) = rest := drop_succ hrest₃
    simp [hhex₀, hhex₁, hhex₂, hhex₃, hrest₄]

theorem skipUnicode_meets :
    Meets payload limit (skipUnicode payload) k p
      (fun pushed q => passUnicode (payload.drop p) = some (pushed, payload.drop q))
      (fun _ => passUnicode (payload.drop p) = none) := by
  unfold passUnicode
  refine Meets.seq skipHex4_meets (fun _ hnone => ?_) fun _ q _ _ hpassed => Meets.pure ?_
  · rw [hnone]
    rfl
  · rw [hpassed]
    rfl

/-- A turn of the loop takes one step of the counterpart. -/
theorem stringTurn_meets {body : Bytes → Bytes → Option (Bytes × Bytes)}
    {unicode : Bytes → Option (Bytes × Bytes)} (hbody : StringLoop body unicode)
    {scanUnicode : Scan Unit Bytes}
    (hunicode : ∀ q, Meets payload limit scanUnicode k q
      (fun pushed r => unicode (payload.drop q) = some (pushed, payload.drop r))
      (fun _ => unicode (payload.drop q) = none)) (value : Bytes) :
    Meets payload limit (stringTurn payload scanUnicode value) k p
      (fun next q => next.elim
        (fun read => p < q ∧ body read (payload.drop q) = body value (payload.drop p))
        fun read => body value (payload.drop p) = some (read, payload.drop q))
      (fun _ => body value (payload.drop p) = none) := by
  refine Meets.bind (Meets.here (fun hnil => ?_) fun ch rest hrest => ?_)
  · rw [hnil]
    exact hbody.nil value
  rw [hrest, hbody.cons]
  refine Meets.bind (Meets.advance_one hrest fun hnext => ?_)
  refine Meets.ite (fun hquote => Meets.pure ?_) fun hquote => ?_
  · rw [hnext]
    exact if_pos hquote
  rw [if_neg hquote]
  refine Meets.ite (fun hcontrol => Meets.reject (if_pos hcontrol)) fun hcontrol => ?_
  rw [if_neg hcontrol]
  refine Meets.ite (fun hplain => Meets.pure ⟨Nat.lt_succ_self p, ?_⟩) fun hplain => ?_
  · rw [hnext]
    exact (if_pos hplain).symm
  rw [if_neg hplain, ← hnext]
  refine Meets.bind (Meets.here (fun hnil => ?_) fun escaped rest' hrest' => ?_)
  · rw [hnil]
    rfl
  rw [hrest', readEscaped]
  refine Meets.bind (Meets.advance_one hrest' fun hnext' => ?_)
  refine Meets.ite (fun hu => ?_) fun hu => ?_
  · rw [if_pos hu, ← hnext']
    refine Meets.seq (hunicode (p + 1 + 1)) (fun _ hnone => ?_) fun pushed q hle _ hpushed => ?_
    · rw [hnone]
      rfl
    · refine Meets.pure ⟨by omega, ?_⟩
      rw [hpushed]
      rfl
  · rw [if_neg hu]
    cases simpleEscape escaped with
    | some b =>
      refine Meets.pure ⟨by omega, ?_⟩
      rw [hnext']
      rfl
    | none => exact Meets.reject rfl

theorem stringWith_meets (hturns : payload.length < turns)
    {body : Bytes → Bytes → Option (Bytes × Bytes)} {unicode : Bytes → Option (Bytes × Bytes)}
    (hbody : StringLoop body unicode) {scanUnicode : Scan Unit Bytes}
    (hunicode : ∀ q, Meets payload limit scanUnicode k q
      (fun pushed r => unicode (payload.drop q) = some (pushed, payload.drop r))
      (fun _ => unicode (payload.drop q) = none)) :
    Meets payload limit (stringWith payload turns scanUnicode) k p
      (fun value q =>
        (Ipc.expect quote (payload.drop p)).bind (body []) = some (value, payload.drop q))
      (fun _ => (Ipc.expect quote (payload.drop p)).bind (body []) = none) := by
  refine Meets.bind (Meets.pass (fun hno => ?_) fun c rest hrest hc hnext => ?_)
  · rw [expect_eq_none hno]
    rfl
  rw [hrest, expect_cons hc, Option.bind_some, ← hnext]
  exact Meets.loop_reads (fun _ => body) (fun value rest => some (value, rest)) (fun _ => none)
    (fun _ value _ _ _ => stringTurn_meets hbody hunicode value) (n := turns) (by omega) (by omega)

theorem parseString_meets (hturns : payload.length < turns) :
    Meets payload limit (parseString payload turns) k p
      (fun value q => Ipc.parseString (payload.drop p) = some (value, payload.drop q))
      (fun _ => Ipc.parseString (payload.drop p) = none) :=
  stringWith_meets hturns parseStringBody_loop fun _ => skipUnicode_meets

/-! ### Numbers and literals -/

/-- The scanner passes what its counterpart passes. -/
def Passes (payload : Bytes) (limit : ℕ) (m : Scan Unit Unit) (k p : ℕ)
    (f : Bytes → Option Bytes) : Prop :=
  Meets payload limit m k p (fun _ q => f (payload.drop p) = some (payload.drop q))
    (fun _ => f (payload.drop p) = none)

theorem skipDigits_meets (hturns : payload.length < turns) {Q : Unit → ℕ → Prop} {R : Unit → Prop}
    (h : ∀ q, p ≤ q → q ≤ payload.length → payload.drop q = Ipc.skipDigits (payload.drop p) →
      Q () q) :
    Meets payload limit (skipDigits payload turns) k p Q R := by
  refine Meets.skipWhile (by omega) fun q hpq hq hrest => h q hpq hq ?_
  rw [hrest, skipDigits_eq_dropWhile]

theorem skipDigits1_passes (hturns : payload.length < turns) :
    Passes payload limit (skipDigits1 payload turns) k p Ipc.skipDigits1 := by
  unfold Passes
  rw [skipDigits1_eq]
  refine Meets.inside fun hp => Meets.bind (Meets.position ?_)
  refine Meets.bind (skipDigits_meets hturns fun q hpq hq hrest => ?_)
  rw [← hrest]
  refine Meets.bind (Meets.position (Meets.ite (fun hsame => Meets.reject ?_) fun hmoved => ?_))
  · rw [hsame, if_pos rfl]
  · exact Meets.pure (if_neg fun hsame => hmoved (eq_of_drop hp hq hsame))

/-- Digits were passed behind the position. -/
theorem lt_of_skipDigits {b : UInt8} {rest : Bytes} {q : ℕ} (hrest : payload.drop p = b :: rest)
    (hdigits : payload.drop q = Ipc.skipDigits rest) : p < q := by
  have hshorter := (List.dropWhile_suffix isDigit (l := rest)).length_le
  rw [← skipDigits_eq_dropWhile, ← hdigits, ← drop_succ hrest, List.length_drop,
    List.length_drop] at hshorter
  have hlt := lt_of_drop hrest
  omega

theorem skipInteger_meets (hturns : payload.length < turns) :
    Meets payload limit (skipInteger payload turns) k p
      (fun _ q => p < q ∧ Ipc.skipInteger (payload.drop p) = some (payload.drop q))
      (fun _ => Ipc.skipInteger (payload.drop p) = none) := by
  refine Meets.bind (Meets.here (fun hnil => ?_) fun b rest hrest => ?_)
  · rw [hnil]
    rfl
  rw [hrest, Ipc.skipInteger]
  refine Meets.ite (fun hzero => ?_) fun hzero => ?_
  · refine Meets.advance_one hrest fun hnext => ⟨Nat.lt_succ_self p, ?_⟩
    rw [if_pos hzero, hnext]
  refine Meets.ite (fun hout => Meets.reject ?_) fun hout => ?_
  · rw [if_neg hzero, if_pos hout]
  refine skipDigits_meets hturns fun q hpq hq hdigits => ?_
  have hdigits' : payload.drop q = Ipc.skipDigits rest := by
    rw [hdigits, hrest]
    exact if_pos (isDigit_of_range hout)
  refine ⟨lt_of_skipDigits hrest hdigits', ?_⟩
  rw [if_neg hzero, if_neg hout, hdigits']

theorem fraction_passes {digits : Scan Unit Unit}
    (hdigits : ∀ q, Passes payload limit digits k q Ipc.skipDigits1) :
    Passes payload limit (fraction payload digits) k p Ipc.skipFraction := by
  unfold Passes
  refine Meets.bind (Meets.consume (fun hno => Meets.when nofun fun _ => ?_)
    fun b rest hrest hdot hnext => Meets.when (fun _ => ?_) (absurd rfl))
  · cases hrest : payload.drop p with
    | nil => rfl
    | cons b rest =>
      rw [hrest] at hno
      exact if_neg (beq_eq_false_iff_ne.mp hno)
  · have hfraction : Ipc.skipFraction (payload.drop p) = Ipc.skipDigits1 (payload.drop (p + 1)) := by
      rw [hrest, hnext]
      exact if_pos (beq_iff_eq.mp hdot)
    rw [hfraction]
    exact hdigits _

theorem exponent_passes {digits : Scan Unit Unit}
    (hdigits : ∀ q, Passes payload limit digits k q Ipc.skipDigits1) :
    Passes payload limit (exponent payload digits) k p Ipc.skipExponent := by
  unfold Passes
  refine Meets.bind (Meets.consume (fun hno => Meets.when nofun fun _ => ?_)
    fun b rest hrest he hnext => Meets.when (fun _ => ?_) (absurd rfl))
  · cases hrest : payload.drop p with
    | nil => rfl
    | cons b rest =>
      rw [hrest] at hno
      refine if_neg fun he => ?_
      have hyes : (b == ascii 'e' || b == ascii 'E') = true := by
        rw [Bool.or_eq_true, beq_iff_eq, beq_iff_eq]
        exact he
      exact Bool.eq_false_iff.mp hno hyes
  · rw [Bool.or_eq_true, beq_iff_eq, beq_iff_eq] at he
    have hexponent : Ipc.skipExponent (payload.drop p) =
        Ipc.skipDigits1 (skipSign (payload.drop (p + 1))) := by
      rw [hrest, hnext]
      exact if_pos he
    rw [hexponent]
    refine Meets.bind (Meets.consume (fun hno => ?_) fun b rest hrest hsign hnext => ?_)
    · have hsame : skipSign (payload.drop (p + 1)) = payload.drop (p + 1) := by
        cases hrest : payload.drop (p + 1) with
        | nil => rfl
        | cons b rest =>
          rw [hrest] at hno
          refine if_neg fun hsign => ?_
          have hyes : (b == ascii '+' || b == ascii '-') = true := by
            rw [Bool.or_eq_true, beq_iff_eq, beq_iff_eq]
            exact hsign
          exact Bool.eq_false_iff.mp hno hyes
      rw [hsame]
      exact hdigits _
    · rw [Bool.or_eq_true, beq_iff_eq, beq_iff_eq] at hsign
      have hpassed : skipSign (payload.drop (p + 1)) = payload.drop (p + 1 + 1) := by
        rw [hrest, hnext]
        exact if_pos hsign
      rw [hpassed]
      exact hdigits _

theorem skipMinus_meets {R : Unit → Prop} :
    Meets payload limit (consume payload (· == ascii '-')) k p
      (fun _ q => skipMinus (payload.drop p) = payload.drop q) R := by
  refine Meets.consume (fun hno => ?_) fun b rest hrest hminus hnext => ?_
  · cases hrest : payload.drop p with
    | nil => rfl
    | cons b rest =>
      rw [hrest] at hno
      exact if_neg (beq_eq_false_iff_ne.mp hno)
  · rw [hrest, hnext]
    exact if_pos (beq_iff_eq.mp hminus)

/-- What follows the sign; the digits that were passed have moved the position. -/
theorem number_passes {integer digits : Scan Unit Unit} {skipInteger : Bytes → Option Bytes}
    (hinteger : Meets payload limit integer k p
      (fun _ q => p < q ∧ skipInteger (payload.drop p) = some (payload.drop q))
      (fun _ => skipInteger (payload.drop p) = none))
    (hdigits : ∀ q, Passes payload limit digits k q Ipc.skipDigits1) {start : ℕ} (hstart : start ≤ p) :
    Passes payload limit
      (do
        integer
        fraction payload digits
        exponent payload digits
        let pos ← position
        if start < pos then pure () else reject ())
      k p (fun s => (skipInteger s).bind fun rest =>
        (Ipc.skipFraction rest).bind Ipc.skipExponent) := by
  unfold Passes
  dsimp only
  refine Meets.seq hinteger (fun _ hnone => ?_) ?_
  · rw [hnone]
    rfl
  rintro _ q - - ⟨hmoved, hpassed⟩
  rw [hpassed, Option.bind_some]
  refine Meets.seq (fraction_passes hdigits) (fun _ hnone => ?_) ?_
  · rw [hnone]
    rfl
  intro _ r hqr _ hfraction
  rw [hfraction, Option.bind_some]
  refine Meets.seq (exponent_passes hdigits) (fun _ hnone => hnone) ?_
  intro _ r' hrr' _ hexponent
  refine Meets.bind (Meets.position (Meets.ite (fun _ => Meets.pure hexponent) fun hstays => ?_))
  exact absurd (show start < r' by omega) hstays

theorem skipNumber_passes (hturns : payload.length < turns) :
    Passes payload limit (skipNumber payload turns) k p Ipc.skipNumber := by
  have hnumber : Ipc.skipNumber (payload.drop p) =
      (Ipc.skipInteger (skipMinus (payload.drop p))).bind fun rest =>
        (Ipc.skipFraction rest).bind Ipc.skipExponent := rfl
  unfold Passes
  rw [hnumber]
  refine Meets.bind (Meets.position (Meets.seq skipMinus_meets (fun _ h => h) ?_))
  intro _ q hpq _ hminus
  rw [hminus]
  exact number_passes (skipInteger_meets hturns) (fun _ => skipDigits1_passes hturns) hpq

/-- The literal is compared `i` bytes behind the position. -/
theorem skipLiteralFrom_meets (literal : Bytes) (i : ℕ) (hi : p + i ≤ payload.length) :
    Meets payload limit (skipLiteralFrom payload i literal) k p
      (fun _ q => literal.isPrefixOf (payload.drop (p + i)) = true ∧ q = p + i + literal.length)
      (fun _ => literal.isPrefixOf (payload.drop (p + i)) = false) := by
  induction literal generalizing i with
  | nil =>
    refine Meets.advance hi ⟨?_, rfl⟩
    cases payload.drop (p + i) <;> rfl
  | cons c literal ih =>
    refine Meets.bind (Meets.position ?_)
    cases hrest : payload.drop (p + i) with
    | nil =>
      have hend := le_of_drop_nil hrest
      exact Meets.ite (fun _ => Meets.reject rfl) fun hlt => absurd hend hlt
    | cons b rest =>
      have hlt := lt_of_drop hrest
      refine Meets.ite (fun hend => absurd hend (by omega)) fun _ => ?_
      refine Meets.bind (Meets.look (getElem?_of_drop hrest) ?_)
      rw [List.isPrefixOf]
      refine Meets.ite (fun hne => Meets.reject ?_) fun heq => ?_
      · rw [beq_eq_false_iff_ne.mpr (Ne.symm hne), Bool.false_and]
      · rw [Decidable.not_not.mp heq, BEq.rfl, Bool.true_and, ← drop_succ hrest, Nat.add_assoc]
        refine Meets.mono (ih (i + 1) hlt) (fun _ hno => hno) ?_
        rintro _ q - - ⟨hpre, rfl⟩
        refine ⟨hpre, ?_⟩
        rw [List.length_cons]
        omega

theorem skipLiteral_passes (literal : Bytes) :
    Passes payload limit (skipLiteral payload literal) k p (Ipc.skipLiteral literal) := by
  refine Meets.inside fun hp => ?_
  refine Meets.mono (skipLiteralFrom_meets literal 0 hp) (fun _ hno => ?_) ?_
  · exact if_neg (Bool.eq_false_iff.mp hno)
  · rintro _ q - - ⟨hpre, rfl⟩
    refine (if_pos hpre).trans ?_
    rw [List.drop_drop]
    rfl

theorem uint64Turn_meets {result : UInt64} :
    Meets payload limit (uint64Turn payload result) k p
      (fun next q => next.elim
        (fun read => p < q ∧
          parseUint64Digits read (payload.drop q) = parseUint64Digits result (payload.drop p))
        fun read => parseUint64Digits result (payload.drop p) = some (read, payload.drop q))
      (fun _ => parseUint64Digits result (payload.drop p) = none) := by
  refine Meets.bind (Meets.sees ?_)
  cases hrest : payload.drop p with
  | nil => exact Meets.pure (by rw [hrest]; rfl)
  | cons b rest =>
    rw [parseUint64Digits]
    refine Meets.ite (fun hdigit => ?_) fun hdigit => ?_
    · have hdigit' : isDigit b = true := hdigit
      rw [if_pos hdigit']
      refine Meets.bind (Meets.position (Meets.bind (Meets.look (getElem?_of_drop hrest) ?_)))
      refine Meets.ite (fun hover => Meets.reject (if_pos hover)) fun hover => ?_
      refine Meets.bind (Meets.advance_one hrest fun hnext => ?_)
      refine Meets.pure ⟨Nat.lt_succ_self p, ?_⟩
      rw [hnext]
      exact (if_neg hover).symm
    · refine Meets.pure ((if_neg hdigit).trans ?_)
      rw [hrest]

theorem parseUint64_meets (hturns : payload.length < turns) :
    Meets payload limit (parseUint64 payload turns) k p
      (fun parsed q => Ipc.parseUint64 (payload.drop p) = some (parsed, payload.drop q))
      (fun _ => Ipc.parseUint64 (payload.drop p) = none) := by
  refine Meets.bind (Meets.sees ?_)
  cases hrest : payload.drop p with
  | nil => exact Meets.reject rfl
  | cons b rest =>
    rw [Ipc.parseUint64]
    refine Meets.ite (fun hdigit => ?_) fun hdigit => Meets.reject (if_neg hdigit)
    have hdigit' : isDigit b = true := hdigit
    rw [if_pos hdigit', ← hrest]
    exact Meets.loop_reads (fun _ => parseUint64Digits) (fun parsed rest => some (parsed, rest))
      (fun _ => none) (fun _ _ _ _ _ => uint64Turn_meets) (n := turns) (by omega) (by omega)

/-! ### Values -/

/-- A turn that gets this far has moved the position. -/
theorem closes_meets (hturns : payload.length < turns) (close : UInt8) :
    Meets payload limit (closes payload turns close) k p
      (fun closed q => p < q ∧ afterItem close (payload.drop p) = some (closed, payload.drop q))
      (fun _ => afterItem close (payload.drop p) = none) := by
  unfold afterItem
  refine Meets.bind (skipWs_meets hturns fun q hpq _ hrest => ?_)
  rw [← hrest]
  refine Meets.bind (Meets.here (fun hnil => ?_) fun b rest hrest => ?_)
  · rw [hnil]
  rw [hrest]
  refine Meets.ite (fun hclose => ?_) fun hclose => ?_
  · refine Meets.bind (Meets.advance_one hrest fun hnext => Meets.pure ⟨by omega, ?_⟩)
    simp only [if_pos hclose, hnext]
  simp only [if_neg hclose]
  refine Meets.ite (fun hcomma => Meets.reject (if_pos hcomma)) fun hcomma => ?_
  simp only [if_neg hcomma]
  refine Meets.bind (Meets.advance_one hrest fun hnext => ?_)
  refine Meets.bind (skipWs_meets hturns fun r hqr _ hskipped => Meets.pure ⟨by omega, ?_⟩)
  rw [hskipped, hnext]

/-- The loop over the items, whose turns end with `closes`. -/
theorem items_meets {item : Scan Unit Unit} {skipItem : Bytes → Option Bytes}
    (hitem : ∀ q, Passes payload limit item k q skipItem) {closes : Scan Unit Bool} {close : UInt8}
    (hcloses : ∀ q, Meets payload limit closes k q
      (fun closed r => q < r ∧ afterItem close (payload.drop q) = some (closed, payload.drop r))
      (fun _ => afterItem close (payload.drop q) = none))
    {n : ℕ} (hturns : payload.length < p + turns) (hn : payload.length < p + n) :
    Passes payload limit (loop (fun _ => turn (itemTurn item closes)) turns ()) k p
      (skipItems skipItem close n) := by
  refine Meets.loop_reads (fun n _ => skipItems skipItem close n) (fun _ rest => some rest)
    (fun _ => none) (fun n _ q _ _ => Meets.turn ?_) hturns hn
  refine Meets.seq (hitem q) (fun _ hnone => ?_) ?_
  · rw [skipItems_step, hnone]
    rfl
  intro _ r _ _ hpassed
  refine Meets.seq (hcloses r) (fun _ hnone => ?_) ?_
  · rw [skipItems_step, hpassed, Option.bind_some, hnone]
    rfl
  rintro closed r' - - ⟨hmoved, hafter⟩
  have hstep := skipItems_step skipItem close n (payload.drop q)
  rw [hpassed, Option.bind_some, hafter] at hstep
  cases closed with
  | true => exact Meets.pure ⟨by omega, hstep⟩
  | false => exact Meets.pure ⟨by omega, by omega, hstep.symm⟩

/-- What both readers do between brackets. -/
theorem brackets_passes (hturns : payload.length < turns) {item : Scan Unit Unit}
    {skipItem : Bytes → Option Bytes} (hitem : ∀ q, Passes payload limit item k q skipItem)
    (start close : UInt8) {closes : Scan Unit Bool}
    (hcloses : ∀ q, Meets payload limit closes k q
      (fun closed r => q < r ∧ afterItem close (payload.drop q) = some (closed, payload.drop r))
      (fun _ => afterItem close (payload.drop q) = none)) :
    Passes payload limit
      (do
        pass payload (· == start) ()
        skipWs payload turns
        let closed ← consume payload (· == close)
        if closed then pure () else loop (fun _ => turn (itemTurn item closes)) turns ())
      k p (Ipc.skipBracketed skipItem start close) := by
  unfold Passes
  rw [skipBracketed_eq]
  refine Meets.bind (Meets.pass (fun hno => ?_) fun c rest hrest hc hnext => ?_)
  · rw [expect_eq_none hno]
    rfl
  have hlength : (payload.drop p).length = payload.length - p := List.length_drop
  rw [hlength, hrest, expect_cons hc, ← hnext]
  have hlt := lt_of_drop hrest
  refine Meets.bind (skipWs_meets hturns fun q hpq hq hskipped => ?_)
  rw [Option.bind_some, ← hskipped]
  refine Meets.bind (Meets.consume (fun hno => ?_) fun c rest hrest hc hnext => ?_)
  · rw [expect_eq_none hno]
    exact items_meets hitem hcloses (by omega) (by omega)
  · rw [hrest, expect_cons hc, ← hnext]
    exact Meets.pure rfl

theorem skipBracketed_passes (hturns : payload.length < turns) {item : Scan Unit Unit}
    {skipItem : Bytes → Option Bytes} (hitem : ∀ q, Passes payload limit item k q skipItem)
    (start close : UInt8) {depth : ℕ} (hdepth : depth ≤ kMaxJsonDepth) :
    Passes payload limit (skipBracketed payload turns item start close depth) k p
      (Ipc.skipBracketed skipItem start close) :=
  Meets.ite (fun hdeep => absurd hdeep (by omega)) fun _ =>
    brackets_passes hturns hitem start close fun _ => closes_meets hturns close

theorem keyWith_meets (hturns : payload.length < turns) {readString : Scan Unit Bytes}
    {read : Bytes → Option (Bytes × Bytes)}
    (hread : ∀ q, Meets payload limit readString k q
      (fun value r => read (payload.drop q) = some (value, payload.drop r))
      (fun _ => read (payload.drop q) = none)) :
    Meets payload limit (keyWith payload turns readString) k p
      (fun key q => keyBehind read (payload.drop p) = some (key, payload.drop q))
      (fun _ => keyBehind read (payload.drop p) = none) := by
  unfold keyBehind
  refine Meets.seq (hread p) (fun _ hnone => ?_) ?_
  · rw [hnone]
    rfl
  intro key q _ _ hstring
  rw [hstring, Option.bind_some]
  refine Meets.bind (skipWs_meets hturns fun r _ _ hskipped => ?_)
  rw [← hskipped]
  refine Meets.bind (Meets.pass (fun hno => ?_) fun c rest hrest hc hnext => ?_)
  · rw [expect_eq_none hno]
    rfl
  · rw [hrest, expect_cons hc]
    refine Meets.bind (skipWs_meets hturns fun r' _ _ hskipped' => Meets.pure ?_)
    rw [hskipped', hnext]
    rfl

theorem memberKey_meets (hturns : payload.length < turns) :
    Meets payload limit (memberKey payload turns) k p
      (fun key q => Ipc.memberKey (payload.drop p) = some (key, payload.drop q))
      (fun _ => Ipc.memberKey (payload.drop p) = none) :=
  keyWith_meets hturns fun _ => parseString_meets hturns

/-- A member is passed if its key is read and its value is passed. -/
theorem member_passes {key : Scan Unit Bytes} {readKey : Bytes → Option (Bytes × Bytes)}
    (hkey : Meets payload limit key k p
      (fun name q => readKey (payload.drop p) = some (name, payload.drop q))
      (fun _ => readKey (payload.drop p) = none))
    {element : Scan Unit Unit} {skipElement : Bytes → Option Bytes}
    (helement : ∀ q, Passes payload limit element k q skipElement) :
    Passes payload limit
      (do
        let _ ← key
        element)
      k p (fun s => (readKey s).bind fun member => skipElement member.2) := by
  unfold Passes
  dsimp only
  refine Meets.seq hkey (fun _ hnone => ?_) ?_
  · rw [hnone]
    rfl
  intro name q _ _ hread
  rw [hread, Option.bind_some]
  exact helement q

theorem skipMember_passes (hturns : payload.length < turns) {element : Scan Unit Unit}
    {skipElement : Bytes → Option Bytes}
    (helement : ∀ q, Passes payload limit element k q skipElement) :
    Passes payload limit (skipMember payload turns element) k p (Ipc.skipMember skipElement) :=
  member_passes (memberKey_meets hturns) helement

/-- **`skip_value` at every depth**: the levels that are left bound the calls, and with them the
recursion. -/
theorem skipValue_passes (hturns : payload.length < turns) (levels calls depth : ℕ)
    (hdepth : depth + levels = kMaxJsonDepth + 1) (hcalls : levels < calls)
    (hlimit : k + levels < limit) :
    Passes payload limit (skipValue payload turns calls depth) k p (Ipc.skipValue levels) := by
  induction levels generalizing calls depth k p with
  | zero =>
    obtain ⟨calls, rfl⟩ := Nat.exists_eq_add_of_lt hcalls
    rw [Nat.zero_add]
    refine Meets.call (by omega) (Meets.ite (fun _ => Meets.reject rfl) fun hdeep => ?_)
    exact absurd (show kMaxJsonDepth < depth by omega) hdeep
  | succ levels ih =>
    obtain ⟨calls, rfl⟩ := Nat.exists_eq_succ_of_ne_zero (Nat.ne_of_gt (Nat.zero_lt_of_lt hcalls))
    have hnested : ∀ q, Passes payload limit (skipValue payload turns calls (depth + 1)) (k + 1) q
        (Ipc.skipValue levels) := fun q =>
      ih calls (depth + 1) (by omega) (by omega) (by omega)
    refine Meets.call (by omega) ?_
    rw [Ipc.skipValue]
    refine Meets.ite (fun hdeep => absurd hdeep (by omega)) fun _ => ?_
    refine Meets.bind (skipWs_meets hturns fun q _ _ hskipped => ?_)
    rw [← hskipped]
    refine Meets.bind (Meets.here (fun hnil => ?_) fun b rest hrest => ?_)
    · rw [hnil]
    rw [hrest]
    dsimp only
    rw [← hrest]
    refine Meets.ite (fun hquote => ?_) fun hquote => ?_
    · rw [if_pos hquote]
      refine Meets.seq (parseString_meets hturns) (fun _ hnone => ?_) fun value r _ _ hread => ?_
      · rw [hnone]
        rfl
      · exact Meets.pure (by rw [hread]; rfl)
    rw [if_neg hquote]
    refine Meets.ite (fun hobject => ?_) fun hobject => ?_
    · rw [if_pos hobject]
      exact skipBracketed_passes hturns (fun r => skipMember_passes hturns hnested) openBrace
        closeBrace (by omega)
    rw [if_neg hobject]
    refine Meets.ite (fun harray => ?_) fun harray => ?_
    · rw [if_pos harray]
      exact skipBracketed_passes hturns hnested (ascii '[') (ascii ']') (by omega)
    rw [if_neg harray]
    refine Meets.ite (fun htrue => ?_) fun htrue => ?_
    · rw [if_pos htrue]
      exact skipLiteral_passes (text "true")
    rw [if_neg htrue]
    refine Meets.ite (fun hfalse => ?_) fun hfalse => ?_
    · rw [if_pos hfalse]
      exact skipLiteral_passes (text "false")
    rw [if_neg hfalse]
    refine Meets.ite (fun hnull => ?_) fun hnull => ?_
    · rw [if_pos hnull]
      exact skipLiteral_passes (text "null")
    rw [if_neg hnull]
    exact skipNumber_passes hturns

theorem skipMemberValue_passes (hturns : payload.length + kMaxJsonDepth < turns)
    (hlimit : k + kMaxJsonDepth < limit) :
    Passes payload limit (skipMemberValue payload turns) k p Ipc.skipMemberValue :=
  skipValue_passes (by omega) kMaxJsonDepth turns 1 (Nat.add_comm _ _) (by omega) hlimit

end Specifications

end NetworkService.Ipc.Indexed
