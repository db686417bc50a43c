import NetworkService.Ipc.IndexedReader
import NetworkService.Ipc.PayloadBounds

/-!
# The dispatcher's reader stays within the text

The specifications of `JsonReader`, which differs from the session's scanners in its strings, its
numbers and its members.
-/

namespace NetworkService.Ipc.JsonReader.Indexed

open Fallible Scanner
open Ipc.Indexed

section Specifications

variable {input : Bytes} {turns limit k p : ℕ}

/-! ### Strings -/

theorem hexDigit_meets {value : ℕ} {c : UInt8} {rest : Bytes} {Q : ℕ → ℕ → Prop} {R : Unit → Prop}
    (hrest : input.drop p = c :: rest) (hno : hexValue c = none → R ())
    (hyes : ∀ h, hexValue c = some h → input.drop (p + 1) = rest → Q (value <<< 4 ||| h) (p + 1)) :
    Meets input limit (hexDigit input value) k p Q R := by
  refine Meets.bind (Meets.position (Meets.bind (Meets.look (getElem?_of_drop hrest) ?_)))
  refine Meets.bind (Meets.advance_one hrest fun hnext => ?_)
  cases hc : hexValue c with
  | none => exact Meets.reject (hno hc)
  | some h => exact Meets.pure (hyes h hc hnext)

/-- Four digits and the rest of the text behind them. -/
def readHex4 : Bytes → Option (ℕ × Bytes)
  | h₀ :: h₁ :: h₂ :: h₃ :: rest => (JsonReader.parseHex4 h₀ h₁ h₂ h₃).map fun value => (value, rest)
  | _ => none

/-- The `\u` of a low surrogate. -/
def readEscape : Bytes → Option Bytes
  | b :: u :: rest => if b ≠ backslash ∨ u ≠ ascii 'u' then none else some rest
  | _ => none

/-- The bytes that a `\u` pushes, and the rest of the text behind it. -/
def readUnicode (s : Bytes) : Option (Bytes × Bytes) :=
  (readHex4 s).bind fun high =>
    if 0xd800 ≤ high.1 ∧ high.1 ≤ 0xdbff then
      (readEscape high.2).bind fun rest => (readHex4 rest).bind fun low =>
        if low.1 < 0xdc00 ∨ 0xdfff < low.1 then none
        else (appendUtf8 (0x10000 + (high.1 - 0xd800) <<< 10 + (low.1 - 0xdc00))).map fun pushed =>
          (pushed, low.2)
    else (appendUtf8 high.1).map fun pushed => (pushed, high.2)

theorem parseHex4_meets :
    Meets input limit (parseHex4 input) k p
      (fun value q => readHex4 (input.drop p) = some (value, input.drop q))
      (fun _ => readHex4 (input.drop p) = none) := by
  refine Meets.bind (Meets.position ?_)
  obtain ⟨hlength, hfew⟩ | ⟨h₀, h₁, h₂, h₃, rest, hrest⟩ := four_left input p
  · refine Meets.ite (fun _ => Meets.reject ?_) fun hnot => absurd hlength hnot
    generalize input.drop p = left at hfew ⊢
    rcases left with _ | ⟨h₀, _ | ⟨h₁, _ | ⟨h₂, _ | ⟨h₃, rest⟩⟩⟩⟩
    case cons.cons.cons.cons =>
      simp only [List.length_cons] at hfew
      omega
    all_goals rfl
  · have hlast := lt_of_drop (drop_succ (drop_succ (drop_succ hrest)))
    have hread : readHex4 (input.drop p) =
        (JsonReader.parseHex4 h₀ h₁ h₂ h₃).map fun value => (value, rest) := by
      rw [hrest]
      rfl
    rw [hread]
    unfold JsonReader.parseHex4
    refine Meets.ite (fun hshort => absurd hshort (by omega)) fun _ => ?_
    refine Meets.bind (hexDigit_meets hrest (fun hv₀ => ?_) fun v₀ hv₀ hrest₁ => ?_)
    · rw [hv₀]
      rfl
    refine Meets.bind (hexDigit_meets hrest₁ (fun hv₁ => ?_) fun v₁ hv₁ hrest₂ => ?_)
    · rw [hv₀, hv₁]
      rfl
    refine Meets.bind (hexDigit_meets hrest₂ (fun hv₂ => ?_) fun v₂ hv₂ hrest₃ => ?_)
    · rw [hv₀, hv₁, hv₂]
      rfl
    refine hexDigit_meets hrest₃ (fun hv₃ => ?_) fun v₃ hv₃ hrest₄ => ?_
    · rw [hv₀, hv₁, hv₂, hv₃]
      rfl
    · have hzero : 0 <<< 4 ||| v₀ = v₀ := by rw [Nat.zero_shiftLeft, Nat.zero_or]
      rw [hv₀, hv₁, hv₂, hv₃, hzero, hrest₄]
      rfl

theorem passEscape_meets :
    Meets input limit (passEscape input) k p
      (fun _ q => readEscape (input.drop p) = some (input.drop q))
      (fun _ => readEscape (input.drop p) = none) := by
  refine Meets.bind (Meets.position (Meets.ite (fun hshort => Meets.reject ?_) fun hlong => ?_))
  · have hlength : (input.drop p).length < 2 := by
      rw [List.length_drop]
      omega
    generalize input.drop p = left at hlength ⊢
    rcases left with _ | ⟨b, _ | ⟨u, rest⟩⟩
    case cons.cons =>
      simp only [List.length_cons] at hlength
      omega
    all_goals rfl
  cases hrest : input.drop p with
  | nil => exact absurd (le_of_drop_nil hrest) (by omega)
  | cons b rest =>
    have hnext := drop_succ hrest
    cases rest with
    | nil => exact absurd (le_of_drop_nil hnext) (by omega)
    | cons u rest =>
      rw [readEscape]
      refine Meets.bind (Meets.look (getElem?_of_drop hrest) ?_)
      refine Meets.ite (fun hb => Meets.reject (if_pos (.inl hb))) fun hb => ?_
      refine Meets.bind (Meets.look (getElem?_of_drop hnext) ?_)
      refine Meets.ite (fun hu => Meets.reject (if_pos (.inr hu))) fun hu => ?_
      refine Meets.advance (by omega) ((if_neg (not_or.mpr ⟨hb, hu⟩)).trans ?_)
      rw [← drop_succ hnext]

theorem push_meets {cp : ℕ} {rest : Bytes} {Q : Bytes → ℕ → Prop}
    (hQ : ∀ pushed, appendUtf8 cp = some pushed → Q pushed p) :
    Meets input limit (push cp) k p Q (fun _ => (appendUtf8 cp).map (fun pushed => (pushed, rest)) = none) := by
  unfold push
  cases hpushed : appendUtf8 cp with
  | none => exact Meets.reject rfl
  | some pushed => exact Meets.pure (hQ pushed hpushed)

theorem parseUnicode_meets :
    Meets input limit (parseUnicode input) k p
      (fun pushed q => readUnicode (input.drop p) = some (pushed, input.drop q))
      (fun _ => readUnicode (input.drop p) = none) := by
  unfold readUnicode
  refine Meets.seq parseHex4_meets (fun _ hnone => ?_) fun first q _ _ hfirst => ?_
  · rw [hnone]
    rfl
  rw [hfirst, Option.bind_some]
  refine Meets.ite (fun hhigh => ?_) fun hhigh => ?_
  · rw [if_pos hhigh]
    refine Meets.seq passEscape_meets (fun _ hnone => ?_) fun _ r _ _ hescape => ?_
    · rw [hnone]
      rfl
    rw [hescape, Option.bind_some]
    refine Meets.seq parseHex4_meets (fun _ hnone => ?_) fun second r' _ _ hsecond => ?_
    · rw [hnone]
      rfl
    rw [hsecond, Option.bind_some]
    refine Meets.ite (fun hlow => Meets.reject (if_pos hlow)) fun hlow => ?_
    rw [if_neg hlow]
    -- the code point is not evaluated
    dsimp only
    generalize 0x10000 + (first - 0xd800) <<< 10 + (second - 0xdc00) = cp
    refine push_meets fun pushed hpushed => ?_
    rw [hpushed, Option.map_some]
  · rw [if_neg hhigh]
    refine push_meets fun pushed hpushed => ?_
    rw [hpushed, Option.map_some]

theorem parseStringBody_unicode (out : Bytes) {c : UInt8} (hquote : ¬c = quote)
    (hcontrol : ¬c < 0x20) (hescape : ¬c ≠ backslash) (rest : Bytes) :
    JsonReader.parseStringBody out (c :: ascii 'u' :: rest) = (readUnicode rest).bind fun read =>
      JsonReader.parseStringBody (out ++ read.1) read.2 := by
  -- both sides as the recursion has them
  delta JsonReader.parseStringBody
  refine (if_neg hquote).trans ((if_neg hcontrol).trans ((if_neg hescape).trans ?_))
  refine (if_pos rfl).trans ?_
  unfold readUnicode
  rcases rest with _ | ⟨h₀, _ | ⟨h₁, _ | ⟨h₂, _ | ⟨h₃, rest⟩⟩⟩⟩
  case cons.cons.cons.cons =>
    with_reducible conv => lhs; whnf
    rw [readHex4]
    cases JsonReader.parseHex4 h₀ h₁ h₂ h₃ with
    | none => rfl
    | some first =>
      rw [Option.map_some, Option.bind_some]
      with_reducible conv => lhs; whnf
      by_cases hhigh : 0xd800 ≤ first ∧ first ≤ 0xdbff
      · refine (if_pos hhigh).trans ?_
        rw [if_pos hhigh]
        rcases rest with _ | ⟨b, _ | ⟨u, _ | ⟨l₀, _ | ⟨l₁, _ | ⟨l₂, _ | ⟨l₃, rest⟩⟩⟩⟩⟩⟩
        case cons.cons.cons.cons.cons.cons =>
          with_reducible conv => lhs; whnf
          rw [readEscape]
          by_cases hother : b ≠ backslash ∨ u ≠ ascii 'u'
          · refine (if_pos hother).trans ?_
            rw [if_pos hother]
            rfl
          refine (if_neg hother).trans ?_
          rw [if_neg hother, Option.bind_some, readHex4]
          cases JsonReader.parseHex4 l₀ l₁ l₂ l₃ with
          | none => rfl
          | some second =>
            rw [Option.map_some, Option.bind_some]
            with_reducible conv => lhs; whnf
            by_cases hlow : second < 0xdc00 ∨ 0xdfff < second
            · refine (if_pos hlow).trans ?_
              rw [if_pos hlow]
              rfl
            refine (if_neg hlow).trans ?_
            rw [if_neg hlow]
            cases appendUtf8 (0x10000 + (first - 0xd800) <<< 10 + (second - 0xdc00)) <;> rfl
        case nil => rfl
        case cons.nil => rfl
        -- too few digits behind what may be an escape
        all_goals
          rw [readEscape]
          split <;> rfl
      · refine (if_neg hhigh).trans ?_
        rw [if_neg hhigh]
        cases appendUtf8 first <;> rfl
  all_goals rfl

theorem parseStringBody_loop : StringLoop JsonReader.parseStringBody readUnicode where
  nil value := rfl
  cons value c rest := by
    by_cases hquote : c = quote
    · rw [if_pos hquote]
      delta JsonReader.parseStringBody
      exact if_pos hquote
    rw [if_neg hquote]
    by_cases hcontrol : c < 0x20
    · rw [if_pos hcontrol]
      delta JsonReader.parseStringBody
      exact (if_neg hquote).trans (if_pos hcontrol)
    rw [if_neg hcontrol]
    by_cases hplain : c ≠ backslash
    · rw [if_pos hplain]
      delta JsonReader.parseStringBody
      exact (if_neg hquote).trans ((if_neg hcontrol).trans (if_pos hplain))
    rw [if_neg hplain]
    cases rest with
    | nil =>
      delta JsonReader.parseStringBody
      exact (if_neg hquote).trans ((if_neg hcontrol).trans (if_neg hplain))
    | cons escaped rest =>
      rw [readEscaped]
      by_cases hu : escaped = ascii 'u'
      · rw [if_pos hu, hu, parseStringBody_unicode value hquote hcontrol hplain]
        cases readUnicode rest <;> rfl
      · rw [if_neg hu]
        delta JsonReader.parseStringBody
        refine (if_neg hquote).trans ((if_neg hcontrol).trans ((if_neg hplain).trans ?_))
        refine (if_neg hu).trans ?_
        cases simpleEscape escaped <;> rfl

theorem parseString_meets (hturns : input.length < turns) :
    Meets input limit (parseString input turns) k p
      (fun value q => JsonReader.parseString (input.drop p) = some (value, input.drop q))
      (fun _ => JsonReader.parseString (input.drop p) = none) :=
  stringWith_meets hturns parseStringBody_loop fun _ => parseUnicode_meets

/-! ### Numbers and literals -/

theorem skipDigits1_passes (hturns : input.length < turns) :
    Passes input limit (skipDigits1 input turns) k p Ipc.skipDigits1 := by
  refine Meets.bind (Meets.sees ?_)
  cases hrest : input.drop p with
  | nil => exact Meets.reject rfl
  | cons b rest =>
    refine Meets.ite (fun hdigit => ?_) fun hdigit => Meets.reject (if_neg hdigit)
    refine Ipc.Indexed.skipDigits_meets hturns fun q _ _ hdigits => (if_pos hdigit).trans ?_
    rw [hdigits, hrest, Ipc.skipDigits, if_pos (show isDigit b = true from hdigit)]

theorem skipInteger_meets (hturns : input.length < turns) :
    Meets input limit (skipInteger input turns) k p
      (fun _ q => p < q ∧ JsonReader.skipInteger (input.drop p) = some (input.drop q))
      (fun _ => JsonReader.skipInteger (input.drop p) = none) := by
  refine Meets.bind (Meets.here (fun hnil => ?_) fun b rest hrest => ?_)
  · rw [hnil]
    rfl
  rw [hrest, JsonReader.skipInteger.eq_def]
  dsimp only
  refine Meets.ite (fun hzero => ?_) fun hzero => ?_
  · rw [if_pos hzero]
    refine Meets.bind (Meets.advance_one hrest fun hnext => Meets.bind (Meets.sees ?_))
    rw [hnext]
    cases rest with
    | nil => exact Meets.pure ⟨Nat.lt_succ_self p, by rw [hnext]⟩
    | cons c rest =>
      refine Meets.ite (fun hdigit => Meets.reject (if_pos hdigit)) fun hdigit => ?_
      refine Meets.pure ⟨Nat.lt_succ_self p, (if_neg hdigit).trans ?_⟩
      rw [hnext]
  · rw [if_neg hzero]
    refine Meets.ite (fun hdigit => ?_) fun hdigit => Meets.reject (if_neg hdigit)
    rw [if_pos hdigit]
    refine Ipc.Indexed.skipDigits_meets hturns fun q hpq hq hdigits => ?_
    have hdigits' : input.drop q = Ipc.skipDigits rest := by
      rw [hdigits, hrest]
      exact if_pos hdigit
    exact ⟨lt_of_skipDigits hrest hdigits', by rw [hdigits']⟩

theorem skipNumber_eq (s : Bytes) :
    JsonReader.skipNumber s = (JsonReader.skipInteger (skipMinus s)).bind fun rest =>
      (Ipc.skipFraction rest).bind Ipc.skipExponent := rfl

theorem skipNumber_passes (hturns : input.length < turns) :
    Passes input limit (skipNumber input turns) k p JsonReader.skipNumber := by
  unfold Passes
  rw [skipNumber_eq]
  refine Meets.bind (Meets.position (Meets.seq skipMinus_meets (fun _ h => h) ?_))
  intro minus q hpq _ hminus
  rw [hminus]
  refine Meets.bind (Meets.position (Meets.ite (fun hend => Meets.reject ?_) fun _ => ?_))
  · rw [List.drop_eq_nil_of_le hend.2]
    rfl
  exact number_passes (skipInteger_meets hturns) (fun _ => skipDigits1_passes hturns) hpq

theorem literal_passes (word : Bytes) :
    Passes input limit (literal input word) k p (Ipc.skipLiteral word) := by
  refine Meets.inside fun hp => Meets.bind (Meets.position (Meets.bind (Meets.slice hp ?_)))
  have hbegins : word.isPrefixOf (input.drop p) = true ↔
      (input.drop p).take word.length = word := by
    rw [List.isPrefixOf_iff_prefix, List.prefix_iff_eq_take]
    exact eq_comm
  refine Meets.ite (fun hother => Meets.reject (if_neg fun h => hother (hbegins.mp h))) fun hword => ?_
  have hword : (input.drop p).take word.length = word := Decidable.not_not.mp hword
  have hlength := congrArg List.length hword
  rw [List.length_take, List.length_drop] at hlength
  refine Meets.advance (by omega) ((if_pos (hbegins.mpr hword)).trans ?_)
  rw [List.drop_drop]

/-! ### Values -/

theorem closes_meets (hturns : input.length < turns) (close : UInt8) (hcomma : ascii ',' ≠ close) :
    Meets input limit (closes input turns close) k p
      (fun closed q => p < q ∧ afterItem close (input.drop p) = some (closed, input.drop q))
      (fun _ => afterItem close (input.drop p) = none) := by
  unfold afterItem
  refine Meets.bind (skipWs_meets hturns fun q hpq _ hskipped => ?_)
  rw [← hskipped]
  refine Meets.bind (Meets.consume (fun hno => ?_) fun c rest hrest hc hnext => ?_)
  · refine Meets.bind (Meets.pass (fun hno' => ?_) fun c rest hrest hc hnext => ?_)
    · cases hrest : input.drop q with
      | nil => rfl
      | cons b rest =>
        rw [hrest] at hno hno'
        exact (if_neg (beq_eq_false_iff_ne.mp hno)).trans (if_pos (beq_eq_false_iff_ne.mp hno'))
    · have hc : c = ascii ',' := beq_iff_eq.mp hc
      rw [hrest]
      refine Meets.bind (skipWs_meets hturns fun r hqr _ hskipped' => Meets.pure ⟨by omega, ?_⟩)
      rw [hskipped', hnext, hc]
      exact (if_neg hcomma).trans (if_neg (not_not_intro rfl))
  · refine Meets.pure ⟨by omega, ?_⟩
    rw [hrest, hnext]
    exact if_pos (beq_iff_eq.mp hc)

theorem skipBracketed_passes (hturns : input.length < turns) {item : Scan Unit Unit}
    {skipItem : Bytes → Option Bytes} (hitem : ∀ q, Passes input limit item k q skipItem)
    (start close : UInt8) (hcomma : ascii ',' ≠ close) :
    Passes input limit (skipBracketed input turns item start close) k p
      (Ipc.skipBracketed skipItem start close) :=
  brackets_passes hturns hitem start close fun _ => closes_meets hturns close hcomma

theorem memberKey_meets (hturns : input.length < turns) :
    Meets input limit (memberKey input turns) k p
      (fun key q => JsonReader.memberKey (input.drop p) = some (key, input.drop q))
      (fun _ => JsonReader.memberKey (input.drop p) = none) :=
  keyWith_meets hturns fun _ => parseString_meets hturns

theorem skipMember_passes (hturns : input.length < turns) {element : Scan Unit Unit}
    {skipElement : Bytes → Option Bytes}
    (helement : ∀ q, Passes input limit element k q skipElement) :
    Passes input limit (skipMember input turns element) k p (JsonReader.skipMember skipElement) :=
  member_passes (memberKey_meets hturns) helement

theorem skipValue_passes (hturns : input.length < turns) (levels calls depth : ℕ)
    (hdepth : depth + levels = kMaxJsonDepth + 1) (hcalls : levels < calls)
    (hlimit : k + levels < limit) :
    Passes input limit (skipValue input turns calls depth) k p (JsonReader.skipValue levels) := by
  induction levels generalizing calls depth k p with
  | zero =>
    obtain ⟨calls, rfl⟩ := Nat.exists_eq_add_of_lt hcalls
    rw [Nat.zero_add]
    refine Meets.call (by omega) (Meets.ite (fun _ => Meets.reject rfl) fun hdeep => ?_)
    exact absurd (show kMaxJsonDepth < depth by omega) hdeep
  | succ levels ih =>
    obtain ⟨calls, rfl⟩ := Nat.exists_eq_succ_of_ne_zero (Nat.ne_of_gt (Nat.zero_lt_of_lt hcalls))
    have hnested : ∀ q, Passes input limit (skipValue input turns calls (depth + 1)) (k + 1) q
        (JsonReader.skipValue levels) := fun q =>
      ih calls (depth + 1) (by omega) (by omega) (by omega)
    refine Meets.call (by omega) ?_
    refine Meets.ite (fun hdeep => absurd hdeep (by omega)) fun _ => ?_
    refine Meets.bind (Meets.here (fun hnil => ?_) fun b rest hrest => ?_)
    · rw [hnil]
      rfl
    rw [hrest, JsonReader.skipValue, ← hrest]
    refine Meets.ite (fun hobject => ?_) fun hobject => ?_
    · rw [if_pos hobject]
      exact skipBracketed_passes hturns (fun r => skipMember_passes hturns hnested) openBrace
        closeBrace (by decide)
    rw [if_neg hobject]
    refine Meets.ite (fun harray => ?_) fun harray => ?_
    · rw [if_pos harray]
      exact skipBracketed_passes hturns hnested (ascii '[') (ascii ']') (by decide)
    rw [if_neg harray]
    refine Meets.ite (fun hquote => ?_) fun hquote => ?_
    · rw [if_pos hquote]
      refine Meets.seq (parseString_meets hturns) (fun _ hnone => ?_) fun value r _ _ hread => ?_
      · rw [hnone]
        rfl
      · exact Meets.pure (by rw [hread]; rfl)
    rw [if_neg hquote]
    refine Meets.ite (fun htrue => ?_) fun htrue => ?_
    · rw [if_pos htrue]
      exact literal_passes (text "true")
    rw [if_neg htrue]
    refine Meets.ite (fun hfalse => ?_) fun hfalse => ?_
    · rw [if_pos hfalse]
      exact literal_passes (text "false")
    rw [if_neg hfalse]
    refine Meets.ite (fun hnull => ?_) fun hnull => ?_
    · rw [if_pos hnull]
      exact literal_passes (text "null")
    rw [if_neg hnull]
    exact skipNumber_passes hturns

/-! ### Members -/

/-- What `find_member` has found behind a member with this value. -/
def keeps (wanted : Bytes) (found : Option Bytes) (key value rest : Bytes) : Option Bytes :=
  if key = wanted then some (value.take (value.length - rest.length)) else found

theorem findMembers_step (wanted : Bytes) (n : ℕ) (found : Option Bytes) (s : Bytes) :
    findMembers wanted (n + 1) found s = (JsonReader.memberKey s).bind fun member =>
      (JsonReader.skipValue (kMaxJsonDepth + 1) member.2).bind fun rest =>
        if member.1 = wanted ∧ found.isSome then none
        else
          goOn (fun behind => some (keeps wanted found member.1 member.2 rest, behind))
            (findMembers wanted n (keeps wanted found member.1 member.2 rest)) none
            (afterItem closeBrace rest) := by
  simp only [goOn_afterItem]
  rfl

theorem keepMember_meets (wanted : Bytes) (found : Option Bytes) (key : Bytes) {start stop : ℕ}
    (hstart : start ≤ input.length) (hstop : stop ≤ input.length) :
    Meets input limit (keepMember input wanted found key start stop) k p
      (fun kept q => q = p ∧ ¬(key = wanted ∧ found.isSome) ∧
        kept = keeps wanted found key (input.drop start) (input.drop stop))
      (fun _ => key = wanted ∧ found.isSome) := by
  unfold keeps
  refine Meets.ite (fun hkey => ?_) fun hkey => ?_
  · refine Meets.ite (fun htwice => Meets.reject ⟨hkey, htwice⟩) fun hfirst => ?_
    refine Meets.bind (Meets.slice hstart (Meets.pure ⟨rfl, fun h => hfirst h.2, ?_⟩))
    have hlength : (input.drop start).length - (input.drop stop).length = stop - start := by
      rw [List.length_drop, List.length_drop]
      omega
    rw [if_pos hkey, hlength]
  · exact Meets.pure ⟨rfl, fun h => hkey h.1, by rw [if_neg hkey]⟩

theorem memberTurn_meets (hturns : input.length + (kMaxJsonDepth + 1) < turns)
    (hlimit : k + (kMaxJsonDepth + 1) < limit) (wanted : Bytes) (n : ℕ) (found : Option Bytes) :
    Meets input limit (turn (memberTurn input turns wanted found)) k p
      (fun next q => next.elim
        (fun read => p < q ∧ findMembers wanted n read (input.drop q) =
          findMembers wanted (n + 1) found (input.drop p))
        fun read => findMembers wanted (n + 1) found (input.drop p) = some (read, input.drop q))
      (fun _ => findMembers wanted (n + 1) found (input.drop p) = none) := by
  rw [findMembers_step]
  refine Meets.turn (Meets.seq (memberKey_meets (by omega)) (fun _ hnone => ?_) ?_)
  · rw [hnone]
    rfl
  intro key q _ hq hkey
  rw [hkey, Option.bind_some]
  refine Meets.bind (Meets.position ?_)
  refine Meets.seq (skipValue_passes (by omega) (kMaxJsonDepth + 1) turns 0 (Nat.zero_add _) (by omega)
    hlimit) (fun _ hnone => ?_) ?_
  · rw [hnone]
    rfl
  intro _ r _ hr hpassed
  rw [hpassed, Option.bind_some]
  refine Meets.bind (Meets.position ?_)
  refine Meets.seq (keepMember_meets wanted found key hq hr) (fun _ htwice => if_pos htwice) ?_
  rintro kept _ - - ⟨rfl, hfirst, rfl⟩
  rw [if_neg hfirst]
  refine Meets.seq (closes_meets (by omega) closeBrace (by decide)) (fun _ hnone => ?_) ?_
  · rw [hnone]
    rfl
  rintro closed r' - - ⟨hmoved, hafter⟩
  rw [hafter]
  cases closed with
  | true => exact Meets.pure ⟨by omega, rfl⟩
  | false => exact Meets.pure ⟨by omega, by omega, rfl⟩

theorem foundAtEnd_meets (hturns : input.length < turns) (found : Option Bytes) :
    Meets input limit (foundAtEnd input turns found) k p
      (fun raw _ => (if Ipc.skipWs (input.drop p) = [] then found else none) = some raw)
      (fun _ => (if Ipc.skipWs (input.drop p) = [] then found else none) = none) := by
  refine Meets.bind (skipWs_meets hturns fun q _ hq hskipped => Meets.bind (Meets.position ?_))
  rw [← hskipped]
  have hatEnd : input.drop q = [] ↔ q = input.length := drop_eq_nil_iff hq
  cases found with
  | none => exact Meets.reject (ite_self _)
  | some raw =>
    exact Meets.ite (fun hend => Meets.pure (if_pos (hatEnd.mpr hend))) fun hmore =>
      Meets.reject (if_neg fun h => hmore (hatEnd.mp h))

theorem findMember_eq (object wanted : Bytes) :
    JsonReader.findMember object wanted =
      (Ipc.expect openBrace (Ipc.skipWs object)).bind fun rest =>
        if (Ipc.expect closeBrace (Ipc.skipWs rest)).isSome then none
        else (findMembers wanted object.length none (Ipc.skipWs rest)).bind fun read =>
          if Ipc.skipWs read.2 = [] then read.1 else none := rfl

/-- **`find_member` reads what its counterpart reads.** -/
theorem findMember_meets (hturns : input.length + (kMaxJsonDepth + 1) < turns)
    (hlimit : kMaxJsonDepth + 1 < limit) (wanted : Bytes) :
    Meets input limit (findMember input turns wanted) 0 0
      (fun raw _ => JsonReader.findMember input wanted = some raw)
      (fun _ => JsonReader.findMember input wanted = none) := by
  rw [findMember_eq]
  refine Meets.bind (skipWs_meets (by omega) fun q _ _ hskipped => ?_)
  have hfront : Ipc.skipWs input = input.drop q := hskipped.symm
  rw [hfront]
  refine Meets.bind (Meets.pass (fun hno => ?_) fun c rest hrest hc hnext => ?_)
  · rw [expect_eq_none hno]
    rfl
  rw [hrest, expect_cons hc, Option.bind_some, ← hnext]
  refine Meets.bind (skipWs_meets (by omega) fun r hqr _ hskipped => ?_)
  rw [← hskipped, expect_isSome]
  refine Meets.bind (Meets.consume (fun hmembers => ?_) fun c rest hrest hc _ => ?_)
  · rw [if_neg (Bool.eq_false_iff.mp hmembers)]
    refine Meets.seq (Meets.loop_reads (findMembers wanted) (fun found rest => some (found, rest))
      (fun _ => none) (fun n found _ _ _ => memberTurn_meets hturns (by omega) wanted n found)
      (n := input.length) (by omega) (by omega)) (fun _ hnone => ?_) ?_
    · rw [hnone]
      rfl
    intro found r' _ _ hread
    rw [hread]
    exact foundAtEnd_meets (by omega) found
  · -- an empty object
    refine Meets.bind (skipWs_meets (by omega) fun _ _ _ _ => Meets.reject ?_)
    rw [hrest]
    exact if_pos hc

end Specifications

end NetworkService.Ipc.JsonReader.Indexed
