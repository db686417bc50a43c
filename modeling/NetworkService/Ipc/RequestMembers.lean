import NetworkService.Ipc.Numbers
import NetworkService.Ipc.ScanningExact

/-!
# A request, member by member

On a payload that is an object of the standard, `parse_request` reads one member after the other:
what it makes of a member depends on the member alone, and not on the text around it.
-/

namespace NetworkService.Ipc

open Json

/-! ### One member -/

/-- The key of a member as `parse_string` reads it. -/
def readKey (member : Member) : Bytes := member.key.map pieceByte

/-- What `parse_request` makes of a member. -/
def readMember (out : ParsedRequest) (member : Member) : Except RequestParseError ParsedRequest :=
  (requestMember (readKey member) out member.value).map Prod.fst

/-- A value that is followed by something that ends a number. -/
structure Standing (value rest : Bytes) : Prop where
  value : ∃ d, Derives jsonSpace .value d value []
  rest : EndsNumber rest

theorem endsNumber_nil : EndsNumber [] := by
  intro b hb
  cases hb

theorem Standing.alone {value rest : Bytes} (h : Standing value rest) : Standing value [] :=
  ⟨h.value, endsNumber_nil⟩

/-- The scanner treats a value alike, wherever it stands. -/
theorem skipMemberValue_standing {value rest : Bytes} (h : Standing value rest) :
    skipMemberValue (value ++ rest) = (skipMemberValue value).map fun _ => rest := by
  obtain ⟨d, hderives⟩ := h.value
  unfold skipMemberValue
  cases halone : skipValue kMaxJsonDepth value with
  | some found =>
    have halone' : skipValue kMaxJsonDepth (value ++ []) = some found := by
      rw [List.append_nil]
      exact halone
    obtain ⟨-, hlevels⟩ := derives_of_skipValue hderives endsNumber_nil halone'
    rw [skipValue_of_derives hlevels h.rest]
    rfl
  | none =>
    cases hhere : skipValue kMaxJsonDepth (value ++ rest) with
    | none => rfl
    | some found =>
      obtain ⟨-, hlevels⟩ := derives_of_skipValue hderives h.rest hhere
      have hpassed := skipValue_of_derives hlevels endsNumber_nil
      rw [List.append_nil, halone] at hpassed
      cases hpassed

/-- A value that is passed at all is passed to its end. -/
theorem skipMemberValue_end {value rest found : Bytes} (h : Standing value rest)
    (hskip : skipMemberValue (value ++ rest) = some found) : found = rest := by
  obtain ⟨d, hderives⟩ := h.value
  exact (derives_of_skipValue hderives h.rest hskip).1

/-- What `parse_string` reads at the front of a value is the whole value. -/
theorem parseString_standing {value rest read found : Bytes} (h : Standing value rest)
    (hstring : parseString (value ++ rest) = some (read, found)) :
    ∃ pieces : List Piece, (∀ piece ∈ pieces, piece.Valid) ∧ value = quoted pieces [] ∧
      read = pieces.map pieceByte ∧ found = rest := by
  obtain ⟨d, hderives⟩ := h.value
  obtain ⟨pieces, hvalid, htext, hread⟩ := parseString_eq_some.mp hstring
  have hpassed : skipValue 1 (value ++ rest) = some found := by
    have hself : skipWs (quoted pieces found) = quoted pieces found :=
      skipWs_eq_self (dense_cons (by decide) _)
    rw [htext, skipValue, hself]
    show (parseString (quoted pieces found)).map Prod.snd = some found
    rw [parseString_eq_some.mpr ⟨pieces, hvalid, rfl, rfl⟩]
    rfl
  obtain ⟨rfl, -⟩ := derives_of_skipValue hderives h.rest hpassed
  refine ⟨pieces, hvalid, ?_, hread, rfl⟩
  have hsplit : value ++ found = quoted pieces [] ++ found := by
    rw [htext, quoted_append, List.nil_append]
  exact List.append_cancel_right hsplit

theorem parseString_local {value rest : Bytes} (h : Standing value rest) :
    parseString (value ++ rest) = (parseString value).map fun string => (string.1, rest) := by
  cases halone : parseString value with
  | some string =>
    obtain ⟨read, found⟩ := string
    rw [← List.append_nil value] at halone
    obtain ⟨pieces, hvalid, rfl, rfl, -⟩ := parseString_standing h.alone halone
    rw [quoted_append, List.nil_append]
    exact parseString_eq_some.mpr ⟨pieces, hvalid, rfl, rfl⟩
  | none =>
    cases hhere : parseString (value ++ rest) with
    | none => rfl
    | some string =>
      obtain ⟨read, found⟩ := string
      obtain ⟨pieces, hvalid, rfl, -, -⟩ := parseString_standing h hhere
      rw [parseString_eq_some.mpr ⟨pieces, hvalid, rfl, rfl⟩] at halone
      cases halone

/-! ### The id -/

/-- Behind its digits a number ends or has a fraction or an exponent. -/
theorem number_tail {u v : Bytes} (hfraction : Fraction u v) (hexponent : Exponent v []) :
    (u = [] ∨ continuesNumber u = true) ∧ ∀ b ∈ u.head?, digit b = false := by
  cases hfraction with
  | digits _ =>
    refine ⟨.inr rfl, ?_⟩
    rintro b ⟨⟩
    rfl
  | none =>
    cases hexponent with
    | none => exact ⟨.inl rfl, by rintro b ⟨⟩⟩
    | digits he _ _ =>
      refine ⟨.inr ?_, ?_⟩
      · rcases he with rfl | rfl <;> rfl
      · rintro b ⟨⟩
        rcases he with rfl | rfl <;> rfl

/-- A value that begins with a digit is a number. -/
theorem number_of_digit {d : ℕ} {b : UInt8} {s : Bytes} (hb : digit b = true)
    (h : Derives jsonSpace .value d (b :: s) []) : Number (b :: s) [] := by
  generalize htext : b :: s = t at h
  generalize hend : ([] : Bytes) = rest at h
  cases h with
  | number h => exact h
  | string _ =>
    obtain ⟨rfl, -⟩ := List.cons.inj htext
    cases hb
  | literal hl =>
    rcases literal_cases hl with rfl | rfl | rfl
    all_goals
      obtain ⟨rfl, -⟩ := List.cons.inj htext
      cases hb
  | emptyArray _ =>
    obtain ⟨rfl, -⟩ := List.cons.inj htext
    cases hb
  | array _ _ =>
    obtain ⟨rfl, -⟩ := List.cons.inj htext
    cases hb
  | emptyObject _ =>
    obtain ⟨rfl, -⟩ := List.cons.inj htext
    cases hb
  | object _ _ =>
    obtain ⟨rfl, -⟩ := List.cons.inj htext
    cases hb

/-- The digits at the front of a value: they are all of it, without a leading zero, or the number
goes on with a fraction or an exponent. -/
theorem digits_of_value {d : ℕ} {b : UInt8} {digits tail : Bytes}
    (hdigits : ∀ c ∈ b :: digits, digit c = true) (htail : ∀ c ∈ tail.head?, digit c = false)
    (h : Derives jsonSpace .value d (b :: digits ++ tail) []) :
    (tail = [] ∨ continuesNumber tail = true) ∧ (b = 0x30 → digits = []) := by
  obtain ⟨hb, hrun⟩ := List.forall_mem_cons.mp hdigits
  have hspan : Span digit (digits ++ tail) tail := ⟨digits, rfl, hrun⟩
  rw [List.cons_append] at h
  generalize htext : digits ++ tail = text at h hspan
  obtain ⟨t, u, v, hsign, hinteger, hfraction, hexponent⟩ := (number_of_digit hb h).parts
  obtain ⟨hcontinues, hu⟩ := number_tail hfraction hexponent
  cases hsign with
  | minus => cases hb
  | none =>
    cases hinteger with
    | zero =>
      -- behind a zero no digit follows
      obtain rfl : digits = [] := by
        cases digits with
        | nil => rfl
        | cons c digits =>
          have hc := hu c (by rw [← htext]; rfl)
          rw [hrun c List.mem_cons_self] at hc
          cases hc
      obtain rfl : tail = text := htext
      exact ⟨hcontinues, fun _ => rfl⟩
    | digits _ hne hspan' =>
      obtain rfl : tail = u :=
        (skipDigits_of_span hspan htail).symm.trans (skipDigits_of_span hspan' hu)
      exact ⟨hcontinues, fun hzero => absurd hzero hne⟩

theorem continuesNumber_append {tail rest : Bytes} (htail : tail ≠ []) :
    continuesNumber (tail ++ rest) = continuesNumber tail := by
  cases tail with
  | nil => exact absurd rfl htail
  | cons b tail => rfl

theorem continuesNumber_of_ends {rest : Bytes} (h : EndsNumber rest) :
    continuesNumber rest = false := by
  cases rest with
  | nil => rfl
  | cons b rest =>
    obtain ⟨-, hdot, he, hE⟩ := h b rfl
    have hdot' : b ≠ ascii '.' := hdot
    have he' : b ≠ ascii 'e' := he
    have hE' : b ≠ ascii 'E' := hE
    simp [continuesNumber, hdot', he', hE']

/-- The value of `requestId`: digits alone, for a number that is not zero and fits. -/
def idOfValue (value : Bytes) : Option UInt64 :=
  if value ≠ [] ∧ value.all digit = true ∧ 0 < natOfDigits value ∧ natOfDigits value < 2 ^ 64 then
    some (natOfDigits value).toUInt64
  else none

/-- Without a digit in front, or with anything behind the digits, there is no identifier. -/
theorem idOfValue_none {digits tail : Bytes} (htail : ∀ c ∈ tail.head?, digit c = false)
    (h : digits = [] ∨ tail ≠ []) : idOfValue (digits ++ tail) = none := by
  unfold idOfValue
  rw [if_neg]
  rintro ⟨hne, hall, -⟩
  cases tail with
  | nil =>
    obtain rfl := h.resolve_right fun hne => hne rfl
    exact hne rfl
  | cons c tail =>
    have hc := htail c rfl
    simp [List.all_append, hc] at hall

theorem requestIdMember_standing {value rest : Bytes} (h : Standing value rest) {out : ParsedRequest}
    (hfirst : out.haveRequestId = false) :
    requestIdMember out (value ++ rest) =
      match idOfValue value with
      | some id => .ok ({ out with requestId := id, haveRequestId := true }, rest)
      | none => .error .invalidRequestId := by
  obtain ⟨d, hderives⟩ := h.value
  obtain ⟨digits, tail, rfl, hdigits, htail⟩ := exists_digits value
  have hrest : ∀ c ∈ (tail ++ rest).head?, digit c = false := by
    cases tail with
    | nil => exact fun c hc => (h.rest c hc).1
    | cons c tail => exact htail
  unfold requestIdMember
  rw [hfirst, if_neg (by decide)]
  cases digits with
  | nil =>
    have hnone : parseUint64 ([] ++ tail ++ rest) = none := parseUint64_none hrest
    rw [hnone, idOfValue_none htail (.inl rfl)]
  | cons b digits =>
    obtain ⟨hcontinues, -⟩ := digits_of_value hdigits htail hderives
    rw [List.append_assoc, parseUint64_digits (by simp) hdigits hrest]
    rcases hcontinues with rfl | hcontinues
    · rw [List.append_nil, List.nil_append]
      have hall : (b :: digits).all digit = true := List.all_eq_true.mpr hdigits
      unfold idOfValue
      by_cases hfits : natOfDigits (b :: digits) < 2 ^ 64
      · have hzero : (natOfDigits (b :: digits)).toUInt64 = 0 ↔ natOfDigits (b :: digits) = 0 := by
          rw [← UInt64.toNat_inj]
          show (UInt64.ofNat _).toNat = 0 ↔ _
          rw [UInt64.toNat_ofNat', Nat.mod_eq_of_lt hfits]
        rw [if_pos hfits]
        simp only [hzero, continuesNumber_of_ends h.rest, Bool.false_eq_true, if_false]
        by_cases hpos : natOfDigits (b :: digits) = 0
        · rw [if_pos hpos, if_neg (by omega)]
        · rw [if_neg hpos, if_pos ⟨by simp, hall, Nat.pos_of_ne_zero hpos, hfits⟩]
      · rw [if_neg hfits, if_neg (by omega)]
    · have hne : tail ≠ [] := by
        rintro rfl
        cases hcontinues
      rw [idOfValue_none htail (.inr hne)]
      by_cases hfits : natOfDigits (b :: digits) < 2 ^ 64
      · rw [if_pos hfits]
        simp only [continuesNumber_append hne, hcontinues, if_true]
        split <;> rfl
      · rw [if_neg hfits]

/-! ### Any member -/

theorem methodMember_standing {value rest : Bytes} (h : Standing value rest) (out : ParsedRequest) :
    methodMember out (value ++ rest) =
      (methodMember out value).map fun read => (read.1, rest) := by
  unfold methodMember
  rw [parseString_local h]
  cases out.haveMethod with
  | true => rfl
  | false =>
    cases parseString value with
    | none => rfl
    | some string =>
      simp only [Option.map_some]
      by_cases hempty : string.1 = []
      · simp only [if_pos hempty]
        rfl
      · simp only [if_neg hempty]
        rfl

theorem paramsMember_standing {value rest : Bytes} (h : Standing value rest) (out : ParsedRequest) :
    paramsMember out (value ++ rest) =
      (paramsMember out value).map fun read => (read.1, rest) := by
  obtain ⟨d, hderives⟩ := h.value
  obtain ⟨b, t, rfl, -⟩ := value_front hderives (by decide)
  have hexpect : (expect openBrace (b :: t ++ rest)).isNone =
      (expect openBrace (b :: t)).isNone := by
    rw [List.cons_append, expect, expect]
    split <;> rfl
  unfold paramsMember
  rw [hexpect, skipMemberValue_standing h]
  cases out.haveParams with
  | true => rfl
  | false =>
    cases (expect openBrace (b :: t)).isNone with
    | true => rfl
    | false =>
      cases halone : skipMemberValue (b :: t) with
      | none => rfl
      | some found =>
        -- alone, the value is read to its end
        rw [← List.append_nil (b :: t)] at halone
        obtain rfl := skipMemberValue_end h.alone halone
        simp only [Option.map_some]
        show Except.ok _ = Except.ok _
        rw [List.length_append, Nat.add_sub_cancel, List.take_left, List.length_nil, Nat.sub_zero,
          List.take_length]

/-- What is made of a member does not depend on what follows its value. -/
theorem requestMember_standing {value rest : Bytes} (h : Standing value rest) (key : Bytes)
    (out : ParsedRequest) :
    requestMember key out (value ++ rest) =
      (requestMember key out value).map fun read => (read.1, rest) := by
  unfold requestMember
  by_cases hid : key = text "requestId"
  · rw [if_pos hid, if_pos hid]
    cases hfirst : out.haveRequestId with
    | true =>
      unfold requestIdMember
      rw [hfirst, if_pos rfl]
      rfl
    | false =>
      have halone := requestIdMember_standing h.alone hfirst
      rw [List.append_nil] at halone
      rw [requestIdMember_standing h hfirst, halone]
      cases idOfValue value <;> rfl
  rw [if_neg hid, if_neg hid]
  by_cases hmethod : key = text "method"
  · rw [if_pos hmethod, if_pos hmethod]
    exact methodMember_standing h out
  rw [if_neg hmethod, if_neg hmethod]
  by_cases hparams : key = text "params"
  · rw [if_pos hparams, if_pos hparams]
    exact paramsMember_standing h out
  · rw [if_neg hparams, if_neg hparams, skipMemberValue_standing h]
    cases skipMemberValue value <;> rfl

/-! ### The members of a request -/

/-- What is left to say when all members have been read. -/
def readEnd (out : ParsedRequest) : RequestParseError × ParsedRequest :=
  if !out.haveRequestId then (.missingRequestId, out)
  else if !out.haveMethod then (.missingMethod, out)
  else (.none, out)

/-- A request is read member by member, up to the first mistake. -/
def readMembers (out : ParsedRequest) : List Member → RequestParseError × ParsedRequest
  | [] => readEnd out
  | member :: members =>
    match readMember out member with
    | .error parseError => (parseError, out)
    | .ok out => readMembers out members

theorem requestMembers_eq {d : ℕ} {members : List Member} {s rest : Bytes}
    (h : MembersOf jsonSpace d members s rest) (hend : Span jsonSpace rest []) (turns : ℕ)
    (hturns : s.length ≤ turns) (out : ParsedRequest) :
    requestMembers turns out s = readMembers out members := by
  induction h generalizing turns out with
  | @last m s t v rest hkey hcolon hgap hvalue hclose =>
    obtain ⟨b, t', hfront, hb⟩ := value_front hvalue (by decide)
    have hdense : Dense (m.value ++ v) := by
      rw [hfront]
      exact dense_cons hb.dense _
    have hstanding : Standing m.value v :=
      ⟨⟨d, hvalue⟩, endsNumber_of_span isSpace_of_jsonSpace (.inr (.inl rfl)) hclose⟩
    cases turns with
    | zero => cases hturns
    | succ turns =>
      rw [requestMembers, memberKey_quoted isSpace_of_jsonSpace hkey hcolon hgap hdense]
      simp only [readMembers, readMember, readKey, requestMember_standing hstanding]
      cases requestMember (m.key.map pieceByte) out m.value with
      | error parseError => rfl
      | ok read =>
        simp only [Except.map]
        rw [skipWs_of_span isSpace_of_jsonSpace hclose (dense_cons (by decide) _)]
        show requestEnd read.1 rest = readEnd read.1
        unfold requestEnd readEnd
        rw [skipWs_of_span isSpace_of_jsonSpace hend (by rintro c ⟨⟩)]
        rfl
  | @next m members s t v w x rest hkey hcolon hgap hvalue hcomma hgap' h ih =>
    obtain ⟨b, t', hfront, hb⟩ := value_front hvalue (by decide)
    have hdense : Dense (m.value ++ v) := by
      rw [hfront]
      exact dense_cons hb.dense _
    have hstanding : Standing m.value v :=
      ⟨⟨d, hvalue⟩, endsNumber_of_span isSpace_of_jsonSpace (.inr (.inr rfl)) hcomma⟩
    have hx : Dense x := by
      cases h with
      | last => exact dense_cons (by decide) _
      | next => exact dense_cons (by decide) _
    have h₀ := (quoted_printed jsonSpace hkey s).suffix.length_le
    have h₁ := hcolon.suffix.length_le
    have h₂ := hgap.suffix.length_le
    have h₃ := hcomma.suffix.length_le
    have h₄ := hgap'.suffix.length_le
    rw [List.length_cons] at h₁ h₃
    rw [List.length_append] at h₂
    cases turns with
    | zero => cases hturns
    | succ turns =>
      rw [requestMembers, memberKey_quoted isSpace_of_jsonSpace hkey hcolon hgap hdense]
      simp only [readMembers, readMember, readKey, requestMember_standing hstanding]
      cases requestMember (m.key.map pieceByte) out m.value with
      | error parseError => rfl
      | ok read =>
        simp only [Except.map]
        rw [skipWs_of_span isSpace_of_jsonSpace hcomma (dense_cons (by decide) _)]
        show requestMembers turns read.1 (skipWs w) = _
        rw [skipWs_of_span isSpace_of_jsonSpace hgap' hx]
        exact ih hend turns (by omega) read.1

/-- **An object is read member by member.** -/
theorem parseRequest_object {d : ℕ} {members : List Member} {payload : Bytes}
    (h : ObjectOf jsonSpace d members payload) : parseRequest payload = readMembers {} members := by
  unfold parseRequest
  cases h with
  | @empty _ s t hopen hclose hend =>
    rw [skipWs_of_span isSpace_of_jsonSpace hopen (dense_cons (by decide) _)]
    show (if (expect closeBrace (skipWs s)).isSome = true then _ else _) = _
    rw [skipWs_of_span isSpace_of_jsonSpace hclose (dense_cons (by decide) _)]
    rfl
  | @members _ _ s t u hopen hgap hmembers hend =>
    have hx : Dense t ∧ (expect closeBrace t).isSome = false := by
      cases hmembers with
      | last => exact ⟨dense_cons (by decide) _, rfl⟩
      | next => exact ⟨dense_cons (by decide) _, rfl⟩
    have h₀ := hopen.suffix.length_le
    have h₁ := hgap.suffix.length_le
    rw [List.length_cons] at h₀
    rw [skipWs_of_span isSpace_of_jsonSpace hopen (dense_cons (by decide) _)]
    show (if (expect closeBrace (skipWs s)).isSome = true then _ else
      requestMembers payload.length {} (skipWs s)) = _
    rw [skipWs_of_span isSpace_of_jsonSpace hgap hx.1, hx.2]
    exact requestMembers_eq hmembers hend _ (by omega) {}

end NetworkService.Ipc
