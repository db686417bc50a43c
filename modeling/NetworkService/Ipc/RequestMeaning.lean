import Mathlib.Data.List.TakeWhile
import NetworkService.Ipc.ParameterReader
import NetworkService.Ipc.RequestWellformed

/-!
# The meaning of a request

`parse_request` reads the members of an object by their keys as its own scanner reads them, where a
code unit written as an escape is a question mark.  A request means to it what it means to the standard
exactly if no such escape stands in what it reads, and the id is written with digits alone.
-/

namespace NetworkService.Ipc

open Json

/-! ### Strings -/

/-- Every escape of a code unit is that of a question mark. -/
def QuestionMarks (pieces : List Piece) : Prop :=
  ∀ h₀ h₁ h₂ h₃, Piece.unicode h₀ h₁ h₂ h₃ ∈ pieces → (Piece.unicode h₀ h₁ h₂ h₃).unit = 0x3f

theorem questionMarks_cons {piece : Piece} (h : ∀ h₀ h₁ h₂ h₃, piece ≠ .unicode h₀ h₁ h₂ h₃)
    (pieces : List Piece) : QuestionMarks (piece :: pieces) ↔ QuestionMarks pieces := by
  constructor
  · exact fun hall h₀ h₁ h₂ h₃ hmem => hall h₀ h₁ h₂ h₃ (List.mem_cons_of_mem _ hmem)
  · intro hall h₀ h₁ h₂ h₃ hmem
    rcases List.mem_cons.mp hmem with heq | hmem
    · exact absurd heq.symm (h h₀ h₁ h₂ h₃)
    · exact hall h₀ h₁ h₂ h₃ hmem

theorem questionMarks_unicode (h₀ h₁ h₂ h₃ : UInt8) (pieces : List Piece) :
    QuestionMarks (.unicode h₀ h₁ h₂ h₃ :: pieces) ↔
      (Piece.unicode h₀ h₁ h₂ h₃).unit = 0x3f ∧ QuestionMarks pieces := by
  constructor
  · exact fun hall => ⟨hall h₀ h₁ h₂ h₃ List.mem_cons_self,
      fun l₀ l₁ l₂ l₃ hmem => hall l₀ l₁ l₂ l₃ (List.mem_cons_of_mem _ hmem)⟩
  · rintro ⟨hunit, hall⟩ l₀ l₁ l₂ l₃ hmem
    rcases List.mem_cons.mp hmem with heq | hmem
    · rw [heq]
      exact hunit
    · exact hall l₀ l₁ l₂ l₃ hmem

/-- The bytes of a scalar value begin with a question mark only if it is one. -/
theorem scalarBytes_question {scalar : ℕ} (h : scalar.isValidChar) {read t : Bytes}
    (heq : scalarBytes scalar ++ read = 0x3f :: t) : scalar = 0x3f ∧ read = t := by
  have hvalue : (Char.ofNat scalar).val.toNat = scalar := toNat_ofNat h
  -- a leading byte of several is none of ASCII
  have hlarge : ∀ n, 0xc0 ≤ n → n < 0x100 → UInt8.ofNat n ≠ 0x3f := by
    intro n hlow hhigh hn
    have hnat : (UInt8.ofNat n).toNat = n := UInt8.toNat_ofNat_of_lt' hhigh
    rw [hn] at hnat
    have h3f : (0x3f : UInt8).toNat = 63 := rfl
    omega
  unfold scalarBytes String.utf8EncodeChar at heq
  rw [hvalue] at heq
  dsimp only at heq
  split at heq
  next hle =>
    obtain ⟨hhead, hrest⟩ := List.cons.inj heq
    have hnat : (UInt8.ofNat scalar).toNat = scalar :=
      UInt8.toNat_ofNat_of_lt' (show scalar < 256 by omega)
    rw [hhead] at hnat
    exact ⟨hnat.symm, hrest⟩
  next =>
    split at heq
    · exact absurd (List.cons.inj heq).1 (hlarge _ (by omega) (by omega))
    split at heq
    · exact absurd (List.cons.inj heq).1 (hlarge _ (by omega) (by omega))
    · exact absurd (List.cons.inj heq).1 (hlarge _ (by omega) (by omega))

theorem map_cons_eq {read? : Option Bytes} (b : UInt8) (t : Bytes) :
    read?.map (b :: ·) = some (b :: t) ↔ read? = some t := by
  cases read? <;> simp

theorem question_not_high {unit : ℕ} (h : unit = 0x3f) : ¬isHigh unit = true := by
  rw [isHigh_iff]
  omega

theorem question_not_low {unit : ℕ} (h : unit = 0x3f) : ¬isLow unit = true := by
  rw [isLow_iff]
  omega

/-- **The session decodes a string** exactly if its escapes of code units are question marks. -/
theorem pieceBytes_iff {pieces : List Piece} (h : ∀ piece ∈ pieces, piece.Valid) :
    stringBytes pieces = some (pieces.map pieceByte) ↔ QuestionMarks pieces := by
  fun_induction stringBytes pieces with
  | case1 => exact iff_of_true rfl fun _ _ _ _ hmem => absurd hmem List.not_mem_nil
  | case2 b pieces ih =>
    rw [questionMarks_cons (by simp), ← ih (List.forall_mem_cons.mp h).2]
    exact map_cons_eq b _
  | case3 e pieces ih =>
    rw [questionMarks_cons (by simp), ← ih (List.forall_mem_cons.mp h).2]
    exact map_cons_eq _ _
  | case4 h₀ h₁ h₂ h₃ first hhigh l₀ l₁ l₂ l₃ pieces second hlow ih =>
    rw [questionMarks_unicode]
    refine iff_of_false (fun heq => ?_) fun hmark => question_not_high hmark.1 hhigh
    obtain ⟨read, -, heq⟩ := Option.map_eq_some_iff.mp heq
    have hquestion := (scalarBytes_question (isValidChar_pair hhigh hlow) heq).1
    unfold pairValue at hquestion
    omega
  | case5 h₀ h₁ h₂ h₃ first hhigh l₀ l₁ l₂ l₃ pieces second hlow =>
    rw [questionMarks_unicode]
    exact iff_of_false (by simp) fun hmark => question_not_high hmark.1 hhigh
  | case6 h₀ h₁ h₂ h₃ pieces first hhigh hnot =>
    rw [questionMarks_unicode]
    exact iff_of_false (by simp) fun hmark => question_not_high hmark.1 hhigh
  | case7 h₀ h₁ h₂ h₃ pieces first hhigh hlow =>
    rw [questionMarks_unicode]
    exact iff_of_false (by simp) fun hmark => question_not_low hmark.1 hlow
  | case8 h₀ h₁ h₂ h₃ pieces first hhigh hlow ih =>
    obtain ⟨hfirst, hpieces⟩ := List.forall_mem_cons.mp h
    have hscalar : first.isValidChar := isValidChar_unit (JsonReader.unit_lt hfirst) hhigh hlow
    rw [questionMarks_unicode, ← ih hpieces, Option.map_eq_some_iff]
    constructor
    · rintro ⟨read, hread, heq⟩
      obtain ⟨hquestion, rfl⟩ := scalarBytes_question hscalar heq
      exact ⟨hquestion, hread⟩
    · rintro ⟨hquestion, hread⟩
      refine ⟨_, hread, ?_⟩
      have hone : scalarBytes first = [0x3f] := congrArg scalarBytes hquestion
      rw [hone]
      rfl

/-- How a string is split into pieces does not matter. -/
theorem questionMarks_of_quoted {pieces pieces' : List Piece} (h : ∀ piece ∈ pieces, piece.Valid)
    (h' : ∀ piece ∈ pieces', piece.Valid) (heq : quoted pieces [] = quoted pieces' [])
    (hmarks : QuestionMarks pieces') : QuestionMarks pieces := by
  have hread : parseString (quoted pieces []) = some (pieces.map pieceByte, []) :=
    parseString_eq_some.mpr ⟨pieces, h, rfl, rfl⟩
  rw [heq, parseString_eq_some.mpr ⟨pieces', h', rfl, rfl⟩] at hread
  have hdecoded := JsonReader.parseString_quoted h []
  rw [heq, JsonReader.parseString_quoted h', (pieceBytes_iff h').mpr hmarks] at hdecoded
  rw [← pieceBytes_iff h, ← (Prod.mk.inj (Option.some.inj hread)).1]
  cases hbytes : stringBytes pieces with
  | none =>
    rw [hbytes] at hdecoded
    cases hdecoded
  | some read =>
    rw [hbytes] at hdecoded
    exact congrArg some (Prod.mk.inj (Option.some.inj hdecoded)).1.symm

/-! ### Keys -/

/-- A member has this key, as the session reads it. -/
def hasKey (key : Bytes) (members : List Member) : Bool := members.any fun m => readKey m == key

theorem readKey_iff {m : Member} (h : ∀ piece ∈ m.key, piece.Valid) {key : Bytes}
    (hkey : ascii '?' ∉ key) : readKey m = key ↔ stringBytes m.key = some key ∧ PlainKey m := by
  have hdecoded : PlainKey m → stringBytes m.key = some (readKey m) := fun hplain =>
    (pieceBytes_iff h).mpr fun h₀ h₁ h₂ h₃ hmem => absurd rfl (hplain _ hmem h₀ h₁ h₂ h₃)
  constructor
  · intro hread
    have hplain := plainKey_of_readKey hkey hread
    exact ⟨hread ▸ hdecoded hplain, hplain⟩
  · rintro ⟨hname, hplain⟩
    exact Option.some.inj ((hdecoded hplain).symm.trans hname)

theorem hasKey_iff {members : List Member} (h : ∀ m ∈ members, ∀ piece ∈ m.key, piece.Valid)
    {key : Bytes} (hkey : ascii '?' ∉ key) :
    hasKey key members = true ↔ ∃ m ∈ named key members, PlainKey m := by
  unfold hasKey named
  rw [List.any_eq_true]
  constructor
  · rintro ⟨m, hm, hread⟩
    obtain ⟨hname, hplain⟩ := (readKey_iff (h m hm) hkey).mp (beq_iff_eq.mp hread)
    exact ⟨m, List.mem_filter.mpr ⟨hm, by simpa using hname⟩, hplain⟩
  · rintro ⟨m, hm, hplain⟩
    obtain ⟨hm, hname⟩ := List.mem_filter.mp hm
    exact ⟨m, hm, beq_iff_eq.mpr ((readKey_iff (h m hm) hkey).mpr ⟨by simpa using hname, hplain⟩)⟩

/-! ### The walk over the members -/

/-- What the values of the three members are read as. -/
structure RequestParts where
  id : UInt64
  method : Bytes
  params : Bytes

/-- One member of a request that is read without a mistake. -/
def readPart (parts : RequestParts) (out : ParsedRequest) (m : Member) : ParsedRequest :=
  if readKey m = text "requestId" then { out with requestId := parts.id, haveRequestId := true }
  else if readKey m = text "method" then { out with method := parts.method, haveMethod := true }
  else if readKey m = text "params" then
    { out with paramsJson := parts.params, haveParams := true }
  else out

/-- A member is read as its part. -/
structure ReadsPart (parts : RequestParts) (m : Member) : Prop where
  shallow : Shallow m.value
  id : readKey m = text "requestId" → idOfValue m.value = some parts.id
  method : readKey m = text "method" → parts.method ≠ [] ∧ parseString m.value = some (parts.method, [])
  params : readKey m = text "params" → m.value.head? = some openBrace ∧ m.value = parts.params

/-- How often a key is read. -/
def keyCount (key : Bytes) (members : List Member) : ℕ := members.countP fun m => readKey m == key

/-- No key of a request is read twice. -/
structure Fresh (out : ParsedRequest) (members : List Member) : Prop where
  id : out.haveRequestId.toNat + keyCount (text "requestId") members ≤ 1
  method : out.haveMethod.toNat + keyCount (text "method") members ≤ 1
  params : out.haveParams.toNat + keyCount (text "params") members ≤ 1

theorem keyCount_cons_self {key : Bytes} {m : Member} (h : readKey m = key) (members : List Member) :
    keyCount key (m :: members) = keyCount key members + 1 :=
  List.countP_cons_of_pos (by simpa using h)

theorem keyCount_cons_ne {key : Bytes} {m : Member} (h : readKey m ≠ key) (members : List Member) :
    keyCount key (m :: members) = keyCount key members :=
  List.countP_cons_of_neg (by simpa using h)

theorem not_have {have' : Bool} {n : ℕ} (h : have'.toNat + (n + 1) ≤ 1) : have' = false := by
  cases have' with
  | false => rfl
  | true =>
    rw [Bool.toNat_true] at h
    omega

theorem fresh_next {have' : Bool} {n : ℕ} (h : have'.toNat + (n + 1) ≤ 1) : true.toNat + n ≤ 1 := by
  rw [Bool.toNat_true]
  omega

/-- One member: it is read as its part, and no key of the others is read twice. -/
theorem readMember_part {parts : RequestParts} {m : Member} (h : ReadsPart parts m)
    {out : ParsedRequest} {members : List Member} (hfresh : Fresh out (m :: members)) :
    readMember out m = .ok (readPart parts out m) ∧ Fresh (readPart parts out m) members := by
  have hpassed : skipMemberValue m.value = some [] := by
    have hpassed := skipValue_of_derives h.shallow endsNumber_nil
    rwa [List.append_nil] at hpassed
  obtain ⟨hids, hmethods, hparams⟩ := hfresh
  unfold readMember requestMember readPart
  by_cases hid : readKey m = text "requestId"
  · rw [keyCount_cons_self hid] at hids
    rw [keyCount_cons_ne (by rw [hid]; decide)] at hmethods hparams
    have hmember := requestIdMember_standing ⟨⟨_, h.shallow⟩, endsNumber_nil⟩ (not_have hids)
    rw [List.append_nil, h.id hid] at hmember
    rw [if_pos hid, if_pos hid, hmember]
    exact ⟨rfl, fresh_next hids, hmethods, hparams⟩
  rw [keyCount_cons_ne hid] at hids
  rw [if_neg hid, if_neg hid]
  by_cases hmethod : readKey m = text "method"
  · rw [keyCount_cons_self hmethod] at hmethods
    rw [keyCount_cons_ne (by rw [hmethod]; decide)] at hparams
    obtain ⟨hne, hstring⟩ := h.method hmethod
    rw [if_pos hmethod, if_pos hmethod]
    unfold methodMember
    rw [not_have hmethods, hstring, if_neg (by decide)]
    simp only [if_neg hne]
    exact ⟨rfl, hids, fresh_next hmethods, hparams⟩
  rw [keyCount_cons_ne hmethod] at hmethods
  rw [if_neg hmethod, if_neg hmethod]
  by_cases hparam : readKey m = text "params"
  · rw [keyCount_cons_self hparam] at hparams
    obtain ⟨hhead, hvalue⟩ := h.params hparam
    have hopen : (expect openBrace m.value).isNone = false := by
      obtain ⟨t, ht⟩ := List.head?_eq_some_iff.mp hhead
      rw [ht, expect_cons_self]
      rfl
    rw [if_pos hparam, if_pos hparam]
    unfold paramsMember
    rw [not_have hparams, hopen, hpassed]
    refine ⟨?_, hids, hmethods, fresh_next hparams⟩
    simp only [Bool.false_eq_true, if_false, Except.map, List.length_nil, Nat.sub_zero,
      List.take_length, hvalue]
  · rw [keyCount_cons_ne hparam] at hparams
    rw [if_neg hparam, if_neg hparam, hpassed]
    exact ⟨rfl, hids, hmethods, hparams⟩

/-- **A request is its parts**, if each of them is read and none is read twice. -/
theorem readMembers_parts {parts : RequestParts} {members : List Member}
    (h : ∀ m ∈ members, ReadsPart parts m) {out : ParsedRequest} (hfresh : Fresh out members) :
    readMembers out members = readEnd (members.foldl (readPart parts) out) := by
  induction members generalizing out with
  | nil => rfl
  | cons m members ih =>
    obtain ⟨hm, hmembers⟩ := List.forall_mem_cons.mp h
    obtain ⟨hread, hnext⟩ := readMember_part hm hfresh
    rw [readMembers, hread]
    exact ih hmembers hnext

/-- What one member sets. -/
theorem readPart_fields (parts : RequestParts) (out : ParsedRequest) (m : Member) :
    (readPart parts out m).haveRequestId =
        (if readKey m = text "requestId" then true else out.haveRequestId) ∧
      (readPart parts out m).requestId =
        (if readKey m = text "requestId" then parts.id else out.requestId) ∧
      (readPart parts out m).haveMethod =
        (if readKey m = text "method" then true else out.haveMethod) ∧
      (readPart parts out m).method =
        (if readKey m = text "method" then parts.method else out.method) ∧
      (readPart parts out m).paramsJson =
        if readKey m = text "params" then parts.params else out.paramsJson := by
  have hidMethod : text "requestId" ≠ text "method" := by decide
  have hidParams : text "requestId" ≠ text "params" := by decide
  have hmethodParams : text "method" ≠ text "params" := by decide
  unfold readPart
  by_cases hid : readKey m = text "requestId"
  · simp [hid, hidMethod, hidParams]
  by_cases hmethod : readKey m = text "method"
  · simp [hmethod, hidMethod.symm, hmethodParams]
  by_cases hparams : readKey m = text "params"
  · simp [hparams, hidParams.symm, hmethodParams.symm]
  · simp [hid, hmethod, hparams]

/-- A field that one key sets. -/
theorem foldl_readPart {α : Type} {parts : RequestParts} (field : ParsedRequest → α) {key : Bytes}
    {value : α} (hstep : ∀ out m, field (readPart parts out m) =
      if readKey m = key then value else field out) (members : List Member) (out : ParsedRequest) :
    field (members.foldl (readPart parts) out) =
      if hasKey key members = true then value else field out := by
  induction members generalizing out with
  | nil => rfl
  | cons m members ih =>
    rw [List.foldl_cons, ih, hstep]
    unfold hasKey
    rw [List.any_cons]
    by_cases hkey : readKey m = key
    · simp [hkey]
    · simp [hkey]

/-- **The fields of a request** are set by their keys, wherever these stand. -/
theorem foldl_fields (parts : RequestParts) (members : List Member) :
    (members.foldl (readPart parts) {}).haveRequestId = hasKey (text "requestId") members ∧
      (hasKey (text "requestId") members = true →
        (members.foldl (readPart parts) {}).requestId = parts.id) ∧
      (members.foldl (readPart parts) {}).haveMethod = hasKey (text "method") members ∧
      (hasKey (text "method") members = true →
        (members.foldl (readPart parts) {}).method = parts.method) ∧
      (members.foldl (readPart parts) {}).paramsJson =
        if hasKey (text "params") members = true then parts.params else text "\x7b\x7d" := by
  have hhave : ∀ b : Bool, (if b = true then true else false) = b := by decide
  refine ⟨?_, fun hkey => ?_, ?_, fun hkey => ?_, ?_⟩
  · exact (foldl_readPart ParsedRequest.haveRequestId
      (fun out m => (readPart_fields parts out m).1) members {}).trans (hhave _)
  · exact (foldl_readPart ParsedRequest.requestId
      (fun out m => (readPart_fields parts out m).2.1) members {}).trans (if_pos hkey)
  · exact (foldl_readPart ParsedRequest.haveMethod
      (fun out m => (readPart_fields parts out m).2.2.1) members {}).trans (hhave _)
  · exact (foldl_readPart ParsedRequest.method
      (fun out m => (readPart_fields parts out m).2.2.2.1) members {}).trans (if_pos hkey)
  · exact foldl_readPart ParsedRequest.paramsJson
      (fun out m => (readPart_fields parts out m).2.2.2.2) members {}

/-- What is read without a mistake has every member read. -/
theorem readMember_of_accepted {members : List Member} {out final : ParsedRequest}
    (h : readMembers out members = (.none, final)) :
    ∀ m ∈ members, ∃ before after, readMember before m = .ok after := by
  induction members generalizing out with
  | nil => exact fun m hm => absurd hm List.not_mem_nil
  | cons m members ih =>
    rw [readMembers] at h
    cases hread : readMember out m with
    | error parseError =>
      rw [hread] at h
      obtain ⟨rfl, -⟩ := Prod.mk.inj h
      unfold readMember at hread
      cases hmember : requestMember (readKey m) out m.value with
      | error parseError =>
        rw [hmember] at hread
        cases hread
        exact absurd hmember (requestMember_ne_none _ _ _)
      | ok read =>
        rw [hmember] at hread
        cases hread
    | ok next =>
      rw [hread] at h
      exact List.forall_mem_cons.mpr ⟨⟨out, next, hread⟩, ih h⟩

/-! ### The meaning of the parts -/

theorem number_text {n : Rat} {raw : Bytes} (h : Denotes (.value (.number n)) raw []) :
    Derives jsonSpace .value 1 raw [] ∧ n = numberValue raw := by
  refine ⟨h.derives, ?_⟩
  generalize hrest : ([] : Bytes) = rest at h
  cases h with
  | number h =>
    subst hrest
    rw [List.append_nil]

theorem string_text {chars : List Char} {raw : Bytes} (h : Denotes (.value (.string chars)) raw []) :
    ∃ pieces, Spells pieces chars ∧ raw = quoted pieces [] := by
  generalize hrest : ([] : Bytes) = rest at h
  cases h with
  | string h => exact ⟨_, h, rfl⟩

theorem object_text {entries : List (List Char × Value)} {raw : Bytes}
    (h : Denotes (.value (.object entries)) raw []) : raw.head? = some openBrace := by
  generalize hrest : ([] : Bytes) = rest at h
  cases h with
  | emptyObject _ => rfl
  | object _ _ => rfl

/-- A number of digits alone. -/
theorem numberValue_digits {digits : Bytes} (h : ∀ b ∈ digits, digit b = true) :
    numberValue digits = natOfDigits digits := by
  have hne : digits.head? ≠ some 0x2d := by
    intro hminus
    have hdigit := h 0x2d (List.mem_of_mem_head? hminus)
    cases hdigit
  have hdrop : digits.dropWhile digit = [] := List.dropWhile_eq_nil_iff.mpr h
  have htake : digits.takeWhile digit = digits := List.takeWhile_eq_self_iff.mpr h
  have hexponent : (digits.dropWhile fun b => b ≠ 0x65 && b ≠ 0x45) = [] := by
    rw [List.dropWhile_eq_nil_iff]
    intro b hb
    have hdigit := h b hb
    simp only [Bool.and_eq_true, decide_eq_true_eq]
    constructor <;> rintro rfl <;> cases hdigit
  unfold numberValue unsignedValue
  rw [if_neg hne]
  simp only [hdrop, htake, hexponent]
  rw [if_neg (by simp)]
  simp [exponentValue]
  rfl

theorem idOfValue_some {raw : Bytes} {id : UInt64} (h : idOfValue raw = some id) :
    ∀ b ∈ raw, digit b = true := by
  unfold idOfValue at h
  by_cases hread : raw ≠ [] ∧ raw.all digit = true ∧ 0 < natOfDigits raw ∧ natOfDigits raw < 2 ^ 64
  · exact List.all_eq_true.mp hread.2.1
  · rw [if_neg hread] at h
    cases h

/-- The digits of an id in its range are read as the id. -/
theorem idOfValue_digits {n : ℕ} (hpos : 1 ≤ n) (hfits : n < 2 ^ 64) {raw : Bytes} (hne : raw ≠ [])
    (hvalue : (n : Rat) = numberValue raw) (hdigits : ∀ b ∈ raw, digit b = true) :
    idOfValue raw = some n.toUInt64 := by
  have hn : natOfDigits raw = n := by
    rw [numberValue_digits hdigits] at hvalue
    exact (Rat.natCast_inj.mp hvalue).symm
  unfold idOfValue
  rw [hn, if_pos ⟨hne, List.all_eq_true.mpr hdigits, hpos, hfits⟩]

/-! ### The meaning of a request -/

/-- The source text of the parameters. -/
def paramsSource (members : List Member) : Bytes :=
  match named (text "params") members with
  | [] => text "\x7b\x7d"
  | m :: _ => m.value

/-- What the session reads of a payload that it accepts. -/
structure ReadsRequest (payload : Bytes) (n : ℕ) (method params : Bytes) : Prop where
  accepted : (parseRequest payload).1 = .none
  id : (parseRequest payload).2.requestId.toNat = n
  methodRead : (parseRequest payload).2.method = method
  paramsRead : (parseRequest payload).2.paramsJson = params

/-- What the session reads is written without escapes of code units, other than those of question
marks in the method, and the id with digits alone. -/
structure WrittenPlainly (members : List Member) : Prop where
  id : ∀ m ∈ named (text "requestId") members, PlainKey m ∧ ∀ b ∈ m.value, digit b = true
  method : ∀ m ∈ named (text "method") members, PlainKey m ∧ ∃ pieces : List Piece,
    (∀ piece ∈ pieces, piece.Valid) ∧ m.value = quoted pieces [] ∧ QuestionMarks pieces
  params : ∀ m ∈ named (text "params") members, PlainKey m ∨ m.value = text "\x7b\x7d"

/-- An object that is a request: one id, one method and at most one object of parameters. -/
structure MeansRequest (entries : List (List Char × Value)) (n : ℕ) (method : List Char) : Prop where
  depth : (Value.object entries).depth ≤ 15
  id : entries.filter (fun entry => entry.1 = "requestId".toList) =
    [("requestId".toList, .number n)]
  positive : 1 ≤ n
  fits : n < 2 ^ 64
  oneMethod : entries.filter (fun entry => entry.1 = "method".toList) =
    [("method".toList, .string method)]
  nonempty : method ≠ []
  params : entries.filter (fun entry => entry.1 = "params".toList) = [] ∨
    ∃ params, entries.filter (fun entry => entry.1 = "params".toList) =
      [("params".toList, .object params)]

/-- The text of the only member of a name. -/
theorem named_one {entries : List (List Char × Value)} {members : List Member}
    (h : List.Forall₂ SpellsMember entries members) {name : List Char} {key : Bytes}
    (hkey : utf8 name = key) {v : Value}
    (hone : entries.filter (fun entry => entry.1 = name) = [(name, v)]) :
    ∃ m, named key members = [m] ∧ Denotes (.value v) m.value [] := by
  have hnamed := named_spell h name
  rw [hone, hkey] at hnamed
  obtain ⟨m, rest, hm, hrest, heq⟩ := List.forall₂_cons_left_iff.mp hnamed
  rw [List.forall₂_nil_left_iff.mp hrest] at heq
  exact ⟨m, heq, hm.value⟩

/-- A key is read once if its name stands once. -/
theorem keyCount_le {members : List Member} (h : ∀ m ∈ members, ∀ piece ∈ m.key, piece.Valid)
    (key : Bytes) (hkey : ascii '?' ∉ key) : keyCount key members ≤ (named key members).length := by
  unfold keyCount named
  rw [← List.countP_eq_length_filter]
  refine List.countP_mono_left fun m hm hread => ?_
  simpa using ((readKey_iff (h m hm) hkey).mp (beq_iff_eq.mp hread)).1

/-- The members of a request, as its object has them. -/
structure RequestMembers (members : List Member) (n : ℕ) (method : List Char) (idMember : Member)
    (methodMember : Member) (pieces : List Piece) : Prop where
  keys : ∀ m ∈ members, ∀ piece ∈ m.key, piece.Valid
  values : ∀ m ∈ members, Shallow m.value
  id : named (text "requestId") members = [idMember]
  number : Denotes (.value (.number n)) idMember.value []
  positive : 1 ≤ n
  fits : n < 2 ^ 64
  oneMethod : named (text "method") members = [methodMember]
  string : methodMember.value = quoted pieces []
  spelled : Spells pieces method
  nonempty : method ≠ []
  params : named (text "params") members = [] ∨
    ∃ m, named (text "params") members = [m] ∧ m.value.head? = some openBrace

theorem spell_keys {entries : List (List Char × Value)} {members : List Member}
    (h : List.Forall₂ SpellsMember entries members) :
    ∀ m ∈ members, ∀ piece ∈ m.key, piece.Valid := by
  induction h with
  | nil => exact fun m hm => absurd hm List.not_mem_nil
  | cons hmember _ ih => exact List.forall_mem_cons.mpr ⟨hmember.name.valid, ih⟩

theorem MeansRequest.members {entries : List (List Char × Value)} {payload : Bytes} {n : ℕ}
    {method : List Char} (h : MeansRequest entries n method) {members : List Member}
    (hobject : ObjectOf jsonSpace kMaxJsonDepth members payload)
    (hspell : List.Forall₂ SpellsMember entries members) :
    ∃ idMember methodMember pieces,
      RequestMembers members n method idMember methodMember pieces := by
  obtain ⟨idMember, hid, hnumber⟩ :=
    named_one hspell (show utf8 "requestId".toList = text "requestId" by decide) h.id
  obtain ⟨methodMember, hmethod, hstring⟩ :=
    named_one hspell (show utf8 "method".toList = text "method" by decide) h.oneMethod
  obtain ⟨pieces, hspelled, hquoted⟩ := string_text hstring
  have hkey : utf8 "params".toList = text "params" := by decide
  have hparams : named (text "params") members = [] ∨
      ∃ m, named (text "params") members = [m] ∧ m.value.head? = some openBrace := by
    rcases h.params with hnone | ⟨params, hone⟩
    · have hnamed := named_spell hspell "params".toList
      rw [hnone, hkey] at hnamed
      exact .inl (List.forall₂_nil_left_iff.mp hnamed)
    · obtain ⟨m, hm, hvalue⟩ := named_one hspell hkey hone
      exact .inr ⟨m, hm, object_text hvalue⟩
  exact ⟨idMember, methodMember, pieces, spell_keys hspell, ObjectOf.values hobject, hid, hnumber,
    h.positive, h.fits, hmethod, hquoted, hspelled, h.nonempty, hparams⟩

/-- An id that is read is written with digits alone. -/
theorem digits_of_readMember {m : Member} (hshallow : Shallow m.value)
    (hkey : readKey m = text "requestId") {before after : ParsedRequest}
    (h : readMember before m = .ok after) : ∀ b ∈ m.value, digit b = true := by
  unfold readMember requestMember at h
  rw [if_pos hkey] at h
  cases hmember : requestIdMember before m.value with
  | error parseError =>
    rw [hmember] at h
    cases h
  | ok read =>
    obtain ⟨_, hfirst, -⟩ := requestIdMember_ok hmember
    have hstanding := requestIdMember_standing ⟨⟨_, hshallow⟩, endsNumber_nil⟩ hfirst
    rw [List.append_nil, hmember] at hstanding
    cases hid : idOfValue m.value with
    | none =>
      rw [hid] at hstanding
      cases hstanding
    | some id => exact idOfValue_some hid

/-! ### The end of a request -/

theorem readEnd_snd (out : ParsedRequest) : (readEnd out).2 = out := by
  unfold readEnd
  split
  · rfl
  split
  · rfl
  · rfl

theorem readEnd_none_iff (out : ParsedRequest) :
    (readEnd out).1 = .none ↔ out.haveRequestId = true ∧ out.haveMethod = true := by
  unfold readEnd
  cases out.haveRequestId with
  | false => simp
  | true => cases out.haveMethod <;> simp

section Parts

variable {members : List Member} {n : ℕ} {method : List Char} {idMember methodMember : Member}
  {pieces : List Piece} (h : RequestMembers members n method idMember methodMember pieces)

include h

/-- What a member is that is read by one of the keys. -/
theorem RequestMembers.plain_of_key {m : Member} (hm : m ∈ members) {key : Bytes}
    (hkey : ascii '?' ∉ key) (hread : readKey m = key) : m ∈ named key members ∧ PlainKey m := by
  obtain ⟨hname, hplain⟩ := (readKey_iff (h.keys m hm) hkey).mp hread
  exact ⟨List.mem_filter.mpr ⟨hm, by simpa using hname⟩, hplain⟩

/-- What the session reads of the members. -/
theorem RequestMembers.reads (hid : PlainKey idMember → ∀ b ∈ idMember.value, digit b = true) :
    ∀ m ∈ members, ReadsPart ⟨n.toUInt64, pieces.map pieceByte, paramsSource members⟩ m := by
  refine fun m hm => ⟨h.values m hm, fun hread => ?_, fun hread => ?_, fun hread => ?_⟩
  · obtain ⟨hnamed, hplain⟩ := h.plain_of_key hm (by decide) hread
    rw [h.id, List.mem_singleton] at hnamed
    subst hnamed
    obtain ⟨hvalue, hnumber⟩ := number_text h.number
    obtain ⟨b, t, hfront, -⟩ := value_front hvalue (by decide)
    exact idOfValue_digits h.positive h.fits (by rw [hfront]; simp) hnumber (hid hplain)
  · obtain ⟨hnamed, -⟩ := h.plain_of_key hm (by decide) hread
    rw [h.oneMethod, List.mem_singleton] at hnamed
    subst hnamed
    refine ⟨fun hempty => ?_, ?_⟩
    · have hbytes := h.spelled.stringBytes
      rw [List.map_eq_nil_iff.mp hempty] at hbytes
      exact h.nonempty (utf8_inj (Option.some.inj hbytes).symm)
    · exact parseString_eq_some.mpr ⟨pieces, h.spelled.valid, h.string, rfl⟩
  · obtain ⟨hnamed, -⟩ := h.plain_of_key hm (by decide) hread
    rcases h.params with hnone | ⟨m', hone, hopen⟩
    · rw [hnone] at hnamed
      cases hnamed
    · rw [hone, List.mem_singleton] at hnamed
      subst hnamed
      refine ⟨hopen, ?_⟩
      unfold paramsSource
      rw [hone]

theorem RequestMembers.fresh : Fresh {} members := by
  have hid := keyCount_le h.keys (text "requestId") (by decide)
  have hmethod := keyCount_le h.keys (text "method") (by decide)
  have hparams := keyCount_le h.keys (text "params") (by decide)
  have hone : (named (text "params") members).length ≤ 1 := by
    rcases h.params with hnone | ⟨m, hone, -⟩
    · rw [hnone]
      exact Nat.zero_le 1
    · rw [hone]
      exact Nat.le_refl 1
  rw [h.id] at hid
  rw [h.oneMethod] at hmethod
  exact ⟨(Nat.zero_add _).trans_le hid, (Nat.zero_add _).trans_le hmethod,
    (Nat.zero_add _).trans_le (hparams.trans hone)⟩

theorem RequestMembers.hasKey_id : hasKey (text "requestId") members = true ↔ PlainKey idMember := by
  rw [hasKey_iff h.keys (by decide), h.id]
  simp

theorem RequestMembers.hasKey_method :
    hasKey (text "method") members = true ↔ PlainKey methodMember := by
  rw [hasKey_iff h.keys (by decide), h.oneMethod]
  simp

/-- The parameters that are read are those of the source, unless their key is not read. -/
theorem RequestMembers.params_iff :
    (if hasKey (text "params") members = true then paramsSource members else text "\x7b\x7d") =
        paramsSource members ↔
      ∀ m ∈ named (text "params") members, PlainKey m ∨ m.value = text "\x7b\x7d" := by
  have hkey := hasKey_iff h.keys (show ascii '?' ∉ text "params" by decide)
  unfold paramsSource
  rcases h.params with hnone | ⟨m, hone, -⟩
  · rw [hnone, ite_self]
    exact iff_of_true rfl fun m hm => absurd hm List.not_mem_nil
  · rw [hone] at hkey ⊢
    rw [List.forall_mem_singleton]
    by_cases hread : hasKey (text "params") members = true
    · rw [if_pos hread]
      obtain ⟨m', hm', hplain⟩ := hkey.mp hread
      rw [List.mem_singleton.mp hm'] at hplain
      exact iff_of_true rfl (.inl hplain)
    · rw [if_neg hread]
      have hplain : ¬PlainKey m := fun hplain => hread (hkey.mpr ⟨m, List.mem_singleton_self m, hplain⟩)
      exact ⟨fun heq => .inr heq.symm, fun hor => (hor.resolve_left hplain).symm⟩

/-- **The outcome of a request**, if its id can be read at all. -/
theorem RequestMembers.outcome (hid : PlainKey idMember → ∀ b ∈ idMember.value, digit b = true) :
    ((readMembers {} members).1 = .none ↔ PlainKey idMember ∧ PlainKey methodMember) ∧
    (PlainKey idMember → (readMembers {} members).2.requestId.toNat = n) ∧
    (PlainKey methodMember → (readMembers {} members).2.method = pieces.map pieceByte) ∧
    ((readMembers {} members).2.paramsJson = paramsSource members ↔
      ∀ m ∈ named (text "params") members, PlainKey m ∨ m.value = text "\x7b\x7d") := by
  have hread := readMembers_parts (h.reads hid) h.fresh
  obtain ⟨hhaveId, hsetId, hhaveMethod, hsetMethod, hparams⟩ :=
    foldl_fields ⟨n.toUInt64, pieces.map pieceByte, paramsSource members⟩ members
  have hfits : n.toUInt64.toNat = n := UInt64.toNat_ofNat_of_lt' h.fits
  rw [hread, readEnd_none_iff, readEnd_snd, hhaveId, hhaveMethod, hparams, h.hasKey_id,
    h.hasKey_method]
  refine ⟨Iff.rfl, fun hplain => ?_, fun hplain => ?_, h.params_iff⟩
  · rw [hsetId (h.hasKey_id.mpr hplain)]
    exact hfits
  · exact hsetMethod (h.hasKey_method.mpr hplain)

end Parts

/-- **A request is read as it is meant** exactly if it is written plainly. -/
theorem request_meaning_iff {entries : List (List Char × Value)} {payload : Bytes} {n : ℕ}
    {method : List Char} (hrequest : MeansRequest entries n method)
    (htext : TextOf (.object entries) payload) :
    (∃ members, ObjectOf jsonSpace kMaxJsonDepth members payload ∧
      List.Forall₂ SpellsMember entries members) ∧
    ∀ members, ObjectOf jsonSpace kMaxJsonDepth members payload →
      List.Forall₂ SpellsMember entries members →
      (ReadsRequest payload n (utf8 method) (paramsSource members) ↔ WrittenPlainly members) := by
  have hlevels : memberDepths entries < kMaxJsonDepth := Nat.le_succ_of_le hrequest.depth
  refine ⟨htext.objectOf hlevels, fun members hobject hspell => ?_⟩
  obtain ⟨idMember, methodMember, pieces, h⟩ := hrequest.members hobject hspell
  have hparse := parseRequest_object hobject
  by_cases hid : PlainKey idMember → ∀ b ∈ idMember.value, digit b = true
  · obtain ⟨haccepted, hnumber, hmethod, hparams⟩ := h.outcome hid
    rw [← hparse] at haccepted hnumber hmethod hparams
    have hmarks : pieces.map pieceByte = utf8 method ↔ QuestionMarks pieces := by
      rw [← pieceBytes_iff h.spelled.valid, h.spelled.stringBytes, Option.some.injEq, eq_comm]
    constructor
    · rintro ⟨hnone, -, hread, hsource⟩
      obtain ⟨hplain, hplain'⟩ := haccepted.mp hnone
      refine ⟨?_, ?_, hparams.mp hsource⟩
      · rw [h.id]
        exact List.forall_mem_singleton.mpr ⟨hplain, hid hplain⟩
      · rw [h.oneMethod]
        exact List.forall_mem_singleton.mpr ⟨hplain', pieces, h.spelled.valid, h.string,
          hmarks.mp ((hmethod hplain').symm.trans hread)⟩
    · rintro ⟨hplain, hplain', hsource⟩
      rw [h.id, List.forall_mem_singleton] at hplain
      rw [h.oneMethod, List.forall_mem_singleton] at hplain'
      obtain ⟨hkey, pieces', hvalid, hquoted, hquestion⟩ := hplain'
      have hown := questionMarks_of_quoted h.spelled.valid hvalid (h.string.symm.trans hquoted) hquestion
      exact ⟨haccepted.mpr ⟨hplain.1, hkey⟩, hnumber hplain.1,
        (hmethod hkey).trans (hmarks.mpr hown), hparams.mpr hsource⟩
  · -- the id is found and cannot be read
    obtain ⟨hplain, hdigits⟩ := Classical.not_imp.mp hid
    refine iff_of_false (fun hreads => ?_) fun hwritten => ?_
    · have hmem : idMember ∈ members ∧ stringBytes idMember.key = some (text "requestId") := by
        have hnamed : idMember ∈ named (text "requestId") members := by
          rw [h.id]
          exact List.mem_singleton_self idMember
        simpa [named] using hnamed
      have hkey : readKey idMember = text "requestId" :=
        (readKey_iff (h.keys _ hmem.1) (by decide)).mpr ⟨hmem.2, hplain⟩
      have hnone := hreads.accepted
      rw [hparse] at hnone
      obtain ⟨before, after, hread⟩ := readMember_of_accepted (Prod.ext hnone rfl) idMember hmem.1
      exact hdigits (digits_of_readMember (h.values _ hmem.1) hkey hread)
    · have hall := hwritten.id
      rw [h.id, List.forall_mem_singleton] at hall
      exact hdigits hall.2

/-- A ping with these pieces for its method. -/
def pingOf (pieces : List Piece) : Bytes :=
  text "\x7b\"requestId\":1,\"method\":" ++ quoted pieces [closeBrace]

def pingMembers (pieces : List Piece) : List Member :=
  [⟨(utf8 "requestId".toList).map .byte, [0x31]⟩, ⟨(utf8 "method".toList).map .byte, quoted pieces []⟩]

def pingEntries : List (List Char × Value) :=
  [("requestId".toList, .number (1 : ℕ)), ("method".toList, .string "network.ping".toList)]

theorem pingEntries_request : MeansRequest pingEntries 1 "network.ping".toList where
  depth := by decide
  id := rfl
  positive := by decide
  fits := by decide
  oneMethod := rfl
  nonempty := by decide
  params := .inl rfl

theorem spells_bytes (s : String) (h : s.toList.all (fun c => 0x20 ≤ c.toNat ∧ c ≠ '"' ∧ c ≠ '\\')) :
    Spells ((utf8 s.toList).map .byte) s.toList :=
  Spells.plain fun c hc => by simpa using List.all_eq_true.mp h c hc

theorem denotes_one (rest : Bytes) : Denotes (.value (.number (1 : ℕ))) ([0x31] ++ rest) rest := by
  have hnumber : numberValue [0x31] = (1 : ℕ) :=
    numberValue_digits (List.forall_mem_singleton.mpr rfl)
  rw [← hnumber]
  exact .number ⟨_, _, _, .none, .digits rfl (by decide) (Span.refl _ _), .none, .none⟩

theorem pingOf_text {pieces : List Piece} (h : Spells pieces "network.ping".toList) :
    TextOf (.object pingEntries) (pingOf pieces) := by
  refine ⟨_, [], Span.refl _ _, ?_, Span.refl _ _⟩
  exact .object (Span.refl _ _) (.nextMember (spells_bytes "requestId" (by decide)) (Span.refl _ _)
    (Span.refl _ _) (denotes_one _) (Span.refl _ _) (Span.refl _ _)
    (.lastMember (spells_bytes "method" (by decide)) (Span.refl _ _) (Span.refl _ _) (.string h)
      (Span.refl _ _)))

theorem pingOf_members {pieces : List Piece} (h : Spells pieces "network.ping".toList) :
    ObjectOf jsonSpace kMaxJsonDepth (pingMembers pieces) (pingOf pieces) ∧
      List.Forall₂ SpellsMember pingEntries (pingMembers pieces) := by
  have hid := spells_bytes "requestId" (by decide)
  have hmethod := spells_bytes "method" (by decide)
  constructor
  · refine .members (Span.refl _ _) (Span.refl _ _) (.next hid.valid (Span.refl _ _) (Span.refl _ _)
      ?_ (Span.refl _ _) (Span.refl _ _) ?_) (Span.refl _ _)
    · exact .number ⟨_, _, _, .none, .digits rfl (by decide) (Span.refl _ _), .none, .none⟩
    · have hvalue : quoted pieces [closeBrace] = quoted pieces [] ++ [closeBrace] :=
        (quoted_append pieces [] [closeBrace]).symm
      refine .last hmethod.valid (Span.refl _ _) ?_ (.string h.valid) (Span.refl _ _)
      exact hvalue ▸ Span.refl _ _
  · exact .cons ⟨hid, denotes_one []⟩ (.cons ⟨hmethod, .string h⟩ .nil)

def plainMethod : List Piece := (utf8 "network.ping".toList).map .byte

/-- The method begins with an escape of its first code unit. -/
def escapedMethod : List Piece :=
  .unicode 0x30 0x30 0x36 0x65 :: (utf8 "etwork.ping".toList).map .byte

theorem spells_plainMethod : Spells plainMethod "network.ping".toList :=
  spells_bytes "network.ping" (by decide)

theorem spells_escapedMethod : Spells escapedMethod "network.ping".toList :=
  .cons (.unicode ⟨rfl, rfl, rfl, rfl⟩ (by decide)) (spells_bytes "etwork.ping" (by decide))

theorem plain_bytes (bytes : Bytes) : ∀ piece ∈ bytes.map Piece.byte,
    ∀ h₀ h₁ h₂ h₃, piece ≠ .unicode h₀ h₁ h₂ h₃ := by
  intro piece hpiece h₀ h₁ h₂ h₃ heq
  obtain ⟨b, -, hb⟩ := List.mem_map.mp hpiece
  cases hb.trans heq

theorem writtenPlainly_plainMethod : WrittenPlainly (pingMembers plainMethod) where
  id := List.forall_mem_singleton.mpr ⟨plain_bytes _, List.forall_mem_singleton.mpr rfl⟩
  method := by
    refine List.forall_mem_singleton.mpr ⟨plain_bytes _, plainMethod, spells_plainMethod.valid, rfl, ?_⟩
    exact fun h₀ h₁ h₂ h₃ hmem => absurd rfl (plain_bytes _ _ hmem h₀ h₁ h₂ h₃)
  params := List.forall_mem_nil _

/-- A ping without escapes is read as it is meant; one that escapes its method is not, since the
session reads a question mark for the escape. -/
theorem request_meaning_pings :
    ReadsRequest (pingOf plainMethod) 1 (utf8 "network.ping".toList)
        (paramsSource (pingMembers plainMethod)) ∧
      (ReadsRequest (pingOf escapedMethod) 1 (utf8 "network.ping".toList)
          (paramsSource (pingMembers escapedMethod)) ↔
        WrittenPlainly (pingMembers escapedMethod)) := by
  obtain ⟨hplain, hspelled⟩ := pingOf_members spells_plainMethod
  obtain ⟨hescaped, hspelled'⟩ := pingOf_members spells_escapedMethod
  constructor
  · exact ((request_meaning_iff pingEntries_request (pingOf_text spells_plainMethod)).2 _ hplain
      hspelled).mpr writtenPlainly_plainMethod
  · exact (request_meaning_iff pingEntries_request (pingOf_text spells_escapedMethod)).2 _ hescaped
      hspelled'

/-- **An escape changes the method**: the session reads a question mark for it. -/
theorem escape_changes_method :
    ¬∀ entries payload n method, MeansRequest entries n method → TextOf (.object entries) payload →
      ∀ members, ObjectOf jsonSpace kMaxJsonDepth members payload →
        List.Forall₂ SpellsMember entries members →
          ReadsRequest payload n (utf8 method) (paramsSource members) := by
  intro h
  obtain ⟨hobject, hspell⟩ := pingOf_members spells_escapedMethod
  have hreads := h _ _ _ _ pingEntries_request (pingOf_text spells_escapedMethod) _ hobject hspell
  have hmethod : (parseRequest (pingOf escapedMethod)).2.method ≠ utf8 "network.ping".toList := by
    decide +kernel
  exact hmethod hreads.methodRead

end NetworkService.Ipc
