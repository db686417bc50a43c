import NetworkService.Ipc.RequestCorrelation

/-!
# Requests that are accepted

A request that reaches the dispatcher or is answered with success was read to its end without a
mistake.  Such a payload is almost an object of the standard: its white space may be any of the C
library, its id may begin with a zero, and the bytes of its strings are not looked at.
-/

namespace NetworkService.Ipc

open Json

/-! ### The steps of an accepted request -/

/-- The text behind the key of the first member that is read as `requestId`. -/
def idValue : ℕ → Bytes → Option Bytes
  | 0, _ => none
  | turns + 1, member => do
    let (key, value) ← memberKey member
    if key = text "requestId" then some value
    else
      let rest ← skipMemberValue value
      let rest ← expect (ascii ',') (skipWs rest)
      idValue turns (skipWs rest)

def requestIdText (payload : Bytes) : Option Bytes := do
  let rest ← expect openBrace (skipWs payload)
  idValue payload.length (skipWs rest)

/-- A text that begins with a number for this id. -/
def WritesId (value : Bytes) (id : UInt64) : Prop :=
  ∃ digits rest, value = digits ++ rest ∧ (∀ b ∈ rest.head?, digit b = false) ∧
    WritesInteger digits id.toNat

theorem skipMemberValue_string {s read rest : Bytes} (h : parseString s = some (read, rest)) :
    skipMemberValue s = some rest := by
  obtain ⟨pieces, hvalid, rfl, hread⟩ := parseString_eq_some.mp h
  have hself : skipWs (quoted pieces rest) = quoted pieces rest :=
    skipWs_eq_self (dense_cons (by decide) _)
  unfold skipMemberValue kMaxJsonDepth
  rw [skipValue, hself]
  show (parseString (quoted pieces rest)).map Prod.snd = some rest
  rw [h]
  rfl

/-- What a member does that is read without a mistake. -/
inductive MemberStep (out : ParsedRequest) (key value : Bytes) (next : ParsedRequest) (rest : Bytes) :
    Prop
  | id {digits : Bytes} (hkey : key = text "requestId") (hfirst : out.haveRequestId = false)
      (hnext : next.haveRequestId = true) (hvalue : value = digits ++ rest)
      (hrest : ∀ b ∈ rest.head?, digit b = false)
      (hinteger : WritesInteger digits next.requestId.toNat) (hnonzero : next.requestId ≠ 0)
  | other (hkey : key ≠ text "requestId") (hsame : SameId out next)
      (hskip : skipMemberValue value = some rest)

theorem requestIdMember_ok {out next : ParsedRequest} {value rest : Bytes}
    (h : requestIdMember out value = .ok (next, rest)) :
    ∃ parsed, out.haveRequestId = false ∧ parseUint64 value = some (parsed, rest) ∧ parsed ≠ 0 ∧
      next = { out with requestId := parsed, haveRequestId := true } := by
  unfold requestIdMember at h
  cases hfirst : out.haveRequestId with
  | true =>
    rw [hfirst, if_pos rfl] at h
    cases h
  | false =>
    rw [hfirst, if_neg (by decide)] at h
    cases hparse : parseUint64 value with
    | none =>
      rw [hparse] at h
      cases h
    | some read =>
      obtain ⟨parsed, rest'⟩ := read
      rw [hparse] at h
      simp only at h
      by_cases hzero : parsed = 0
      · rw [if_pos hzero] at h
        cases h
      rw [if_neg hzero] at h
      by_cases hcontinues : continuesNumber rest' = true
      · rw [if_pos hcontinues] at h
        cases h
      rw [if_neg hcontinues] at h
      cases h
      exact ⟨parsed, rfl, rfl, hzero, rfl⟩

theorem methodMember_ok {out next : ParsedRequest} {value rest : Bytes}
    (h : methodMember out value = .ok (next, rest)) :
    ∃ method, parseString value = some (method, rest) ∧
      next = { out with method := method, haveMethod := true } := by
  unfold methodMember at h
  cases hfirst : out.haveMethod with
  | true =>
    rw [hfirst, if_pos rfl] at h
    cases h
  | false =>
    rw [hfirst, if_neg (by decide)] at h
    cases hstring : parseString value with
    | none =>
      rw [hstring] at h
      cases h
    | some read =>
      obtain ⟨method, rest'⟩ := read
      rw [hstring] at h
      simp only at h
      by_cases hempty : method = []
      · rw [if_pos hempty] at h
        cases h
      · rw [if_neg hempty] at h
        cases h
        exact ⟨method, rfl, rfl⟩

theorem paramsMember_ok {out next : ParsedRequest} {value rest : Bytes}
    (h : paramsMember out value = .ok (next, rest)) :
    ∃ s, value = openBrace :: s ∧ skipMemberValue value = some rest ∧
      next = { out with
        paramsJson := value.take (value.length - rest.length), haveParams := true } := by
  unfold paramsMember at h
  by_cases hfirst : out.haveParams = true
  · rw [if_pos hfirst] at h
    cases h
  rw [if_neg hfirst] at h
  cases hopen : expect openBrace value with
  | none =>
    rw [hopen] at h
    cases h
  | some s =>
    rw [hopen, if_neg (by simp)] at h
    cases hskip : skipMemberValue value with
    | none =>
      rw [hskip] at h
      cases h
    | some rest' =>
      rw [hskip] at h
      cases h
      exact ⟨s, expect_eq_some.mp hopen, rfl, rfl⟩

/-- A member that is read without a mistake is one of the three, or is passed over. -/
inductive ReadAs (out : ParsedRequest) (key value : Bytes) (next : ParsedRequest) (rest : Bytes) :
    Prop
  | requestId (hkey : key = text "requestId") (h : requestIdMember out value = .ok (next, rest))
  | method (hkey : key = text "method") (h : methodMember out value = .ok (next, rest))
  | params (hkey : key = text "params") (h : paramsMember out value = .ok (next, rest))
  | other (hkey : key ≠ text "requestId") (hskip : skipMemberValue value = some rest)
      (hnext : next = out)

theorem requestMember_ok {out next : ParsedRequest} {key value rest : Bytes}
    (h : requestMember key out value = .ok (next, rest)) : ReadAs out key value next rest := by
  unfold requestMember at h
  by_cases hid : key = text "requestId"
  · rw [if_pos hid] at h
    exact .requestId hid h
  rw [if_neg hid] at h
  by_cases hmethod : key = text "method"
  · rw [if_pos hmethod] at h
    exact .method hmethod h
  rw [if_neg hmethod] at h
  by_cases hparams : key = text "params"
  · rw [if_pos hparams] at h
    exact .params hparams h
  rw [if_neg hparams] at h
  cases hskip : skipMemberValue value with
  | none =>
    rw [hskip] at h
    cases h
  | some rest' =>
    rw [hskip] at h
    cases h
    exact .other hid hskip rfl

theorem requestMember_step {out next : ParsedRequest} {key value rest : Bytes}
    (h : requestMember key out value = .ok (next, rest)) : MemberStep out key value next rest := by
  cases requestMember_ok h with
  | requestId hkey h =>
    obtain ⟨parsed, hfirst, hparse, hzero, rfl⟩ := requestIdMember_ok h
    obtain ⟨digits, hvalue, hne, hdigits, hrest, hnat⟩ := parseUint64_eq_some hparse
    exact .id hkey hfirst rfl hvalue hrest ⟨hne, hdigits, hnat⟩ hzero
  | method hkey h =>
    obtain ⟨method, hstring, rfl⟩ := methodMember_ok h
    exact .other (by rw [hkey]; decide) ⟨rfl, rfl⟩ (skipMemberValue_string hstring)
  | params hkey h =>
    obtain ⟨s, -, hskip, rfl⟩ := paramsMember_ok h
    exact .other (by rw [hkey]; decide) ⟨rfl, rfl⟩ hskip
  | other hkey hskip hnext =>
    subst hnext
    exact .other hkey (SameId.refl _) hskip

/-- No member fails with the mistake that means success. -/
theorem requestMember_ne_none (key : Bytes) (out : ParsedRequest) (value : Bytes) :
    requestMember key out value ≠ .error .none := by
  unfold requestMember requestIdMember methodMember paramsMember
  repeat' split
  all_goals simp

/-- One turn of the member loop of an accepted request. -/
theorem requestMembers_succ_none {turns : ℕ} {out final : ParsedRequest} {s : Bytes}
    (h : requestMembers (turns + 1) out s = (.none, final)) :
    ∃ key value next rest, memberKey s = some (key, value) ∧ MemberStep out key value next rest ∧
      ((∃ u, skipWs rest = 0x7d :: u ∧ requestEnd next u = (.none, final)) ∨
        ∃ u, skipWs rest = 0x2c :: u ∧ requestMembers turns next (skipWs u) = (.none, final)) := by
  rw [requestMembers] at h
  cases hkey : memberKey s with
  | none =>
    rw [hkey] at h
    cases h
  | some member =>
    obtain ⟨key, value⟩ := member
    rw [hkey] at h
    simp only at h
    cases hread : requestMember key out value with
    | error parseError =>
      rw [hread] at h
      simp only at h
      obtain ⟨rfl, -⟩ := Prod.mk.inj h
      exact absurd hread (requestMember_ne_none key out value)
    | ok read =>
      obtain ⟨next, rest⟩ := read
      rw [hread] at h
      simp only at h
      refine ⟨key, value, next, rest, rfl, requestMember_step hread, ?_⟩
      cases hws : skipWs rest with
      | nil =>
        rw [hws] at h
        cases h
      | cons b u =>
        rw [hws] at h
        simp only at h
        by_cases hclose : b = closeBrace
        · rw [if_pos hclose] at h
          exact .inl ⟨u, by rw [hclose]; rfl, h⟩
        rw [if_neg hclose] at h
        by_cases hcomma : b ≠ ascii ','
        · rw [if_pos hcomma] at h
          cases h
        · rw [if_neg hcomma] at h
          exact .inr ⟨u, by rw [Decidable.not_not.mp hcomma]; rfl, h⟩

theorem requestEnd_none {out final : ParsedRequest} {rest : Bytes}
    (h : requestEnd out rest = (.none, final)) : final = out := by
  unfold requestEnd at h
  repeat' split at h
  all_goals cases h
  rfl

theorem requestEnd_blank {out final : ParsedRequest} {rest : Bytes}
    (h : requestEnd out rest = (.none, final)) : skipWs rest = [] := by
  unfold requestEnd at h
  by_cases hrest : skipWs rest ≠ []
  · rw [if_pos hrest] at h
    cases h
  · exact Decidable.not_not.mp hrest

theorem idValue_here {turns : ℕ} {s value : Bytes}
    (h : memberKey s = some (text "requestId", value)) : idValue (turns + 1) s = some value := by
  rw [idValue, h]
  simp only [Option.bind_eq_bind, Option.bind_some, if_true]

theorem idValue_later {turns : ℕ} {s key value rest u : Bytes} (hmember : memberKey s = some (key, value))
    (hkey : key ≠ text "requestId") (hskip : skipMemberValue value = some rest)
    (hcomma : skipWs rest = 0x2c :: u) : idValue (turns + 1) s = idValue turns (skipWs u) := by
  have hpassed : expect (ascii ',') (skipWs rest) = some u := expect_eq_some.mpr hcomma
  rw [idValue, hmember]
  simp only [Option.bind_eq_bind, Option.bind_some, if_neg hkey, hskip, hpassed]

/-- Where an accepted request has its id. -/
theorem requestMembers_writesId {turns : ℕ} {out final : ParsedRequest} {s : Bytes}
    (h : requestMembers turns out s = (.none, final)) :
    (out.haveRequestId = true → final.requestId = out.requestId) ∧
      (out.haveRequestId = false →
        ∃ value, idValue turns s = some value ∧ WritesId value final.requestId ∧ final.requestId ≠ 0) := by
  induction turns generalizing out s with
  | zero => cases h
  | succ turns ih =>
    obtain ⟨key, value, next, rest, hmember, hstep, hgo⟩ := requestMembers_succ_none h
    -- behind the id it is kept to the end
    have hkept : next.haveRequestId = true → final.requestId = next.requestId := by
      intro hnext
      rcases hgo with ⟨u, -, hend⟩ | ⟨u, -, hrest⟩
      · rw [requestEnd_none hend]
      · exact (ih hrest).1 hnext
    cases hstep with
    | id hkey hfirst hnext hvalue hdigit hinteger hnonzero =>
      subst hkey
      refine ⟨fun hhave => absurd (hfirst.symm.trans hhave) (by decide), fun _ => ?_⟩
      rw [hkept hnext]
      exact ⟨value, idValue_here hmember, ⟨_, rest, hvalue, hdigit, hinteger⟩, hnonzero⟩
    | other hkey hsame hskip =>
      refine ⟨fun hhave => (hkept (hsame.2.trans hhave)).trans hsame.1, fun hnone => ?_⟩
      have hnext : next.haveRequestId = false := hsame.2.trans hnone
      rcases hgo with ⟨u, -, hend⟩ | ⟨u, hcomma, hrest⟩
      · rw [requestEnd, hnext] at hend
        split at hend <;> cases hend
      · rw [idValue_later hmember hkey hskip hcomma]
        exact (ih hrest).2 hnext

/-! ### From an accepted request to an object -/

/-- The id does not begin with a zero. -/
def IdWithoutZero (id? : Option Bytes) : Prop := id?.bind List.head? ≠ some (ascii '0')

theorem requestMembers_derives {turns : ℕ} {out final : ParsedRequest} {s : Bytes}
    (h : requestMembers turns out s = (.none, final))
    (hzero : out.haveRequestId = false → IdWithoutZero (idValue turns s)) :
    ∃ u, Derives isSpace .members kMaxJsonDepth s u ∧ skipWs u = [] := by
  induction turns generalizing out s with
  | zero => cases h
  | succ turns ih =>
    obtain ⟨key, value, next, rest, hmember, hstep, hgo⟩ := requestMembers_succ_none h
    have hvalue : ∃ v, Span isSpace value v ∧ Derives isSpace .value kMaxJsonDepth v rest := by
      cases hstep with
      | @id digits hkey hfirst _ hvalue _ hinteger _ =>
        subst hkey
        have hhead := hzero hfirst
        rw [IdWithoutZero, idValue_here hmember] at hhead
        refine ⟨value, Span.refl _ _, ?_⟩
        obtain ⟨hne, hdigits, -⟩ := hinteger
        cases digits with
        | nil => exact absurd rfl hne
        | cons b digits =>
          obtain ⟨hb, hdigits⟩ := List.forall_mem_cons.mp hdigits
          have hne' : b ≠ 0x30 := by
            rintro rfl
            rw [hvalue] at hhead
            exact hhead rfl
          rw [hvalue]
          exact .number ⟨_, _, _, .none, .digits hb hne' ⟨digits, rfl, hdigits⟩, .none, .none⟩
      | other _ _ hskip => exact skipValue_sound kMaxJsonDepth _ _ hskip
    obtain ⟨v, hlead, hvalue⟩ := hvalue
    obtain ⟨pieces, t, w, hvalid, rfl, rfl, hcolon, rfl⟩ := memberKey_eq_some.mp hmember
    have hcolon' := skipWs_span t
    rw [hcolon] at hcolon'
    have hgap := skipWs_span rest
    rcases hgo with ⟨u, hclose, hend⟩ | ⟨u, hcomma, hrest⟩
    · rw [hclose] at hgap
      exact ⟨u, .lastMember hvalid hcolon' ((skipWs_span w).trans hlead) hvalue hgap,
        requestEnd_blank hend⟩
    · have hzero' : next.haveRequestId = false → IdWithoutZero (idValue turns (skipWs u)) := by
        intro hnext
        cases hstep with
        | id _ _ hhave _ _ _ _ => exact absurd (hnext.symm.trans hhave) (by decide)
        | other hkey hsame hskip =>
          have hhead := hzero (hsame.2.symm.trans hnext)
          rw [idValue_later hmember hkey hskip hcomma] at hhead
          exact hhead
      obtain ⟨x, hmembers, hblank⟩ := ih hrest hzero'
      rw [hcomma] at hgap
      exact ⟨x, .nextMember hvalid hcolon' ((skipWs_span w).trans hlead) hvalue hgap (skipWs_span u)
        hmembers, hblank⟩

/-- An accepted request is one object with members, up to the white space and the id. -/
theorem parseRequest_none {payload : Bytes} (h : (parseRequest payload).1 = .none) :
    ∃ rest, skipWs payload = 0x7b :: rest ∧
      requestMembers payload.length {} (skipWs rest) = (.none, (parseRequest payload).2) ∧
      requestIdText payload = idValue payload.length (skipWs rest) := by
  unfold parseRequest at h ⊢
  unfold requestIdText
  cases hopen : expect openBrace (skipWs payload) with
  | none =>
    rw [hopen] at h
    cases h
  | some rest =>
    rw [hopen, Option.map_some] at h
    simp only at h
    refine ⟨rest, expect_eq_some.mp hopen, ?_, rfl⟩
    rw [Option.map_some]
    simp only
    by_cases hclose : (expect closeBrace (skipWs rest)).isSome = true
    · rw [if_pos hclose] at h
      cases h
    · rw [if_neg hclose] at h ⊢
      exact Prod.ext h rfl

/-- The two bytes that are white space of the C library and not of the standard. -/
def FreeOfOddSpace (payload : Bytes) : Prop := (0x0b : UInt8) ∉ payload ∧ (0x0c : UInt8) ∉ payload

theorem jsonSpace_of_free {payload : Bytes} (h : FreeOfOddSpace payload) :
    ∀ b ∈ payload, isSpace b = true → jsonSpace b = true := by
  intro b hb hspace
  have hvertical : b ≠ 0x0b := fun hodd => h.1 (hodd ▸ hb)
  have hform : b ≠ 0x0c := fun hodd => h.2 (hodd ▸ hb)
  unfold isSpace at hspace
  unfold jsonSpace
  simp only [Bool.or_eq_true, Bool.and_eq_true, beq_iff_eq, decide_eq_true_eq,
    UInt8.le_iff_toNat_le, ← UInt8.toNat_inj, ne_eq, UInt8.reduceToNat] at *
  omega

theorem isObject_of_accepted {payload : Bytes} (h : (parseRequest payload).1 = .none)
    (hspace : FreeOfOddSpace payload) (hzero : IdWithoutZero (requestIdText payload)) :
    IsObject payload := by
  obtain ⟨rest, hopen, hmembers, hid⟩ := parseRequest_none h
  rw [hid] at hzero
  obtain ⟨u, hderives, hblank⟩ := requestMembers_derives hmembers fun _ => hzero
  have hfree := jsonSpace_of_free hspace
  have hlead := skipWs_span payload
  rw [hopen] at hlead
  have hend := skipWs_span u
  rw [hblank] at hend
  have h₁ : ∀ b ∈ rest, isSpace b = true → jsonSpace b = true := fun b hb =>
    hfree b (hlead.suffix.mem (List.mem_cons_of_mem _ hb))
  have h₂ : ∀ b ∈ skipWs rest, isSpace b = true → jsonSpace b = true := fun b hb =>
    h₁ b ((skipWs_span rest).suffix.mem hb)
  have h₃ : ∀ b ∈ u, isSpace b = true → jsonSpace b = true := fun b hb =>
    h₂ b (hderives.printed.suffix.mem hb)
  exact isObject_of_members (hlead.mono hfree) ((skipWs_span rest).mono h₁) (hderives.respace h₂)
    (hend.mono h₃)

/-! ### From an object back -/

theorem freeOfOddSpace_of_object {payload : Bytes} (h : IsObject payload) :
    FreeOfOddSpace payload := by
  obtain ⟨w, hw, hprinted⟩ := h.printed
  rw [List.append_nil] at hw
  subst hw
  constructor
  · intro hodd
    exact absurd (hprinted _ hodd) (by decide)
  · intro hodd
    exact absurd (hprinted _ hodd) (by decide)

theorem idValue_succ_eq_some {turns : ℕ} {s value : Bytes} (h : idValue (turns + 1) s = some value) :
    memberKey s = some (text "requestId", value) ∨
      ∃ key first rest u, memberKey s = some (key, first) ∧ skipMemberValue first = some rest ∧
        skipWs rest = 0x2c :: u ∧ idValue turns (skipWs u) = some value := by
  rw [idValue] at h
  obtain ⟨⟨key, first⟩, hmember, h⟩ := Option.bind_eq_some_iff.mp h
  simp only at h
  by_cases hkey : key = text "requestId"
  · rw [if_pos hkey] at h
    cases h
    rw [hkey] at hmember
    exact .inl hmember
  · rw [if_neg hkey] at h
    obtain ⟨rest, hskip, h⟩ := Option.bind_eq_some_iff.mp h
    obtain ⟨u, hcomma, h⟩ := Option.bind_eq_some_iff.mp h
    exact .inr ⟨key, first, rest, u, hmember, hskip, expect_eq_some.mp hcomma, h⟩

/-- In an object, the text at the id is the value of a member with what follows it. -/
theorem idValue_member {d : ℕ} {members : List Member} {s rest : Bytes}
    (h : MembersOf jsonSpace d members s rest) {turns : ℕ} {value : Bytes}
    (hid : idValue turns s = some value) :
    ∃ own v, value = own ++ v ∧ Derives jsonSpace .value d own [] ∧ EndsNumber v := by
  induction h generalizing turns with
  | @last m s t v rest hkey hcolon hgap hvalue hclose =>
    have hends := endsNumber_of_span isSpace_of_jsonSpace (.inr (.inl rfl)) hclose
    obtain ⟨b, t', hfront, hb⟩ := value_front hvalue (by decide)
    have hdense : Dense (m.value ++ v) := by
      rw [hfront]
      exact dense_cons hb.dense _
    have hmember := memberKey_quoted isSpace_of_jsonSpace hkey hcolon hgap hdense
    cases turns with
    | zero => cases hid
    | succ turns =>
      rcases idValue_succ_eq_some hid with hhere | ⟨key, first, rest', u, hfirst, hskip, hcomma, -⟩
      · obtain ⟨-, rfl⟩ := Prod.mk.inj (Option.some.inj (hmember.symm.trans hhere))
        exact ⟨m.value, v, rfl, hvalue, hends⟩
      · obtain ⟨-, rfl⟩ := Prod.mk.inj (Option.some.inj (hmember.symm.trans hfirst))
        obtain rfl := skipMemberValue_end ⟨⟨d, hvalue⟩, hends⟩ hskip
        rw [skipWs_of_span isSpace_of_jsonSpace hclose (dense_cons (by decide) _)] at hcomma
        exact absurd (List.cons.inj hcomma).1 (by decide)
  | @next m members s t v w x rest hkey hcolon hgap hvalue hcomma hgap' hmembers ih =>
    have hends := endsNumber_of_span isSpace_of_jsonSpace (.inr (.inr rfl)) hcomma
    obtain ⟨b, t', hfront, hb⟩ := value_front hvalue (by decide)
    have hdense : Dense (m.value ++ v) := by
      rw [hfront]
      exact dense_cons hb.dense _
    have hx : Dense x := by
      cases hmembers with
      | last => exact dense_cons (by decide) _
      | next => exact dense_cons (by decide) _
    have hmember := memberKey_quoted isSpace_of_jsonSpace hkey hcolon hgap hdense
    cases turns with
    | zero => cases hid
    | succ turns =>
      rcases idValue_succ_eq_some hid with hhere | ⟨key, first, rest', u, hfirst, hskip, hu, hlater⟩
      · obtain ⟨-, rfl⟩ := Prod.mk.inj (Option.some.inj (hmember.symm.trans hhere))
        exact ⟨m.value, v, rfl, hvalue, hends⟩
      · obtain ⟨-, rfl⟩ := Prod.mk.inj (Option.some.inj (hmember.symm.trans hfirst))
        obtain rfl := skipMemberValue_end ⟨⟨d, hvalue⟩, hends⟩ hskip
        rw [skipWs_of_span isSpace_of_jsonSpace hcomma (dense_cons (by decide) _)] at hu
        obtain rfl := (List.cons.inj hu).2
        rw [skipWs_of_span isSpace_of_jsonSpace hgap' hx] at hlater
        exact ih hlater

/-- A number of the standard that is not zero does not begin with a zero. -/
theorem head_ne_zero {d : ℕ} {own v : Bytes} {id : UInt64} (hvalue : Derives jsonSpace .value d own [])
    (hends : EndsNumber v) (hid : WritesId (own ++ v) id) (hnonzero : id ≠ 0) :
    (own ++ v).head? ≠ some (ascii '0') := by
  obtain ⟨digits, rest, htext, hrest, hne, hdigits, hnat⟩ := hid
  obtain ⟨digits', tail, rfl, hdigits', htail⟩ := exists_digits own
  have hstop : ∀ b ∈ (tail ++ v).head?, digit b = false := by
    cases tail with
    | nil => exact fun b hb => (hends b hb).1
    | cons c tail => exact htail
  -- both runs of digits end where the digits end
  have hsame : digits' = digits := by
    have hspan : Span digit (digits' ++ tail ++ v) (tail ++ v) :=
      ⟨digits', List.append_assoc _ _ _, hdigits'⟩
    have hspan' : Span digit (digits' ++ tail ++ v) rest := ⟨digits, htext, hdigits⟩
    have hrest' := (skipDigits_of_span hspan hstop).symm.trans (skipDigits_of_span hspan' hrest)
    rw [← hrest', List.append_assoc] at htext
    exact List.append_cancel_right htext
  subst hsame
  cases digits' with
  | nil => exact absurd rfl hne
  | cons b digits =>
    intro hzero
    obtain rfl : b = 0x30 := Option.some.inj hzero
    obtain rfl := (digits_of_value hdigits' htail hvalue).2 rfl
    exact hnonzero (UInt64.toNat_inj.mp hnat.symm)

theorem idWithoutZero_of_object {payload : Bytes} (haccepted : (parseRequest payload).1 = .none)
    (h : IsObject payload) : IdWithoutZero (requestIdText payload) := by
  obtain ⟨d, members, hobject⟩ := h
  obtain ⟨rest, hopen, hmembers, hid⟩ := parseRequest_none haccepted
  obtain ⟨value, hvalue, hwrites, hnonzero⟩ := (requestMembers_writesId hmembers).2 rfl
  rw [hid, hvalue]
  cases hobject with
  | empty hopen' hclose hend =>
    have hparse := parseRequest_object (ObjectOf.empty (d := d) hopen' hclose hend)
    rw [hparse] at haccepted
    cases haccepted
  | @members _ _ s t u hopen' hgap hmembersOf hend =>
    have ht : Dense t := by
      cases hmembersOf with
      | last => exact dense_cons (by decide) _
      | next => exact dense_cons (by decide) _
    rw [skipWs_of_span isSpace_of_jsonSpace hopen' (dense_cons (by decide) _)] at hopen
    obtain rfl := (List.cons.inj hopen).2
    rw [skipWs_of_span isSpace_of_jsonSpace hgap ht] at hvalue
    obtain ⟨own, v, rfl, hown, hends⟩ := idValue_member hmembersOf hvalue
    exact head_ne_zero hown hends hwrites hnonzero

/-! ### What reaches the dispatcher -/

/-- The answer asks the server for an action, or is a RESPONSE with status 200. -/
def Acts (result : HandleResult) : Prop :=
  result.serverAction ≠ .none ∨
    ∃ id rest, result.response ≠ [] ∧
      result.response = encodeJson .response (correlatedText id (text "200," ++ rest))

theorem encodeJson_inj {type : MessageType} {payload payload' : Bytes}
    (h : encodeJson type payload = encodeJson type payload') (hne : encodeJson type payload ≠ []) :
    payload = payload' := by
  have hlength := length_le_of_encodeJson hne
  have hlength' : payload'.length ≤ kMaxPayloadBytes := length_le_of_encodeJson (h ▸ hne)
  have hdrop := congrArg (List.drop kHeaderSize) h
  rw [encodeJson_eq type hlength, encodeJson_eq type hlength'] at hdrop
  exact hdrop

/-- The id of an answer ends where its digits end. -/
theorem correlatedText_inj {id id' : UInt64} {outcome outcome' : Bytes}
    (h : correlatedText id outcome = correlatedText id' outcome') : outcome = outcome' := by
  unfold correlatedText at h
  rw [List.append_assoc, List.append_assoc, List.append_assoc, List.append_assoc] at h
  have htail := List.append_cancel_left h
  have hstop : ∀ outcome : Bytes, ∀ b ∈ (text ",\"status\":" ++ outcome).head?, digit b = false := by
    rintro outcome b ⟨⟩
    decide
  have hskip : ∀ (id : UInt64) (outcome : Bytes),
      skipDigits (decimal id ++ (text ",\"status\":" ++ outcome)) = text ",\"status\":" ++ outcome := by
    intro id outcome
    exact skipDigits_of_span ⟨decimal id, rfl, decimal_digits id⟩ (hstop outcome)
  have hsame := congrArg skipDigits htail
  rw [hskip, hskip] at hsame
  exact List.append_cancel_left hsame

theorem invalidRequest_ne_success {id id' : UInt64} {message : String} {rest : Bytes}
    (hne : (Session.responseError id 400 "INVALID_REQUEST" message).response ≠ []) :
    (Session.responseError id 400 "INVALID_REQUEST" message).response ≠
      encodeJson .response (correlatedText id' (text "200," ++ rest)) := by
  intro h
  rw [responseError_response] at h hne
  have hpayload := encodeJson_inj h hne
  rw [failureText_eq] at hpayload
  have houtcome := correlatedText_inj hpayload
  have hstatus : decimal 400 = text "400" := by decide +kernel
  rw [hstatus] at houtcome
  exact absurd (List.cons.inj houtcome).1 (by decide)

theorem accepted_of_acts {session : Session} {payload : Bytes}
    (h : Acts (session.handleRequest payload).1) : (parseRequest payload).1 = .none := by
  by_cases hparse : (parseRequest payload).1 = .none
  · exact hparse
  exfalso
  simp only [Session.handleRequest] at h
  rw [if_pos hparse] at h
  unfold Session.rejectRequest at h
  by_cases hid : (parseRequest payload).2.haveRequestId = true ∧
      (parseRequest payload).1 ≠ .duplicateRequestId ∧ (parseRequest payload).1 ≠ .invalidRequestId
  · rw [if_pos hid] at h
    rcases h with haction | ⟨id, rest, hne, hresponse⟩
    · exact haction rfl
    · exact invalidRequest_ne_success hne hresponse
  · rw [if_neg hid] at h
    rcases h with haction | ⟨id, rest, hne, hresponse⟩
    · exact haction rfl
    · exact errorResult_unanswered session _ _ id (.inl ⟨_, hne, hresponse⟩)

/-- The text is the encoding of some characters. -/
def ValidUtf8 (s : Bytes) : Prop := ∃ chars : List Char, s = chars.flatMap String.utf8EncodeChar

/-- **What reaches the dispatcher** is an object of the standard exactly if it has neither of the two
odd white spaces and its id does not begin with a zero; and it is UTF-8 only if it came as UTF-8,
since the session does not look at the bytes of a string. -/
theorem accepted_request_wellformed_iff {session : Session} {frame : Frame}
    (hready : ReadyRequest session frame) (hacts : Acts (session.handleFrame frame).1) :
    (ValidUtf8 frame.payload ∧ IsObject frame.payload) ↔
      ValidUtf8 frame.payload ∧ FreeOfOddSpace frame.payload ∧
        IdWithoutZero (requestIdText frame.payload) := by
  rw [hready.handleFrame_eq] at hacts
  have haccepted := accepted_of_acts hacts
  constructor
  · rintro ⟨hutf8, hobject⟩
    exact ⟨hutf8, freeOfOddSpace_of_object hobject, idWithoutZero_of_object haccepted hobject⟩
  · rintro ⟨hutf8, hspace, hzero⟩
    exact ⟨hutf8, isObject_of_accepted haccepted hspace hzero⟩

/-- A snapshot request with a vertical tab behind the brace. -/
def verticalTab : Bytes :=
  text "\x7b" ++ 0x0b :: text "\"requestId\":5,\"method\":\"network.snapshot\"\x7d"

def snapshotPayload : Bytes := text "\x7b\"requestId\":5,\"method\":\"network.snapshot\"\x7d"

/-- The vertical tab passes as white space and the request is carried out. -/
theorem vertical_tab_reaches_dispatcher :
    ¬∀ (session : Session) (frame : Frame), ReadyRequest session frame →
      frame.payload.length ≤ kMaxPayloadBytes → Acts (session.handleFrame frame).1 →
        ValidUtf8 frame.payload ∧ IsObject frame.payload := by
  intro h
  have hready := readyRequest_message verticalTab
  have hacts : Acts (readySession.handleFrame (messageFrame (.request, verticalTab))).1 := by
    refine .inl ?_
    decide +kernel
  obtain ⟨-, hobject⟩ := h _ _ hready (show verticalTab.length ≤ _ by decide) hacts
  exact (freeOfOddSpace_of_object hobject).1 (show (0x0b : UInt8) ∈ verticalTab by decide)

theorem snapshot_request_wellformed : ValidUtf8 snapshotPayload ∧ IsObject snapshotPayload := by
  have hacts : Acts (readySession.handleFrame (messageFrame (.request, snapshotPayload))).1 := by
    refine .inl ?_
    decide +kernel
  apply (accepted_request_wellformed_iff (readyRequest_message snapshotPayload) hacts).mpr
  refine ⟨⟨"\x7b\"requestId\":5,\"method\":\"network.snapshot\"\x7d".toList, ?_⟩, ⟨?_, ?_⟩, ?_⟩
  · decide +kernel
  · decide
  · decide
  · unfold IdWithoutZero
    decide +kernel

end NetworkService.Ipc
