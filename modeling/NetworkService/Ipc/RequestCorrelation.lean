import NetworkService.Ipc.RequestMembers
import NetworkService.Ipc.SessionRuns
import NetworkService.Ipc.Wire

/-!
# Requests that are answered under their id

A mistake that is found behind the id is answered under the id; a mistake that is found before it is
answered by an ERROR that belongs to no request.  So it depends on the members that stand before the
id whether the client learns which of its requests has failed.
-/

namespace NetworkService.Ipc

open Json

/-! ### Answers with an id -/

/-- The beginning of every RESPONSE: the id of its request and the status. -/
def correlatedText (requestId : UInt64) (outcome : Bytes) : Bytes :=
  text "\x7b\"requestId\":" ++ decimal requestId ++ text ",\"status\":" ++ outcome

/-- A RESPONSE with this id, or an action that the server takes under this id. -/
def AnsweredUnder (id : UInt64) (result : HandleResult) : Prop :=
  (∃ outcome, result.response ≠ [] ∧
    result.response = encodeJson .response (correlatedText id outcome)) ∨
  (result.response = [] ∧ result.serverAction ≠ .none ∧ result.actionRequestId = id)

theorem encodeJson_ne_nil (type : MessageType) {payload : Bytes}
    (h : payload.length ≤ kMaxPayloadBytes) : encodeJson type payload ≠ [] := by
  intro hnil
  have hlength := congrArg List.length hnil
  rw [← List.append_nil (encodeJson type payload), encodeJson_append type h] at hlength
  cases hlength

theorem correlatedText_length (requestId : UInt64) (outcome : Bytes) :
    (correlatedText requestId outcome).length ≤ 43 + outcome.length := by
  have hdecimal := length_decimal_le requestId
  have hfront : (text "\x7b\"requestId\":").length = 13 := by decide
  have hstatus : (text ",\"status\":").length = 10 := by decide
  unfold correlatedText
  rw [List.length_append, List.length_append, List.length_append, hfront, hstatus]
  omega

/-- A short answer fits into a frame. -/
theorem correlatedText_ne_nil (id : UInt64) {outcome : Bytes} (h : outcome.length ≤ 65000) :
    encodeJson .response (correlatedText id outcome) ≠ [] := by
  have hlength := correlatedText_length id outcome
  apply encodeJson_ne_nil
  unfold kMaxPayloadBytes
  omega

theorem answeredUnder_text (id : UInt64) {outcome : Bytes} (h : outcome.length ≤ 65000)
    {result : HandleResult}
    (hresponse : result.response = encodeJson .response (correlatedText id outcome)) :
    AnsweredUnder id result := by
  refine .inl ⟨outcome, ?_, hresponse⟩
  rw [hresponse]
  exact correlatedText_ne_nil id h

theorem successText_eq (requestId : UInt64) (resultJson : Bytes) :
    Session.successText requestId resultJson =
      correlatedText requestId (text "200,\"result\":" ++ resultJson ++ text "\x7d") := by
  have hstatus : text ",\"status\":200,\"result\":" = text ",\"status\":" ++ text "200,\"result\":" := by
    decide
  unfold Session.successText correlatedText
  rw [hstatus]
  simp only [List.append_assoc]

theorem failureText_eq (requestId status : UInt64) (code message : String) :
    Session.failureText requestId status code message =
      correlatedText requestId (decimal status ++ (text ",\"error\":\x7b\"code\":\"" ++ (text code ++
        (text "\",\"message\":\"" ++ (text message ++ text "\"\x7d\x7d"))))) := by
  unfold Session.failureText correlatedText
  simp only [List.append_assoc]

theorem responseSuccess_response (id : UInt64) (resultJson : Bytes) :
    (Session.responseSuccess id resultJson).response =
      encodeJson .response (Session.successText id resultJson) := by
  simp only [Session.responseSuccess]

theorem responseError_response (id status : UInt64) (code message : String) :
    (Session.responseError id status code message).response =
      encodeJson .response (Session.failureText id status code message) := by
  simp only [Session.responseError]

theorem successOutcome_length {resultJson : Bytes} (h : resultJson.length ≤ 1000) :
    (text "200,\"result\":" ++ resultJson ++ text "\x7d").length ≤ 65000 := by
  have hfront : (text "200,\"result\":").length = 13 := by decide
  have hback : (text "\x7d").length = 1 := by decide
  rw [List.length_append, List.length_append, hfront, hback]
  omega

theorem success_answered (id : UInt64) {resultJson : Bytes} (h : resultJson.length ≤ 1000)
    {result : HandleResult}
    (hresponse : result.response = (Session.responseSuccess id resultJson).response) :
    AnsweredUnder id result := by
  rw [responseSuccess_response, successText_eq] at hresponse
  exact answeredUnder_text id (successOutcome_length h) hresponse

theorem requestErrorMessage_length (parseError : RequestParseError) :
    (text (requestErrorMessage parseError)).length ≤ 50 := by
  cases parseError <;> decide

theorem failureOutcome_length {message : String} (h : (text message).length ≤ 50) :
    (decimal 400 ++ (text ",\"error\":\x7b\"code\":\"" ++ (text "INVALID_REQUEST" ++
      (text "\",\"message\":\"" ++ (text message ++ text "\"\x7d\x7d"))))).length ≤ 65000 := by
  have hstatus := length_decimal_le 400
  have hcode : (text ",\"error\":\x7b\"code\":\"").length = 18 := by decide
  have hname : (text "INVALID_REQUEST").length = 15 := by decide
  have hbetween : (text "\",\"message\":\"").length = 13 := by decide
  have hback : (text "\"\x7d\x7d").length = 3 := by decide
  rw [List.length_append, List.length_append, List.length_append, List.length_append,
    List.length_append, hcode, hname, hbetween, hback]
  omega

theorem invalidRequest_answered (id : UInt64) {message : String} (h : (text message).length ≤ 50) :
    AnsweredUnder id (Session.responseError id 400 "INVALID_REQUEST" message) := by
  have hresponse := responseError_response id 400 "INVALID_REQUEST" message
  rw [failureText_eq] at hresponse
  apply answeredUnder_text id _ hresponse
  exact failureOutcome_length h

/-- An ERROR belongs to no request. -/
theorem errorResult_unanswered (session : Session) (code message : String) (id : UInt64) :
    ¬AnsweredUnder id (session.errorResult code message false).1 := by
  rintro (⟨outcome, hne, hresponse⟩ | ⟨-, haction, -⟩)
  · have hfits : (correlatedText id outcome).length ≤ kMaxPayloadBytes := by
      rw [hresponse] at hne
      exact length_le_of_encodeJson hne
    have htype : (session.errorResult code message false).1.frameType? = some .response := by
      unfold HandleResult.frameType?
      rw [hresponse, decodeHeader_encodeJson .response hfits]
      rfl
    cases frameType?_encodeJson (Session.errorText (text code) (text message)) rfl htype
  · exact haction rfl

/-! ### From the reading of a request to its answer -/

/-- The id that a parse hands to the answer. -/
def Identified (parsed : RequestParseError × ParsedRequest) : Prop :=
  parsed.1 = .none ∨ parsed.2.haveRequestId = true ∧ parsed.1 ≠ .duplicateRequestId ∧
    parsed.1 ≠ .invalidRequestId

theorem pingJson_length :
    (text "\x7b\"service\":\"network_service\",\"protocolVersion\":1\x7d").length ≤ 1000 := by
  decide

theorem subscribedJson_length : (text "\x7b\"subscribed\":true\x7d").length ≤ 1000 := by
  decide

theorem handleRequest_identified (session : Session) {payload : Bytes}
    (h : Identified (parseRequest payload)) :
    AnsweredUnder (parseRequest payload).2.requestId (session.handleRequest payload).1 := by
  simp only [Session.handleRequest]
  by_cases hparse : (parseRequest payload).1 ≠ .none
  · rw [if_pos hparse]
    unfold Session.rejectRequest
    rw [if_pos (h.resolve_left hparse)]
    exact invalidRequest_answered _ (requestErrorMessage_length _)
  rw [if_neg hparse]
  by_cases hping : (parseRequest payload).2.method = text "network.ping"
  · rw [if_pos hping]
    exact success_answered _ pingJson_length rfl
  rw [if_neg hping]
  by_cases hsnapshot : (parseRequest payload).2.method = text "network.snapshot"
  · rw [if_pos hsnapshot]
    exact .inr ⟨rfl, by simp, rfl⟩
  rw [if_neg hsnapshot]
  by_cases hsubscribe : (parseRequest payload).2.method = text "network.events.subscribe"
  · rw [if_pos hsubscribe]
    apply success_answered _ subscribedJson_length
    simp only
  · rw [if_neg hsubscribe]
    exact .inr ⟨rfl, by simp, rfl⟩

theorem handleRequest_unidentified (session : Session) {payload : Bytes}
    (h : (parseRequest payload).1 ≠ .none) (hid : (parseRequest payload).2.haveRequestId = false)
    (id : UInt64) : ¬AnsweredUnder id (session.handleRequest payload).1 := by
  simp only [Session.handleRequest]
  rw [if_pos h]
  unfold Session.rejectRequest
  rw [if_neg (by rw [hid]; simp)]
  exact errorResult_unanswered session _ _ id

/-! ### Members that are passed before the id -/

/-- A value that is not nested more deeply than the scanner follows. -/
def Shallow (value : Bytes) : Prop := Derives jsonSpace .value kMaxJsonDepth value []

/-- What `parse_request` asks of a member whose key is not the id's: a method must be the first one
and a string that is not empty, params must be the first ones and an object, and what is scanned
must not be nested too deeply. -/
def Passable (haveMethod haveParams : Bool) (member : Member) : Prop :=
  if readKey member = text "method" then
    haveMethod = false ∧ ∃ pieces : List Piece, pieces ≠ [] ∧ (∀ piece ∈ pieces, piece.Valid) ∧
      member.value = quoted pieces []
  else if readKey member = text "params" then
    haveParams = false ∧ member.value.head? = some openBrace ∧ Shallow member.value
  else Shallow member.value

/-- All these members are passed, one after the other. -/
def Readable : Bool → Bool → List Member → Prop
  | _, _, [] => True
  | haveMethod, haveParams, member :: members =>
    Passable haveMethod haveParams member ∧
      Readable (haveMethod || readKey member == text "method")
        (haveParams || readKey member == text "params") members

/-- A mistake that has nothing to do with the id. -/
structure OtherMistake (parseError : RequestParseError) : Prop where
  ne_none : parseError ≠ .none
  ne_duplicate : parseError ≠ .duplicateRequestId
  ne_invalid : parseError ≠ .invalidRequestId

/-- The id read so far is kept. -/
def SameId (out next : ParsedRequest) : Prop :=
  next.requestId = out.requestId ∧ next.haveRequestId = out.haveRequestId

theorem SameId.refl (out : ParsedRequest) : SameId out out := ⟨rfl, rfl⟩

theorem SameId.trans {out next last : ParsedRequest} (h : SameId out next) (h' : SameId next last) :
    SameId out last := ⟨h'.1.trans h.1, h'.2.trans h.2⟩

theorem skipMemberValue_shallow {d : ℕ} {value : Bytes} (h : Derives jsonSpace .value d value []) :
    (Shallow value ∧ skipMemberValue value = some []) ∨
      (¬Shallow value ∧ skipMemberValue value = none) := by
  by_cases hshallow : Shallow value
  · have hpassed := skipValue_of_derives hshallow endsNumber_nil
    rw [List.append_nil] at hpassed
    exact .inl ⟨hshallow, hpassed⟩
  · refine .inr ⟨hshallow, ?_⟩
    cases hfound : skipMemberValue value with
    | none => rfl
    | some found =>
      rw [← List.append_nil value] at hfound
      exact absurd (derives_of_skipValue h endsNumber_nil hfound).2 hshallow

/-- What is made of a member besides the id. -/
def MemberRead (out : ParsedRequest) (member : Member) : Prop :=
  (Passable out.haveMethod out.haveParams member ∧ ∃ next, readMember out member = .ok next ∧
    SameId out next ∧ next.haveMethod = (out.haveMethod || readKey member == text "method") ∧
    next.haveParams = (out.haveParams || readKey member == text "params")) ∨
  (¬Passable out.haveMethod out.haveParams member ∧
    ∃ parseError, readMember out member = .error parseError ∧ OtherMistake parseError)

theorem readMember_method {member : Member} {d : ℕ}
    (hvalue : Derives jsonSpace .value d member.value [])
    (hkey : readKey member = text "method") (out : ParsedRequest) : MemberRead out member := by
  have hid : text "method" ≠ text "requestId" := by decide
  have hparams : (text "method" == text "params") = false := by decide
  have hread : readMember out member = (methodMember out member.value).map Prod.fst := by
    unfold readMember requestMember
    rw [hkey, if_neg hid, if_pos rfl]
  unfold MemberRead
  rw [hread, Passable, if_pos hkey, hkey, hparams]
  unfold methodMember
  cases hfirst : out.haveMethod with
  | true => exact .inr ⟨by simp, .duplicateMethod, rfl, by simp, by simp, by simp⟩
  | false =>
    cases hstring : parseString member.value with
    | none =>
      refine .inr ⟨?_, .invalidMethod, rfl, by simp, by simp, by simp⟩
      rintro ⟨-, pieces, -, hvalid, hquoted⟩
      rw [hquoted, parseString_eq_some.mpr ⟨pieces, hvalid, rfl, rfl⟩] at hstring
      cases hstring
    | some string =>
      obtain ⟨read, found⟩ := string
      have hstanding : Standing member.value [] := ⟨⟨d, hvalue⟩, endsNumber_nil⟩
      have hwhole := hstring
      rw [← List.append_nil member.value] at hwhole
      obtain ⟨pieces, hvalid, hquoted, rfl, -⟩ := parseString_standing hstanding hwhole
      by_cases hempty : pieces = []
      · subst hempty
        refine .inr ⟨?_, .invalidMethod, rfl, by simp, by simp, by simp⟩
        rintro ⟨-, others, hne, hothers, hsame⟩
        rw [hsame, parseString_eq_some.mpr ⟨others, hothers, rfl, rfl⟩] at hstring
        obtain ⟨hmap, -⟩ := Prod.mk.inj (Option.some.inj hstring)
        exact hne (List.map_eq_nil_iff.mp hmap)
      · refine .inl ⟨⟨rfl, pieces, hempty, hvalid, hquoted⟩,
          { out with method := pieces.map pieceByte, haveMethod := true }, ?_, ⟨rfl, rfl⟩, ?_, ?_⟩
        · simp [hempty, Except.map]
        · simp
        · simp

theorem readMember_params {member : Member} {d : ℕ}
    (hvalue : Derives jsonSpace .value d member.value [])
    (hkey : readKey member = text "params") (out : ParsedRequest) : MemberRead out member := by
  have hid : text "params" ≠ text "requestId" := by decide
  have hmethod : text "params" ≠ text "method" := by decide
  have hread : readMember out member = (paramsMember out member.value).map Prod.fst := by
    unfold readMember requestMember
    rw [hkey, if_neg hid, if_neg hmethod, if_pos rfl]
  unfold MemberRead
  rw [hread, Passable, hkey, if_neg hmethod, if_pos rfl]
  unfold paramsMember
  cases hfirst : out.haveParams with
  | true => exact .inr ⟨by simp, .duplicateParams, rfl, by simp, by simp, by simp⟩
  | false =>
    by_cases hopen : member.value.head? = some openBrace
    · have hexpect : (expect openBrace member.value).isNone = false := by
        cases htext : member.value with
        | nil =>
          rw [htext] at hopen
          cases hopen
        | cons b rest =>
          rw [htext] at hopen
          obtain rfl : b = openBrace := Option.some.inj hopen
          rw [expect_cons_self]
          rfl
      rw [hexpect]
      rcases skipMemberValue_shallow hvalue with ⟨hshallow, hfound⟩ | ⟨hdeep, hfound⟩
      · rw [hfound]
        refine .inl ⟨⟨rfl, hopen, hshallow⟩, _, rfl, ⟨rfl, rfl⟩, ?_, ?_⟩
        · simp [beq_eq_false_iff_ne.mpr hmethod]
        · simp
      · rw [hfound]
        exact .inr ⟨fun h => hdeep h.2.2, .invalidParams, rfl, by simp, by simp, by simp⟩
    · have hexpect : (expect openBrace member.value).isNone = true := by
        cases hfound : expect openBrace member.value with
        | none => rfl
        | some rest =>
          rw [expect_eq_some.mp hfound] at hopen
          exact absurd rfl hopen
      rw [hexpect]
      exact .inr ⟨fun h => hopen h.2.1, .invalidParams, rfl, by simp, by simp, by simp⟩

theorem readMember_other {member : Member} {d : ℕ}
    (hvalue : Derives jsonSpace .value d member.value [])
    (hkey : readKey member ≠ text "requestId") (out : ParsedRequest) : MemberRead out member := by
  by_cases hmethod : readKey member = text "method"
  · exact readMember_method hvalue hmethod out
  by_cases hparams : readKey member = text "params"
  · exact readMember_params hvalue hparams out
  unfold MemberRead readMember requestMember
  rw [Passable, if_neg hmethod, if_neg hparams, if_neg hkey, if_neg hmethod, if_neg hparams]
  rcases skipMemberValue_shallow hvalue with ⟨hshallow, hfound⟩ | ⟨hdeep, hfound⟩
  · rw [hfound]
    refine .inl ⟨hshallow, out, rfl, SameId.refl out, ?_, ?_⟩
    · simp [beq_eq_false_iff_ne.mpr hmethod]
    · simp [beq_eq_false_iff_ne.mpr hparams]
  · rw [hfound]
    exact .inr ⟨hdeep, .invalidJson, rfl, by simp, by simp, by simp⟩

/-- The walk over members of which none is the id: it reaches their end exactly if all of them are
passed, and keeps the id that was read before. -/
theorem readMembers_others {others : List Member} {d : ℕ}
    (hvalues : ∀ member ∈ others, Derives jsonSpace .value d member.value [])
    (hkeys : ∀ member ∈ others, readKey member ≠ text "requestId") (rest : List Member)
    (out : ParsedRequest) :
    (Readable out.haveMethod out.haveParams others ∧
      ∃ next, readMembers out (others ++ rest) = readMembers next rest ∧ SameId out next) ∨
    (¬Readable out.haveMethod out.haveParams others ∧ OtherMistake (readMembers out (others ++ rest)).1 ∧
      SameId out (readMembers out (others ++ rest)).2) := by
  induction others generalizing out with
  | nil => exact .inl ⟨trivial, out, rfl, SameId.refl out⟩
  | cons member others ih =>
    obtain ⟨hvalue, hvalues⟩ := List.forall_mem_cons.mp hvalues
    obtain ⟨hkey, hkeys⟩ := List.forall_mem_cons.mp hkeys
    rw [List.cons_append, readMembers, Readable]
    rcases readMember_other hvalue hkey out with
      ⟨hpass, next, hread, hsame, hmethod, hparams⟩ | ⟨hstop, parseError, hread, hmistake⟩
    · rw [hread, ← hmethod, ← hparams]
      rcases ih hvalues hkeys next with ⟨hreadable, last, hwalk, hlast⟩ | ⟨hunread, hmistake, hlast⟩
      · exact .inl ⟨⟨hpass, hreadable⟩, last, hwalk, hsame.trans hlast⟩
      · exact .inr ⟨fun h => hunread h.2, hmistake, hsame.trans hlast⟩
    · rw [hread]
      exact .inr ⟨fun h => hstop h.1, hmistake, SameId.refl out⟩

/-- Behind the id the walk ends under the id. -/
theorem readMembers_behind {others : List Member} {d : ℕ}
    (hvalues : ∀ member ∈ others, Derives jsonSpace .value d member.value [])
    (hkeys : ∀ member ∈ others, readKey member ≠ text "requestId") {out : ParsedRequest}
    (hid : out.haveRequestId = true) :
    Identified (readMembers out others) ∧ (readMembers out others).2.requestId = out.requestId := by
  have hwalk := readMembers_others hvalues hkeys [] out
  rw [List.append_nil] at hwalk
  rcases hwalk with ⟨-, next, hend, hsame⟩ | ⟨-, hmistake, hsame⟩
  · have hhave : next.haveRequestId = true := hsame.2.trans hid
    rw [hend, readMembers, readEnd, hhave]
    cases next.haveMethod with
    | true => exact ⟨.inl rfl, hsame.1⟩
    | false => exact ⟨.inr ⟨hhave, by simp, by simp⟩, hsame.1⟩
  · exact ⟨.inr ⟨hsame.2.trans hid, hmistake.ne_duplicate, hmistake.ne_invalid⟩, hsame.1⟩

/-- Without an id the walk ends with a mistake. -/
theorem readMembers_without {others : List Member} {d : ℕ}
    (hvalues : ∀ member ∈ others, Derives jsonSpace .value d member.value [])
    (hkeys : ∀ member ∈ others, readKey member ≠ text "requestId") :
    (readMembers {} others).1 ≠ .none ∧ (readMembers {} others).2.haveRequestId = false := by
  have hwalk := readMembers_others hvalues hkeys [] {}
  rw [List.append_nil] at hwalk
  rcases hwalk with ⟨-, next, hend, hsame⟩ | ⟨-, hmistake, hsame⟩
  · have hhave : next.haveRequestId = false := hsame.2
    rw [hend, readMembers, readEnd, hhave]
    exact ⟨by simp, hhave⟩
  · exact ⟨hmistake.ne_none, hsame.2⟩

/-! ### The member that is the id -/

/-- The key of the member stands for this name. -/
def Named (name : String) (member : Member) : Prop :=
  member.key.map Piece.unit = name.toList.map Char.toNat

/-- The key is written without an escape by a code point. -/
def PlainKey (member : Member) : Prop :=
  ∀ piece ∈ member.key, ∀ h₀ h₁ h₂ h₃, piece ≠ .unicode h₀ h₁ h₂ h₃

/-- A value that is written as a number without a fraction or an exponent. -/
def WritesInteger (value : Bytes) (n : ℕ) : Prop :=
  value ≠ [] ∧ (∀ b ∈ value, digit b = true) ∧ natOfDigits value = n

theorem toNat_pieceByte {piece : Piece} (h : ∀ h₀ h₁ h₂ h₃, piece ≠ .unicode h₀ h₁ h₂ h₃) :
    (pieceByte piece).toNat = piece.unit := by
  cases piece with
  | byte b => rfl
  | escape e => rfl
  | unicode h₀ h₁ h₂ h₃ => exact absurd rfl (h h₀ h₁ h₂ h₃)

theorem units_of_plainKey {member : Member} (h : PlainKey member) :
    (readKey member).map UInt8.toNat = member.key.map Piece.unit := by
  unfold readKey
  rw [List.map_map]
  exact List.map_congr_left fun piece hpiece => toNat_pieceByte (h piece hpiece)

/-- A code point is read as a question mark, which is in no name of a request. -/
theorem plainKey_of_readKey {member : Member} {name : Bytes} (hname : ascii '?' ∉ name)
    (h : readKey member = name) : PlainKey member := by
  intro piece hpiece h₀ h₁ h₂ h₃ hunicode
  apply hname
  rw [← h, readKey, List.mem_map]
  exact ⟨piece, hpiece, by rw [hunicode]; rfl⟩

theorem text_requestId_toNat : (text "requestId").map UInt8.toNat = "requestId".toList.map Char.toNat := by
  decide

/-- **The key of the id is recognised** exactly if no code point is escaped in it. -/
theorem readKey_requestId_iff (member : Member) :
    readKey member = text "requestId" ↔ Named "requestId" member ∧ PlainKey member := by
  constructor
  · intro h
    have hplain := plainKey_of_readKey (by decide) h
    refine ⟨?_, hplain⟩
    rw [Named, ← units_of_plainKey hplain, h, text_requestId_toNat]
  · rintro ⟨hnamed, hplain⟩
    rw [Named, ← units_of_plainKey hplain, ← text_requestId_toNat] at hnamed
    exact (List.map_inj_right fun _ _ => UInt8.toNat_inj.mp).mp hnamed

theorem idOfValue_of_integer {value : Bytes} {id : UInt64} (hid : id ≠ 0)
    (h : WritesInteger value id.toNat) : idOfValue value = some id := by
  obtain ⟨hne, hdigits, hvalue⟩ := h
  have hpos : 0 < natOfDigits value := by
    rw [hvalue]
    apply Nat.pos_of_ne_zero
    intro hzero
    exact hid (UInt64.toNat_inj.mp hzero)
  have hfits : natOfDigits value < 2 ^ 64 := by
    rw [hvalue]
    exact id.toNat_lt
  unfold idOfValue
  rw [if_pos ⟨hne, List.all_eq_true.mpr hdigits, hpos, hfits⟩, hvalue]
  congr 1
  exact UInt64.ofNat_toNat

theorem readMember_requestId {member : Member} {d : ℕ}
    (hvalue : Derives jsonSpace .value d member.value [])
    (hkey : readKey member = text "requestId") {id : UInt64} (hid : id ≠ 0)
    (hinteger : WritesInteger member.value id.toNat) {out : ParsedRequest}
    (hfirst : out.haveRequestId = false) :
    readMember out member = .ok { out with requestId := id, haveRequestId := true } := by
  have hstanding : Standing member.value [] := ⟨⟨d, hvalue⟩, endsNumber_nil⟩
  have hmember := requestIdMember_standing hstanding hfirst
  rw [List.append_nil, idOfValue_of_integer hid hinteger] at hmember
  unfold readMember requestMember
  rw [if_pos hkey, hmember]
  rfl

/-! ### Correlation -/

theorem MembersOf.values {d : ℕ} {members : List Member} {s rest : Bytes}
    (h : MembersOf jsonSpace d members s rest) :
    ∀ member ∈ members, Derives jsonSpace .value d member.value [] := by
  induction h with
  | last _ _ _ hvalue _ =>
    intro member hmember
    rw [List.mem_singleton.mp hmember]
    exact hvalue
  | next _ _ _ hvalue _ _ _ ih => exact List.forall_mem_cons.mpr ⟨hvalue, ih⟩

theorem ObjectOf.values {d : ℕ} {members : List Member} {payload : Bytes}
    (h : ObjectOf jsonSpace d members payload) :
    ∀ member ∈ members, Derives jsonSpace .value d member.value [] := by
  cases h with
  | empty => simp
  | members _ _ hmembers _ => exact MembersOf.values hmembers

/-- A request of a ready session. -/
structure ReadyRequest (session : Session) (frame : Frame) : Prop where
  ready : session.state = .ready
  request : frame.header.type = .request

theorem ReadyRequest.handleFrame_eq {session : Session} {frame : Frame}
    (h : ReadyRequest session frame) :
    session.handleFrame frame = session.handleRequest frame.payload := by
  unfold Session.handleFrame
  rw [h.ready]
  simp only [h.request, if_true]

/-- An object with exactly one member that is named `requestId`, which is this id. -/
structure IdentifiesRequest (payload : Bytes) (before : List Member) (member : Member)
    (id : UInt64) : Prop where
  object : ∃ d after, ObjectOf jsonSpace d (before ++ member :: after) payload ∧
    ∀ other ∈ before ++ after, ¬Named "requestId" other
  named : Named "requestId" member
  nonzero : id ≠ 0
  integer : WritesInteger member.value id.toNat

/-- **A request is answered under its id** exactly if the id's key is written without an escaped
code point and every member before it is passed. -/
theorem answered_under_id_iff {session : Session} {frame : Frame} {before : List Member}
    {member : Member} {id : UInt64} (hready : ReadyRequest session frame)
    (hidentified : IdentifiesRequest frame.payload before member id) :
    AnsweredUnder id (session.handleFrame frame).1 ↔
      PlainKey member ∧ Readable false false before := by
  obtain ⟨⟨d, after, hobject, hunique⟩, hnamed, hid, hinteger⟩ := hidentified
  have hvalues := ObjectOf.values hobject
  have hparse := parseRequest_object hobject
  have hothers : ∀ other ∈ before ++ after, readKey other ≠ text "requestId" := by
    intro other hother hkey
    exact hunique other hother ((readKey_requestId_iff other).mp hkey).1
  obtain ⟨hbefore, hafter⟩ := List.forall_mem_append.mp hothers
  obtain ⟨hvaluesBefore, hrest⟩ := List.forall_mem_append.mp hvalues
  obtain ⟨hvalue, hvaluesAfter⟩ := List.forall_mem_cons.mp hrest
  rw [hready.handleFrame_eq]
  by_cases hplain : PlainKey member
  · have hkey := (readKey_requestId_iff member).mpr ⟨hnamed, hplain⟩
    rcases readMembers_others hvaluesBefore hbefore (member :: after) {} with
      ⟨hreadable, next, hwalk, hsame⟩ | ⟨hunread, hmistake, hsame⟩
    · refine iff_of_true ?_ ⟨hplain, hreadable⟩
      have hread := readMember_requestId hvalue hkey hid hinteger hsame.2
      rw [hwalk, readMembers, hread] at hparse
      have hbehind := readMembers_behind hvaluesAfter hafter
        (show ({ next with requestId := id, haveRequestId := true } : ParsedRequest).haveRequestId =
          true from rfl)
      simp only [← hparse] at hbehind
      have hanswered := handleRequest_identified session hbehind.1
      rw [hbehind.2] at hanswered
      exact hanswered
    · refine iff_of_false ?_ fun h => hunread h.2
      rw [← hparse] at hmistake hsame
      exact handleRequest_unidentified session hmistake.ne_none hsame.2 id
  · refine iff_of_false ?_ fun h => hplain h.1
    have hall : ∀ other ∈ before ++ member :: after, readKey other ≠ text "requestId" := by
      intro other hother hkey
      rcases List.mem_append.mp hother with hmem | hmem
      · exact hbefore other hmem hkey
      · rcases List.mem_cons.mp hmem with rfl | hmem
        · exact hplain ((readKey_requestId_iff other).mp hkey).2
        · exact hafter other hmem hkey
    have hwithout := readMembers_without hvalues hall
    rw [← hparse] at hwithout
    exact handleRequest_unidentified session hwithout.1 hwithout.2 id

/-! ### An empty method before the id -/

def idMember : Member := ⟨(text "requestId").map .byte, text "5"⟩

def emptyMethodMember : Member := ⟨(text "method").map .byte, text "\"\""⟩

/-- `\x7b"method":"","requestId":5\x7d` -/
def emptyMethodFirst : Bytes := text "\x7b\"method\":\"\",\"requestId\":5\x7d"

/-- `\x7b"requestId":5,"method":""\x7d` -/
def emptyMethodLast : Bytes := text "\x7b\"requestId\":5,\"method\":\"\"\x7d"

theorem valid_of_bytes {name : Bytes} (h : ∀ b ∈ name, 0x20 ≤ b ∧ b ≠ 0x22 ∧ b ≠ 0x5c) :
    ∀ piece ∈ name.map Piece.byte, piece.Valid := by
  intro piece hpiece
  obtain ⟨b, hb, rfl⟩ := List.mem_map.mp hpiece
  exact h b hb

theorem idMember_key : ∀ piece ∈ idMember.key, piece.Valid :=
  valid_of_bytes (by decide +kernel)

theorem emptyMethodMember_key : ∀ piece ∈ emptyMethodMember.key, piece.Valid :=
  valid_of_bytes (by decide +kernel)

theorem idMember_value : Derives jsonSpace .value 1 idMember.value [] := by
  have hfive : idMember.value = [0x35] := by decide
  rw [hfive]
  exact .number ⟨_, _, _, .none, .digits (by decide) (by decide) (Span.refl _ _), .none, .none⟩

theorem emptyMethodMember_value : Derives jsonSpace .value 1 emptyMethodMember.value [] := by
  have hempty : emptyMethodMember.value = quoted [] [] := by decide
  rw [hempty]
  exact .string (by simp)

theorem idMember_named : Named "requestId" idMember := by
  unfold Named
  decide

theorem emptyMethodMember_unnamed : ¬Named "requestId" emptyMethodMember := by
  unfold Named
  decide

theorem idMember_integer : WritesInteger idMember.value (5 : UInt64).toNat := by
  refine ⟨?_, ?_, ?_⟩
  all_goals decide +kernel

theorem emptyMethodFirst_eq : emptyMethodFirst =
    0x7b :: quoted emptyMethodMember.key (0x3a :: (emptyMethodMember.value ++ 0x2c ::
      quoted idMember.key (0x3a :: (idMember.value ++ [0x7d])))) := by decide

theorem emptyMethodLast_eq : emptyMethodLast =
    0x7b :: quoted idMember.key (0x3a :: (idMember.value ++ 0x2c ::
      quoted emptyMethodMember.key (0x3a :: (emptyMethodMember.value ++ [0x7d])))) := by decide

/-- An object of two members without white space. -/
theorem objectOf_pair {d : ℕ} {m n : Member} (hm : ∀ piece ∈ m.key, piece.Valid)
    (hn : ∀ piece ∈ n.key, piece.Valid) (hvalue : Derives jsonSpace .value d m.value [])
    (hvalue' : Derives jsonSpace .value d n.value []) :
    ObjectOf jsonSpace d [m, n] (0x7b :: quoted m.key (0x3a :: (m.value ++ 0x2c ::
      quoted n.key (0x3a :: (n.value ++ [0x7d]))))) := by
  have hlast : MembersOf jsonSpace d [n] (quoted n.key (0x3a :: (n.value ++ [0x7d]))) [] :=
    .last hn (Span.refl _ _) (Span.refl _ _) hvalue' (Span.refl _ _)
  have hmembers := MembersOf.next hm (Span.refl _ _) (Span.refl _ _) hvalue (Span.refl _ _)
    (Span.refl _ _) hlast
  exact .members (Span.refl _ _) (Span.refl _ _) hmembers (Span.refl _ _)

theorem emptyMethodFirst_identifies :
    IdentifiesRequest emptyMethodFirst [emptyMethodMember] idMember 5 where
  object := by
    refine ⟨1, [], ?_, ?_⟩
    · rw [emptyMethodFirst_eq]
      exact objectOf_pair emptyMethodMember_key idMember_key emptyMethodMember_value idMember_value
    · intro other hother
      rw [List.append_nil, List.mem_singleton] at hother
      rw [hother]
      exact emptyMethodMember_unnamed
  named := idMember_named
  nonzero := by decide
  integer := idMember_integer

theorem emptyMethodLast_identifies : IdentifiesRequest emptyMethodLast [] idMember 5 where
  object := by
    refine ⟨1, [emptyMethodMember], ?_, ?_⟩
    · rw [emptyMethodLast_eq]
      exact objectOf_pair idMember_key emptyMethodMember_key idMember_value emptyMethodMember_value
    · intro other hother
      rw [List.nil_append, List.mem_singleton] at hother
      rw [hother]
      exact emptyMethodMember_unnamed
  named := idMember_named
  nonzero := by decide
  integer := idMember_integer

def readySession : Session := { generation := 1, sessionId := [], state := .ready }

theorem readyRequest_message (payload : Bytes) :
    ReadyRequest readySession (messageFrame (.request, payload)) := ⟨rfl, rfl⟩

/-- The empty method is found before the id is read, so the ERROR names no request. -/
theorem empty_method_hides_id :
    ¬∀ (session : Session) (frame : Frame) (before : List Member) (member : Member) (id : UInt64),
      ReadyRequest session frame → IdentifiesRequest frame.payload before member id →
        AnsweredUnder id (session.handleFrame frame).1 := by
  intro h
  have hready := readyRequest_message emptyMethodFirst
  have hanswered := h _ _ _ _ _ hready emptyMethodFirst_identifies
  rw [hready.handleFrame_eq] at hanswered
  have hparse : (parseRequest emptyMethodFirst).1 = .invalidMethod ∧
      (parseRequest emptyMethodFirst).2.haveRequestId = false := by decide +kernel
  refine handleRequest_unidentified readySession ?_ hparse.2 5 hanswered
  show (parseRequest emptyMethodFirst).1 ≠ .none
  rw [hparse.1]
  decide

/-- Behind the id the same mistake is answered under it. -/
theorem answered_under_id_before_empty_method :
    AnsweredUnder 5 (readySession.handleFrame (messageFrame (.request, emptyMethodLast))).1 := by
  apply (answered_under_id_iff (readyRequest_message emptyMethodLast)
    emptyMethodLast_identifies).mpr
  refine ⟨?_, trivial⟩
  intro piece hpiece h₀ h₁ h₂ h₃ hunicode
  obtain ⟨b, -, rfl⟩ := List.mem_map.mp hpiece
  cases hunicode

end NetworkService.Ipc
