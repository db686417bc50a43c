import NetworkService.Ipc.ParameterReader
import NetworkService.Ipc.RequestWellformed

/-!
# Two readers of the parameters

`parse_request` finds the end of `params` with the session's scanner, and `find_member` reads what it
has cut out.  Both pass the same phrases of the grammar with the same levels; they differ in the escapes
of code units alone, whose surrogates only `find_member` pairs.
-/

namespace NetworkService.Ipc

open Json

/-! ### What the session hands over -/

/-- The text of an object, with the white space of the C library. -/
def ParamsText (params : Bytes) : Prop := ∃ members, ObjectOf isSpace kMaxJsonDepth members params

theorem paramsText_default : ParamsText ({} : ParsedRequest).paramsJson :=
  ⟨[], .empty (s := [closeBrace]) (Span.refl _ _) (Span.refl _ _) (Span.refl _ _)⟩

/-- A value behind an opening brace is an object. -/
theorem paramsText_of_value {s : Bytes}
    (h : Derives isSpace .value kMaxJsonDepth (openBrace :: s) []) : ParamsText (openBrace :: s) := by
  generalize ht : openBrace :: s = t at h
  generalize hrest : ([] : Bytes) = rest at h
  cases h with
  | number h =>
    obtain ⟨b, t', rfl, -, -, hbrace, -⟩ := number_front h
    exact absurd (List.cons.inj ht).1.symm hbrace
  | literal h =>
    rcases literal_cases h with rfl | rfl | rfl
    all_goals exact absurd (List.cons.inj ht).1 (by decide)
  | emptyObject hclose =>
    subst hrest
    exact ⟨[], .empty (Span.refl _ _) hclose (Span.refl _ _)⟩
  | object hgap h =>
    subst hrest
    obtain ⟨members, hmembers⟩ := (h.deeper (Nat.le_succ _)).membersOf rfl
    exact ⟨members, .members (Span.refl _ _) hgap hmembers (Span.refl _ _)⟩
  | _ => exact absurd (List.cons.inj ht).1 (by decide)

theorem paramsMember_text {out next : ParsedRequest} {value rest : Bytes}
    (h : paramsMember out value = .ok (next, rest)) : ParamsText next.paramsJson := by
  obtain ⟨s, hopen, hskip, rfl⟩ := paramsMember_ok h
  obtain ⟨t, hlead, hvalue⟩ := skipValue_sound kMaxJsonDepth _ _ hskip
  obtain ⟨b, t', hfront, hb⟩ := value_front hvalue (by decide)
  -- no white space stands before the brace
  have hself : value = t := by
    rw [← skipWs_eq_self (hopen ▸ dense_cons (by decide) s : Dense value),
      skipWs_of_span (fun _ hb => hb) hlead (hfront ▸ dense_cons hb.dense t')]
  obtain ⟨own, hown, hexact⟩ := hvalue.exact
  rw [← hself] at hown
  show ParamsText (value.take (value.length - rest.length))
  rw [hown, List.length_append, Nat.add_sub_cancel, List.take_left]
  obtain ⟨b', u, rfl, -⟩ := value_front hexact (by decide)
  obtain rfl : openBrace = b' := (List.cons.inj (hopen.symm.trans hown)).1
  exact paramsText_of_value hexact

/-- No member spoils the parameters. -/
theorem requestMember_params {key : Bytes} {out next : ParsedRequest} {value rest : Bytes}
    (h : requestMember key out value = .ok (next, rest)) (hout : ParamsText out.paramsJson) :
    ParamsText next.paramsJson := by
  cases requestMember_ok h with
  | requestId _ h =>
    obtain ⟨_, -, -, -, rfl⟩ := requestIdMember_ok h
    exact hout
  | method _ h =>
    obtain ⟨_, -, rfl⟩ := methodMember_ok h
    exact hout
  | params _ h => exact paramsMember_text h
  | other _ _ hnext => exact hnext ▸ hout

theorem requestMembers_params (turns : ℕ) {out : ParsedRequest} {s : Bytes}
    (hout : ParamsText out.paramsJson) :
    ParamsText (requestMembers turns out s).2.paramsJson := by
  induction turns generalizing out s with
  | zero => exact hout
  | succ turns ih =>
    rw [requestMembers]
    split
    · exact hout
    · next key value hmember =>
      split
      · exact hout
      · next next rest hread =>
        have hnext := requestMember_params hread hout
        have hend : ∀ rest, (requestEnd next rest).2 = next := fun rest => by
          unfold requestEnd
          repeat' split
          all_goals rfl
        split
        · exact hnext
        · split
          · rw [hend]
            exact hnext
          · split
            · exact hnext
            · exact ih hnext

/-- **The parameters are always an object**, whatever the payload. -/
theorem parseRequest_params (payload : Bytes) : ParamsText (parseRequest payload).2.paramsJson := by
  unfold parseRequest
  split
  · exact paramsText_default
  · split
    · exact paramsText_default
    · exact requestMembers_params _ paramsText_default

/-! ### What the dispatcher finds -/

theorem onlyValue_none_iff (values : List Bytes) :
    (JsonReader.onlyValue values).join = none ↔ values.length ≠ 1 := by
  match values with
  | [] => simp [JsonReader.onlyValue]
  | [value] => simp [JsonReader.onlyValue]
  | _ :: _ :: _ => simp [JsonReader.onlyValue]

/-- **The two readers agree** exactly if every escape of the parameters is whole, or no name stands
exactly once. -/
theorem readers_agree_iff (payload : Bytes) :
    (∃ members, ObjectOf isSpace kMaxJsonDepth members (parseRequest payload).2.paramsJson) ∧
    ∀ members, ObjectOf isSpace kMaxJsonDepth members (parseRequest payload).2.paramsJson →
      ((∀ k, JsonReader.findMember (parseRequest payload).2.paramsJson k = none →
          (named k members).length ≠ 1) ↔
        (pairedEscapes (parseRequest payload).2.paramsJson = true ∨
          ∀ k, (named k members).length ≠ 1)) := by
  refine ⟨parseRequest_params payload, fun members hobject => ?_⟩
  generalize (parseRequest payload).2.paramsJson = params at hobject ⊢
  have hfind := JsonReader.findMember_eq (fun _ hb => hb) (Nat.le_succ _) hobject
  by_cases hpaired : pairedEscapes params = true
  · refine iff_of_true (fun k hk => ?_) (.inl hpaired)
    rw [hfind, if_pos hpaired, onlyValue_none_iff, JsonReader.valuesOf, List.length_map] at hk
    exact hk
  · constructor
    · intro h
      exact .inr fun k => h k (by rw [hfind, if_neg hpaired])
    · rintro (h | h)
      · exact absurd h hpaired
      · exact fun k _ => h k

/-- A request to forget a network, with a remark that holds half a pair. -/
def remarkPayload : Bytes :=
  text "\x7b\"requestId\":1,\"method\":\"wifi.forget\",\"params\":\x7b\"ssid\":\"x\",\"b\":\"\\ud800\"\x7d\x7d"

theorem remark_params : (parseRequest remarkPayload).1 = .none ∧
    (parseRequest remarkPayload).2.paramsJson = text "\x7b\"ssid\":\"x\",\"b\":\"\\ud800\"\x7d" := by
  decide +kernel

def remarkMembers : List Member :=
  [⟨(text "ssid").map .byte, quoted [.byte 0x78] []⟩,
    ⟨[.byte 0x62], quoted [.unicode 0x64 0x38 0x30 0x30] []⟩]

theorem remark_object :
    ObjectOf isSpace kMaxJsonDepth remarkMembers (text "\x7b\"ssid\":\"x\",\"b\":\"\\ud800\"\x7d") := by
  have hletters : (text "ssid").all (fun b => 0x20 ≤ b ∧ b ≠ 0x22 ∧ b ≠ 0x5c) := by decide
  have hplain : ∀ b ∈ text "ssid", 0x20 ≤ b ∧ b ≠ 0x22 ∧ b ≠ 0x5c := fun b hb => by
    simpa using List.all_eq_true.mp hletters b hb
  have hssid : ∀ piece ∈ (text "ssid").map Piece.byte, piece.Valid := List.forall_mem_map.mpr hplain
  have hbyte : ∀ b : UInt8, 0x20 ≤ b ∧ b ≠ 0x22 ∧ b ≠ 0x5c → ∀ piece ∈ [Piece.byte b], piece.Valid :=
    fun _ hb => List.forall_mem_singleton.mpr hb
  have hhalf : ∀ piece ∈ [Piece.unicode 0x64 0x38 0x30 0x30], piece.Valid :=
    List.forall_mem_singleton.mpr ⟨rfl, rfl, rfl, rfl⟩
  refine .members (Span.refl _ _) (Span.refl _ _) ?_ (Span.refl _ [])
  exact .next hssid (Span.refl _ _) (Span.refl _ _) (.string (hbyte 0x78 (by decide))) (Span.refl _ _)
    (Span.refl _ _) (.last (hbyte 0x62 (by decide)) (Span.refl _ _) (Span.refl _ _) (.string hhalf)
      (Span.refl _ _))

/-- **Half a pair in one member hides the others**: the session accepts the request, and the dispatcher
does not find the network's name. -/
theorem half_pair_hides_member :
    ¬∀ payload, (parseRequest payload).1 = .none →
      ∀ members, ObjectOf isSpace kMaxJsonDepth members (parseRequest payload).2.paramsJson →
        ∀ k, JsonReader.findMember (parseRequest payload).2.paramsJson k = none →
          (named k members).length ≠ 1 := by
  intro h
  have hhidden := h remarkPayload remark_params.1 remarkMembers (remark_params.2 ▸ remark_object)
    (text "ssid") (by rw [remark_params.2]; decide +kernel)
  exact hhidden (by decide +kernel)

end NetworkService.Ipc
