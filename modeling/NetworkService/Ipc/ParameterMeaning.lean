import NetworkService.Ipc.ParameterReader

/-!
# The meaning of the parameters

`read_string` and `read_bool` read a parameter as the standard means it: from any text of an object,
whatever its white space, the order of its members and the spelling of its strings, they take the value
of the only member of the name, if it is a string or a truth value.
-/

namespace NetworkService.Ipc

open Json

/-! ### Values -/

/-- The bytes of a value that is a string. -/
def stringOf : Value → Option Bytes
  | .string chars => some (utf8 chars)
  | _ => none

/-- The truth value. -/
def boolOf : Value → Option Bool
  | .bool b => some b
  | _ => none

theorem stringOf_eq_some {v : Value} {read : Bytes} :
    stringOf v = some read ↔ ∃ chars, v = .string chars ∧ read = utf8 chars := by
  cases v <;> simp [stringOf, eq_comm]

theorem boolOf_eq_some {v : Value} {b : Bool} : boolOf v = some b ↔ v = .bool b := by
  cases v <;> simp [boolOf]

/-- What does not begin with a quote is no string. -/
theorem parseFullString_other {b : UInt8} (hspace : isSpace b = false) (hquote : b ≠ quote)
    (t : Bytes) : JsonReader.parseFullString (b :: t) = none := by
  have hstring : JsonReader.parseString (b :: t) = none := by
    unfold JsonReader.parseString
    rw [expect, if_neg hquote]
    rfl
  unfold JsonReader.parseFullString
  rw [skipWs_eq_self (dense_cons hspace t), hstring]
  rfl

theorem parseFullString_string {pieces : List Piece} {chars : List Char} (h : Spells pieces chars) :
    JsonReader.parseFullString (quoted pieces []) = some (utf8 chars) := by
  have hself : skipWs (quoted pieces []) = quoted pieces [] :=
    skipWs_eq_self (dense_cons (by decide) _)
  unfold JsonReader.parseFullString
  rw [hself, JsonReader.parseString_quoted h.valid, h.stringBytes]
  rfl

/-- How `read_bool` takes the text of a value. -/
def readBoolText (raw : Bytes) : Option Bool :=
  if raw = text "true" then some true
  else if raw = text "false" then some false
  else none

theorem readBoolText_other {b : UInt8} (htrue : b ≠ ascii 't') (hfalse : b ≠ ascii 'f') (t : Bytes) :
    readBoolText (b :: t) = none := by
  have hne : ∀ {c : UInt8} {u : Bytes}, b ≠ c → b :: t ≠ c :: u := fun hc heq =>
    hc (List.cons.inj heq).1
  have htrue' : b :: t ≠ text "true" := hne htrue
  have hfalse' : b :: t ≠ text "false" := hne hfalse
  unfold readBoolText
  rw [if_neg htrue', if_neg hfalse']

/-- The text of a value that begins with neither a quote nor a letter of a truth value. -/
theorem other_read {b : UInt8} (hspace : isSpace b = false)
    (hb : b ≠ quote ∧ b ≠ ascii 't' ∧ b ≠ ascii 'f') (t : Bytes) :
    JsonReader.parseFullString (b :: t) = none ∧ readBoolText (b :: t) = none :=
  ⟨parseFullString_other hspace hb.1 t, readBoolText_other hb.2.1 hb.2.2 t⟩

/-- **The text of a value is read as the value.** -/
theorem value_read {v : Value} {raw : Bytes} (h : Denotes (.value v) raw []) :
    JsonReader.parseFullString raw = stringOf v ∧ readBoolText raw = boolOf v := by
  generalize hrest : ([] : Bytes) = rest at h
  cases h with
  | null => exact other_read (by decide) (by decide) _
  | true =>
    subst hrest
    exact ⟨parseFullString_other (by decide) (by decide) _, rfl⟩
  | false =>
    subst hrest
    exact ⟨parseFullString_other (by decide) (by decide) _, rfl⟩
  | number h =>
    obtain ⟨b, t, hs, hfront, hquote, -, -, htrue, hfalse, -⟩ := number_front (h.append rest)
    rw [hs]
    exact other_read hfront.dense ⟨hquote, htrue, hfalse⟩ t
  | string h =>
    subst hrest
    exact ⟨parseFullString_string h, readBoolText_other (by decide) (by decide) _⟩
  | emptyArray _ => exact other_read (by decide) (by decide) _
  | array _ _ => exact other_read (by decide) (by decide) _
  | emptyObject _ => exact other_read (by decide) (by decide) _
  | object _ _ => exact other_read (by decide) (by decide) _

/-! ### The only member of a name -/

/-- The value of the only entry. -/
def onlyEntry : List (List Char × Value) → Option Value
  | [entry] => some entry.2
  | _ => none

theorem onlyEntry_eq_some {entries : List (List Char × Value)} {k : List Char} {v : Value} :
    onlyEntry (entries.filter fun entry => entry.1 = k) = some v ↔
      entries.filter (fun entry => entry.1 = k) = [(k, v)] := by
  have hname : ∀ entry ∈ entries.filter fun entry => entry.1 = k, entry.1 = k := fun entry h => by
    simpa using (List.mem_filter.mp h).2
  generalize entries.filter (fun entry => entry.1 = k) = only at hname ⊢
  match only with
  | [] => simp [onlyEntry]
  | [(name, value)] =>
    have hk : name = k := hname _ List.mem_cons_self
    simp [onlyEntry, hk]
  | _ :: _ :: _ => simp [onlyEntry]

/-- **Whatever reads the text of a value reads the value of the only member**, and fails without
one. -/
theorem member_read {entries : List (List Char × Value)} {payload : Bytes}
    (hdepth : (Value.object entries).depth ≤ 16) (h : TextOf (.object entries) payload)
    (k : List Char) {β : Type} {read : Bytes → Option β} {meant : Value → Option β}
    (hread : ∀ {v raw}, Denotes (.value v) raw [] → read raw = meant v) :
    (JsonReader.findMember payload (utf8 k)).bind read =
      (onlyEntry (entries.filter fun entry => entry.1 = k)).bind meant := by
  have hlevels : memberDepths entries < kMaxJsonDepth := hdepth
  obtain ⟨members, hobject, hmembers⟩ := h.objectOf hlevels
  rw [JsonReader.findMember_eq isSpace_of_jsonSpace (Nat.le_succ _) hobject, if_pos h.paired]
  have hnamed := named_spell hmembers k
  unfold JsonReader.valuesOf
  generalize entries.filter (fun entry => entry.1 = k) = only at hnamed ⊢
  generalize named (utf8 k) members = own at hnamed ⊢
  cases hnamed with
  | nil => rfl
  | cons hmember hlater =>
    cases hlater with
    | nil => exact hread hmember.value
    | cons _ _ => rfl

/-- **The parameters mean what the standard says**: `read_string` succeeds exactly if one member has
the name and is a string, with the bytes of that string, and `read_bool` exactly if one member has the
name and is a truth value, with that value. -/
theorem parameters_meaning {entries : List (List Char × Value)} {payload : Bytes}
    (hdepth : (Value.object entries).depth ≤ 16) (h : TextOf (.object entries) payload)
    (k : List Char) :
    (∀ read, readString payload (utf8 k) = some read ↔
      ∃ chars, entries.filter (fun entry => entry.1 = k) = [(k, .string chars)] ∧
        read = utf8 chars) ∧
    ∀ b, readBool payload (utf8 k) = some b ↔
      entries.filter (fun entry => entry.1 = k) = [(k, .bool b)] := by
  have hstring : readString payload (utf8 k) =
      (onlyEntry (entries.filter fun entry => entry.1 = k)).bind stringOf :=
    member_read hdepth h k fun hvalue => (value_read hvalue).1
  have hbool : readBool payload (utf8 k) =
      (onlyEntry (entries.filter fun entry => entry.1 = k)).bind boolOf :=
    member_read hdepth h k fun hvalue => (value_read hvalue).2
  refine ⟨fun read => ?_, fun b => ?_⟩
  · rw [hstring, Option.bind_eq_some_iff]
    constructor
    · rintro ⟨v, honly, hv⟩
      obtain ⟨chars, rfl, rfl⟩ := stringOf_eq_some.mp hv
      exact ⟨chars, onlyEntry_eq_some.mp honly, rfl⟩
    · rintro ⟨chars, honly, rfl⟩
      exact ⟨_, onlyEntry_eq_some.mpr honly, rfl⟩
  · rw [hbool, Option.bind_eq_some_iff]
    constructor
    · rintro ⟨v, honly, hv⟩
      exact boolOf_eq_some.mp hv ▸ onlyEntry_eq_some.mp honly
    · exact fun honly => ⟨_, onlyEntry_eq_some.mpr honly, rfl⟩

/-- An object with an escaped name and a pair of surrogates. -/
theorem pair_textOf :
    TextOf (.object [(['a'], .string ['😀']), (['b'], .bool true)])
      (text "\x7b \"\\u0061\":\"\\uD83d\\ude00\", \"b\" : true\x7d") := by
  have hname : Spells ([.unicode 0x30 0x30 0x36 0x31] ++ []) ['a'] :=
    .cons (.unicode ⟨rfl, rfl, rfl, rfl⟩ (by decide)) .nil
  have hpair : Spells ([.unicode 0x44 0x38 0x33 0x64, .unicode 0x64 0x65 0x30 0x30] ++ []) ['😀'] :=
    .cons (.pair ⟨rfl, rfl, rfl, rfl⟩ ⟨rfl, rfl, rfl, rfl⟩ (by decide) (by decide) (by decide)) .nil
  have hplain : Spells ((String.utf8EncodeChar 'b').map .byte ++ []) ['b'] :=
    .cons (.plain (by decide) (by decide) (by decide)) .nil
  have hblank : ∀ rest, Span jsonSpace (0x20 :: rest) rest := fun _ =>
    ⟨[0x20], rfl, List.forall_mem_singleton.mpr rfl⟩
  refine ⟨_, [], Span.refl _ _, ?_, Span.refl _ _⟩
  exact .object (hblank _) (.nextMember hname (Span.refl _ _) (Span.refl _ _) (.string hpair)
    (Span.refl _ _) (hblank _) (.lastMember hplain (hblank _) (hblank _) .true (Span.refl _ _)))

theorem parameters_meaning_pair :
    readString (text "\x7b \"\\u0061\":\"\\uD83d\\ude00\", \"b\" : true\x7d") (utf8 ['a']) =
      some (utf8 ['😀']) :=
  ((@parameters_meaning [(['a'], .string ['😀']), (['b'], .bool true)] _ (by decide) pair_textOf
    ['a']).1 (utf8 ['😀'])).mpr ⟨['😀'], rfl, rfl⟩

end NetworkService.Ipc
