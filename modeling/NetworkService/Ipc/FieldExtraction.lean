import NetworkService.Ipc.RequestMeaning
import NetworkService.Library.Search

/-!
# The fields of a v0 request

`extract_json_string` reads a field of a v0 request by three searches one after the other: for the
quoted name, for a colon and for a quote.  If the first place of the quoted name is the key of the
member itself then the searches end at its value, which is read as it is meant up to some escapes.
-/

namespace NetworkService.Ipc

open Json Search

/-! ### The extraction -/

/-- What `json_unescape` puts for the character behind a backslash. -/
def unescapeNext (next : UInt8) : UInt8 :=
  if next = backslash then backslash
  else if next = quote then quote
  else if next = ascii 'n' then 0x0a
  else if next = ascii 'r' then 0x0d
  else if next = ascii 't' then 0x09
  else next

def jsonUnescape : Bytes → Bytes
  | [] => []
  | [b] => [b]
  | b :: next :: rest =>
    if b ≠ backslash then b :: jsonUnescape (next :: rest)
    else unescapeNext next :: jsonUnescape rest

/-- The loop of `extract_json_string` behind the opening quote. -/
def rawString (raw : Bytes) (escaped : Bool) : Bytes → Option Bytes
  | [] => none
  | ch :: rest =>
    if escaped then rawString (raw ++ [backslash, ch]) false rest
    else if ch = backslash then rawString raw true rest
    else if ch = quote then some raw
    else rawString (raw ++ [ch]) false rest

/-- The name as the search looks for it. -/
def quotedName (field : Bytes) : Bytes := quote :: (field ++ [quote])

/-- The text behind the first occurrence of `needle`. -/
def behindFirst (needle : Bytes) (s : Bytes) : Option Bytes :=
  (fromFirst needle s).map (List.drop needle.length)

def extractJsonString (request field : Bytes) : Bytes :=
  (do
    let behindKey ← behindFirst (quotedName field) request
    let behindColon ← behindFirst [ascii ':'] behindKey
    let value ← behindFirst [quote] behindColon
    let raw ← rawString [] false value
    some (jsonUnescape raw)).getD []

example : extractJsonString (text "\x7b\"ssid\" : \"a\\tb\"\x7d") (text "ssid") = text "a\tb" := by
  decide +kernel

/-! ### Reading a string -/

/-- The bytes that the extraction makes of a piece. -/
def unescaped : Piece → Bytes
  | .byte b => [b]
  | .escape e => [unescapeNext e]
  | .unicode h₀ h₁ h₂ h₃ => [ascii 'u', h₀, h₁, h₂, h₃]

/-- A byte that is neither a quote nor a backslash. -/
def Inert (b : UInt8) : Prop := b ≠ quote ∧ b ≠ backslash

theorem inert_of_hex {b : UInt8} (h : (Json.hexValue b).isSome = true) : Inert b := by
  constructor
  · rintro rfl
    exact absurd h (by decide)
  · rintro rfl
    exact absurd h (by decide)

theorem rawString_inert {b : UInt8} (h : Inert b) (raw rest : Bytes) :
    rawString raw false (b :: rest) = rawString (raw ++ [b]) false rest := by
  rw [rawString, if_neg (by decide), if_neg h.2, if_neg h.1]

theorem rawString_escape (b : UInt8) (raw rest : Bytes) :
    rawString raw false (backslash :: b :: rest) = rawString (raw ++ [backslash, b]) false rest := by
  rw [rawString, if_neg (by decide), if_pos rfl, rawString, if_pos rfl]

/-- The loop keeps the text between the quotes. -/
theorem rawString_spell {pieces : List Piece} (h : ∀ piece ∈ pieces, piece.Valid) (raw rest : Bytes) :
    rawString raw false (pieces.flatMap Piece.spell ++ 0x22 :: rest) =
      some (raw ++ pieces.flatMap Piece.spell) := by
  induction pieces generalizing raw with
  | nil =>
    show rawString raw false (quote :: rest) = _
    rw [rawString, if_neg (by decide), if_neg (by decide), if_pos rfl, List.flatMap_nil,
      List.append_nil]
  | cons piece pieces ih =>
    obtain ⟨hpiece, hpieces⟩ := List.forall_mem_cons.mp h
    rw [List.flatMap_cons, List.append_assoc, ← List.append_assoc raw, ← ih hpieces]
    cases piece with
    | byte b => exact rawString_inert ⟨hpiece.2.1, hpiece.2.2⟩ raw _
    | escape e => exact rawString_escape e raw _
    | unicode h₀ h₁ h₂ h₃ =>
      obtain ⟨hv₀, hv₁, hv₂, hv₃⟩ := hpiece
      refine (rawString_escape (ascii 'u') raw _).trans ?_
      show rawString _ false (h₀ :: h₁ :: h₂ :: h₃ :: _) = _
      rw [rawString_inert (inert_of_hex hv₀), rawString_inert (inert_of_hex hv₁),
        rawString_inert (inert_of_hex hv₂), rawString_inert (inert_of_hex hv₃)]
      simp only [List.append_assoc]
      rfl

theorem jsonUnescape_cons {b : UInt8} (h : b ≠ backslash) (rest : Bytes) :
    jsonUnescape (b :: rest) = b :: jsonUnescape rest := by
  cases rest with
  | nil => rfl
  | cons next rest => rw [jsonUnescape, if_pos h]

theorem jsonUnescape_escape (next : UInt8) (rest : Bytes) :
    jsonUnescape (backslash :: next :: rest) = unescapeNext next :: jsonUnescape rest := by
  rw [jsonUnescape, if_neg (by decide)]

theorem jsonUnescape_spell {pieces : List Piece} (h : ∀ piece ∈ pieces, piece.Valid) :
    jsonUnescape (pieces.flatMap Piece.spell) = pieces.flatMap unescaped := by
  induction pieces with
  | nil => rfl
  | cons piece pieces ih =>
    obtain ⟨hpiece, hpieces⟩ := List.forall_mem_cons.mp h
    rw [List.flatMap_cons, List.flatMap_cons, ← ih hpieces]
    cases piece with
    | byte b => exact jsonUnescape_cons hpiece.2.2 _
    | escape e => exact jsonUnescape_escape e _
    | unicode h₀ h₁ h₂ h₃ =>
      obtain ⟨hv₀, hv₁, hv₂, hv₃⟩ := hpiece
      refine (jsonUnescape_escape (ascii 'u') _).trans ?_
      show _ :: jsonUnescape (h₀ :: h₁ :: h₂ :: h₃ :: _) = _
      rw [jsonUnescape_cons (inert_of_hex hv₀).2, jsonUnescape_cons (inert_of_hex hv₁).2,
        jsonUnescape_cons (inert_of_hex hv₂).2, jsonUnescape_cons (inert_of_hex hv₃).2]
      rfl

/-- The pieces that the extraction reads as they are meant. -/
def Kept : Piece → Prop
  | .byte _ => True
  | .escape e => e ≠ ascii 'b' ∧ e ≠ ascii 'f'
  | .unicode _ _ _ _ => False

theorem escape_cases {e : UInt8} (h : (Piece.escape e).Valid) :
    e = 0x22 ∨ e = 0x5c ∨ e = 0x2f ∨ e = 0x62 ∨ e = 0x66 ∨ e = 0x6e ∨ e = 0x72 ∨ e = 0x74 := by
  apply Decidable.byContradiction
  intro hnot
  simp only [not_or] at hnot
  have hnone : escapeValue e = none := by simp [escapeValue, hnot]
  have hsome : (escapeValue e).isSome = true := h
  rw [hnone] at hsome
  cases hsome

theorem unescapeNext_iff {e : UInt8} (h : (Piece.escape e).Valid) :
    unescapeNext e = (escapeValue e).getD 0 ↔ e ≠ ascii 'b' ∧ e ≠ ascii 'f' := by
  rcases escape_cases h with rfl | rfl | rfl | rfl | rfl | rfl | rfl | rfl <;> decide

theorem length_scalarBytes_le (scalar : ℕ) : (scalarBytes scalar).length ≤ 4 := by
  unfold scalarBytes String.utf8EncodeChar
  dsimp only
  split
  · exact Nat.le_of_ble_eq_true rfl
  split
  · exact Nat.le_of_ble_eq_true rfl
  split
  · exact Nat.le_of_ble_eq_true rfl
  · exact Nat.le_of_ble_eq_true rfl

/-- Behind an escape of a code unit there is more than it stands for. -/
theorem unescaped_longer (front : Bytes) {scalar : ℕ} {read later : Bytes} (hfront : 5 ≤ front.length)
    (hle : read.length ≤ later.length) :
    (scalarBytes scalar ++ read).length < (front ++ later).length := by
  have hscalar := length_scalarBytes_le scalar
  rw [List.length_append, List.length_append]
  omega

/-- A string with an escape of a code unit is read as something longer. -/
theorem unescaped_unicode {h₀ h₁ h₂ h₃ : UInt8} {pieces : List Piece} {read : Bytes}
    (hlonger : read.length < ((Piece.unicode h₀ h₁ h₂ h₃ :: pieces).flatMap unescaped).length) :
    read.length ≤ ((Piece.unicode h₀ h₁ h₂ h₃ :: pieces).flatMap unescaped).length ∧
      ((Piece.unicode h₀ h₁ h₂ h₃ :: pieces).flatMap unescaped = read ↔
        ∀ piece ∈ Piece.unicode h₀ h₁ h₂ h₃ :: pieces, Kept piece) := by
  refine ⟨Nat.le_of_lt hlonger, iff_of_false (fun heq => ?_) fun hall => ?_⟩
  · rw [heq] at hlonger
    exact Nat.lt_irrefl _ hlonger
  · exact hall _ List.mem_cons_self

/-- **A string is read as it is meant** exactly if all its escapes are kept. -/
theorem unescaped_iff {pieces : List Piece} (h : ∀ piece ∈ pieces, piece.Valid) {read : Bytes}
    (hread : stringBytes pieces = some read) :
    read.length ≤ (pieces.flatMap unescaped).length ∧
      (pieces.flatMap unescaped = read ↔ ∀ piece ∈ pieces, Kept piece) := by
  fun_induction stringBytes pieces generalizing read with
  | case1 =>
    cases hread
    exact ⟨Nat.le_refl _, iff_of_true rfl fun _ hmem => absurd hmem List.not_mem_nil⟩
  | case2 b pieces ih =>
    obtain ⟨later, hlater, rfl⟩ := Option.map_eq_some_iff.mp hread
    obtain ⟨hlength, hiff⟩ := ih (List.forall_mem_cons.mp h).2 hlater
    refine ⟨Nat.succ_le_succ hlength, ?_⟩
    rw [List.forall_mem_cons, ← hiff]
    show b :: pieces.flatMap unescaped = b :: later ↔ True ∧ _
    rw [List.cons.injEq, eq_self_iff_true]
  | case3 e pieces ih =>
    obtain ⟨he, hpieces⟩ := List.forall_mem_cons.mp h
    obtain ⟨later, hlater, rfl⟩ := Option.map_eq_some_iff.mp hread
    obtain ⟨hlength, hiff⟩ := ih hpieces hlater
    refine ⟨Nat.succ_le_succ hlength, ?_⟩
    rw [List.forall_mem_cons, ← hiff]
    show unescapeNext e :: pieces.flatMap unescaped = (escapeValue e).getD 0 :: later ↔
      (e ≠ ascii 'b' ∧ e ≠ ascii 'f') ∧ _
    rw [List.cons.injEq, unescapeNext_iff he]
  | case4 h₀ h₁ h₂ h₃ first hhigh l₀ l₁ l₂ l₃ pieces second hlow =>
    rename_i ih
    obtain ⟨later, hlater, rfl⟩ := Option.map_eq_some_iff.mp hread
    obtain ⟨-, hvalid⟩ := List.forall_mem_cons.mp h
    obtain ⟨hlength, -⟩ := ih (List.forall_mem_cons.mp hvalid).2 hlater
    exact unescaped_unicode
      (unescaped_longer [_, _, _, _, _, _, _, _, _, _] (Nat.le_of_ble_eq_true rfl) hlength)
  | case5 => cases hread
  | case6 => cases hread
  | case7 => cases hread
  | case8 h₀ h₁ h₂ h₃ pieces first hhigh hlow =>
    rename_i ih
    obtain ⟨later, hlater, rfl⟩ := Option.map_eq_some_iff.mp hread
    obtain ⟨hlength, -⟩ := ih (List.forall_mem_cons.mp h).2 hlater
    exact unescaped_unicode
      (unescaped_longer [_, _, _, _, _] (Nat.le_of_ble_eq_true rfl) hlength)

/-! ### The searches -/

/-- A letter that the bytes before it cannot be. -/
theorem behindFirst_letter {p : UInt8 → Bool} {c : UInt8} (hp : p c = false) {s t : Bytes}
    (h : Span p s (c :: t)) : behindFirst [c] s = some t := by
  obtain ⟨w, rfl, hw⟩ := h
  have hnot : c ∉ w := fun hmem => by
    rw [hw c hmem] at hp
    cases hp
  unfold behindFirst
  rw [fromFirst_letter hnot]
  rfl

theorem spell_bytes (name : Bytes) : (name.map Piece.byte).flatMap Piece.spell = name := by
  induction name with
  | nil => rfl
  | cons b name ih =>
    rw [List.map_cons, List.flatMap_cons, ih]
    rfl

/-- A key that is written literally. -/
theorem quoted_literal {m : Member} {name : Bytes} (h : m.key = name.map .byte) (s : Bytes) :
    quoted m.key s = quotedName name ++ s := by
  unfold quoted quotedName
  rw [h, spell_bytes, List.cons_append, List.append_assoc]
  rfl

/-- **From its key on, a member's value is read.** -/
theorem extractJsonString_own {request name : Bytes} {m : Member} {s u v : Bytes}
    {pieces : List Piece} (hfound : fromFirst (quotedName name) request = some (quoted m.key s))
    (hkey : m.key = name.map .byte) (hcolon : Span jsonSpace s (0x3a :: u))
    (hgap : Span jsonSpace u (m.value ++ v)) (hvalid : ∀ piece ∈ pieces, piece.Valid)
    (hvalue : m.value = quoted pieces []) :
    extractJsonString request name = pieces.flatMap unescaped := by
  have hname : behindFirst (quotedName name) request = some s := by
    unfold behindFirst
    rw [hfound, quoted_literal hkey, Option.map_some, List.drop_left]
  have hbehindColon : behindFirst [ascii ':'] s = some u := behindFirst_letter (by decide) hcolon
  have hopen : behindFirst [quote] u = some (pieces.flatMap Piece.spell ++ 0x22 :: v) := by
    rw [hvalue, quoted_append] at hgap
    exact behindFirst_letter (by decide) hgap
  unfold extractJsonString
  rw [hname]
  show ((behindFirst [ascii ':'] s).bind _).getD [] = _
  rw [hbehindColon]
  show ((behindFirst [quote] u).bind _).getD [] = _
  rw [hopen]
  show ((rawString [] false (pieces.flatMap Piece.spell ++ 0x22 :: v)).bind _).getD [] = _
  rw [rawString_spell hvalid, List.nil_append]
  exact jsonUnescape_spell hvalid

theorem extractJsonString_nowhere {request name : Bytes}
    (h : fromFirst (quotedName name) request = none) : extractJsonString request name = [] := by
  unfold extractJsonString behindFirst
  rw [h]
  rfl

/-! ### The fields of an object -/

/-- An object of strings. -/
def flat (entries : List (List Char × List Char)) : List (List Char × Value) :=
  entries.map fun entry => (entry.1, .string entry.2)

/-- The value of a field, empty without one. -/
def fieldValue (entries : List (List Char × List Char)) (name : List Char) : Bytes :=
  ((entries.find? fun entry => entry.1 = name).map fun entry => utf8 entry.2).getD []

/-- The first place of the quoted name, if it stands anywhere, is the key of the member itself. -/
def OwnKeyFirst (members : List Member) (request name : Bytes) : Prop :=
  ∀ found, fromFirst (quotedName name) request = some found →
    ∃ m s, KeyAt jsonSpace members request m s ∧ m.key = name.map .byte ∧ found = quoted m.key s

/-- The member's name is written literally, and its value without `\b`, `\f` and escapes of code
units. -/
def WrittenSimply (members : List Member) (name : Bytes) : Prop :=
  ∃ m ∈ named name members, m.key = name.map .byte ∧ ∃ pieces : List Piece,
    (∀ piece ∈ pieces, piece.Valid) ∧ m.value = quoted pieces [] ∧ ∀ piece ∈ pieces, Kept piece

theorem memberDepths_flat (entries : List (List Char × List Char)) :
    memberDepths (flat entries) = 0 := by
  induction entries with
  | nil => rfl
  | cons entry entries ih => exact (Nat.zero_max _).trans ih

/-- A name that stands at most once. -/
theorem filter_of_nodup {entries : List (List Char × List Char)}
    (h : (entries.map Prod.fst).Nodup) (name : List Char) :
    (∃ chars, (flat entries).filter (fun entry => entry.1 = name) = [(name, .string chars)] ∧
      fieldValue entries name = utf8 chars) ∨
    ((flat entries).filter (fun entry => entry.1 = name) = [] ∧ fieldValue entries name = []) := by
  induction entries with
  | nil => exact .inr ⟨rfl, rfl⟩
  | cons entry entries ih =>
    obtain ⟨hnot, hnodup⟩ := List.nodup_cons.mp h
    have hflat : flat (entry :: entries) = (entry.1, .string entry.2) :: flat entries := rfl
    by_cases hname : entry.1 = name
    · left
      have hnone : (flat entries).filter (fun entry => entry.1 = name) = [] := by
        rw [List.filter_eq_nil_iff]
        intro other hother heq
        obtain ⟨e, he, rfl⟩ := List.mem_map.mp hother
        exact hnot (List.mem_map.mpr ⟨e, he, (of_decide_eq_true heq).trans hname.symm⟩)
      refine ⟨entry.2, ?_, ?_⟩
      · rw [hflat, List.filter_cons_of_pos (by simpa using hname), hnone, hname]
      · unfold fieldValue
        rw [List.find?_cons_of_pos (by simpa using hname)]
        rfl
    · have hvalue : fieldValue (entry :: entries) name = fieldValue entries name := by
        unfold fieldValue
        rw [List.find?_cons_of_neg (by simpa using hname)]
      rw [hflat, List.filter_cons_of_neg (by simpa using hname), hvalue]
      exact ih hnodup

/-- The text of the only field of a name, as the grammar splits it and in any other way. -/
theorem read_of_quoted {pieces pieces' : List Piece} {chars : List Char} (h : Spells pieces chars)
    (h' : ∀ piece ∈ pieces', piece.Valid) (heq : quoted pieces [] = quoted pieces' []) :
    stringBytes pieces' = some (utf8 chars) := by
  have hread := JsonReader.parseString_quoted h.valid []
  rw [heq, JsonReader.parseString_quoted h', h.stringBytes] at hread
  cases hbytes : stringBytes pieces' with
  | none =>
    rw [hbytes] at hread
    cases hread
  | some read =>
    rw [hbytes] at hread
    exact congrArg some (Prod.mk.inj (Option.some.inj hread)).1

theorem literal_named {m : Member} {name : List Char} (h : m.key = (utf8 name).map .byte) :
    stringBytes m.key = some (utf8 name) := by
  have hbytes := stringBytes_bytes (utf8 name) []
  rw [List.append_nil, stringBytes, Option.map_some, List.append_nil] at hbytes
  rw [h, hbytes]

/-- A key that is written literally is found. -/
theorem found_of_literal {members : List Member} {request : Bytes} {d : ℕ}
    (hobject : ObjectOf jsonSpace d members request) {m : Member} (hm : m ∈ members)
    {name : Bytes} (hkey : m.key = name.map .byte) :
    ∃ found, fromFirst (quotedName name) request = some found := by
  obtain ⟨s, hs⟩ := hobject.keyAt hm
  have hsuffix := hs.suffix
  rw [quoted_literal hkey] at hsuffix
  exact fromFirst_of_infix ((List.prefix_append _ s).isInfix.trans hsuffix.isInfix)

/-- A search that does not succeed finds no literal key. -/
theorem extractJsonString_nowhere_iff {entries : List (List Char × List Char)} {request : Bytes}
    {members : List Member} (hobject : ObjectOf jsonSpace 1 members request) {name : List Char}
    (hfound : fromFirst (quotedName (utf8 name)) request = none) :
    extractJsonString request (utf8 name) = fieldValue entries name ↔
      WrittenSimply members (utf8 name) ∨ fieldValue entries name = [] := by
  rw [extractJsonString_nowhere hfound]
  constructor
  · exact fun h => .inr h.symm
  · rintro (⟨m, hm, hkey, -⟩ | h)
    · obtain ⟨found, hsome⟩ := found_of_literal hobject (List.mem_filter.mp hm).1 hkey
      rw [hfound] at hsome
      cases hsome
    · exact h.symm

/-- A search that ends at the member's own key reads the member's value. -/
theorem extractJsonString_found_iff {entries : List (List Char × List Char)} {request : Bytes}
    {members : List Member} (hdistinct : (entries.map Prod.fst).Nodup)
    (hspell : List.Forall₂ SpellsMember (flat entries) members) {name : List Char} {found : Bytes}
    (hfirst : OwnKeyFirst members request (utf8 name))
    (hfound : fromFirst (quotedName (utf8 name)) request = some found) :
    extractJsonString request (utf8 name) = fieldValue entries name ↔
      WrittenSimply members (utf8 name) ∨ fieldValue entries name = [] := by
  obtain ⟨m, s, hat, hkey, rfl⟩ := hfirst found hfound
  obtain ⟨o, t, -, -, hin⟩ := hat
  obtain ⟨u, v, hcolon, hgap⟩ := hin.value
  have hm : m ∈ named (utf8 name) members :=
    List.mem_filter.mpr ⟨hin.mem, by simpa using literal_named hkey⟩
  have hread : ∀ {pieces : List Piece}, (∀ piece ∈ pieces, piece.Valid) →
      m.value = quoted pieces [] →
      extractJsonString request (utf8 name) = pieces.flatMap unescaped := fun hvalid hvalue =>
    extractJsonString_own hfound hkey hcolon hgap hvalid hvalue
  rcases filter_of_nodup hdistinct name with ⟨chars, hone, hvalue⟩ | ⟨hnone, -⟩
  · obtain ⟨m', hm', hdenotes⟩ := named_one hspell rfl hone
    rw [hm', List.mem_singleton] at hm
    subst hm
    obtain ⟨pieces, hspells, hquoted⟩ := string_text hdenotes
    rw [hvalue]
    constructor
    · intro heq
      rw [hread hspells.valid hquoted] at heq
      exact .inl ⟨m, by rw [hm']; exact List.mem_singleton_self m, hkey, pieces, hspells.valid,
        hquoted, (unescaped_iff hspells.valid hspells.stringBytes).2.mp heq⟩
    · rintro (⟨m', hmem, -, pieces', hvalid', hquoted', hkept⟩ | hempty)
      · rw [hm', List.mem_singleton] at hmem
        subst hmem
        rw [hread hvalid' hquoted']
        have hbytes := read_of_quoted hspells hvalid' (hquoted.symm.trans hquoted')
        exact (unescaped_iff hvalid' hbytes).2.mpr hkept
      · obtain rfl : chars = [] := utf8_inj hempty
        cases hspells
        exact hread (fun _ hmem => absurd hmem List.not_mem_nil) hquoted
  · have hnamed := named_spell hspell name
    rw [hnone, List.forall₂_nil_left_iff] at hnamed
    rw [hnamed] at hm
    cases hm

/-- **A field is read as it is meant** exactly if it is written simply or empty, where the search is
not misled by another member. -/
theorem extractJsonString_iff {entries : List (List Char × List Char)} {request : Bytes}
    (hdistinct : (entries.map Prod.fst).Nodup) (htext : TextOf (.object (flat entries)) request)
    (name : List Char) :
    (∃ members, ObjectOf jsonSpace 1 members request ∧
      List.Forall₂ SpellsMember (flat entries) members) ∧
    ∀ members, ObjectOf jsonSpace 1 members request →
      List.Forall₂ SpellsMember (flat entries) members →
      OwnKeyFirst members request (utf8 name) →
      (extractJsonString request (utf8 name) = fieldValue entries name ↔
        WrittenSimply members (utf8 name) ∨ fieldValue entries name = []) := by
  have hlevels : memberDepths (flat entries) < 1 := by
    rw [memberDepths_flat]
    exact Nat.zero_lt_one
  refine ⟨htext.objectOf hlevels, fun members hobject hspell hfirst => ?_⟩
  cases hfound : fromFirst (quotedName (utf8 name)) request with
  | none => exact extractJsonString_nowhere_iff hobject hfound
  | some found => exact extractJsonString_found_iff hdistinct hspell hfirst hfound

/-- A request with a value that reads like the name of the last field. -/
def hintRequest : Bytes := text "\x7b\"a\":\"k\",\"b\":\"x\",\"k\":\"y\"\x7d"

def hintEntries : List (List Char × List Char) := [(['a'], ['k']), (['b'], ['x']), (['k'], ['y'])]

def hintMembers : List Member :=
  [⟨[.byte 0x61], quoted [.byte 0x6b] []⟩, ⟨[.byte 0x62], quoted [.byte 0x78] []⟩,
    ⟨[.byte 0x6b], quoted [.byte 0x79] []⟩]

theorem letter_spells {c : Char} (h : 0x20 ≤ c.toNat ∧ c ≠ '"' ∧ c ≠ '\\') :
    Spells ((utf8 [c]).map .byte) [c] :=
  Spells.plain (List.forall_mem_singleton.mpr h)

theorem hintRequest_text : TextOf (.object (flat hintEntries)) hintRequest := by
  have hblank := Span.refl jsonSpace
  refine ⟨_, [], hblank _, ?_, hblank _⟩
  exact .object (hblank _) (.nextMember (letter_spells (by decide)) (hblank _) (hblank _)
    (.string (letter_spells (by decide))) (hblank _) (hblank _)
    (.nextMember (letter_spells (by decide)) (hblank _) (hblank _)
      (.string (letter_spells (by decide))) (hblank _) (hblank _)
      (.lastMember (letter_spells (by decide)) (hblank _) (hblank _)
        (.string (letter_spells (by decide))) (hblank _))))

theorem hintMembers_spell : List.Forall₂ SpellsMember (flat hintEntries) hintMembers := by
  have hone : ∀ c d : Char, (0x20 ≤ c.toNat ∧ c ≠ '"' ∧ c ≠ '\\') →
      (0x20 ≤ d.toNat ∧ d ≠ '"' ∧ d ≠ '\\') →
      SpellsMember ([c], .string [d]) ⟨(utf8 [c]).map .byte, quoted ((utf8 [d]).map .byte) []⟩ :=
    fun c d hc hd => ⟨letter_spells hc, .string (letter_spells hd)⟩
  exact .cons (hone 'a' 'k' (by decide) (by decide)) (.cons (hone 'b' 'x' (by decide) (by decide))
    (.cons (hone 'k' 'y' (by decide) (by decide)) .nil))

theorem hintRequest_object : ObjectOf jsonSpace 1 hintMembers hintRequest := by
  have hblank := Span.refl jsonSpace
  have hvalid : ∀ b : UInt8, 0x20 ≤ b ∧ b ≠ 0x22 ∧ b ≠ 0x5c → ∀ piece ∈ [Piece.byte b], piece.Valid :=
    fun _ hb => List.forall_mem_singleton.mpr hb
  refine .members (hblank _) (hblank _) ?_ (hblank [])
  exact .next (hvalid 0x61 (by decide)) (hblank _) (hblank _) (.string (hvalid 0x6b (by decide)))
    (hblank _) (hblank _) (.next (hvalid 0x62 (by decide)) (hblank _) (hblank _)
      (.string (hvalid 0x78 (by decide))) (hblank _) (hblank _)
      (.last (hvalid 0x6b (by decide)) (hblank _) (hblank _) (.string (hvalid 0x79 (by decide)))
        (hblank _)))

theorem hintRequest_first : OwnKeyFirst hintMembers hintRequest (utf8 ['b']) := by
  have hblank := Span.refl jsonSpace
  intro found hfound
  have hplace : fromFirst (quotedName (utf8 ['b'])) hintRequest =
      some (text "\"b\":\"x\",\"k\":\"y\"\x7d") := by decide +kernel
  obtain rfl := Option.some.inj (hplace.symm.trans hfound)
  exact ⟨_, _, ⟨_, _, hblank _, hblank _, .later (hblank _) (hblank _) (hblank _) (hblank _)
    (.here (hblank _) (hblank _))⟩, rfl, rfl⟩

theorem extractJsonString_hint :
    extractJsonString hintRequest (utf8 ['b']) = fieldValue hintEntries ['b'] ↔
      WrittenSimply hintMembers (utf8 ['b']) ∨ fieldValue hintEntries ['b'] = [] :=
  (extractJsonString_iff (show (hintEntries.map Prod.fst).Nodup by decide) hintRequest_text
    ['b']).2 hintMembers hintRequest_object hintMembers_spell hintRequest_first

/-- **A value can stand for a name**: the search for the last field ends at the value of another. -/
theorem value_misleads_extraction :
    ¬∀ entries request name, (entries.map Prod.fst).Nodup → TextOf (.object (flat entries)) request →
      extractJsonString request (utf8 name) = fieldValue entries name := by
  intro h
  have hread := h hintEntries hintRequest ['k'] (by decide) hintRequest_text
  exact absurd hread (by decide +kernel)

end NetworkService.Ipc
