import NetworkService.Ipc.Documents
import NetworkService.Ipc.ParameterReader

/-!
# What is printed is read back

The escapes of a string give its bytes again, the digits of a number its value, and brackets their
items, so that the reader returns from the text of a document to the document, wherever the text
stands.
-/

namespace NetworkService.Ipc

open Json NetworkService.Ipc.Representation

namespace JsonReader

/-! ### Strings -/

/-- The four digits of a control byte denote it. -/
theorem control_piece {ch : UInt8} (h : ch < 0x20) :
    (Piece.unicode 0x30 0x30 (hexDigit ((ch >>> 4) &&& 0x0f)) (hexDigit (ch &&& 0x0f))).Valid ∧
      (Piece.unicode 0x30 0x30 (hexDigit ((ch >>> 4) &&& 0x0f)) (hexDigit (ch &&& 0x0f))).unit =
        ch.toNat ∧
      scalarBytes ch.toNat = [ch] := by
  have hdigits : ∀ n : Fin 32, (Json.hexValue (hexDigit ((UInt8.ofNat n >>> 4) &&& 0x0f))).isSome ∧
      (Json.hexValue (hexDigit (UInt8.ofNat n &&& 0x0f))).isSome := by decide +kernel
  have hunit : ∀ n : Fin 32, (Piece.unicode 0x30 0x30 (hexDigit ((UInt8.ofNat n >>> 4) &&& 0x0f))
      (hexDigit (UInt8.ofNat n &&& 0x0f))).unit = n.val := by decide +kernel
  have hbytes : ∀ n : Fin 32, scalarBytes n = [UInt8.ofNat n] := by decide +kernel
  have hlt : ch.toNat < 32 := UInt8.lt_iff_toNat_lt.mp h
  have hdigits := hdigits ⟨ch.toNat, hlt⟩
  have hunit := hunit ⟨ch.toNat, hlt⟩
  have hbytes := hbytes ⟨ch.toNat, hlt⟩
  rw [UInt8.ofNat_toNat] at hdigits hunit hbytes
  exact ⟨⟨rfl, rfl, hdigits⟩, hunit, hbytes⟩

/-- Whatever a byte is escaped to, it is read back. -/
theorem parseStringBody_escape (out s : Bytes) (ch : UInt8) :
    parseStringBody out (Representation.jsonEscape [ch] ++ s) = parseStringBody (out ++ [ch]) s := by
  have hsimple : ∀ e : UInt8, escapeValue e = some ch →
      parseStringBody out (0x5c :: e :: s) = parseStringBody (out ++ [ch]) s := by
    intro e he
    have hread := body_escape (Option.isSome_iff_exists.mpr ⟨ch, he⟩) out s
    rw [he] at hread
    exact hread
  unfold Representation.jsonEscape
  rw [List.flatMap_singleton]
  by_cases hbackslash : ch = backslash
  · rw [if_pos hbackslash]
    exact hsimple 0x5c (hbackslash ▸ rfl)
  rw [if_neg hbackslash]
  by_cases hquote : ch = quote
  · rw [if_pos hquote]
    exact hsimple 0x22 (hquote ▸ rfl)
  rw [if_neg hquote]
  by_cases h08 : ch = 0x08
  · rw [if_pos h08]
    exact hsimple 0x62 (h08 ▸ rfl)
  rw [if_neg h08]
  by_cases h0c : ch = 0x0c
  · rw [if_pos h0c]
    exact hsimple 0x66 (h0c ▸ rfl)
  rw [if_neg h0c]
  by_cases h0a : ch = 0x0a
  · rw [if_pos h0a]
    exact hsimple 0x6e (h0a ▸ rfl)
  rw [if_neg h0a]
  by_cases h0d : ch = 0x0d
  · rw [if_pos h0d]
    exact hsimple 0x72 (h0d ▸ rfl)
  rw [if_neg h0d]
  by_cases h09 : ch = 0x09
  · rw [if_pos h09]
    exact hsimple 0x74 (h09 ▸ rfl)
  rw [if_neg h09]
  by_cases hcontrol : ch < 0x20
  · rw [if_pos hcontrol]
    obtain ⟨hvalid, hunit, hbytes⟩ := control_piece hcontrol
    have hsmall := ch.toNat_lt
    have hread := body_unicode hvalid (by rw [hunit, isHigh_iff]; omega)
      (by rw [hunit, isLow_iff]; omega) out s
    rw [hunit, hbytes] at hread
    exact hread
  · rw [if_neg hcontrol]
    exact body_byte ⟨UInt8.not_lt.mp hcontrol, hquote, hbackslash⟩ out s

theorem parseStringBody_printed (value out rest : Bytes) :
    parseStringBody out (Representation.jsonEscape value ++ quote :: rest) = some (out ++ value, rest) := by
  induction value generalizing out with
  | nil =>
    rw [List.append_nil]
    exact body_quote out rest
  | cons ch value ih =>
    have hescape : Representation.jsonEscape (ch :: value) =
        Representation.jsonEscape [ch] ++ Representation.jsonEscape value := by
      unfold Representation.jsonEscape
      rw [List.flatMap_cons, List.flatMap_singleton]
    rw [hescape, List.append_assoc, parseStringBody_escape, ih, List.append_assoc]
    rfl

theorem parseString_printed (value rest : Bytes) :
    parseString (Document.printString value ++ rest) = some (value, rest) := by
  have hopen : Document.printString value ++ rest =
      quote :: (Representation.jsonEscape value ++ quote :: rest) := by
    simp [Document.printString]
  rw [hopen]
  show parseStringBody [] (Representation.jsonEscape value ++ quote :: rest) = _
  rw [parseStringBody_printed, List.nil_append]

/-! ### Numbers -/

/-- The digits of a natural number. -/
def digitsOfNat (n : ℕ) : Bytes := (Nat.toDigits 10 n).map ascii

theorem number_natCast (n : ℕ) : number n = digitsOfNat n := by
  show text (n.repr) = _
  unfold text digitsOfNat
  rw [Nat.toList_repr]

theorem number_negSucc (n : ℕ) : number (Int.negSucc n) = ascii '-' :: digitsOfNat (n + 1) := by
  show text ("-" ++ (n + 1).repr) = _
  unfold text digitsOfNat
  rw [String.toList_append, List.map_append, Nat.toList_repr]
  rfl

theorem digitsOfNat_digits (n : ℕ) : ∀ b ∈ digitsOfNat n, digit b = true := by
  intro b hb
  obtain ⟨c, hc, rfl⟩ := List.mem_map.mp hb
  exact (ascii_digitChar (Nat.isDigit_of_mem_toDigits (by decide) (by decide) hc)).1

theorem natOfDigits_digitsOfNat (n : ℕ) : natOfDigits (digitsOfNat n) = n := by
  have hdigits : ∀ c ∈ Nat.toDigits 10 n, c.isDigit = true := fun c hc =>
    Nat.isDigit_of_mem_toDigits (by decide) (by decide) hc
  rw [natOfDigits, digitsOfNat, digitsFrom_map_ascii hdigits]
  exact Nat.ofDigitChars_ten_toDigits

theorem digitsFrom_lt {digits : Bytes} (h : ∀ b ∈ digits, digit b = true) (n : ℕ) :
    digitsFrom n digits < (n + 1) * 10 ^ digits.length := by
  induction digits generalizing n with
  | nil => rw [show digitsFrom n [] = n from rfl, List.length_nil]; omega
  | cons b digits ih =>
    obtain ⟨hb, hdigits⟩ := List.forall_mem_cons.mp h
    have hrange := digit_toNat hb
    rw [digitsFrom_cons, List.length_cons]
    calc digitsFrom (10 * n + (b.toNat - 48)) digits
        < (10 * n + (b.toNat - 48) + 1) * 10 ^ digits.length := ih hdigits _
      _ ≤ ((n + 1) * 10) * 10 ^ digits.length := Nat.mul_le_mul_right _ (by omega)
      _ = (n + 1) * 10 ^ (digits.length + 1) := by rw [Nat.pow_succ, Nat.mul_assoc, Nat.mul_comm 10]

/-- A zero is printed alone. -/
theorem digitsOfNat_zero {n : ℕ} {rest : Bytes} (h : digitsOfNat n = ascii '0' :: rest) : rest = [] := by
  have hdigits : ∀ b ∈ rest, digit b = true := fun b hb =>
    digitsOfNat_digits n b (by rw [h]; exact List.mem_cons_of_mem _ hb)
  have hvalue : natOfDigits rest = n := by
    have hall := natOfDigits_digitsOfNat n
    rw [h] at hall
    exact hall
  have hlength : (Nat.toDigits 10 n).length = rest.length + 1 := by
    have hall := congrArg List.length h
    rw [digitsOfNat, List.length_map, List.length_cons] at hall
    exact hall
  cases rest with
  | nil => rfl
  | cons b rest =>
    have hlt : n < 10 ^ (b :: rest).length := by
      have hbound := digitsFrom_lt hdigits 0
      rw [← hvalue]
      rw [Nat.zero_add, Nat.one_mul] at hbound
      exact hbound
    have hle := (Nat.length_toDigits_le_iff (by decide) (Nat.succ_pos _)).mpr hlt
    rw [hlength] at hle
    exact absurd hle (Nat.not_succ_le_self _)

theorem digitsOfNat_ne_nil (n : ℕ) : digitsOfNat n ≠ [] := by
  intro h
  have hnil : Nat.toDigits 10 n = [] := List.map_eq_nil_iff.mp h
  exact Nat.toDigits_ne_nil hnil

/-- The digits of a number are passed up to where it ends. -/
theorem skipInteger_digitsOfNat (n : ℕ) {rest : Bytes} (hrest : EndsNumber rest) :
    skipInteger (digitsOfNat n ++ rest) = some rest := by
  have hdigits := digitsOfNat_digits n
  cases hprinted : digitsOfNat n with
  | nil => exact absurd hprinted (digitsOfNat_ne_nil n)
  | cons b digits =>
    rw [List.cons_append, skipInteger.eq_def]
    simp only
    by_cases hzero : b = ascii '0'
    · rw [if_pos hzero]
      rw [hzero] at hprinted
      rw [digitsOfNat_zero hprinted]
      cases rest with
      | nil => rfl
      | cons c rest =>
        have hc : isDigit c = false := (hrest c rfl).1
        show (if isDigit c then none else some (c :: rest)) = _
        rw [hc]
        rfl
    · rw [hprinted] at hdigits
      obtain ⟨hb, hmore⟩ := List.forall_mem_cons.mp hdigits
      have hdigit : isDigit b = true := hb
      rw [if_neg hzero, if_pos hdigit]
      exact congrArg some (skipDigits_of_span ⟨digits, rfl, hmore⟩ fun c hc => (hrest c hc).1)

theorem skipFraction_ends {rest : Bytes} (hrest : EndsNumber rest) : skipFraction rest = some rest := by
  cases rest with
  | nil => rfl
  | cons b rest =>
    have hdot : b ≠ ascii '.' := (hrest b rfl).2.1
    rw [skipFraction, if_neg hdot]

theorem skipMinus_digitsOfNat (n : ℕ) (rest : Bytes) :
    skipMinus (digitsOfNat n ++ rest) = digitsOfNat n ++ rest := by
  have hdigits := digitsOfNat_digits n
  cases hprinted : digitsOfNat n with
  | nil => exact absurd hprinted (digitsOfNat_ne_nil n)
  | cons b digits =>
    rw [List.cons_append, skipMinus, if_neg]
    rintro rfl
    have hminus := hdigits (ascii '-') (by rw [hprinted]; exact List.mem_cons_self)
    exact absurd hminus (by decide)

theorem skipNumber_of_digits {s : Bytes} (n : ℕ) {rest : Bytes} (hrest : EndsNumber rest)
    (hs : skipMinus s = digitsOfNat n ++ rest) : skipNumber s = some rest := by
  show (skipInteger (skipMinus s)).bind (fun t => (skipFraction t).bind skipExponent) = some rest
  rw [hs, skipInteger_digitsOfNat n hrest]
  show (skipFraction rest).bind skipExponent = some rest
  rw [skipFraction_ends hrest]
  exact (skipExponent_complete .none hrest).1

/-- What is printed for a number, and its digits behind the sign. -/
theorem integerOf_number (value : Int) : integerOf (number value) = some value := by
  have hall : ∀ n, (digitsOfNat n).all isDigit = true := fun n =>
    List.all_eq_true.mpr (digitsOfNat_digits n)
  cases value with
  | ofNat n =>
    have hminus := skipMinus_digitsOfNat n []
    rw [List.append_nil] at hminus
    show integerOf (number (n : Int)) = some (n : Int)
    rw [number_natCast]
    simp only [integerOf, hminus, hall, if_true, natOfDigits_digitsOfNat]
  | negSucc n =>
    rw [number_negSucc]
    have hminus : skipMinus (ascii '-' :: digitsOfNat (n + 1)) = digitsOfNat (n + 1) := rfl
    have hne : digitsOfNat (n + 1) ≠ ascii '-' :: digitsOfNat (n + 1) := fun h => by
      have hlength := congrArg List.length h
      rw [List.length_cons] at hlength
      omega
    simp only [integerOf, hminus, hall, if_true, if_neg hne, natOfDigits_digitsOfNat]
    rfl

theorem readNumber_printed (value : Int) {rest : Bytes} (hrest : EndsNumber rest) :
    readNumber (number value ++ rest) = some (.number value, rest) := by
  have hskip : skipNumber (number value ++ rest) = some rest := by
    cases value with
    | ofNat n =>
      show skipNumber (number (n : Int) ++ rest) = _
      rw [number_natCast]
      exact skipNumber_of_digits n hrest (skipMinus_digitsOfNat n rest)
    | negSucc n =>
      rw [number_negSucc]
      exact skipNumber_of_digits (n + 1) hrest rfl
  unfold readNumber
  rw [hskip]
  have htake : (number value ++ rest).take ((number value ++ rest).length - rest.length)
      = number value := by
    rw [List.length_append, Nat.add_sub_cancel, List.take_left]
  show (integerOf ((number value ++ rest).take ((number value ++ rest).length - rest.length))).bind _ = _
  rw [htake, integerOf_number]
  rfl

/-! ### Brackets -/

/-- Printed text that begins with neither white space nor a closing bracket. -/
def Fronted (s : Bytes) : Prop :=
  ∃ b t, s = b :: t ∧ isSpace b = false ∧ b ≠ ascii ']' ∧ b ≠ closeBrace

theorem Fronted.dense {s : Bytes} (h : Fronted s) (rest : Bytes) : Dense (s ++ rest) := by
  obtain ⟨b, t, rfl, hspace, -⟩ := h
  exact dense_cons hspace (t ++ rest)

theorem Fronted.dense_items {item : Bytes} (h : Fronted item) (items : List Bytes) (rest : Bytes) :
    Dense (Document.printItems (item :: items) ++ rest) := by
  show Dense (item ++ items.flatMap (fun item => ascii ',' :: item) ++ rest)
  rw [List.append_assoc]
  exact h.dense _

/-- What closes or separates items ends a number. -/
theorem endsNumber_cons {b : UInt8} (h : b = ascii ']' ∨ b = closeBrace ∨ b = ascii ',')
    (rest : Bytes) : EndsNumber (b :: rest) := by
  intro c hc
  cases hc
  rcases h with rfl | rfl | rfl <;> decide

/-- An item with its text: it is read wherever a number may end behind it. -/
structure Readable {α : Type} (readItem : Bytes → Option (α × Bytes)) (item : α × Bytes) : Prop where
  front : Fronted item.2
  read : ∀ rest, EndsNumber rest → readItem (item.2 ++ rest) = some (item.1, rest)

section Brackets

variable {α : Type} {readItem : Bytes → Option (α × Bytes)} {close : UInt8}

theorem readItems_last {s t rest : Bytes} {item : α} {turns : ℕ} (hitem : readItem s = some (item, t))
    (hnext : skipWs t = close :: rest) : readItems readItem close (turns + 1) s = some ([item], rest) := by
  simp only [readItems, hitem, Option.bind_eq_bind, Option.bind_some, hnext, if_true]

theorem readItems_next {s t u : Bytes} {item : α} {turns : ℕ} (hitem : readItem s = some (item, t))
    (hnext : skipWs t = ascii ',' :: u) (hcomma : ascii ',' ≠ close) :
    readItems readItem close (turns + 1) s =
      (readItems readItem close turns (skipWs u)).map fun (items, rest) => (item :: items, rest) := by
  rw [readItems, hitem]
  simp only [Option.bind_eq_bind, Option.bind_some, hnext, if_neg hcomma, ne_eq, not_true_eq_false,
    if_false]
  cases readItems readItem close turns (skipWs u) with
  | none => rfl
  | some found => rfl

/-- Items are read up to the bracket, the induction being on the items behind the first. -/
theorem readItems_printed (hclose : close = ascii ']' ∨ close = closeBrace) (item : α × Bytes)
    (items : List (α × Bytes)) (h : ∀ i ∈ item :: items, Readable readItem i) (turns : ℕ)
    (hturns : items.length < turns) (rest : Bytes) :
    readItems readItem close turns
        (Document.printItems ((item :: items).map Prod.snd) ++ close :: rest)
      = some ((item :: items).map Prod.fst, rest) := by
  have hspace : isSpace close = false := by rcases hclose with rfl | rfl <;> decide
  have hcomma : ascii ',' ≠ close := by rcases hclose with rfl | rfl <;> decide
  induction items generalizing item turns with
  | nil =>
    cases turns with
    | zero => exact absurd hturns (Nat.not_lt_zero _)
    | succ turns =>
      obtain ⟨-, hread⟩ := h item List.mem_cons_self
      have htext : Document.printItems ([item].map Prod.snd) ++ close :: rest
          = item.2 ++ close :: rest := by simp [Document.printItems]
      have hends : EndsNumber (close :: rest) :=
        endsNumber_cons (hclose.imp_right Or.inl) rest
      rw [htext]
      exact readItems_last (hread _ hends) (skipWs_eq_self (dense_cons hspace rest))
  | cons next items ih =>
    cases turns with
    | zero => exact absurd hturns (Nat.not_lt_zero _)
    | succ turns =>
      obtain ⟨hitem, hitems⟩ := List.forall_mem_cons.mp h
      obtain ⟨-, hread⟩ := hitem
      have htext : Document.printItems ((item :: next :: items).map Prod.snd) ++ close :: rest
          = item.2 ++ ascii ',' ::
            (Document.printItems ((next :: items).map Prod.snd) ++ close :: rest) := by
        simp [Document.printItems]
      have hends : EndsNumber (ascii ',' ::
          (Document.printItems ((next :: items).map Prod.snd) ++ close :: rest)) :=
        endsNumber_cons (Or.inr (Or.inr rfl)) _
      have hdense : Dense (Document.printItems ((next :: items).map Prod.snd) ++ close :: rest) :=
        (hitems next List.mem_cons_self).front.dense_items (items.map Prod.snd) (close :: rest)
      rw [htext, readItems_next (hread _ hends) (skipWs_eq_self (dense_cons (by decide) _)) hcomma,
        skipWs_eq_self hdense, ih next hitems turns (by simpa using hturns)]
      rfl

/-- There is a comma before each item but the first. -/
theorem length_le_printItems (item : Bytes) (items : List Bytes) :
    items.length ≤ (Document.printItems (item :: items)).length := by
  show _ ≤ (item ++ items.flatMap fun item => ascii ',' :: item).length
  rw [List.length_append]
  induction items with
  | nil => exact Nat.zero_le _
  | cons next items ih =>
    rw [List.flatMap_cons, List.length_append, List.length_cons, List.length_cons]
    omega

/-- A bracket is read with all its items. -/
theorem readBracketed_printed (hclose : close = ascii ']' ∨ close = closeBrace) (start : UInt8)
    (items : List (α × Bytes)) (h : ∀ i ∈ items, Readable readItem i) (rest : Bytes) :
    readBracketed readItem start close
        (start :: (Document.printItems (items.map Prod.snd) ++ close :: rest))
      = some (items.map Prod.fst, rest) := by
  have hspace : isSpace close = false := by rcases hclose with rfl | rfl <;> decide
  have hstart : ∀ s, expect start (start :: s) = some s := fun s => if_pos rfl
  unfold readBracketed
  rw [hstart]
  simp only [Option.bind_eq_bind, Option.bind_some]
  cases items with
  | nil =>
    have hdense : skipWs (Document.printItems (([] : List (α × Bytes)).map Prod.snd) ++ close :: rest) =
        close :: rest := skipWs_eq_self (dense_cons hspace rest)
    rw [hdense, expect_cons_self]
    rfl
  | cons item items =>
    obtain ⟨b, s, hb, -, hbracket, hbrace⟩ := (h item List.mem_cons_self).front
    have hne : b ≠ close := by rcases hclose with rfl | rfl <;> assumption
    have hdense := (h item List.mem_cons_self).front.dense_items (items.map Prod.snd) (close :: rest)
    have hexpect : expect close (Document.printItems ((item :: items).map Prod.snd) ++ close :: rest)
        = none := by
      show expect close (item.2 ++ _ ++ close :: rest) = none
      rw [hb]
      exact if_neg hne
    rw [List.map_cons, skipWs_eq_self hdense]
    rw [List.map_cons] at hexpect
    rw [hexpect]
    have hturns : items.length
        < (start :: (Document.printItems ((item :: items).map Prod.snd) ++ close :: rest)).length := by
      have hitems := length_le_printItems item.2 (items.map Prod.snd)
      rw [List.length_map] at hitems
      rw [List.length_cons, List.length_append, List.map_cons]
      omega
    exact readItems_printed hclose item items h _ hturns rest

end Brackets

end JsonReader

/-! ### Documents -/

/-- Induction over a document and what it contains. -/
theorem Document.contents_induction {P : Document → Prop} (hnull : P .null) (hbool : ∀ b, P (.bool b))
    (hnumber : ∀ n, P (.number n)) (hstring : ∀ s, P (.string s))
    (harray : ∀ elements, (∀ e ∈ elements, P e) → P (.array elements))
    (hobject : ∀ members : List (Bytes × Document), (∀ m ∈ members, P m.2) → P (.object members)) :
    ∀ document, P document := by
  intro document
  exact @Document.rec P (fun elements => ∀ e ∈ elements, P e) (fun members => ∀ m ∈ members, P m.2)
    (fun m => P m.2) hnull hbool hnumber hstring harray hobject
    (fun e he => absurd he List.not_mem_nil)
    (fun e elements he helements => List.forall_mem_cons.mpr ⟨he, helements⟩)
    (fun m hm => absurd hm List.not_mem_nil)
    (fun m members hm hmembers => List.forall_mem_cons.mpr ⟨hm, hmembers⟩)
    (fun name value hvalue => hvalue) document

theorem Document.printEach_eq (elements : List Document) :
    printEach elements = elements.map print := by
  induction elements with
  | nil => rfl
  | cons element elements ih =>
    rw [printEach, ih]
    rfl

theorem Document.printMembers_eq (members : List (Bytes × Document)) :
    printMembers members = members.map fun m => printString m.1 ++ ascii ':' :: m.2.print := by
  induction members with
  | nil => rfl
  | cons m members ih =>
    obtain ⟨name, value⟩ := m
    rw [printMembers, ih]
    rfl

theorem Document.depth_le_depthEach {elements : List Document} {e : Document} (he : e ∈ elements) :
    e.depth ≤ depthEach elements := by
  induction elements with
  | nil => exact absurd he List.not_mem_nil
  | cons element elements ih =>
    rw [depthEach]
    rcases List.mem_cons.mp he with rfl | he
    · exact Nat.le_max_left _ _
    · exact Nat.le_trans (ih he) (Nat.le_max_right _ _)

theorem Document.depth_le_depthMembers {members : List (Bytes × Document)} {m : Bytes × Document}
    (hm : m ∈ members) : m.2.depth ≤ depthMembers members := by
  induction members with
  | nil => exact absurd hm List.not_mem_nil
  | cons member members ih =>
    obtain ⟨name, value⟩ := member
    rw [depthMembers]
    rcases List.mem_cons.mp hm with rfl | hm
    · exact Nat.le_max_left _ _
    · exact Nat.le_trans (ih hm) (Nat.le_max_right _ _)

namespace JsonReader

theorem readValue_scalar {levels : ℕ} {b : UInt8} {s : Bytes} (hobject : b ≠ openBrace)
    (harray : b ≠ ascii '[') : readValue (levels + 1) (b :: s) = readScalar b (b :: s) := by
  rw [readValue]
  simp only [if_neg hobject, if_neg harray]

/-- A word of the grammar is read as what it stands for; its front is given. -/
theorem readable_word {levels : ℕ} {word tail : Bytes} {b : UInt8} {document : Document}
    (hword : word = b :: tail) (hspace : isSpace b = false)
    (hb : b ≠ openBrace ∧ b ≠ ascii '[' ∧ b ≠ ascii ']' ∧ b ≠ closeBrace)
    (hread : ∀ s rest, skipLiteral word s = some rest → readScalar b s = some (document, rest)) :
    Readable (readValue (levels + 1)) (document, word) := by
  refine ⟨⟨b, tail, hword, hspace, hb.2.2.1, hb.2.2.2⟩, fun rest _ => ?_⟩
  have hskip : skipLiteral word (word ++ rest) = some rest := skipLiteral_eq_some.mpr rfl
  have hscalar := hread _ _ hskip
  show readValue (levels + 1) (word ++ rest) = some (document, rest)
  rw [hword, List.cons_append] at hscalar ⊢
  rw [readValue_scalar hb.1 hb.2.1, hscalar]

theorem readable_bool {levels : ℕ} (value : Bool) :
    Readable (readValue (levels + 1)) (.bool value, boolText value) := by
  have htrue : text "true" = ascii 't' :: text "rue" := by simp [text]
  have hfalse : text "false" = ascii 'f' :: text "alse" := by simp [text]
  cases value with
  | true =>
    apply readable_word htrue (by decide) (by decide)
    intro s rest h
    rw [readScalar, if_neg (by decide), if_pos rfl, h]
    rfl
  | false =>
    apply readable_word hfalse (by decide) (by decide)
    intro s rest h
    rw [readScalar, if_neg (by decide), if_neg (by decide), if_pos rfl, h]
    rfl

theorem readable_null {levels : ℕ} : Readable (readValue (levels + 1)) (.null, text "null") := by
  have hnull : text "null" = ascii 'n' :: text "ull" := by simp [text]
  apply readable_word hnull (by decide) (by decide)
  intro s rest h
  rw [readScalar, if_neg (by decide), if_neg (by decide), if_neg (by decide), if_pos rfl, h]
  rfl

/-- A number begins with a digit or a minus. -/
theorem number_front (value : Int) :
    ∃ b s, number value = b :: s ∧ (digit b = true ∨ b = ascii '-') := by
  cases value with
  | ofNat n =>
    show ∃ b s, number (n : Int) = b :: s ∧ _
    rw [number_natCast]
    have hdigits := digitsOfNat_digits n
    cases hprinted : digitsOfNat n with
    | nil => exact absurd hprinted (digitsOfNat_ne_nil n)
    | cons b s => exact ⟨b, s, rfl, Or.inl (hdigits b (by rw [hprinted]; exact List.mem_cons_self))⟩
  | negSucc n =>
    rw [number_negSucc]
    exact ⟨_, _, rfl, Or.inr rfl⟩

theorem ne_of_digit {b c : UInt8} (h : digit b = true ∨ b = ascii '-')
    (hc : digit c = false ∧ c ≠ ascii '-') : b ≠ c := by
  rintro rfl
  rcases h with h | h
  · rw [hc.1] at h
    cases h
  · exact hc.2 h

theorem readable_number {levels : ℕ} (value : Int) :
    Readable (readValue (levels + 1)) (.number value, number value) := by
  obtain ⟨b, s, hprinted, hb⟩ := number_front value
  have hspace : isSpace b = false := by
    rcases hb with hb | rfl
    · exact not_isSpace_of_digit hb
    · decide
  refine ⟨⟨b, s, hprinted, hspace, ne_of_digit hb (by decide), ne_of_digit hb (by decide)⟩, ?_⟩
  intro rest hrest
  have hread := readNumber_printed value hrest
  show readValue (levels + 1) (number value ++ rest) = _
  rw [hprinted, List.cons_append] at hread ⊢
  rw [readValue_scalar (ne_of_digit hb (by decide)) (ne_of_digit hb (by decide)), readScalar,
    if_neg (ne_of_digit hb (by decide)), if_neg (ne_of_digit hb (by decide)),
    if_neg (ne_of_digit hb (by decide)), if_neg (ne_of_digit hb (by decide)), hread]

theorem readable_string {levels : ℕ} (value : Bytes) :
    Readable (readValue (levels + 1)) (.string value, Document.printString value) := by
  refine ⟨⟨quote, _, rfl, by decide, by decide, by decide⟩, fun rest _ => ?_⟩
  have hread := parseString_printed value rest
  show readValue (levels + 1) (quote :: (Representation.jsonEscape value ++ [quote] ++ rest)) = _
  rw [readValue_scalar (by decide) (by decide), readScalar, if_pos rfl]
  have hread' : parseString (quote :: (Representation.jsonEscape value ++ [quote] ++ rest)) = some (value, rest) := hread
  rw [hread']
  rfl

/-- A member is read if its value is. -/
theorem readable_member {readElement : Bytes → Option (Document × Bytes)} {name : Bytes}
    {value : Document} (h : Readable readElement (value, value.print)) :
    Readable (readMember readElement)
      ((name, value), Document.printString name ++ ascii ':' :: value.print) := by
  refine ⟨⟨quote, _, rfl, by decide, by decide, by decide⟩, fun rest hrest => ?_⟩
  have hkey : memberKey (Document.printString name ++ ascii ':' :: value.print ++ rest)
      = some (name, value.print ++ rest) := by
    unfold memberKey
    rw [List.append_assoc, parseString_printed]
    simp only [Option.bind_eq_bind, Option.bind_some, List.cons_append]
    rw [skipWs_eq_self (dense_cons (by decide) _)]
    simp only [expect, if_true, Option.bind_some]
    rw [skipWs_eq_self (h.front.dense rest)]
  unfold readMember
  show (memberKey (Document.printString name ++ ascii ':' :: value.print ++ rest)).bind _ = _
  rw [hkey]
  show (readElement (value.print ++ rest)).bind _ = _
  rw [h.read rest hrest]
  rfl

theorem readable_array {levels : ℕ} (elements : List Document)
    (h : ∀ e ∈ elements, Readable (readValue levels) (e, e.print)) :
    Readable (readValue (levels + 1)) (.array elements, (Document.array elements).print) := by
  refine ⟨⟨ascii '[', _, rfl, by decide, by decide, by decide⟩, fun rest _ => ?_⟩
  have hread := readBracketed_printed (Or.inl rfl) (ascii '[')
    (elements.map fun e => (e, e.print)) (List.forall_mem_map.mpr h) rest
  have htexts : (elements.map fun e => (e, e.print)).map Prod.snd = Document.printEach elements := by
    rw [List.map_map, Document.printEach_eq]
    rfl
  have hitems : (elements.map fun e => (e, e.print)).map Prod.fst = elements := by
    rw [List.map_map]
    exact List.map_id elements
  rw [htexts, hitems] at hread
  have hprint : (Document.array elements).print ++ rest
      = ascii '[' :: (Document.printItems (Document.printEach elements) ++ ascii ']' :: rest) := by
    simp [Document.print]
  show readValue (levels + 1) ((Document.array elements).print ++ rest) = _
  rw [hprint, readValue]
  simp only [if_neg (show ascii '[' ≠ openBrace by decide), if_true, hread]
  rfl

theorem readable_object {levels : ℕ} (members : List (Bytes × Document))
    (h : ∀ m ∈ members, Readable (readValue levels) (m.2, m.2.print)) :
    Readable (readValue (levels + 1)) (.object members, (Document.object members).print) := by
  refine ⟨⟨openBrace, _, rfl, by decide, by decide, by decide⟩, fun rest _ => ?_⟩
  have hread := readBracketed_printed (Or.inr rfl) openBrace
    (members.map fun m => (m, Document.printString m.1 ++ ascii ':' :: m.2.print))
    (List.forall_mem_map.mpr fun m hm => readable_member (h m hm)) rest
  have htexts : (members.map fun m => (m, Document.printString m.1 ++ ascii ':' :: m.2.print)).map
      Prod.snd = Document.printMembers members := by
    rw [List.map_map, Document.printMembers_eq]
    rfl
  have hitems : (members.map fun m => (m, Document.printString m.1 ++ ascii ':' :: m.2.print)).map
      Prod.fst = members := by
    rw [List.map_map]
    exact List.map_id members
  rw [htexts, hitems] at hread
  have hprint : (Document.object members).print ++ rest
      = openBrace :: (Document.printItems (Document.printMembers members) ++ closeBrace :: rest) := by
    simp [Document.print]
  show readValue (levels + 1) ((Document.object members).print ++ rest) = _
  rw [hprint, readValue]
  simp only [if_true, hread]
  rfl

/-- A document needs a level. -/
theorem exists_level {document : Document} {levels : ℕ} (h : document.depth ≤ levels) :
    ∃ inner, levels = inner + 1 := by
  cases levels with
  | zero => cases document <;> simp [Document.depth] at h
  | succ inner => exact ⟨inner, rfl⟩

/-- **What is printed is read back**, wherever a number may end behind it, if the levels suffice. -/
theorem readable_print (document : Document) :
    ∀ levels, document.depth ≤ levels → Readable (readValue levels) (document, document.print) := by
  intro levels hdepth
  induction document using Document.contents_induction generalizing levels with
  | hnull =>
    obtain ⟨inner, rfl⟩ := exists_level hdepth
    exact readable_null
  | hbool value =>
    obtain ⟨inner, rfl⟩ := exists_level hdepth
    exact readable_bool value
  | hnumber value =>
    obtain ⟨inner, rfl⟩ := exists_level hdepth
    exact readable_number value
  | hstring value =>
    obtain ⟨inner, rfl⟩ := exists_level hdepth
    exact readable_string value
  | harray elements ih =>
    obtain ⟨inner, rfl⟩ := exists_level hdepth
    apply readable_array elements
    intro e he
    exact ih e he inner
      (Nat.le_trans (Document.depth_le_depthEach he) (Nat.le_of_succ_le_succ hdepth))
  | hobject members ih =>
    obtain ⟨inner, rfl⟩ := exists_level hdepth
    apply readable_object members
    intro m hm
    exact ih m hm inner
      (Nat.le_trans (Document.depth_le_depthMembers hm) (Nat.le_of_succ_le_succ hdepth))

/-- A whole text is read, and passed over to its end. -/
theorem readDocument_print {document : Document} (h : document.depth ≤ kMaxJsonDepth + 1) :
    readDocument document.print = some document ∧
      skipValue (kMaxJsonDepth + 1) document.print = some [] := by
  have hends : EndsNumber [] := by
    intro b hb
    cases hb
  have hread := (readable_print document _ h).read [] hends
  simp only [List.append_nil] at hread
  refine ⟨?_, skipValue_of_readValue _ _ _ _ hread⟩
  unfold readDocument
  rw [hread]

end JsonReader

end NetworkService.Ipc
