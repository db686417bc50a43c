import NetworkService.Ipc.RequestText
import NetworkService.Library.Json

/-!
# Decimal numbers

What `parse_uint64` reads is the number that the digits denote, if it fits, and what `decimal` prints
are the digits of its number.
-/

namespace NetworkService.Ipc

open Json

/-- The number that digits denote, read behind the number `n`. -/
def digitsFrom (n : ℕ) (digits : Bytes) : ℕ :=
  digits.foldl (fun n b => 10 * n + (b.toNat - 48)) n

/-- The number that digits denote. -/
def natOfDigits (digits : Bytes) : ℕ := digitsFrom 0 digits

theorem digitsFrom_cons (n : ℕ) (b : UInt8) (digits : Bytes) :
    digitsFrom n (b :: digits) = digitsFrom (10 * n + (b.toNat - 48)) digits := by
  unfold digitsFrom
  rw [List.foldl_cons]

theorem le_digitsFrom (n : ℕ) (digits : Bytes) : n ≤ digitsFrom n digits := by
  induction digits generalizing n with
  | nil => exact Nat.le_refl n
  | cons b digits ih =>
    rw [digitsFrom_cons]
    exact Nat.le_trans (by omega) (ih _)

theorem digit_toNat {b : UInt8} (h : digit b = true) : 48 ≤ b.toNat ∧ b.toNat ≤ 57 := by
  unfold digit at h
  simp only [Bool.and_eq_true, decide_eq_true_eq, UInt8.le_iff_toNat_le] at h
  exact h

/-! ### Reading -/

theorem toNat_digitValue {b : UInt8} (h : digit b = true) :
    ((b - ascii '0').toUInt64).toNat = b.toNat - 48 := by
  have hb := digit_toNat h
  have hle : ascii '0' ≤ b := by
    rw [UInt8.le_iff_toNat_le]
    exact hb.1
  rw [UInt8.toNat_toUInt64, UInt8.toNat_sub_of_le _ _ hle]
  rfl

/-- The check of the source is the one for an overflow. -/
theorem overflow_iff {result digit : UInt64} (hdigit : digit.toNat ≤ 9) :
    (uint64Max - digit) / 10 < result ↔ 2 ^ 64 ≤ 10 * result.toNat + digit.toNat := by
  have hmax : uint64Max.toNat = 2 ^ 64 - 1 := rfl
  have hle : digit ≤ uint64Max := by
    rw [UInt64.le_iff_toNat_le, hmax]
    omega
  rw [UInt64.lt_iff_toNat_lt, UInt64.toNat_div, UInt64.toNat_sub_of_le _ _ hle, hmax]
  have hten : (10 : UInt64).toNat = 10 := rfl
  rw [hten]
  omega

theorem parseUint64Digits_eq {digits rest : Bytes} (hdigits : ∀ b ∈ digits, digit b = true)
    (hrest : ∀ b ∈ rest.head?, digit b = false) (result : UInt64) :
    parseUint64Digits result (digits ++ rest) =
      if digitsFrom result.toNat digits < 2 ^ 64 then
        some ((digitsFrom result.toNat digits).toUInt64, rest)
      else none := by
  induction digits generalizing result with
  | nil =>
    have hlt := result.toNat_lt
    rw [List.nil_append, show digitsFrom result.toNat [] = result.toNat from rfl, if_pos hlt]
    have hself : result.toNat.toUInt64 = result := UInt64.ofNat_toNat
    rw [hself]
    cases rest with
    | nil => rfl
    | cons b rest =>
      have hb : isDigit b = false := hrest b rfl
      rw [parseUint64Digits, hb]
      rfl
  | cons b digits ih =>
    obtain ⟨hb, hdigits⟩ := List.forall_mem_cons.mp hdigits
    have hdigit : isDigit b = true := hb
    have hvalue := toNat_digitValue hb
    have hrange := digit_toNat hb
    rw [List.cons_append, parseUint64Digits, if_pos hdigit, digitsFrom_cons]
    simp only [overflow_iff (show ((b - ascii '0').toUInt64).toNat ≤ 9 by omega), hvalue]
    by_cases hover : 2 ^ 64 ≤ 10 * result.toNat + (b.toNat - 48)
    · have hgrows := le_digitsFrom (10 * result.toNat + (b.toNat - 48)) digits
      rw [if_pos hover, if_neg (by omega)]
    · have hnext : (result * 10 + (b - ascii '0').toUInt64).toNat =
          10 * result.toNat + (b.toNat - 48) := by
        rw [UInt64.toNat_add, UInt64.toNat_mul, hvalue]
        have hten : (10 : UInt64).toNat = 10 := rfl
        rw [hten]
        omega
      rw [if_neg hover, ih hdigits, hnext]

/-- A text begins with a maximal run of digits. -/
theorem exists_digits (s : Bytes) :
    ∃ digits rest, s = digits ++ rest ∧ (∀ b ∈ digits, digit b = true) ∧
      ∀ b ∈ rest.head?, digit b = false := by
  induction s with
  | nil => exact ⟨[], [], rfl, by simp, by simp⟩
  | cons b s ih =>
    cases hb : digit b with
    | true =>
      obtain ⟨digits, rest, rfl, hdigits, hrest⟩ := ih
      exact ⟨b :: digits, rest, rfl, List.forall_mem_cons.mpr ⟨hb, hdigits⟩, hrest⟩
    | false =>
      refine ⟨[], b :: s, rfl, by simp, ?_⟩
      rintro c ⟨⟩
      exact hb

theorem parseUint64_digits {digits rest : Bytes} (hne : digits ≠ [])
    (hdigits : ∀ b ∈ digits, digit b = true) (hrest : ∀ b ∈ rest.head?, digit b = false) :
    parseUint64 (digits ++ rest) =
      if natOfDigits digits < 2 ^ 64 then some ((natOfDigits digits).toUInt64, rest) else none := by
  cases digits with
  | nil => exact absurd rfl hne
  | cons b digits =>
    have hb : isDigit b = true := hdigits b List.mem_cons_self
    have hparse := parseUint64Digits_eq hdigits hrest 0
    rw [List.cons_append, parseUint64, if_pos hb]
    exact hparse

theorem parseUint64_none {rest : Bytes} (hrest : ∀ b ∈ rest.head?, digit b = false) :
    parseUint64 rest = none := by
  cases rest with
  | nil => rfl
  | cons b rest =>
    have hb : isDigit b = false := hrest b rfl
    rw [parseUint64, hb]
    rfl

/-- What is read is a run of digits and the number that it denotes. -/
theorem parseUint64_eq_some {s rest : Bytes} {value : UInt64} (h : parseUint64 s = some (value, rest)) :
    ∃ digits, s = digits ++ rest ∧ digits ≠ [] ∧ (∀ b ∈ digits, digit b = true) ∧
      (∀ b ∈ rest.head?, digit b = false) ∧ natOfDigits digits = value.toNat := by
  obtain ⟨digits, tail, rfl, hdigits, htail⟩ := exists_digits s
  have hne : digits ≠ [] := by
    rintro rfl
    rw [List.nil_append, parseUint64_none htail] at h
    cases h
  rw [parseUint64_digits hne hdigits htail] at h
  by_cases hfits : natOfDigits digits < 2 ^ 64
  · rw [if_pos hfits] at h
    cases h
    refine ⟨digits, rfl, hne, hdigits, htail, ?_⟩
    show natOfDigits digits = (UInt64.ofNat _).toNat
    rw [UInt64.toNat_ofNat']
    exact (Nat.mod_eq_of_lt hfits).symm
  · rw [if_neg hfits] at h
    cases h

/-- The maximal run of digits at a position of a text. -/
def digitRun (text : Bytes) (pos : ℕ) : Bytes := (text.drop pos).takeWhile isDigit

theorem takeWhile_digits {digits rest : Bytes} (hdigits : ∀ b ∈ digits, digit b = true)
    (hrest : ∀ b ∈ rest.head?, digit b = false) : (digits ++ rest).takeWhile isDigit = digits := by
  have hdigits' : ∀ b ∈ digits, isDigit b = true := hdigits
  rw [List.takeWhile_append_of_pos hdigits']
  cases rest with
  | nil => exact List.append_nil digits
  | cons b rest =>
    have hb : isDigit b = false := hrest b rfl
    rw [List.takeWhile_cons, hb]
    exact List.append_nil digits

theorem drop_digitRun (text : Bytes) (pos : ℕ) :
    text.drop pos = digitRun text pos ++ text.drop (pos + (digitRun text pos).length) ∧
      (∀ b ∈ digitRun text pos, digit b = true) ∧
      ∀ b ∈ (text.drop (pos + (digitRun text pos).length)).head?, digit b = false := by
  have hcut := List.takeWhile_append_dropWhile (p := isDigit) (l := text.drop pos)
  have hrest : text.drop (pos + (digitRun text pos).length) = (text.drop pos).dropWhile isDigit := by
    rw [← List.drop_drop]
    conv => lhs; rw [← hcut]
    exact List.drop_left
  rw [hrest]
  have hall := List.all_takeWhile (p := isDigit) (l := text.drop pos)
  refine ⟨hcut.symm, List.all_eq_true.mp hall, fun b hb => ?_⟩
  have hhead := List.head?_dropWhile_not isDigit (text.drop pos)
  rw [Option.mem_def.mp hb] at hhead
  have hb' : isDigit b = false := by simpa using hhead
  exact hb'

/-! ### Printing -/

theorem decimal_eq (value : UInt64) : decimal value = (Nat.toDigits 10 value.toNat).map ascii := by
  unfold decimal text
  show (value.toNat.repr).toList.map ascii = _
  rw [Nat.toList_repr]

theorem ascii_digitChar {c : Char} (h : c.isDigit = true) :
    digit (ascii c) = true ∧ (ascii c).toNat = c.toNat := by
  rw [Char.isDigit_iff_toNat] at h
  have hnat : (ascii c).toNat = c.toNat := by
    show (UInt8.ofNat c.toNat).toNat = _
    rw [UInt8.toNat_ofNat']
    simp at h
    omega
  refine ⟨?_, hnat⟩
  unfold digit
  simp only [Bool.and_eq_true, decide_eq_true_eq, UInt8.le_iff_toNat_le, hnat]
  exact h

theorem digitsFrom_map_ascii {chars : List Char} (h : ∀ c ∈ chars, c.isDigit = true) (n : ℕ) :
    digitsFrom n (chars.map ascii) = Nat.ofDigitChars 10 chars n := by
  induction chars generalizing n with
  | nil => rfl
  | cons c chars ih =>
    obtain ⟨hc, hchars⟩ := List.forall_mem_cons.mp h
    rw [List.map_cons, digitsFrom_cons, Nat.ofDigitChars_cons, (ascii_digitChar hc).2]
    exact ih hchars _

theorem decimal_digits (value : UInt64) : ∀ b ∈ decimal value, digit b = true := by
  intro b hb
  rw [decimal_eq] at hb
  obtain ⟨c, hc, rfl⟩ := List.mem_map.mp hb
  exact (ascii_digitChar (Nat.isDigit_of_mem_toDigits (by decide) (by decide) hc)).1

theorem natOfDigits_decimal (value : UInt64) : natOfDigits (decimal value) = value.toNat := by
  have hdigits : ∀ c ∈ Nat.toDigits 10 value.toNat, c.isDigit = true := fun c hc =>
    Nat.isDigit_of_mem_toDigits (by decide) (by decide) hc
  rw [natOfDigits, decimal_eq, digitsFrom_map_ascii hdigits]
  exact Nat.ofDigitChars_ten_toDigits

theorem decimal_ne_nil (value : UInt64) : decimal value ≠ [] := by
  intro hnil
  have hlength := congrArg List.length hnil
  rw [decimal_eq, List.length_map] at hlength
  have hpos : 0 < (Nat.toDigits 10 value.toNat).length := Nat.length_toDigits_pos
  rw [hlength] at hpos
  exact Nat.lt_irrefl _ hpos

/-- What is printed is read back, also in front of something else. -/
theorem parseUint64_decimal (value : UInt64) {rest : Bytes}
    (hrest : ∀ b ∈ rest.head?, digit b = false) :
    parseUint64 (decimal value ++ rest) = some (value, rest) := by
  rw [parseUint64_digits (decimal_ne_nil value) (decimal_digits value) hrest, natOfDigits_decimal,
    if_pos value.toNat_lt]
  exact congrArg (fun read => some (read, rest)) UInt64.ofNat_toNat

/-- **`parse_uint64` never wraps**: it succeeds exactly if there are digits at the position and their
number fits, returns that number and stops behind them; and it reads back what is printed. -/
theorem parseUint64_exact (text : Bytes) (pos : ℕ) :
    ((parseUint64 (text.drop pos)).isSome ↔
        digitRun text pos ≠ [] ∧ natOfDigits (digitRun text pos) ≤ 2 ^ 64 - 1) ∧
      (∀ value rest, parseUint64 (text.drop pos) = some (value, rest) →
        value.toNat = natOfDigits (digitRun text pos) ∧
          rest = text.drop (pos + (digitRun text pos).length)) ∧
      ∀ value rest, (∀ b ∈ rest.head?, isDigit b = false) →
        parseUint64 (decimal value ++ rest) = some (value, rest) := by
  obtain ⟨hcut, hdigits, hrest⟩ := drop_digitRun text pos
  refine ⟨?_, ?_, fun value rest h => parseUint64_decimal value h⟩
  · rw [hcut]
    by_cases hne : digitRun text pos = []
    · rw [hne] at hrest
      rw [hne, List.nil_append, parseUint64_none hrest]
      simp
    · rw [parseUint64_digits hne hdigits hrest]
      by_cases hfits : natOfDigits (digitRun text pos) < 2 ^ 64
      · rw [if_pos hfits]
        exact iff_of_true rfl ⟨hne, by omega⟩
      · rw [if_neg hfits]
        exact iff_of_false (by simp) fun h => hfits (by omega)
  · intro value rest h
    obtain ⟨digits, hdrop, -, hall, hend, hvalue⟩ := parseUint64_eq_some h
    have hrun : digitRun text pos = digits := by
      unfold digitRun
      rw [hdrop]
      exact takeWhile_digits hall hend
    refine ⟨by rw [hrun, hvalue], ?_⟩
    rw [hrun, ← List.drop_drop, hdrop, List.drop_left]

theorem length_decimal_le (value : UInt64) : (decimal value).length ≤ 20 := by
  rw [decimal_eq, List.length_map, Nat.length_toDigits_le_iff (by decide) (by decide)]
  have hlt := value.toNat_lt
  omega

end NetworkService.Ipc
