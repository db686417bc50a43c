import NetworkService.Ipc.Codec
import NetworkService.Library.Cutting

/-!
# Frames in a byte stream

`FrameDecoder` keeps what it has not decoded yet and cuts frames off its front.  The frames of a
stream are therefore those of a cutting in the sense of `Cutting`, whatever the pieces in which the
stream arrives, and a frame has one spelling, the one that `encodeFrame` gives it.
-/

namespace NetworkService.Ipc

open Cutting

/-! ### Words -/

/-- Bytes put side by side do not overlap. -/
theorem shift_or_eq_add {x y : Nat} (k : Nat) (hy : y < 2 ^ k) : x * 2 ^ k ||| y = x * 2 ^ k + y := by
  rw [Nat.mul_comm, ← Nat.two_pow_add_eq_or_of_lt hy]

theorem toNat_readBe16 (a b : UInt8) (rest : Bytes) :
    (readBe16 (a :: b :: rest)).toNat = a.toNat * 2 ^ 8 + b.toNat := by
  have ha := a.toNat_lt
  have hb := b.toNat_lt
  have hhigh : (a.toUInt16 <<< 8).toNat = a.toNat * 2 ^ 8 := by
    rw [UInt16.toNat_shiftLeft, UInt8.toNat_toUInt16]
    simp [Nat.shiftLeft_eq]
    omega
  show ((a.toUInt16 <<< 8) ||| b.toUInt16).toNat = _
  rw [UInt16.toNat_or, hhigh, UInt8.toNat_toUInt16, shift_or_eq_add 8 hb]

theorem toNat_readBe32 (a b c d : UInt8) (rest : Bytes) :
    (readBe32 (a :: b :: c :: d :: rest)).toNat =
      ((a.toNat * 2 ^ 8 + b.toNat) * 2 ^ 8 + c.toNat) * 2 ^ 8 + d.toNat := by
  have ha := a.toNat_lt
  have hb := b.toNat_lt
  have hc := c.toNat_lt
  have hd := d.toNat_lt
  have hshift : ∀ (x : UInt8) (k : Nat), k ≤ 24 →
      (x.toUInt32 <<< UInt32.ofNat k).toNat = x.toNat * 2 ^ k := by
    intro x k hk
    have hx := x.toNat_lt
    have hpow : 2 ^ k ≤ 2 ^ 24 := Nat.pow_le_pow_right (by omega) hk
    have hk' : (UInt32.ofNat k).toNat % 32 = k := by
      rw [UInt32.toNat_ofNat']
      omega
    rw [UInt32.toNat_shiftLeft, UInt8.toNat_toUInt32, hk', Nat.shiftLeft_eq, Nat.mod_eq_of_lt]
    calc x.toNat * 2 ^ k ≤ 255 * 2 ^ 24 := Nat.mul_le_mul (by omega) hpow
      _ < 2 ^ 32 := by omega
  have h24 := hshift a 24 (by omega)
  have h16 := hshift b 16 (by omega)
  have h8 := hshift c 8 (by omega)
  show ((a.toUInt32 <<< 24) ||| (b.toUInt32 <<< 16) ||| (c.toUInt32 <<< 8) ||| d.toUInt32).toNat = _
  rw [UInt32.toNat_or, UInt32.toNat_or, UInt32.toNat_or]
  have e24 : (a.toUInt32 <<< 24).toNat = a.toNat * 2 ^ 24 := h24
  have e16 : (b.toUInt32 <<< 16).toNat = b.toNat * 2 ^ 16 := h16
  have e8 : (c.toUInt32 <<< 8).toNat = c.toNat * 2 ^ 8 := h8
  rw [e24, e16, e8, UInt8.toNat_toUInt32, shift_or_eq_add 24 (by omega)]
  rw [show a.toNat * 2 ^ 24 + b.toNat * 2 ^ 16 = (a.toNat * 2 ^ 8 + b.toNat) * 2 ^ 16 by omega]
  rw [shift_or_eq_add 16 (by omega)]
  rw [show (a.toNat * 2 ^ 8 + b.toNat) * 2 ^ 16 + c.toNat * 2 ^ 8 =
    ((a.toNat * 2 ^ 8 + b.toNat) * 2 ^ 8 + c.toNat) * 2 ^ 8 by omega]
  rw [shift_or_eq_add 8 hd]

/-- The bytes of a word, high byte first. -/
theorem writeBe32_eq (value : UInt32) :
    writeBe32 value = [UInt8.ofNat (value.toNat / 2 ^ 24), UInt8.ofNat (value.toNat / 2 ^ 16),
      UInt8.ofNat (value.toNat / 2 ^ 8), UInt8.ofNat value.toNat] := by
  have hbyte : ∀ k, k < 32 → ((value >>> UInt32.ofNat k) &&& 0xff).toUInt8 =
      UInt8.ofNat (value.toNat / 2 ^ k) := by
    intro k hk
    have hk' : (UInt32.ofNat k).toNat % 32 = k := by
      rw [UInt32.toNat_ofNat']
      omega
    apply UInt8.toNat_inj.mp
    rw [UInt32.toNat_toUInt8, UInt32.toNat_and, UInt32.toNat_shiftRight, hk',
      Nat.shiftRight_eq_div_pow, UInt8.toNat_ofNat']
    show (_ &&& (2 ^ 8 - 1)) % 2 ^ 8 = _
    rw [Nat.and_two_pow_sub_one_eq_mod, Nat.mod_mod]
  have hlow : (value &&& 0xff).toUInt8 = UInt8.ofNat value.toNat := by
    apply UInt8.toNat_inj.mp
    rw [UInt32.toNat_toUInt8, UInt32.toNat_and, UInt8.toNat_ofNat']
    show (_ &&& (2 ^ 8 - 1)) % 2 ^ 8 = _
    rw [Nat.and_two_pow_sub_one_eq_mod, Nat.mod_mod]
  unfold writeBe32
  rw [show ((value >>> 24) &&& 0xff).toUInt8 = _ from hbyte 24 (by omega),
    show ((value >>> 16) &&& 0xff).toUInt8 = _ from hbyte 16 (by omega),
    show ((value >>> 8) &&& 0xff).toUInt8 = _ from hbyte 8 (by omega), hlow]

theorem writeBe32_readBe32 (a b c d : UInt8) (rest : Bytes) :
    writeBe32 (readBe32 (a :: b :: c :: d :: rest)) = [a, b, c, d] := by
  have ha := a.toNat_lt
  have hb := b.toNat_lt
  have hc := c.toNat_lt
  have hd := d.toNat_lt
  rw [writeBe32_eq, toNat_readBe32]
  simp only [List.cons.injEq, and_true]
  refine ⟨?_, ?_, ?_, ?_⟩
  all_goals
    apply UInt8.toNat_inj.mp
    rw [UInt8.toNat_ofNat']
    omega

theorem readBe32_writeBe32 (value : UInt32) (rest : Bytes) :
    readBe32 (writeBe32 value ++ rest) = value := by
  have hvalue := value.toNat_lt
  apply UInt32.toNat_inj.mp
  rw [writeBe32_eq]
  show (readBe32 (_ :: _ :: _ :: _ :: rest)).toNat = _
  rw [toNat_readBe32]
  simp only [UInt8.toNat_ofNat']
  omega

/-! ### Headers -/

/-- The length that a header declares. -/
def declaredLength (header : Bytes) : Nat :=
  (((header.getD 8 0).toNat * 2 ^ 8 + (header.getD 9 0).toNat) * 2 ^ 8 +
    (header.getD 10 0).toNat) * 2 ^ 8 + (header.getD 11 0).toNat

/-- What is wrong with a header of twelve bytes: the first of the five checks that it fails. -/
def headerFault (header : Bytes) : Option CodecError :=
  if header.take 4 ≠ kMagic then some .invalidMagic
  else if header.getD 4 0 ≠ 1 then some .unsupportedVersion
  else if header.getD 5 0 < 1 ∨ 6 < header.getD 5 0 then some .invalidMessageType
  else if header.getD 6 0 ≠ 0 ∨ header.getD 7 0 ≠ 0 then some .nonZeroFlags
  else if kMaxPayloadBytes < declaredLength header then some .payloadTooLarge
  else none

/-- The header that a frame of this type and payload length has. -/
def headerOf (type : MessageType) (length : Nat) : FrameHeader :=
  ⟨kProtocolVersion, type, 0, length.toUInt32⟩

theorem exists_header {s : Bytes} (h : kHeaderSize ≤ s.length) :
    ∃ b₀ b₁ b₂ b₃ b₄ b₅ b₆ b₇ b₈ b₉ b₁₀ b₁₁ rest,
      s = b₀ :: b₁ :: b₂ :: b₃ :: b₄ :: b₅ :: b₆ :: b₇ :: b₈ :: b₉ :: b₁₀ :: b₁₁ :: rest := by
  match s, h with
  | b₀ :: b₁ :: b₂ :: b₃ :: b₄ :: b₅ :: b₆ :: b₇ :: b₈ :: b₉ :: b₁₀ :: b₁₁ :: rest, _ =>
    exact ⟨b₀, b₁, b₂, b₃, b₄, b₅, b₆, b₇, b₈, b₉, b₁₀, b₁₁, rest, rfl⟩

theorem readBe16_eq_zero_iff (a b : UInt8) (rest : Bytes) :
    readBe16 (a :: b :: rest) = 0 ↔ a = 0 ∧ b = 0 := by
  have hread := toNat_readBe16 a b rest
  rw [← UInt16.toNat_inj, ← UInt8.toNat_inj, ← UInt8.toNat_inj, hread]
  simp only [UInt16.toNat_zero, UInt8.toNat_zero]
  omega

theorem isValidMessageType_iff (value : UInt8) :
    isValidMessageType value = true ↔ ¬(value < 1 ∨ 6 < value) := by
  unfold isValidMessageType
  simp only [MessageType.toByte, Bool.and_eq_true, decide_eq_true_eq, UInt8.le_iff_toNat_le,
    UInt8.lt_iff_toNat_lt]
  omega

/-- The checks of `decode_header` are those of `headerFault`. -/
theorem decodeHeader_eq {s : Bytes} (h : kHeaderSize ≤ s.length) :
    decodeHeader s =
      match headerFault s with
      | some fault => .error fault
      | none => .ok (headerOf (.ofByte (s.getD 5 0)) (declaredLength s)) := by
  obtain ⟨b₀, b₁, b₂, b₃, b₄, b₅, b₆, b₇, b₈, b₉, b₁₀, b₁₁, rest, rfl⟩ := exists_header h
  have hvalid : (!isValidMessageType b₅) = true ↔ b₅ < 1 ∨ 6 < b₅ := by
    rw [Bool.not_eq_true', ← Bool.not_eq_true, isValidMessageType_iff, Decidable.not_not]
  have hflags : ∀ rest, readBe16 (b₆ :: b₇ :: rest) ≠ 0 ↔ b₆ ≠ 0 ∨ b₇ ≠ 0 := by
    intro rest
    rw [ne_eq, readBe16_eq_zero_iff, Decidable.not_and_iff_or_not]
  unfold decodeHeader headerFault declaredLength
  rw [if_neg (Nat.not_lt.mpr h)]
  simp only [List.getD_cons_zero, List.getD_cons_succ, List.drop_succ_cons, List.drop_zero, hvalid,
    hflags, toNat_readBe32, kProtocolVersion]
  by_cases hmagic : List.take 4 (b₀ :: b₁ :: b₂ :: b₃ :: b₄ :: b₅ :: b₆ :: b₇ :: b₈ :: b₉ :: b₁₀ ::
      b₁₁ :: rest) ≠ kMagic
  · simp only [if_pos hmagic]
  by_cases hversion : b₄ ≠ 1
  · simp only [if_neg hmagic, if_pos hversion]
  by_cases htype : b₅ < 1 ∨ 6 < b₅
  · simp only [if_neg hmagic, if_neg hversion, if_pos htype]
  by_cases hzero : b₆ ≠ 0 ∨ b₇ ≠ 0
  · simp only [if_neg hmagic, if_neg hversion, if_neg htype, if_pos hzero]
  simp only [if_neg hmagic, if_neg hversion, if_neg htype, if_neg hzero]
  by_cases hlength : kMaxPayloadBytes <
      ((b₈.toNat * 2 ^ 8 + b₉.toNat) * 2 ^ 8 + b₁₀.toNat) * 2 ^ 8 + b₁₁.toNat
  · simp only [if_pos hlength]
  · have hread : readBe16 (b₆ :: b₇ :: b₈ :: b₉ :: b₁₀ :: b₁₁ :: rest) = 0 :=
      Decidable.not_not.mp fun hne => hzero ((hflags _).mp hne)
    simp only [if_neg hlength, headerOf, kProtocolVersion, hread, Decidable.not_not.mp hversion]
    rw [← toNat_readBe32 b₈ b₉ b₁₀ b₁₁ rest]
    simp only [Nat.toUInt32, UInt32.ofNat_toNat]

theorem decodeHeader_short {s : Bytes} (h : s.length < kHeaderSize) :
    decodeHeader s = .error .none := if_pos h

theorem headerFault_ne_none {s : Bytes} : headerFault s ≠ some .none := by
  unfold headerFault
  repeat' split
  all_goals simp

/-! ### The cutter -/

/-- One turn of `parse_available` as a look at the front of the buffer. -/
def cutFrame (buffer : Bytes) : Cut Frame UInt8 CodecError :=
  match decodeHeader buffer with
  | .error .none => .more
  | .error fault => .bad fault
  | .ok header =>
    if buffer.length < kHeaderSize + header.payloadLength.toNat then .more
    else
      .item ⟨header, (buffer.drop kHeaderSize).take header.payloadLength.toNat⟩
        (buffer.drop (kHeaderSize + header.payloadLength.toNat))

theorem declaredLength_lt (s : Bytes) : declaredLength s < 2 ^ 32 := by
  have h₈ := (s.getD 8 0).toNat_lt
  have h₉ := (s.getD 9 0).toNat_lt
  have h₁₀ := (s.getD 10 0).toNat_lt
  have h₁₁ := (s.getD 11 0).toNat_lt
  unfold declaredLength
  omega

theorem toNat_toUInt32 {n : Nat} (h : n < 2 ^ 32) : n.toUInt32.toNat = n := by
  show (UInt32.ofNat n).toNat = n
  rw [UInt32.toNat_ofNat']
  omega

/-- The frame at the front of a buffer that holds all of it. -/
def frontFrame (buffer : Bytes) : Frame :=
  ⟨headerOf (.ofByte (buffer.getD 5 0)) (declaredLength buffer),
    (buffer.drop kHeaderSize).take (declaredLength buffer)⟩

theorem cutFrame_short {s : Bytes} (h : s.length < kHeaderSize) : cutFrame s = .more := by
  unfold cutFrame
  rw [decodeHeader_short h]

theorem cutFrame_bad {s : Bytes} {fault : CodecError} (h : kHeaderSize ≤ s.length)
    (hfault : headerFault s = some fault) : cutFrame s = .bad fault := by
  unfold cutFrame
  rw [decodeHeader_eq h, hfault]
  cases fault with
  | none => exact absurd hfault headerFault_ne_none
  | _ => rfl

theorem cutFrame_valid {s : Bytes} (h : kHeaderSize ≤ s.length) (hvalid : headerFault s = none) :
    cutFrame s =
      if s.length < kHeaderSize + declaredLength s then .more
      else .item (frontFrame s) (s.drop (kHeaderSize + declaredLength s)) := by
  unfold cutFrame
  rw [decodeHeader_eq h, hvalid]
  simp only [headerOf, toNat_toUInt32 (declaredLength_lt s)]
  rfl

/-- What is found at the front of a buffer depends on its header and its length. -/
theorem cutFrame_cases (s : Bytes) :
    (s.length < kHeaderSize ∧ cutFrame s = .more) ∨
    (∃ fault, kHeaderSize ≤ s.length ∧ headerFault s = some fault ∧ cutFrame s = .bad fault) ∨
    (kHeaderSize ≤ s.length ∧ headerFault s = none ∧
      s.length < kHeaderSize + declaredLength s ∧ cutFrame s = .more) ∨
    (kHeaderSize ≤ s.length ∧ headerFault s = none ∧ kHeaderSize + declaredLength s ≤ s.length ∧
      cutFrame s = .item (frontFrame s) (s.drop (kHeaderSize + declaredLength s))) := by
  by_cases hshort : s.length < kHeaderSize
  · exact .inl ⟨hshort, cutFrame_short hshort⟩
  have hlong : kHeaderSize ≤ s.length := Nat.not_lt.mp hshort
  cases hfault : headerFault s with
  | some fault => exact .inr (.inl ⟨fault, hlong, rfl, cutFrame_bad hlong hfault⟩)
  | none =>
    have hcut := cutFrame_valid hlong hfault
    by_cases hpart : s.length < kHeaderSize + declaredLength s
    · rw [if_pos hpart] at hcut
      exact .inr (.inr (.inl ⟨hlong, rfl, hpart, hcut⟩))
    · rw [if_neg hpart] at hcut
      exact .inr (.inr (.inr ⟨hlong, rfl, Nat.not_lt.mp hpart, hcut⟩))

/-- Bytes behind the header change neither its checks nor its length. -/
theorem header_append {s : Bytes} (t : Bytes) (h : kHeaderSize ≤ s.length) :
    headerFault (s ++ t) = headerFault s ∧ declaredLength (s ++ t) = declaredLength s ∧
      (s ++ t).getD 5 0 = s.getD 5 0 := by
  obtain ⟨b₀, b₁, b₂, b₃, b₄, b₅, b₆, b₇, b₈, b₉, b₁₀, b₁₁, rest, rfl⟩ := exists_header h
  exact ⟨rfl, rfl, rfl⟩

theorem cutFrame_item_append {s : Bytes} {frame : Frame} {rest : Bytes} (t : Bytes)
    (h : cutFrame s = .item frame rest) : cutFrame (s ++ t) = .item frame (rest ++ t) := by
  rcases cutFrame_cases s with
    ⟨_, hcut⟩ | ⟨_, _, _, hcut⟩ | ⟨_, _, _, hcut⟩ | ⟨hlong, hvalid, hall, hcut⟩
  · cases hcut.symm.trans h
  · cases hcut.symm.trans h
  · cases hcut.symm.trans h
  · cases hcut.symm.trans h
    obtain ⟨hfault, hlength, htype⟩ := header_append t hlong
    have hlong' : kHeaderSize ≤ (s ++ t).length := by
      rw [List.length_append]
      omega
    have hpart : ¬(s ++ t).length < kHeaderSize + declaredLength (s ++ t) := by
      rw [hlength, List.length_append]
      omega
    rw [cutFrame_valid hlong' (hfault.trans hvalid), if_neg hpart, hlength]
    unfold frontFrame
    rw [hlength, htype, List.drop_append_of_le_length hlong, List.drop_append_of_le_length hall,
      List.take_append_of_le_length]
    rw [List.length_drop]
    omega

theorem cutFrame_bad_append {s : Bytes} {fault : CodecError} (t : Bytes)
    (h : cutFrame s = .bad fault) : cutFrame (s ++ t) = .bad fault := by
  rcases cutFrame_cases s with
    ⟨_, hcut⟩ | ⟨found, hlong, hfault, hcut⟩ | ⟨_, _, _, hcut⟩ | ⟨_, _, _, hcut⟩
  · cases hcut.symm.trans h
  · cases hcut.symm.trans h
    have hlong' : kHeaderSize ≤ (s ++ t).length := by
      rw [List.length_append]
      omega
    exact cutFrame_bad hlong' ((header_append t hlong).1.trans hfault)
  · cases hcut.symm.trans h
  · cases hcut.symm.trans h

theorem cutFrame_shorter {s : Bytes} {frame : Frame} {rest : Bytes}
    (h : cutFrame s = .item frame rest) : rest.length < s.length := by
  rcases cutFrame_cases s with
    ⟨_, hcut⟩ | ⟨_, _, _, hcut⟩ | ⟨_, _, _, hcut⟩ | ⟨hlong, _, _, hcut⟩
  · cases hcut.symm.trans h
  · cases hcut.symm.trans h
  · cases hcut.symm.trans h
  · cases hcut.symm.trans h
    rw [List.length_drop]
    unfold kHeaderSize at *
    omega

/-- The decoder's view of a stream. -/
def frameCutter : Cutter Frame UInt8 CodecError where
  cut := cutFrame
  shorter := cutFrame_shorter
  item_append := cutFrame_item_append
  bad_append := cutFrame_bad_append

/-! ### The spelling of a frame -/

/-- A frame as it comes out of the decoder. -/
def Frame.Valid (frame : Frame) : Prop :=
  frame.header = headerOf frame.header.type frame.payload.length ∧
    frame.payload.length ≤ kMaxPayloadBytes

/-- The bytes of a frame on the wire. -/
def Frame.encoded (frame : Frame) : Bytes := encodeJson frame.header.type frame.payload

theorem MessageType.isValid_toByte (type : MessageType) : isValidMessageType type.toByte = true := by
  cases type <;> decide

theorem MessageType.ofByte_toByte (type : MessageType) : ofByte type.toByte = type := by
  cases type <;> decide

theorem encodeJson_eq (type : MessageType) {payload : Bytes}
    (h : payload.length ≤ kMaxPayloadBytes) :
    encodeJson type payload = kMagic ++ [kProtocolVersion, type.toByte] ++ writeBe16 0 ++
      writeBe32 payload.length.toUInt32 ++ payload := by
  unfold encodeJson encodeFrame
  rw [MessageType.isValid_toByte, if_neg (by decide), if_neg (Nat.not_lt.mpr h)]

/-- The four bytes of a length, read back. -/
theorem declaredLength_writeBe32 {n : Nat} (h : n < 2 ^ 32) (b₀ b₁ b₂ b₃ b₄ b₅ b₆ b₇ : UInt8)
    (rest : Bytes) :
    declaredLength (b₀ :: b₁ :: b₂ :: b₃ :: b₄ :: b₅ :: b₆ :: b₇ :: (writeBe32 n.toUInt32 ++ rest)) =
      n := by
  have hread := congrArg UInt32.toNat (readBe32_writeBe32 n.toUInt32 rest)
  rw [toNat_toUInt32 h, writeBe32_eq] at hread
  rw [writeBe32_eq]
  simp only [List.cons_append, List.nil_append, toNat_readBe32] at hread ⊢
  exact hread

theorem headerFault_eq_none_iff (s : Bytes) :
    headerFault s = none ↔
      s.take 4 = kMagic ∧ s.getD 4 0 = 1 ∧ isValidMessageType (s.getD 5 0) = true ∧
        (s.getD 6 0 = 0 ∧ s.getD 7 0 = 0) ∧ declaredLength s ≤ kMaxPayloadBytes := by
  have hvalid := isValidMessageType_iff (s.getD 5 0)
  unfold headerFault
  constructor
  · intro h
    split at h
    · cases h
    split at h
    · cases h
    split at h
    · cases h
    split at h
    · cases h
    split at h
    · cases h
    next hmagic hversion htype hzero hlength =>
      refine ⟨Decidable.not_not.mp hmagic, Decidable.not_not.mp hversion, hvalid.mpr htype, ?_,
        Nat.not_lt.mp hlength⟩
      rw [not_or] at hzero
      exact ⟨Decidable.not_not.mp hzero.1, Decidable.not_not.mp hzero.2⟩
  · rintro ⟨hmagic, hversion, htype, ⟨h₆, h₇⟩, hlength⟩
    rw [if_neg (not_not_intro hmagic), if_neg (not_not_intro hversion), if_neg (hvalid.mp htype),
      if_neg (by rw [not_or]; exact ⟨not_not_intro h₆, not_not_intro h₇⟩),
      if_neg (Nat.not_lt.mpr hlength)]

theorem MessageType.toByte_ofByte {value : UInt8} (h : isValidMessageType value = true) :
    (MessageType.ofByte value).toByte = value := by
  rw [isValidMessageType_iff, not_or, UInt8.lt_iff_toNat_lt, UInt8.lt_iff_toNat_lt] at h
  have hcases : value.toNat = 1 ∨ value.toNat = 2 ∨ value.toNat = 3 ∨ value.toNat = 4 ∨
      value.toNat = 5 ∨ value.toNat = 6 := by
    simp only [UInt8.toNat_ofNat] at h
    omega
  have hbyte : ∀ n : Nat, n < 256 → value.toNat = n → value = UInt8.ofNat n := by
    intro n hn hv
    apply UInt8.toNat_inj.mp
    rw [UInt8.toNat_ofNat', hv]
    omega
  rcases hcases with hv | hv | hv | hv | hv | hv
  all_goals
    rw [hbyte _ (by decide) hv]
    decide

/-- A valid header is the one that `encode_frame` writes. -/
theorem spelled_front {s : Bytes} (hlong : kHeaderSize ≤ s.length) (hvalid : headerFault s = none) :
    s = kMagic ++ [kProtocolVersion, (frontFrame s).header.type.toByte] ++ writeBe16 0 ++
      writeBe32 (declaredLength s).toUInt32 ++ (frontFrame s).payload ++
      s.drop (kHeaderSize + declaredLength s) := by
  obtain ⟨hmagic, hversion, htype, ⟨h₆, h₇⟩, -⟩ := (headerFault_eq_none_iff s).mp hvalid
  have hbyte : (frontFrame s).header.type.toByte = s.getD 5 0 := MessageType.toByte_ofByte htype
  have hsplit : (frontFrame s).payload ++ s.drop (kHeaderSize + declaredLength s) =
      s.drop kHeaderSize := by
    rw [← List.drop_drop]
    exact List.take_append_drop _ _
  rw [List.append_assoc _ (frontFrame s).payload, hsplit, hbyte, ← hmagic]
  obtain ⟨b₀, b₁, b₂, b₃, b₄, b₅, b₆, b₇, b₈, b₉, b₁₀, b₁₁, rest, rfl⟩ := exists_header hlong
  have hread : (declaredLength (b₀ :: b₁ :: b₂ :: b₃ :: b₄ :: b₅ :: b₆ :: b₇ :: b₈ :: b₉ :: b₁₀ ::
      b₁₁ :: rest)).toUInt32 = readBe32 (b₈ :: b₉ :: b₁₀ :: b₁₁ :: rest) := by
    apply UInt32.toNat_inj.mp
    rw [toNat_toUInt32 (declaredLength_lt _), toNat_readBe32]
    rfl
  rw [hread, writeBe32_readBe32]
  simp only [List.getD_cons_zero, List.getD_cons_succ] at hversion h₆ h₇
  subst hversion h₆ h₇
  rfl

theorem encodeJson_append (type : MessageType) {payload : Bytes}
    (h : payload.length ≤ kMaxPayloadBytes) (rest : Bytes) :
    encodeJson type payload ++ rest = 78 :: 83 :: 80 :: 49 :: 1 :: type.toByte :: 0 :: 0 ::
      (writeBe32 payload.length.toUInt32 ++ (payload ++ rest)) := by
  rw [encodeJson_eq type h]
  simp only [List.append_assoc]
  rfl

theorem length_spelled (b₀ b₁ b₂ b₃ b₄ b₅ b₆ b₇ : UInt8) (value : UInt32) (rest : Bytes) :
    (b₀ :: b₁ :: b₂ :: b₃ :: b₄ :: b₅ :: b₆ :: b₇ :: (writeBe32 value ++ rest)).length =
      kHeaderSize + rest.length := by
  simp only [writeBe32, List.length_cons, List.length_append, List.length_nil, kHeaderSize]
  omega

theorem drop_spelled (b₀ b₁ b₂ b₃ b₄ b₅ b₆ b₇ : UInt8) (value : UInt32) (rest : Bytes) :
    (b₀ :: b₁ :: b₂ :: b₃ :: b₄ :: b₅ :: b₆ :: b₇ :: (writeBe32 value ++ rest)).drop kHeaderSize =
      rest := rfl

/-- A frame of the stream is in the spelling of `encode_frame`, and every spelling is found. -/
theorem frameSpelling : Spelling frameCutter Frame.Valid Frame.encoded where
  found := by
    intro s frame rest h
    change cutFrame s = _ at h
    rcases cutFrame_cases s with
      ⟨_, hcut⟩ | ⟨_, _, _, hcut⟩ | ⟨_, _, _, hcut⟩ | ⟨hlong, hvalid, hall, hcut⟩
    · cases hcut.symm.trans h
    · cases hcut.symm.trans h
    · cases hcut.symm.trans h
    · cases hcut.symm.trans h
      obtain ⟨hmagic, hversion, htype, ⟨h₆, h₇⟩, hlength⟩ := (headerFault_eq_none_iff s).mp hvalid
      have hpayload : (frontFrame s).payload.length = declaredLength s := by
        show ((s.drop kHeaderSize).take (declaredLength s)).length = _
        rw [List.length_take, List.length_drop]
        omega
      refine ⟨⟨?_, hpayload ▸ hlength⟩, ?_⟩
      · rw [hpayload]
        rfl
      · unfold Frame.encoded
        rw [encodeJson_eq _ (hpayload ▸ hlength), hpayload]
        exact spelled_front hlong hvalid
  finds := by
    intro frame hvalid rest
    obtain ⟨hheader, hlength⟩ := hvalid
    have hlt : frame.payload.length < 2 ^ 32 := by
      unfold kMaxPayloadBytes at hlength
      omega
    change cutFrame (encodeJson frame.header.type frame.payload ++ rest) = _
    rw [encodeJson_append _ hlength]
    have hdeclared := declaredLength_writeBe32 hlt 78 83 80 49 1 frame.header.type.toByte 0 0
      (frame.payload ++ rest)
    have htotal := length_spelled 78 83 80 49 1 frame.header.type.toByte 0 0
      frame.payload.length.toUInt32 (frame.payload ++ rest)
    have hdrop := drop_spelled 78 83 80 49 1 frame.header.type.toByte 0 0
      frame.payload.length.toUInt32 (frame.payload ++ rest)
    generalize hs : 78 :: 83 :: 80 :: 49 :: 1 :: frame.header.type.toByte :: 0 :: 0 ::
      (writeBe32 frame.payload.length.toUInt32 ++ (frame.payload ++ rest)) = s at *
    rw [List.length_append] at htotal
    have hfault : headerFault s = none := by
      rw [headerFault_eq_none_iff, hdeclared]
      subst hs
      exact ⟨rfl, rfl, MessageType.isValid_toByte _, ⟨rfl, rfl⟩, hlength⟩
    have htype : MessageType.ofByte (s.getD 5 0) = frame.header.type := by
      subst hs
      exact MessageType.ofByte_toByte _
    rw [cutFrame_valid (by omega) hfault, hdeclared, if_neg (by omega), ← List.drop_drop, hdrop,
      List.drop_left]
    unfold frontFrame
    rw [hdeclared, htype, ← hheader, hdrop, List.take_left]

end NetworkService.Ipc
