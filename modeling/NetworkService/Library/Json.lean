import Mathlib.Algebra.Ring.Nat

/-!
# The grammar of JSON texts

The grammar of RFC 8259 over bytes, as a relation between a text and what is left of it behind the
phrase at its front.  The white space is a parameter, and the depth of nesting is part of a
derivation, so that a reader that admits more white space or less depth than the standard is
described by the same relation.
-/

namespace Json

abbrev Text := List UInt8

/-! ### Spans -/

/-- `rest` is left of `s` behind some bytes that all satisfy `p`. -/
def Span (p : UInt8 → Bool) (s rest : Text) : Prop := ∃ w, s = w ++ rest ∧ ∀ b ∈ w, p b = true

namespace Span

variable {p q : UInt8 → Bool} {s t rest : Text}

theorem refl (p : UInt8 → Bool) (s : Text) : Span p s s := ⟨[], rfl, by simp⟩

theorem cons {b : UInt8} (hb : p b = true) (h : Span p s rest) : Span p (b :: s) rest := by
  obtain ⟨w, rfl, hw⟩ := h
  exact ⟨b :: w, rfl, List.forall_mem_cons.mpr ⟨hb, hw⟩⟩

theorem trans (h : Span p s t) (h' : Span p t rest) : Span p s rest := by
  obtain ⟨w, rfl, hw⟩ := h
  obtain ⟨v, rfl, hv⟩ := h'
  refine ⟨w ++ v, (List.append_assoc w v rest).symm, ?_⟩
  intro b hb
  exact (List.mem_append.mp hb).elim (hw b) (hv b)

theorem append (h : Span p s rest) (u : Text) : Span p (s ++ u) (rest ++ u) := by
  obtain ⟨w, rfl, hw⟩ := h
  exact ⟨w, List.append_assoc w rest u, hw⟩

/-- A span keeps to the bytes of its text. -/
theorem mono (h : Span p s rest) (hpq : ∀ b ∈ s, p b = true → q b = true) : Span q s rest := by
  obtain ⟨w, rfl, hw⟩ := h
  exact ⟨w, rfl, fun b hb => hpq b (List.mem_append_left rest hb) (hw b hb)⟩

theorem suffix (h : Span p s rest) : rest <:+ s := by
  obtain ⟨w, rfl, _⟩ := h
  exact List.suffix_append w rest

end Span

/-! ### Strings -/

/-- The value of a hexadecimal digit. -/
def hexValue (b : UInt8) : Option ℕ :=
  if 0x30 ≤ b ∧ b ≤ 0x39 then some (b.toNat - 0x30)
  else if 0x61 ≤ b ∧ b ≤ 0x66 then some (b.toNat - 0x61 + 10)
  else if 0x41 ≤ b ∧ b ≤ 0x46 then some (b.toNat - 0x41 + 10)
  else none

/-- What a two-character escape stands for. -/
def escapeValue (e : UInt8) : Option UInt8 :=
  if e = 0x22 ∨ e = 0x5c ∨ e = 0x2f then some e
  else if e = 0x62 then some 0x08
  else if e = 0x66 then some 0x0c
  else if e = 0x6e then some 0x0a
  else if e = 0x72 then some 0x0d
  else if e = 0x74 then some 0x09
  else none

/-- A piece of a string: a byte that stands for itself, or an escape. -/
inductive Piece
  | byte (b : UInt8)
  | escape (e : UInt8)
  | unicode (h₀ h₁ h₂ h₃ : UInt8)
  deriving DecidableEq

namespace Piece

def spell : Piece → Text
  | byte b => [b]
  | escape e => [0x5c, e]
  | unicode h₀ h₁ h₂ h₃ => [0x5c, 0x75, h₀, h₁, h₂, h₃]

def Valid : Piece → Prop
  | byte b => 0x20 ≤ b ∧ b ≠ 0x22 ∧ b ≠ 0x5c
  | escape e => (escapeValue e).isSome = true
  | unicode h₀ h₁ h₂ h₃ =>
    (hexValue h₀).isSome = true ∧ (hexValue h₁).isSome = true ∧ (hexValue h₂).isSome = true ∧
      (hexValue h₃).isSome = true

/-- The byte or the code unit that a piece stands for. -/
def unit : Piece → ℕ
  | byte b => b.toNat
  | escape e => ((escapeValue e).getD 0).toNat
  | unicode h₀ h₁ h₂ h₃ =>
    (((hexValue h₀).getD 0 * 16 + (hexValue h₁).getD 0) * 16 + (hexValue h₂).getD 0) * 16 +
      (hexValue h₃).getD 0

end Piece

/-- A string of these pieces, followed by `rest`. -/
def quoted (pieces : List Piece) (rest : Text) : Text :=
  0x22 :: (pieces.flatMap Piece.spell ++ 0x22 :: rest)

/-! ### Numbers -/

def digit (b : UInt8) : Bool := 0x30 ≤ b && b ≤ 0x39

/-- One digit or more. -/
inductive Digits : Text → Text → Prop
  | mk {b : UInt8} {s rest : Text} (hb : digit b = true) (h : Span digit s rest) :
      Digits (b :: s) rest

/-- A zero, or digits that do not begin with one. -/
inductive Integer : Text → Text → Prop
  | zero {rest : Text} : Integer (0x30 :: rest) rest
  | digits {b : UInt8} {s rest : Text} (hb : digit b = true) (hne : b ≠ 0x30)
      (h : Span digit s rest) : Integer (b :: s) rest

inductive Sign : Text → Text → Prop
  | none {s : Text} : Sign s s
  | minus {s : Text} : Sign (0x2d :: s) s

inductive Fraction : Text → Text → Prop
  | none {s : Text} : Fraction s s
  | digits {s rest : Text} (h : Digits s rest) : Fraction (0x2e :: s) rest

inductive ExponentSign : Text → Text → Prop
  | none {s : Text} : ExponentSign s s
  | plus {s : Text} : ExponentSign (0x2b :: s) s
  | minus {s : Text} : ExponentSign (0x2d :: s) s

inductive Exponent : Text → Text → Prop
  | none {s : Text} : Exponent s s
  | digits {e : UInt8} {s t rest : Text} (he : e = 0x65 ∨ e = 0x45) (hsign : ExponentSign s t)
      (h : Digits t rest) : Exponent (e :: s) rest

structure Number (s rest : Text) : Prop where
  parts : ∃ t u v, Sign s t ∧ Integer t u ∧ Fraction u v ∧ Exponent v rest

/-- What may follow a number so that it is read to its end. -/
def EndsNumber (rest : Text) : Prop :=
  ∀ b ∈ rest.head?, digit b = false ∧ b ≠ 0x2e ∧ b ≠ 0x65 ∧ b ≠ 0x45

/-! ### Values -/

def literals : List Text :=
  [[0x74, 0x72, 0x75, 0x65], [0x66, 0x61, 0x6c, 0x73, 0x65], [0x6e, 0x75, 0x6c, 0x6c]]

/-- The phrases of the grammar: a value, and the elements or members of a bracket that is open, with
the bracket that closes it. -/
inductive Phrase
  | value
  | elements
  | members
  deriving DecidableEq

/-- The phrase at the front of a text, with at most so many brackets and values inside each other. -/
inductive Derives (sp : UInt8 → Bool) : Phrase → ℕ → Text → Text → Prop
  | string {d : ℕ} {pieces : List Piece} {rest : Text} (h : ∀ piece ∈ pieces, piece.Valid) :
      Derives sp .value (d + 1) (quoted pieces rest) rest
  | number {d : ℕ} {s rest : Text} (h : Number s rest) : Derives sp .value (d + 1) s rest
  | literal {d : ℕ} {l rest : Text} (h : l ∈ literals) : Derives sp .value (d + 1) (l ++ rest) rest
  | emptyArray {d : ℕ} {s rest : Text} (h : Span sp s (0x5d :: rest)) :
      Derives sp .value (d + 1) (0x5b :: s) rest
  | array {d : ℕ} {s t rest : Text} (hgap : Span sp s t) (h : Derives sp .elements d t rest) :
      Derives sp .value (d + 1) (0x5b :: s) rest
  | emptyObject {d : ℕ} {s rest : Text} (h : Span sp s (0x7d :: rest)) :
      Derives sp .value (d + 1) (0x7b :: s) rest
  | object {d : ℕ} {s t rest : Text} (hgap : Span sp s t) (h : Derives sp .members d t rest) :
      Derives sp .value (d + 1) (0x7b :: s) rest
  | lastElement {d : ℕ} {s t rest : Text} (hvalue : Derives sp .value d s t)
      (hclose : Span sp t (0x5d :: rest)) : Derives sp .elements d s rest
  | nextElement {d : ℕ} {s t u v rest : Text} (hvalue : Derives sp .value d s t)
      (hcomma : Span sp t (0x2c :: u)) (hgap : Span sp u v) (h : Derives sp .elements d v rest) :
      Derives sp .elements d s rest
  | lastMember {d : ℕ} {pieces : List Piece} {s t u v rest : Text}
      (hkey : ∀ piece ∈ pieces, piece.Valid) (hcolon : Span sp s (0x3a :: t)) (hgap : Span sp t u)
      (hvalue : Derives sp .value d u v) (hclose : Span sp v (0x7d :: rest)) :
      Derives sp .members d (quoted pieces s) rest
  | nextMember {d : ℕ} {pieces : List Piece} {s t u v w x rest : Text}
      (hkey : ∀ piece ∈ pieces, piece.Valid) (hcolon : Span sp s (0x3a :: t)) (hgap : Span sp t u)
      (hvalue : Derives sp .value d u v) (hcomma : Span sp v (0x2c :: w)) (hgap' : Span sp w x)
      (h : Derives sp .members d x rest) : Derives sp .members d (quoted pieces s) rest

/-- The white space of the standard. -/
def jsonSpace (b : UInt8) : Bool := b == 0x20 || b == 0x09 || b == 0x0a || b == 0x0d

/-! ### Objects by their members -/

/-- A member: the pieces of its key and the text of its value. -/
structure Member where
  key : List Piece
  value : Text

/-- The members of an open brace, with the brace that closes it. -/
inductive MembersOf (sp : UInt8 → Bool) (d : ℕ) : List Member → Text → Text → Prop
  | last {m : Member} {s t v rest : Text} (hkey : ∀ piece ∈ m.key, piece.Valid)
      (hcolon : Span sp s (0x3a :: t)) (hgap : Span sp t (m.value ++ v))
      (hvalue : Derives sp .value d m.value []) (hclose : Span sp v (0x7d :: rest)) :
      MembersOf sp d [m] (quoted m.key s) rest
  | next {m : Member} {members : List Member} {s t v w x rest : Text}
      (hkey : ∀ piece ∈ m.key, piece.Valid) (hcolon : Span sp s (0x3a :: t))
      (hgap : Span sp t (m.value ++ v)) (hvalue : Derives sp .value d m.value [])
      (hcomma : Span sp v (0x2c :: w)) (hgap' : Span sp w x) (h : MembersOf sp d members x rest) :
      MembersOf sp d (m :: members) (quoted m.key s) rest

/-- A text that is one object with these members and white space around it. -/
inductive ObjectOf (sp : UInt8 → Bool) (d : ℕ) : List Member → Text → Prop
  | empty {payload s t : Text} (hopen : Span sp payload (0x7b :: s)) (hclose : Span sp s (0x7d :: t))
      (hend : Span sp t []) : ObjectOf sp d [] payload
  | members {members : List Member} {payload s t u : Text} (hopen : Span sp payload (0x7b :: s))
      (hgap : Span sp s t) (h : MembersOf sp d members t u) (hend : Span sp u []) :
      ObjectOf sp d members payload

/-- A text that is an object of the standard. -/
def IsObject (payload : Text) : Prop := ∃ d members, ObjectOf jsonSpace d members payload

/-! ### Phrases and what follows them -/

theorem quoted_append (pieces : List Piece) (rest u : Text) :
    quoted pieces rest ++ u = quoted pieces (rest ++ u) := by
  unfold quoted
  rw [List.cons_append, List.append_assoc, List.cons_append]

theorem Digits.append {s rest : Text} (h : Digits s rest) (u : Text) :
    Digits (s ++ u) (rest ++ u) := by
  cases h with
  | mk hb h => exact .mk hb (h.append u)

theorem Number.append {s rest : Text} (h : Number s rest) (u : Text) :
    Number (s ++ u) (rest ++ u) := by
  obtain ⟨t, v, w, hsign, hinteger, hfraction, hexponent⟩ := h.parts
  refine ⟨t ++ u, v ++ u, w ++ u, ?_, ?_, ?_, ?_⟩
  · cases hsign with
    | none => exact .none
    | minus => exact .minus
  · cases hinteger with
    | zero => exact .zero
    | digits hb hne h => exact .digits hb hne (h.append u)
  · cases hfraction with
    | none => exact .none
    | digits h => exact .digits (h.append u)
  · cases hexponent with
    | none => exact .none
    | digits he hsign h =>
      refine .digits he ?_ (h.append u)
      cases hsign with
      | none => exact .none
      | plus => exact .plus
      | minus => exact .minus

/-- A phrase stays one when the text goes on. -/
theorem Derives.append {sp : UInt8 → Bool} {phrase : Phrase} {d : ℕ} {s rest : Text}
    (h : Derives sp phrase d s rest) (u : Text) : Derives sp phrase d (s ++ u) (rest ++ u) := by
  induction h with
  | string h =>
    rw [quoted_append]
    exact .string h
  | number h => exact .number (h.append u)
  | literal h =>
    rw [List.append_assoc]
    exact .literal h
  | emptyArray h => exact .emptyArray (h.append u)
  | array hgap _ ih => exact .array (hgap.append u) ih
  | emptyObject h => exact .emptyObject (h.append u)
  | object hgap _ ih => exact .object (hgap.append u) ih
  | lastElement _ hclose ih => exact .lastElement ih (hclose.append u)
  | nextElement _ hcomma hgap _ ih ih' =>
    exact .nextElement ih (hcomma.append u) (hgap.append u) ih'
  | lastMember hkey hcolon hgap _ hclose ih =>
    rw [quoted_append]
    exact .lastMember hkey (hcolon.append u) (hgap.append u) ih (hclose.append u)
  | nextMember hkey hcolon hgap _ hcomma hgap' _ ih ih' =>
    rw [quoted_append]
    exact .nextMember hkey (hcolon.append u) (hgap.append u) ih (hcomma.append u) (hgap'.append u)
      ih'

/-- What follows a phrase is not part of it, here for a span. -/
theorem Span.unappend {p : UInt8 → Bool} {s r u : Text} (h : Span p s (r ++ u)) :
    ∃ t, s = t ++ u ∧ Span p t r := by
  obtain ⟨w, rfl, hw⟩ := h
  exact ⟨w ++ r, (List.append_assoc w r u).symm, w, rfl, hw⟩

theorem Digits.unappend {s rest u : Text} (h : Digits s (rest ++ u)) :
    ∃ t, s = t ++ u ∧ Digits t rest := by
  cases h with
  | mk hb h =>
    obtain ⟨t, rfl, ht⟩ := h.unappend
    exact ⟨_ :: t, rfl, .mk hb ht⟩

theorem Exponent.unappend {s rest u : Text} (h : Exponent s (rest ++ u)) :
    ∃ t, s = t ++ u ∧ Exponent t rest := by
  generalize hr : rest ++ u = r at h
  cases h with
  | none => exact ⟨rest, hr.symm, .none⟩
  | digits he hsign h =>
    obtain ⟨t, rfl, ht⟩ := (hr ▸ h).unappend
    cases hsign with
    | none => exact ⟨_ :: t, rfl, .digits he .none ht⟩
    | plus => exact ⟨_ :: _ :: t, rfl, .digits he .plus ht⟩
    | minus => exact ⟨_ :: _ :: t, rfl, .digits he .minus ht⟩

theorem Fraction.unappend {s rest u : Text} (h : Fraction s (rest ++ u)) :
    ∃ t, s = t ++ u ∧ Fraction t rest := by
  generalize hr : rest ++ u = r at h
  cases h with
  | none => exact ⟨rest, hr.symm, .none⟩
  | digits h =>
    obtain ⟨t, rfl, ht⟩ := (hr ▸ h).unappend
    exact ⟨_ :: t, rfl, .digits ht⟩

theorem Integer.unappend {s rest u : Text} (h : Integer s (rest ++ u)) :
    ∃ t, s = t ++ u ∧ Integer t rest := by
  generalize hr : rest ++ u = r at h
  cases h with
  | zero => exact ⟨0x30 :: rest, by rw [← hr, List.cons_append], .zero⟩
  | digits hb hne h =>
    obtain ⟨t, rfl, ht⟩ := (hr ▸ h).unappend
    exact ⟨_ :: t, rfl, .digits hb hne ht⟩

theorem Sign.unappend {s rest u : Text} (h : Sign s (rest ++ u)) :
    ∃ t, s = t ++ u ∧ Sign t rest := by
  generalize hr : rest ++ u = r at h
  cases h with
  | none => exact ⟨rest, hr.symm, .none⟩
  | minus => exact ⟨0x2d :: rest, by rw [← hr, List.cons_append], .minus⟩

theorem Number.unappend {s rest u : Text} (h : Number s (rest ++ u)) :
    ∃ t, s = t ++ u ∧ Number t rest := by
  obtain ⟨a, b, c, hsign, hinteger, hfraction, hexponent⟩ := h.parts
  obtain ⟨c', rfl, hexponent'⟩ := hexponent.unappend
  obtain ⟨b', rfl, hfraction'⟩ := hfraction.unappend
  obtain ⟨a', rfl, hinteger'⟩ := hinteger.unappend
  obtain ⟨t, rfl, hsign'⟩ := hsign.unappend
  exact ⟨t, rfl, a', b', c', hsign', hinteger', hfraction', hexponent'⟩

theorem Derives.unappend {sp : UInt8 → Bool} {phrase : Phrase} {d : ℕ} {s r : Text}
    (h : Derives sp phrase d s r) : ∀ {rest u : Text}, r = rest ++ u →
      ∃ t, s = t ++ u ∧ Derives sp phrase d t rest := by
  induction h with
  | string h =>
    rintro rest u rfl
    exact ⟨quoted _ rest, (quoted_append _ rest u).symm, .string h⟩
  | number h =>
    rintro rest u rfl
    obtain ⟨t, rfl, ht⟩ := h.unappend
    exact ⟨t, rfl, .number ht⟩
  | literal h =>
    rintro rest u rfl
    exact ⟨_ ++ rest, (List.append_assoc _ rest u).symm, .literal h⟩
  | emptyArray h =>
    rintro rest u rfl
    obtain ⟨t, rfl, ht⟩ := Span.unappend (r := 0x5d :: rest) h
    exact ⟨_ :: t, rfl, .emptyArray ht⟩
  | array hgap _ ih =>
    intro rest u hr
    obtain ⟨t, rfl, ht⟩ := ih hr
    obtain ⟨v, rfl, hv⟩ := hgap.unappend
    exact ⟨_ :: v, rfl, .array hv ht⟩
  | emptyObject h =>
    rintro rest u rfl
    obtain ⟨t, rfl, ht⟩ := Span.unappend (r := 0x7d :: rest) h
    exact ⟨_ :: t, rfl, .emptyObject ht⟩
  | object hgap _ ih =>
    intro rest u hr
    obtain ⟨t, rfl, ht⟩ := ih hr
    obtain ⟨v, rfl, hv⟩ := hgap.unappend
    exact ⟨_ :: v, rfl, .object hv ht⟩
  | lastElement _ hclose ih =>
    rintro rest u rfl
    obtain ⟨t, rfl, ht⟩ := Span.unappend (r := 0x5d :: rest) hclose
    obtain ⟨v, rfl, hv⟩ := ih rfl
    exact ⟨v, rfl, .lastElement hv ht⟩
  | nextElement _ hcomma hgap _ ih ih' =>
    intro rest u hr
    obtain ⟨t, rfl, ht⟩ := ih' hr
    obtain ⟨v, rfl, hv⟩ := hgap.unappend
    obtain ⟨w, rfl, hw⟩ := Span.unappend (r := 0x2c :: v) hcomma
    obtain ⟨x, rfl, hx⟩ := ih rfl
    exact ⟨x, rfl, .nextElement hx hw hv ht⟩
  | lastMember hkey hcolon hgap _ hclose ih =>
    rintro rest u rfl
    obtain ⟨t, rfl, ht⟩ := Span.unappend (r := 0x7d :: rest) hclose
    obtain ⟨v, rfl, hv⟩ := ih rfl
    obtain ⟨w, rfl, hw⟩ := hgap.unappend
    obtain ⟨x, rfl, hx⟩ := Span.unappend (r := 0x3a :: w) hcolon
    exact ⟨quoted _ x, (quoted_append _ x u).symm, .lastMember hkey hx hw hv ht⟩
  | nextMember hkey hcolon hgap _ hcomma hgap' _ ih ih' =>
    intro rest u hr
    obtain ⟨t, rfl, ht⟩ := ih' hr
    obtain ⟨v, rfl, hv⟩ := hgap'.unappend
    obtain ⟨w, rfl, hw⟩ := Span.unappend (r := 0x2c :: v) hcomma
    obtain ⟨x, rfl, hx⟩ := ih rfl
    obtain ⟨y, rfl, hy⟩ := hgap.unappend
    obtain ⟨z, rfl, hz⟩ := Span.unappend (r := 0x3a :: y) hcolon
    exact ⟨quoted _ z, (quoted_append _ z u).symm, .nextMember hkey hz hy hx hw hv ht⟩

/-- A phrase by itself: the part of the text that it takes. -/
theorem Derives.exact {sp : UInt8 → Bool} {phrase : Phrase} {d : ℕ} {s rest : Text}
    (h : Derives sp phrase d s rest) : ∃ v, s = v ++ rest ∧ Derives sp phrase d v [] :=
  h.unappend (List.nil_append rest).symm

/-! ### Depth and white space -/

theorem Derives.deeper {sp : UInt8 → Bool} {phrase : Phrase} {d e : ℕ} {s rest : Text}
    (h : Derives sp phrase d s rest) (hle : d ≤ e) : Derives sp phrase e s rest := by
  induction h generalizing e with
  | lastElement _ hclose ih => exact .lastElement (ih hle) hclose
  | nextElement _ hcomma hgap _ ih ih' => exact .nextElement (ih hle) hcomma hgap (ih' hle)
  | lastMember hkey hcolon hgap _ hclose ih => exact .lastMember hkey hcolon hgap (ih hle) hclose
  | nextMember hkey hcolon hgap _ hcomma hgap' _ ih ih' =>
    exact .nextMember hkey hcolon hgap (ih hle) hcomma hgap' (ih' hle)
  | string h =>
    cases e with
    | zero => omega
    | succ e => exact .string h
  | number h =>
    cases e with
    | zero => omega
    | succ e => exact .number h
  | literal h =>
    cases e with
    | zero => omega
    | succ e => exact .literal h
  | emptyArray h =>
    cases e with
    | zero => omega
    | succ e => exact .emptyArray h
  | array hgap _ ih =>
    cases e with
    | zero => omega
    | succ e => exact .array hgap (ih (by omega))
  | emptyObject h =>
    cases e with
    | zero => omega
    | succ e => exact .emptyObject h
  | object hgap _ ih =>
    cases e with
    | zero => omega
    | succ e => exact .object hgap (ih (by omega))

/-- Every byte of a phrase is white space or stands for itself. -/
def Printed (sp : UInt8 → Bool) (s rest : Text) : Prop :=
  ∃ w, s = w ++ rest ∧ ∀ b ∈ w, sp b = true ∨ 0x20 ≤ b

namespace Printed

variable {sp : UInt8 → Bool} {s t rest : Text}

theorem refl : Printed sp s s := ⟨[], rfl, by simp⟩

theorem of_span {p : UInt8 → Bool} (h : Span p s rest)
    (hp : ∀ b, p b = true → sp b = true ∨ 0x20 ≤ b) : Printed sp s rest := by
  obtain ⟨w, rfl, hw⟩ := h
  exact ⟨w, rfl, fun b hb => hp b (hw b hb)⟩

theorem cons {b : UInt8} (hb : 0x20 ≤ b) (h : Printed sp s rest) : Printed sp (b :: s) rest := by
  obtain ⟨w, rfl, hw⟩ := h
  exact ⟨b :: w, rfl, List.forall_mem_cons.mpr ⟨.inr hb, hw⟩⟩

theorem trans (h : Printed sp s t) (h' : Printed sp t rest) : Printed sp s rest := by
  obtain ⟨w, rfl, hw⟩ := h
  obtain ⟨v, rfl, hv⟩ := h'
  refine ⟨w ++ v, (List.append_assoc w v rest).symm, ?_⟩
  intro b hb
  exact (List.mem_append.mp hb).elim (hw b) (hv b)

theorem suffix (h : Printed sp s rest) : rest <:+ s := by
  obtain ⟨w, rfl, _⟩ := h
  exact List.suffix_append w rest

theorem blank (h : Span sp s rest) : Printed sp s rest := of_span h fun _ hb => .inl hb

end Printed

theorem digit_ge {b : UInt8} (h : digit b = true) : 0x20 ≤ b := by
  unfold digit at h
  simp only [Bool.and_eq_true, decide_eq_true_eq, UInt8.le_iff_toNat_le] at h ⊢
  have : (0x30 : UInt8).toNat = 48 := rfl
  have : (0x20 : UInt8).toNat = 32 := rfl
  omega

theorem hexValue_ge {b : UInt8} (h : (hexValue b).isSome = true) : 0x20 ≤ b := by
  unfold hexValue at h
  simp only [UInt8.le_iff_toNat_le] at h ⊢
  have h20 : (0x20 : UInt8).toNat = 32 := rfl
  have h30 : (0x30 : UInt8).toNat = 48 := rfl
  have h41 : (0x41 : UInt8).toNat = 65 := rfl
  have h61 : (0x61 : UInt8).toNat = 97 := rfl
  split at h
  · omega
  split at h
  · omega
  split at h
  · omega
  · cases h

theorem escapeValue_ge {e : UInt8} (h : (escapeValue e).isSome = true) : 0x20 ≤ e := by
  unfold escapeValue at h
  split at h
  next he => rcases he with rfl | rfl | rfl <;> decide
  split at h
  next he => rw [he]; decide
  split at h
  next he => rw [he]; decide
  split at h
  next he => rw [he]; decide
  split at h
  next he => rw [he]; decide
  split at h
  next he => rw [he]; decide
  cases h

theorem Piece.Valid.printed {sp : UInt8 → Bool} {piece : Piece} (h : piece.Valid) (rest : Text) :
    Printed sp (piece.spell ++ rest) rest := by
  cases piece with
  | byte b => exact .cons h.1 .refl
  | escape e => exact .cons (by decide) (.cons (escapeValue_ge h) .refl)
  | unicode h₀ h₁ h₂ h₃ =>
    obtain ⟨v₀, v₁, v₂, v₃⟩ := h
    exact .cons (by decide) (.cons (by decide) (.cons (hexValue_ge v₀) (.cons (hexValue_ge v₁)
      (.cons (hexValue_ge v₂) (.cons (hexValue_ge v₃) .refl)))))

theorem quoted_printed (sp : UInt8 → Bool) {pieces : List Piece}
    (h : ∀ piece ∈ pieces, piece.Valid) (rest : Text) : Printed sp (quoted pieces rest) rest := by
  refine .cons (by decide) ?_
  induction pieces with
  | nil => exact .cons (by decide) .refl
  | cons piece pieces ih =>
    rw [List.flatMap_cons, List.append_assoc]
    exact ((h piece List.mem_cons_self).printed _).trans
      (ih fun other hother => h other (List.mem_cons_of_mem _ hother))

theorem Digits.printed {sp : UInt8 → Bool} {s rest : Text} (h : Digits s rest) :
    Printed sp s rest := by
  cases h with
  | mk hb h => exact .cons (digit_ge hb) (.of_span h fun _ hb => .inr (digit_ge hb))

theorem Number.printed {sp : UInt8 → Bool} {s rest : Text} (h : Number s rest) :
    Printed sp s rest := by
  obtain ⟨t, u, v, hsign, hinteger, hfraction, hexponent⟩ := h.parts
  have hs : Printed sp s t := by
    cases hsign with
    | none => exact .refl
    | minus => exact .cons (by decide) .refl
  have ht : Printed sp t u := by
    cases hinteger with
    | zero => exact .cons (by decide) .refl
    | digits hb _ h => exact .cons (digit_ge hb) (.of_span h fun _ hb => .inr (digit_ge hb))
  have hu : Printed sp u v := by
    cases hfraction with
    | none => exact .refl
    | digits h => exact .cons (by decide) h.printed
  have hv : Printed sp v rest := by
    cases hexponent with
    | none => exact .refl
    | digits he hsign h =>
      refine .cons (by rcases he with rfl | rfl <;> decide) (.trans ?_ h.printed)
      cases hsign with
      | none => exact .refl
      | plus => exact .cons (by decide) .refl
      | minus => exact .cons (by decide) .refl
  exact hs.trans (ht.trans (hu.trans hv))

theorem literal_printed {sp : UInt8 → Bool} {l : Text} (h : l ∈ literals) (rest : Text) :
    Printed sp (l ++ rest) rest := by
  refine ⟨l, rfl, fun b hb => .inr ?_⟩
  have hall : ∀ l ∈ literals, ∀ b ∈ l, (0x20 : UInt8) ≤ b := by decide +kernel
  exact hall l h b hb

theorem Derives.printed {sp : UInt8 → Bool} {phrase : Phrase} {d : ℕ} {s rest : Text}
    (h : Derives sp phrase d s rest) : Printed sp s rest := by
  induction h with
  | string h => exact quoted_printed sp h _
  | number h => exact h.printed
  | literal h => exact literal_printed h _
  | emptyArray h => exact .cons (by decide) ((Printed.blank h).trans (.cons (by decide) .refl))
  | array hgap _ ih => exact .cons (by decide) ((Printed.blank hgap).trans ih)
  | emptyObject h => exact .cons (by decide) ((Printed.blank h).trans (.cons (by decide) .refl))
  | object hgap _ ih => exact .cons (by decide) ((Printed.blank hgap).trans ih)
  | lastElement _ hclose ih =>
    exact ih.trans ((Printed.blank hclose).trans (.cons (by decide) .refl))
  | nextElement _ hcomma hgap _ ih ih' =>
    exact ih.trans ((Printed.blank hcomma).trans
      (.cons (by decide) ((Printed.blank hgap).trans ih')))
  | lastMember hkey hcolon hgap _ hclose ih =>
    exact (quoted_printed sp hkey _).trans ((Printed.blank hcolon).trans (.cons (by decide)
      ((Printed.blank hgap).trans (ih.trans ((Printed.blank hclose).trans
        (.cons (by decide) .refl))))))
  | nextMember hkey hcolon hgap _ hcomma hgap' _ ih ih' =>
    exact (quoted_printed sp hkey _).trans ((Printed.blank hcolon).trans (.cons (by decide)
      ((Printed.blank hgap).trans (ih.trans ((Printed.blank hcomma).trans (.cons (by decide)
        ((Printed.blank hgap').trans ih')))))))

/-- A phrase with other white space, as long as that is white space here too. -/
theorem Derives.respace {sp sp' : UInt8 → Bool} {phrase : Phrase} {d : ℕ} {s rest : Text}
    (h : Derives sp phrase d s rest) (hsp : ∀ b ∈ s, sp b = true → sp' b = true) :
    Derives sp' phrase d s rest := by
  -- the bytes of a part of the text are bytes of the text
  have hpart : ∀ {s t : Text}, t <:+ s → (∀ b ∈ s, sp b = true → sp' b = true) →
      ∀ b ∈ t, sp b = true → sp' b = true := fun hsuffix hall b hb => hall b (hsuffix.mem hb)
  induction h with
  | string h => exact .string h
  | number h => exact .number h
  | literal h => exact .literal h
  | emptyArray h => exact .emptyArray (h.mono (hpart (List.suffix_cons _ _) hsp))
  | array hgap _ ih =>
    have h₁ := hpart (List.suffix_cons _ _) hsp
    exact .array (hgap.mono h₁) (ih (hpart hgap.suffix h₁))
  | emptyObject h => exact .emptyObject (h.mono (hpart (List.suffix_cons _ _) hsp))
  | object hgap _ ih =>
    have h₁ := hpart (List.suffix_cons _ _) hsp
    exact .object (hgap.mono h₁) (ih (hpart hgap.suffix h₁))
  | lastElement hvalue hclose ih =>
    exact .lastElement (ih hsp) (hclose.mono (hpart hvalue.printed.suffix hsp))
  | nextElement hvalue hcomma hgap _ ih ih' =>
    have h₁ := hpart hvalue.printed.suffix hsp
    have h₂ := hpart (List.suffix_cons _ _) (hpart hcomma.suffix h₁)
    exact .nextElement (ih hsp) (hcomma.mono h₁) (hgap.mono h₂) (ih' (hpart hgap.suffix h₂))
  | @lastMember _ pieces _ _ _ _ _ hkey hcolon hgap hvalue hclose ih =>
    have h₁ := hpart (quoted_printed sp hkey _).suffix hsp
    have h₂ := hpart (List.suffix_cons _ _) (hpart hcolon.suffix h₁)
    have h₃ := hpart hgap.suffix h₂
    exact .lastMember hkey (hcolon.mono h₁) (hgap.mono h₂) (ih h₃)
      (hclose.mono (hpart hvalue.printed.suffix h₃))
  | nextMember hkey hcolon hgap hvalue hcomma hgap' _ ih ih' =>
    have h₁ := hpart (quoted_printed sp hkey _).suffix hsp
    have h₂ := hpart (List.suffix_cons _ _) (hpart hcolon.suffix h₁)
    have h₃ := hpart hgap.suffix h₂
    have h₄ := hpart hvalue.printed.suffix h₃
    have h₅ := hpart (List.suffix_cons _ _) (hpart hcomma.suffix h₄)
    exact .nextMember hkey (hcolon.mono h₁) (hgap.mono h₂) (ih h₃) (hcomma.mono h₄)
      (hgap'.mono h₅) (ih' (hpart hgap'.suffix h₅))

/-! ### The members of a phrase -/

theorem MembersOf.derives {sp : UInt8 → Bool} {d : ℕ} {members : List Member} {s rest : Text}
    (h : MembersOf sp d members s rest) : Derives sp .members d s rest := by
  have hframe : ∀ {value : Text} (v : Text), Derives sp .value d value [] →
      Derives sp .value d (value ++ v) v := by
    intro value v hvalue
    exact hvalue.append v
  induction h with
  | last hkey hcolon hgap hvalue hclose =>
    exact .lastMember hkey hcolon hgap (hframe _ hvalue) hclose
  | next hkey hcolon hgap hvalue hcomma hgap' _ ih =>
    exact .nextMember hkey hcolon hgap (hframe _ hvalue) hcomma hgap' ih

theorem Derives.membersOf {sp : UInt8 → Bool} {phrase : Phrase} {d : ℕ} {s rest : Text}
    (h : Derives sp phrase d s rest) (hphrase : phrase = .members) :
    ∃ members, MembersOf sp d members s rest := by
  induction h with
  | @lastMember d pieces s t u v rest hkey hcolon hgap hvalue hclose ih =>
    obtain ⟨value, rfl, hexact⟩ := hvalue.exact
    exact ⟨_, MembersOf.last (m := ⟨pieces, value⟩) hkey hcolon hgap hexact hclose⟩
  | @nextMember d pieces s t u v w x rest hkey hcolon hgap hvalue hcomma hgap' _ _ ih' =>
    obtain ⟨value, rfl, hexact⟩ := hvalue.exact
    obtain ⟨members, hmembers⟩ := ih' rfl
    exact ⟨_, MembersOf.next (m := ⟨pieces, value⟩) hkey hcolon hgap hexact hcomma hgap' hmembers⟩
  | _ => cases hphrase

theorem isObject_of_members {d : ℕ} {payload s t u : Text} (hopen : Span jsonSpace payload (0x7b :: s))
    (hgap : Span jsonSpace s t) (h : Derives jsonSpace .members d t u) (hend : Span jsonSpace u []) :
    IsObject payload := by
  obtain ⟨members, hmembers⟩ := h.membersOf rfl
  exact ⟨d, members, .members hopen hgap hmembers hend⟩

/-- An object of the standard has no other control characters than its white space. -/
theorem IsObject.printed {payload : Text} (h : IsObject payload) : Printed jsonSpace payload [] := by
  obtain ⟨d, members, hobject⟩ := h
  cases hobject with
  | empty hopen hclose hend =>
    exact (Printed.blank hopen).trans (.cons (by decide) ((Printed.blank hclose).trans
      (.cons (by decide) (.blank hend))))
  | members hopen hgap hmembers hend =>
    exact (Printed.blank hopen).trans (.cons (by decide) ((Printed.blank hgap).trans
      (hmembers.derives.printed.trans (.blank hend))))

end Json
