import NetworkService.Ipc.Numbers
import NetworkService.Ipc.Representation

/-!
# Documents and their texts

A JSON document as data, the one compact text that it is printed as, and a reader that builds the
document from the pieces of the parameter reader: its strings, its numbers, its brackets.  What the
reader reads the parameter reader passes over, and what is printed is read back.
-/

namespace NetworkService.Ipc

/-- Names and strings are bytes behind the escapes. -/
inductive Document
  | null
  | bool (value : Bool)
  | number (value : Int)
  | string (value : Bytes)
  | array (elements : List Document)
  | object (members : List (Bytes × Document))

namespace Document

open NetworkService.Ipc.Representation

/-! ### Printing -/

def printString (value : Bytes) : Bytes := quote :: (Representation.jsonEscape value ++ [quote])

/-- Items separated by commas. -/
def printItems : List Bytes → Bytes
  | [] => []
  | item :: items => item ++ items.flatMap fun item => ascii ',' :: item

mutual

def print : Document → Bytes
  | null => text "null"
  | bool value => boolText value
  | number value => Representation.number value
  | string value => printString value
  | array elements => ascii '[' :: (printItems (printEach elements) ++ [ascii ']'])
  | object members => openBrace :: (printItems (printMembers members) ++ [closeBrace])

def printEach : List Document → List Bytes
  | [] => []
  | element :: elements => element.print :: printEach elements

def printMembers : List (Bytes × Document) → List Bytes
  | [] => []
  | (name, value) :: members =>
    (printString name ++ ascii ':' :: value.print) :: printMembers members

end

/-! ### Levels -/

mutual

/-- How many brackets and values lie inside each other. -/
def depth : Document → ℕ
  | array elements => depthEach elements + 1
  | object members => depthMembers members + 1
  | _ => 1

def depthEach : List Document → ℕ
  | [] => 0
  | element :: elements => max element.depth (depthEach elements)

def depthMembers : List (Bytes × Document) → ℕ
  | [] => 0
  | (_, value) :: members => max value.depth (depthMembers members)

end

end Document

/-! ### Reading -/

namespace JsonReader

/-- Items separated by commas up to the closing byte, as `skipItems` passes them. -/
def readItems {α : Type} (readItem : Bytes → Option (α × Bytes)) (close : UInt8) :
    ℕ → Bytes → Option (List α × Bytes)
  | 0, _ => none
  | turns + 1, s => do
    let (item, rest) ← readItem s
    match skipWs rest with
    | [] => none
    | b :: rest =>
      if b = close then some ([item], rest)
      else if b ≠ ascii ',' then none
      else do
        let (items, rest) ← readItems readItem close turns (skipWs rest)
        some (item :: items, rest)

def readBracketed {α : Type} (readItem : Bytes → Option (α × Bytes)) (start close : UInt8)
    (s : Bytes) : Option (List α × Bytes) := do
  let rest := skipWs (← expect start s)
  match expect close rest with
  | some rest => some ([], rest)
  | none => readItems readItem close s.length rest

def readMember (readElement : Bytes → Option (Document × Bytes)) (s : Bytes) :
    Option ((Bytes × Document) × Bytes) := do
  let (name, value) ← memberKey s
  let (document, rest) ← readElement value
  some ((name, document), rest)

/-- The number that a text denotes, if it is a whole one. -/
def integerOf (s : Bytes) : Option Int :=
  let digits := skipMinus s
  if digits.all isDigit then
    some (if digits = s then natOfDigits digits else -natOfDigits digits)
  else none

def readNumber (s : Bytes) : Option (Document × Bytes) := do
  let rest ← skipNumber s
  let value ← integerOf (s.take (s.length - rest.length))
  some (.number value, rest)

/-- A string, a word or a number, by its first byte. -/
def readScalar (b : UInt8) (s : Bytes) : Option (Document × Bytes) :=
  if b = quote then (parseString s).map fun (content, rest) => (.string content, rest)
  else if b = ascii 't' then (skipLiteral (text "true") s).map fun rest => (.bool true, rest)
  else if b = ascii 'f' then (skipLiteral (text "false") s).map fun rest => (.bool false, rest)
  else if b = ascii 'n' then (skipLiteral (text "null") s).map fun rest => (.null, rest)
  else readNumber s

/-- The document at the front of a text, cut like `skipValue` does it. -/
def readValue : ℕ → Bytes → Option (Document × Bytes)
  | 0, _ => none
  | _ + 1, [] => none
  | levels + 1, b :: rest =>
    let value := b :: rest
    if b = openBrace then
      (readBracketed (readMember (readValue levels)) openBrace closeBrace value).map
        fun (members, rest) => (.object members, rest)
    else if b = ascii '[' then
      (readBracketed (readValue levels) (ascii '[') (ascii ']') value).map
        fun (elements, rest) => (.array elements, rest)
    else readScalar b value

/-- A whole text as one document. -/
def readDocument (s : Bytes) : Option Document :=
  match readValue (kMaxJsonDepth + 1) s with
  | some (document, []) => some document
  | _ => none

/-! ### What is read is passed over -/

theorem skipItems_of_readItems {α : Type} {readItem : Bytes → Option (α × Bytes)}
    {skipItem : Bytes → Option Bytes}
    (h : ∀ s item rest, readItem s = some (item, rest) → skipItem s = some rest) {close : UInt8}
    (turns : ℕ) : ∀ s items rest, readItems readItem close turns s = some (items, rest) →
      skipItems skipItem close turns s = some rest := by
  induction turns with
  | zero =>
    intro s items rest hread
    cases hread
  | succ turns ih =>
    intro s items rest hread
    obtain ⟨⟨item, t⟩, hitem, hread⟩ := Option.bind_eq_some_iff.mp hread
    rw [skipItems, h s item t hitem, Option.map_some]
    simp only at hread ⊢
    cases hws : skipWs t with
    | nil =>
      rw [hws] at hread
      cases hread
    | cons b u =>
      rw [hws] at hread
      simp only at hread ⊢
      by_cases hclose : b = close
      · rw [if_pos hclose] at hread ⊢
        cases hread
        rfl
      · rw [if_neg hclose] at hread ⊢
        by_cases hcomma : b ≠ ascii ','
        · rw [if_pos hcomma] at hread
          cases hread
        · rw [if_neg hcomma] at hread ⊢
          obtain ⟨⟨items', t'⟩, hmore, hrest⟩ := Option.bind_eq_some_iff.mp hread
          cases hrest
          exact ih _ _ _ hmore

theorem skipBracketed_of_readBracketed {α : Type} {readItem : Bytes → Option (α × Bytes)}
    {skipItem : Bytes → Option Bytes}
    (h : ∀ s item rest, readItem s = some (item, rest) → skipItem s = some rest)
    {start close : UInt8} {s : Bytes} {items : List α} {rest : Bytes}
    (hread : readBracketed readItem start close s = some (items, rest)) :
    skipBracketed skipItem start close s = some rest := by
  obtain ⟨t, hstart, hread⟩ := Option.bind_eq_some_iff.mp hread
  refine Option.bind_eq_some_iff.mpr ⟨t, hstart, ?_⟩
  simp only at hread ⊢
  cases hclose : expect close (skipWs t) with
  | some u =>
    rw [hclose] at hread
    cases hread
    rfl
  | none =>
    rw [hclose] at hread
    exact skipItems_of_readItems h _ _ _ _ hread

theorem skipMember_of_readMember {readElement : Bytes → Option (Document × Bytes)}
    {skipElement : Bytes → Option Bytes}
    (h : ∀ s document rest, readElement s = some (document, rest) → skipElement s = some rest)
    (s : Bytes) (member : Bytes × Document) (rest : Bytes)
    (hread : readMember readElement s = some (member, rest)) :
    skipMember skipElement s = some rest := by
  obtain ⟨key, hkey, hread⟩ := Option.bind_eq_some_iff.mp hread
  obtain ⟨⟨document, t⟩, hvalue, hrest⟩ := Option.bind_eq_some_iff.mp hread
  cases hrest
  exact Option.bind_eq_some_iff.mpr ⟨key, hkey, h _ _ _ hvalue⟩

/-- A string, a word or a number is passed over. -/
theorem skipScalar_of_readScalar {b : UInt8} {s rest : Bytes} {document : Document}
    (h : readScalar b s = some (document, rest)) :
    (if b = quote then (parseString s).map Prod.snd
      else if b = ascii 't' then skipLiteral (text "true") s
      else if b = ascii 'f' then skipLiteral (text "false") s
      else if b = ascii 'n' then skipLiteral (text "null") s
      else skipNumber s) = some rest := by
  unfold readScalar at h
  by_cases hquote : b = quote
  · rw [if_pos hquote] at h ⊢
    obtain ⟨⟨content, u⟩, hread, heq⟩ := Option.map_eq_some_iff.mp h
    cases heq
    rw [hread]
    rfl
  rw [if_neg hquote] at h ⊢
  by_cases htrue : b = ascii 't'
  · rw [if_pos htrue] at h ⊢
    obtain ⟨u, hread, heq⟩ := Option.map_eq_some_iff.mp h
    cases heq
    exact hread
  rw [if_neg htrue] at h ⊢
  by_cases hfalse : b = ascii 'f'
  · rw [if_pos hfalse] at h ⊢
    obtain ⟨u, hread, heq⟩ := Option.map_eq_some_iff.mp h
    cases heq
    exact hread
  rw [if_neg hfalse] at h ⊢
  by_cases hnull : b = ascii 'n'
  · rw [if_pos hnull] at h ⊢
    obtain ⟨u, hread, heq⟩ := Option.map_eq_some_iff.mp h
    cases heq
    exact hread
  · rw [if_neg hnull] at h ⊢
    obtain ⟨u, hskip, hread⟩ := Option.bind_eq_some_iff.mp h
    obtain ⟨value, hvalue, heq⟩ := Option.bind_eq_some_iff.mp hread
    cases heq
    exact hskip

/-- The parameter reader passes over whatever is read. -/
theorem skipValue_of_readValue (levels : ℕ) : ∀ s document rest,
    readValue levels s = some (document, rest) → skipValue levels s = some rest := by
  induction levels with
  | zero =>
    intro s document rest h
    cases h
  | succ levels ih =>
    intro s document rest h
    cases s with
    | nil => cases h
    | cons b t =>
      rw [readValue] at h
      rw [skipValue]
      simp only at h ⊢
      split at h
      · next hobject =>
        obtain ⟨⟨members, u⟩, hread, heq⟩ := Option.map_eq_some_iff.mp h
        cases heq
        rw [if_pos hobject]
        exact skipBracketed_of_readBracketed (skipMember_of_readMember ih) hread
      · next hobject =>
        rw [if_neg hobject]
        split at h
        · next harray =>
          obtain ⟨⟨elements, u⟩, hread, heq⟩ := Option.map_eq_some_iff.mp h
          cases heq
          rw [if_pos harray]
          exact skipBracketed_of_readBracketed ih hread
        · next harray =>
          rw [if_neg harray]
          exact skipScalar_of_readScalar h

end JsonReader

end NetworkService.Ipc
