import NetworkService.Ipc.BusinessDispatch
import NetworkService.Ipc.IndexedScanners

/-!
# The dispatcher's reader by position

`JsonReader` keeps its position as a field.  As with the session's scanners, `turns` cuts off its
loops and the recursion of `skip_value`.
-/

namespace NetworkService.Ipc.JsonReader.Indexed

open Fallible Scanner
open Ipc.Indexed (stringWith fraction exponent itemTurn keyWith)

section Reader

variable (input : Bytes) (turns : ℕ)

def skipWs : Scan Unit Unit := Ipc.Indexed.skipWs input turns

/-! ### Strings -/

/-- A turn of the loop of `parse_hex4`. -/
def hexDigit (value : ℕ) : Scan Unit ℕ := do
  let pos ← position
  let c ← look input pos
  advance 1
  match hexValue c with
  | none => reject ()
  | some h => pure (value <<< 4 ||| h)

def parseHex4 : Scan Unit ℕ := do
  let pos ← position
  if input.length < pos + 4 then reject ()
  else do
    let value ← hexDigit input 0
    let value ← hexDigit input value
    let value ← hexDigit input value
    hexDigit input value

/-- The `\u` that has to follow a high surrogate. -/
def passEscape : Scan Unit Unit := do
  let pos ← position
  if input.length < pos + 2 then reject ()
  else do
    let b ← look input pos
    if b ≠ backslash then reject ()
    else do
      let u ← look input (pos + 1)
      if u ≠ ascii 'u' then reject () else advance 2

def push (cp : ℕ) : Scan Unit Bytes :=
  match appendUtf8 cp with
  | none => reject ()
  | some pushed => pure pushed

/-- The case `'u'` of the escapes. -/
def parseUnicode : Scan Unit Bytes := do
  let first ← parseHex4 input
  if 0xd800 ≤ first ∧ first ≤ 0xdbff then do
    passEscape input
    let second ← parseHex4 input
    if second < 0xdc00 ∨ 0xdfff < second then reject ()
    else push (0x10000 + (first - 0xd800) <<< 10 + (second - 0xdc00))
  else push first

def parseString : Scan Unit Bytes := stringWith input turns (parseUnicode input)

/-! ### Numbers and literals -/

def skipDigits : Scan Unit Unit := skipWhile input isDigit turns

def skipDigits1 : Scan Unit Unit := do
  let digit ← sees input isDigit
  if digit then skipDigits input turns else reject ()

def skipInteger : Scan Unit Unit := do
  let b ← here input ()
  if b = ascii '0' then do
    advance 1
    let digit ← sees input isDigit
    if digit then reject () else pure ()
  else if isDigit b then skipDigits input turns
  else reject ()

def skipFraction : Scan Unit Unit := fraction input (skipDigits1 input turns)

def skipExponent : Scan Unit Unit := exponent input (skipDigits1 input turns)

def skipNumber : Scan Unit Unit := do
  let start ← position
  let minus ← consume input (· == ascii '-')
  let pos ← position
  if minus = true ∧ input.length ≤ pos then reject ()
  else do
    skipInteger input turns
    skipFraction input turns
    skipExponent input turns
    let pos ← position
    if start < pos then pure () else reject ()

def literal (word : Bytes) : Scan Unit Unit := do
  let pos ← position
  let next ← slice input pos word.length
  if next ≠ word then reject () else advance word.length

/-! ### Values -/

/-- What follows an item: the closing byte, or a comma and the next item. -/
def closes (close : UInt8) : Scan Unit Bool := do
  skipWs input turns
  let closed ← consume input (· == close)
  if closed then pure true
  else do
    pass input (· == ascii ',') ()
    skipWs input turns
    pure false

def skipBracketed (skipItem : Scan Unit Unit) (start close : UInt8) : Scan Unit Unit := do
  pass input (· == start) ()
  skipWs input turns
  let closed ← consume input (· == close)
  if closed then pure ()
  else loop (fun _ => turn (itemTurn skipItem (closes input turns close))) turns ()

def memberKey : Scan Unit Bytes := keyWith input turns (parseString input turns)

def skipMember (skipElement : Scan Unit Unit) : Scan Unit Unit := do
  let _ ← memberKey input turns
  skipElement

def skipObject (skipValue : ℕ → Scan Unit Unit) (depth : ℕ) : Scan Unit Unit :=
  skipBracketed input turns (skipMember input turns (skipValue depth)) openBrace closeBrace

def skipArray (skipValue : ℕ → Scan Unit Unit) (depth : ℕ) : Scan Unit Unit :=
  skipBracketed input turns (skipValue depth) (ascii '[') (ascii ']')

/-- `skip_value`, cut off after so many calls of itself. -/
def skipValue : ℕ → ℕ → Scan Unit Unit
  | 0, _ => throw .stuck
  | calls + 1, depth => call (
    if kMaxJsonDepth < depth then reject ()
    else do
      let b ← here input ()
      if b = openBrace then skipObject input turns (skipValue calls) (depth + 1)
      else if b = ascii '[' then skipArray input turns (skipValue calls) (depth + 1)
      else if b = quote then do
        let _ ← parseString input turns
        pure ()
      else if b = ascii 't' then literal input (text "true")
      else if b = ascii 'f' then literal input (text "false")
      else if b = ascii 'n' then literal input (text "null")
      else skipNumber input turns)

/-! ### Members -/

/-- What `find_member` keeps of a member whose value stands between two positions. -/
def keepMember (wanted : Bytes) (found : Option Bytes) (key : Bytes) (start stop : ℕ) :
    Scan Unit (Option Bytes) :=
  if key = wanted then
    if found.isSome then reject ()
    else do
      let raw ← slice input start (stop - start)
      pure (some raw)
  else pure found

def memberTurn (wanted : Bytes) (found : Option Bytes) : Scan Unit (Option Bytes ⊕ Option Bytes) := do
  let key ← memberKey input turns
  let start ← position
  skipValue input turns turns 0
  let stop ← position
  let found ← keepMember input wanted found key start stop
  let closed ← closes input turns closeBrace
  pure (if closed then .inr found else .inl found)

/-- The end of `find_member`, behind the closing brace. -/
def foundAtEnd (found : Option Bytes) : Scan Unit Bytes := do
  skipWs input turns
  let pos ← position
  match found with
  | none => reject ()
  | some raw => if pos = input.length then pure raw else reject ()

def findMember (wanted : Bytes) : Scan Unit Bytes := do
  skipWs input turns
  pass input (· == openBrace) ()
  skipWs input turns
  let empty ← consume input (· == closeBrace)
  if empty then do
    skipWs input turns
    reject ()
  else do
    let found ← loop (fun found => turn (memberTurn input turns wanted found)) turns none
    foundAtEnd input turns found

end Reader

end NetworkService.Ipc.JsonReader.Indexed
