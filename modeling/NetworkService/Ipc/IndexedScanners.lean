import NetworkService.Ipc.RequestText
import NetworkService.Library.Scanner

/-!
# The session's scanners by position

`RequestText` reads what is left of a text.  Here the same scanners walk over the whole text by a
position, as the source has them, with every `text[..]` that the source evaluates.  `turns` cuts off
the loops and the recursion of `skip_value`; a scanner that returns `false` gives up.

What both readers of the repository write out in the same words is one definition, with what they do
differently as its argument.
-/

namespace NetworkService.Ipc.Indexed

open Fallible Scanner

section Scanners

variable {ε : Type} (payload : Bytes) (turns : ℕ)

def skipWs : Scan ε Unit := skipWhile payload isSpace turns

/-! ### Strings -/

def hexDigitAt (index : ℕ) : Scan Unit Unit := do
  let c ← look payload index
  if isHexDigit c then pure () else reject ()

/-- The four digits are looked at before they are passed. -/
def skipHex4 : Scan Unit Unit := do
  let pos ← position
  if payload.length < pos + 4 then reject ()
  else do
    hexDigitAt payload pos
    hexDigitAt payload (pos + 1)
    hexDigitAt payload (pos + 2)
    hexDigitAt payload (pos + 3)
    advance 4

/-- The code point is not decoded. -/
def skipUnicode : Scan Unit Bytes := do
  skipHex4 payload
  pure [ascii '?']

/-- A turn of the loop of `parse_string`; a `\u` appends what `unicode` answers. -/
def stringTurn (unicode : Scan Unit Bytes) (value : Bytes) : Scan Unit (Bytes ⊕ Bytes) := do
  let ch ← here payload ()
  advance 1
  if ch = quote then pure (.inr value)
  else if ch < 0x20 then reject ()
  else if ch ≠ backslash then pure (.inl (value ++ [ch]))
  else do
    let escaped ← here payload ()
    advance 1
    if escaped = ascii 'u' then do
      let pushed ← unicode
      pure (.inl (value ++ pushed))
    else
      match simpleEscape escaped with
      | some b => pure (.inl (value ++ [b]))
      | none => reject ()

def stringWith (unicode : Scan Unit Bytes) : Scan Unit Bytes := do
  pass payload (· == quote) ()
  loop (stringTurn payload unicode) turns []

def parseString : Scan Unit Bytes := stringWith payload turns (skipUnicode payload)

/-! ### Numbers and literals -/

def skipDigits : Scan Unit Unit := skipWhile payload isDigit turns

def skipDigits1 : Scan Unit Unit := do
  let start ← position
  skipDigits payload turns
  let pos ← position
  if pos = start then reject () else pure ()

def skipInteger : Scan Unit Unit := do
  let b ← here payload ()
  if b = ascii '0' then advance 1
  else if b < ascii '1' ∨ ascii '9' < b then reject ()
  else skipDigits payload turns

/-- The decimal point, and the digits behind it. -/
def fraction (digits : Scan Unit Unit) : Scan Unit Unit := do
  let seen ← consume payload (· == ascii '.')
  when seen digits

/-- The `e`, its sign, and the digits behind them. -/
def exponent (digits : Scan Unit Unit) : Scan Unit Unit := do
  let seen ← consume payload fun b => b == ascii 'e' || b == ascii 'E'
  when seen (do
    let _ ← consume payload fun b => b == ascii '+' || b == ascii '-'
    digits)

def skipFraction : Scan Unit Unit := fraction payload (skipDigits1 payload turns)

def skipExponent : Scan Unit Unit := exponent payload (skipDigits1 payload turns)

def skipNumber : Scan Unit Unit := do
  let start ← position
  let _ ← consume payload (· == ascii '-')
  skipInteger payload turns
  skipFraction payload turns
  skipExponent payload turns
  let pos ← position
  if start < pos then pure () else reject ()

/-- The loop of `skip_literal` at its index `i`, with what is left of the literal. -/
def skipLiteralFrom (i : ℕ) : Bytes → Scan Unit Unit
  | [] => advance i
  | c :: literal => do
    let pos ← position
    if payload.length ≤ pos + i then reject ()
    else do
      let b ← look payload (pos + i)
      if b ≠ c then reject () else skipLiteralFrom (i + 1) literal

def skipLiteral (literal : Bytes) : Scan Unit Unit := skipLiteralFrom payload 0 literal

def uint64Turn (result : UInt64) : Scan Unit (UInt64 ⊕ UInt64) := do
  let seen ← sees payload isDigit
  if seen then do
    let pos ← position
    let b ← look payload pos
    let digit := (b - ascii '0').toUInt64
    if (uint64Max - digit) / 10 < result then reject ()
    else do
      advance 1
      pure (.inl (result * 10 + digit))
  else pure (.inr result)

def parseUint64 : Scan Unit UInt64 := do
  let seen ← sees payload isDigit
  if seen then loop (uint64Turn payload) turns 0 else reject ()

/-! ### Values -/

/-- What follows an item: the closing byte, or a comma and the next item. -/
def closes (close : UInt8) : Scan Unit Bool := do
  skipWs payload turns
  let b ← here payload ()
  if b = close then do
    advance 1
    pure true
  else if b ≠ ascii ',' then reject ()
  else do
    advance 1
    skipWs payload turns
    pure false

/-- A turn of the loops of `skip_array` and `skip_object`. -/
def itemTurn (skipItem : Scan Unit Unit) (closes : Scan Unit Bool) : Scan Unit (Unit ⊕ Unit) := do
  skipItem
  let closed ← closes
  pure (if closed then .inr () else .inl ())

/-- `skip_array` and `skip_object` at a depth. -/
def skipBracketed (skipItem : Scan Unit Unit) (start close : UInt8) (depth : ℕ) : Scan Unit Unit :=
  if kMaxJsonDepth < depth then reject ()
  else do
    pass payload (· == start) ()
    skipWs payload turns
    let closed ← consume payload (· == close)
    if closed then pure ()
    else loop (fun _ => turn (itemTurn skipItem (closes payload turns close))) turns ()

def skipArray (skipValue : ℕ → Scan Unit Unit) (depth : ℕ) : Scan Unit Unit :=
  skipBracketed payload turns (skipValue (depth + 1)) (ascii '[') (ascii ']') depth

/-- The key of a member and its colon. -/
def keyWith (parseString : Scan Unit Bytes) : Scan Unit Bytes := do
  let key ← parseString
  skipWs payload turns
  pass payload (· == ascii ':') ()
  skipWs payload turns
  pure key

def memberKey : Scan Unit Bytes := keyWith payload turns (parseString payload turns)

def skipMember (skipElement : Scan Unit Unit) : Scan Unit Unit := do
  let _ ← memberKey payload turns
  skipElement

def skipObject (skipValue : ℕ → Scan Unit Unit) (depth : ℕ) : Scan Unit Unit :=
  skipBracketed payload turns (skipMember payload turns (skipValue (depth + 1))) openBrace closeBrace
    depth

/-- `skip_value`, cut off after so many calls of itself. -/
def skipValue : ℕ → ℕ → Scan Unit Unit
  | 0, _ => throw .stuck
  | calls + 1, depth => call (
    if kMaxJsonDepth < depth then reject ()
    else do
      skipWs payload turns
      let b ← here payload ()
      if b = quote then do
        let _ ← parseString payload turns
        pure ()
      else if b = openBrace then skipObject payload turns (skipValue calls) depth
      else if b = ascii '[' then skipArray payload turns (skipValue calls) depth
      else if b = ascii 't' then skipLiteral payload (text "true")
      else if b = ascii 'f' then skipLiteral payload (text "false")
      else if b = ascii 'n' then skipLiteral payload (text "null")
      else skipNumber payload turns)

/-- The scan of a member's value: depth one. -/
def skipMemberValue : Scan Unit Unit := skipValue payload turns turns 1

/-! ### HELLO -/

def helloMember (key : Bytes) (versions : HelloVersions) : Scan Unit HelloVersions :=
  if key = text "minVersion" then do
    let parsed ← parseUint64 payload turns
    if versions.minVersion.isSome then reject ()
    else pure { versions with minVersion := some parsed }
  else if key = text "maxVersion" then do
    let parsed ← parseUint64 payload turns
    if versions.maxVersion.isSome then reject ()
    else pure { versions with maxVersion := some parsed }
  else do
    skipMemberValue payload turns
    pure versions

def helloTurn (versions : HelloVersions) : Scan Unit (HelloVersions ⊕ HelloVersions) := do
  let key ← memberKey payload turns
  let versions ← helloMember payload turns key versions
  let closed ← closes payload turns closeBrace
  pure (if closed then .inr versions else .inl versions)

/-- The end of `parse_hello_versions`, behind the closing brace. -/
def helloEnd (versions : HelloVersions) : Scan Unit (UInt64 × UInt64) := do
  skipWs payload turns
  let pos ← position
  match versions.minVersion, versions.maxVersion with
  | some minVersion, some maxVersion =>
    if pos = payload.length ∧ minVersion ≤ maxVersion then pure (minVersion, maxVersion)
    else reject ()
  | _, _ => reject ()

def parseHelloVersions : Scan Unit (UInt64 × UInt64) := do
  skipWs payload turns
  pass payload (· == openBrace) ()
  skipWs payload turns
  let empty ← sees payload (· == closeBrace)
  if empty then reject ()
  else do
    let versions ← loop (fun versions => turn (helloTurn payload turns versions)) turns {}
    helloEnd payload turns versions

/-! ### REQUEST -/

/-- What `parse_request` returns when it fails, and the request as read so far. -/
abbrev RequestFailure := RequestParseError × ParsedRequest

def requestIdMember (out : ParsedRequest) : Scan RequestFailure ParsedRequest :=
  if out.haveRequestId then reject (.duplicateRequestId, out)
  else do
    let start ← position
    let parsed ← orReturn (parseUint64 payload turns) (.invalidRequestId, out)
    if parsed = 0 then reject (.invalidRequestId, out)
    else do
      let continues ← sees payload fun next =>
        next == ascii '.' || next == ascii 'e' || next == ascii 'E'
      if continues then reject (.invalidRequestId, out)
      else do
        let pos ← position
        if pos = start then reject (.invalidRequestId, out)
        else pure { out with requestId := parsed, haveRequestId := true }

def methodMember (out : ParsedRequest) : Scan RequestFailure ParsedRequest :=
  if out.haveMethod then reject (.duplicateMethod, out)
  else do
    let method ← orReturn (parseString payload turns) (.invalidMethod, out)
    if method = [] then reject (.invalidMethod, out)
    else pure { out with method := method, haveMethod := true }

def paramsMember (out : ParsedRequest) : Scan RequestFailure ParsedRequest :=
  if out.haveParams then reject (.duplicateParams, out)
  else do
    let object ← sees payload (· == openBrace)
    if object then do
      let start ← position
      orReturn (skipMemberValue payload turns) (.invalidParams, out)
      let pos ← position
      let paramsJson ← slice payload start (pos - start)
      pure { out with paramsJson := paramsJson, haveParams := true }
    else reject (.invalidParams, out)

def requestMember (key : Bytes) (out : ParsedRequest) : Scan RequestFailure ParsedRequest :=
  if key = text "requestId" then requestIdMember payload turns out
  else if key = text "method" then methodMember payload turns out
  else if key = text "params" then paramsMember payload turns out
  else do
    orReturn (skipMemberValue payload turns) (.invalidJson, out)
    pure out

def requestTurn (out : ParsedRequest) : Scan RequestFailure (ParsedRequest ⊕ ParsedRequest) := do
  let key ← orReturn (memberKey payload turns) (.invalidJson, out)
  let out ← requestMember payload turns key out
  let closed ← orReturn (closes payload turns closeBrace) (.invalidJson, out)
  pure (if closed then .inr out else .inl out)

/-- The end of `parse_request`, behind the closing brace. -/
def requestEnd (out : ParsedRequest) : Scan RequestFailure ParsedRequest := do
  skipWs payload turns
  let pos ← position
  if pos ≠ payload.length then reject (.invalidJson, out)
  else if !out.haveRequestId then reject (.missingRequestId, out)
  else if !out.haveMethod then reject (.missingMethod, out)
  else pure out

def parseRequest : Scan RequestFailure ParsedRequest := do
  skipWs payload turns
  pass payload (· == openBrace) (.invalidJson, {})
  skipWs payload turns
  let empty ← sees payload (· == closeBrace)
  if empty then reject (.missingRequestId, {})
  else do
    let out ← loop (fun out => turn (requestTurn payload turns out)) turns {}
    requestEnd payload turns out

end Scanners

end NetworkService.Ipc.Indexed
