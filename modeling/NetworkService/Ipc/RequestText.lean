import NetworkService.Ipc.Codec

/-!
# The session's reading of HELLO and REQUEST payloads

The session does not build a JSON tree: it walks over the payload once, copies out the members it
knows and skips the others.  Where the source keeps a position in the text, the scanners here keep
what is left of the text behind that position; a scanner that answers `none` is one that returns
`false`, after which the source no longer looks at the position.
-/

namespace NetworkService.Ipc

def kMaxJsonDepth : Nat := 16

/-! ### Characters -/

def quote : UInt8 := 0x22

def backslash : UInt8 := 0x5c

def openBrace : UInt8 := 0x7b

def closeBrace : UInt8 := 0x7d

/-- `std::isspace` of the C locale: space, and tab to carriage return. -/
def isSpace (b : UInt8) : Bool := b == 0x20 || (0x09 ≤ b && b ≤ 0x0d)

def isDigit (b : UInt8) : Bool := ascii '0' ≤ b && b ≤ ascii '9'

def isHexDigit (b : UInt8) : Bool :=
  isDigit b || (ascii 'a' ≤ b && b ≤ ascii 'f') || (ascii 'A' ≤ b && b ≤ ascii 'F')

/-- The two-character escapes of a JSON string and what they stand for. -/
def simpleEscape (escaped : UInt8) : Option UInt8 :=
  if escaped = quote ∨ escaped = backslash ∨ escaped = ascii '/' then some escaped
  else if escaped = ascii 'b' then some 0x08
  else if escaped = ascii 'f' then some 0x0c
  else if escaped = ascii 'n' then some 0x0a
  else if escaped = ascii 'r' then some 0x0d
  else if escaped = ascii 't' then some 0x09
  else none

/-! ### Scanners -/

def skipWs : Bytes → Bytes
  | [] => []
  | b :: rest => if isSpace b then skipWs rest else b :: rest

/-- Passes the one byte that must come next. -/
def expect (b : UInt8) : Bytes → Option Bytes
  | [] => none
  | c :: rest => if c = b then some rest else none

/-- The loop of `parse_string`, behind the opening quote: the value read so far, and the rest. -/
def parseStringBody (value : Bytes) : Bytes → Option (Bytes × Bytes)
  | [] => none
  | ch :: rest =>
    if ch = quote then some (value, rest)
    else if ch < 0x20 then none
    else if ch ≠ backslash then parseStringBody (value ++ [ch]) rest
    else
      match rest with
      | [] => none
      | escaped :: rest =>
        if escaped = ascii 'u' then
          match rest with
          | h₀ :: h₁ :: h₂ :: h₃ :: rest =>
            -- the code point is not decoded
            if isHexDigit h₀ && isHexDigit h₁ && isHexDigit h₂ && isHexDigit h₃ then
              parseStringBody (value ++ [ascii '?']) rest
            else none
          | _ => none
        else
          match simpleEscape escaped with
          | some b => parseStringBody (value ++ [b]) rest
          | none => none

def parseString (text : Bytes) : Option (Bytes × Bytes) := do
  parseStringBody [] (← expect quote text)

def skipDigits : Bytes → Bytes
  | [] => []
  | b :: rest => if isDigit b then skipDigits rest else b :: rest

/-- At least one digit, as behind a decimal point or an exponent's sign. -/
def skipDigits1 : Bytes → Option Bytes
  | [] => none
  | b :: rest => if isDigit b then some (skipDigits rest) else none

def skipSign : Bytes → Bytes
  | [] => []
  | b :: rest => if b = ascii '+' ∨ b = ascii '-' then rest else b :: rest

def skipFraction : Bytes → Option Bytes
  | [] => some []
  | b :: rest => if b = ascii '.' then skipDigits1 rest else some (b :: rest)

def skipExponent : Bytes → Option Bytes
  | [] => some []
  | b :: rest =>
    if b = ascii 'e' ∨ b = ascii 'E' then skipDigits1 (skipSign rest) else some (b :: rest)

def skipInteger : Bytes → Option Bytes
  | [] => none
  | b :: rest =>
    if b = ascii '0' then some rest
    else if b < ascii '1' ∨ ascii '9' < b then none
    else some (skipDigits rest)

def skipMinus : Bytes → Bytes
  | [] => []
  | b :: rest => if b = ascii '-' then rest else b :: rest

def skipNumber (text : Bytes) : Option Bytes := do
  skipExponent (← skipFraction (← skipInteger (skipMinus text)))

def skipLiteral (literal text : Bytes) : Option Bytes :=
  if literal.isPrefixOf text then some (text.drop literal.length) else none

/-- The loop shared by `skip_array` and `skip_object`: items separated by commas up to the closing
byte.  Every turn passes at least a comma, so the length of the text bounds the turns. -/
def skipItems (skipItem : Bytes → Option Bytes) (close : UInt8) : ℕ → Bytes → Option Bytes
  | 0, _ => none
  | turns + 1, text =>
    match (skipItem text).map skipWs with
    | none => none
    | some [] => none
    | some (b :: rest) =>
      if b = close then some rest
      else if b ≠ ascii ',' then none
      else skipItems skipItem close turns (skipWs rest)

def skipBracketed (skipItem : Bytes → Option Bytes) (start close : UInt8) (text : Bytes) :
    Option Bytes := do
  let rest := skipWs (← expect start text)
  match expect close rest with
  | some rest => some rest
  | none => skipItems skipItem close text.length rest

def skipArray (skipElement : Bytes → Option Bytes) (text : Bytes) : Option Bytes :=
  skipBracketed skipElement (ascii '[') (ascii ']') text

/-- The key of a member, its colon, and the text of its value. -/
def memberKey (member : Bytes) : Option (Bytes × Bytes) := do
  let (key, rest) ← parseString member
  let rest ← expect (ascii ':') (skipWs rest)
  some (key, skipWs rest)

def skipMember (skipElement : Bytes → Option Bytes) (text : Bytes) : Option Bytes := do
  let (_, value) ← memberKey text
  skipElement value

def skipObject (skipElement : Bytes → Option Bytes) (text : Bytes) : Option Bytes :=
  skipBracketed (skipMember skipElement) openBrace closeBrace text

/-- `skip_value` at depth `d` is `skipValue (kMaxJsonDepth + 1 - d)`: the argument counts the levels
that may still be opened, so that `0` is the call that fails for its depth. -/
def skipValue : ℕ → Bytes → Option Bytes
  | 0, _ => none
  | levels + 1, value =>
    match skipWs value with
    | [] => none
    | b :: rest =>
      let value := b :: rest
      if b = quote then (parseString value).map Prod.snd
      else if b = openBrace then skipObject (skipValue levels) value
      else if b = ascii '[' then skipArray (skipValue levels) value
      else if b = ascii 't' then skipLiteral (text "true") value
      else if b = ascii 'f' then skipLiteral (text "false") value
      else if b = ascii 'n' then skipLiteral (text "null") value
      else skipNumber value

/-- The scan of a member's value: depth one. -/
def skipMemberValue (value : Bytes) : Option Bytes := skipValue kMaxJsonDepth value

def uint64Max : UInt64 := 18446744073709551615

def parseUint64Digits (result : UInt64) : Bytes → Option (UInt64 × Bytes)
  | [] => some (result, [])
  | b :: rest =>
    if isDigit b then
      let digit := (b - ascii '0').toUInt64
      if (uint64Max - digit) / 10 < result then none
      else parseUint64Digits (result * 10 + digit) rest
    else some (result, b :: rest)

def parseUint64 : Bytes → Option (UInt64 × Bytes)
  | [] => none
  | b :: rest => if isDigit b then parseUint64Digits 0 (b :: rest) else none

/-! ### HELLO -/

/-- The versions read so far. -/
structure HelloVersions where
  minVersion : Option UInt64 := none
  maxVersion : Option UInt64 := none
  deriving DecidableEq

def helloMember (key : Bytes) (versions : HelloVersions) (value : Bytes) :
    Option (HelloVersions × Bytes) :=
  if key = text "minVersion" then do
    let (parsed, rest) ← parseUint64 value
    if versions.minVersion.isSome then none
    else some ({ versions with minVersion := some parsed }, rest)
  else if key = text "maxVersion" then do
    let (parsed, rest) ← parseUint64 value
    if versions.maxVersion.isSome then none
    else some ({ versions with maxVersion := some parsed }, rest)
  else do
    let rest ← skipMemberValue value
    some (versions, rest)

def helloMembers : ℕ → HelloVersions → Bytes → Option (HelloVersions × Bytes)
  | 0, _, _ => none
  | turns + 1, versions, member => do
    let (key, value) ← memberKey member
    let (versions, rest) ← helloMember key versions value
    match skipWs rest with
    | [] => none
    | b :: rest =>
      if b = closeBrace then some (versions, rest)
      else if b ≠ ascii ',' then none
      else helloMembers turns versions (skipWs rest)

def parseHelloVersions (payload : Bytes) : Option (UInt64 × UInt64) := do
  let rest := skipWs (← expect openBrace (skipWs payload))
  if (expect closeBrace rest).isSome then none
  else
    let (versions, rest) ← helloMembers payload.length {} rest
    let minVersion ← versions.minVersion
    let maxVersion ← versions.maxVersion
    if skipWs rest = [] ∧ minVersion ≤ maxVersion then some (minVersion, maxVersion) else none

/-! ### REQUEST -/

structure ParsedRequest where
  requestId : UInt64 := 0
  method : Bytes := []
  paramsJson : Bytes := [openBrace, closeBrace]
  haveRequestId : Bool := false
  haveMethod : Bool := false
  haveParams : Bool := false
  deriving DecidableEq

inductive RequestParseError
  | none
  | invalidJson
  | duplicateRequestId
  | duplicateMethod
  | duplicateParams
  | invalidRequestId
  | invalidMethod
  | invalidParams
  | missingRequestId
  | missingMethod
  deriving DecidableEq, Repr

def requestErrorMessage : RequestParseError → String
  | .none => "none"
  | .invalidJson => "REQUEST payload is invalid JSON"
  | .duplicateRequestId => "requestId must appear exactly once"
  | .duplicateMethod => "method must appear exactly once"
  | .duplicateParams => "params must appear at most once"
  | .invalidRequestId => "requestId must be a non-zero uint64 integer"
  | .invalidMethod => "method must be a non-empty string"
  | .invalidParams => "params must be a JSON object"
  | .missingRequestId => "requestId is required"
  | .missingMethod => "method is required"

/-- A number goes on behind the digits that `parse_uint64` read. -/
def continuesNumber : Bytes → Bool
  | [] => false
  | next :: _ => next == ascii '.' || next == ascii 'e' || next == ascii 'E'

def requestIdMember (out : ParsedRequest) (value : Bytes) :
    Except RequestParseError (ParsedRequest × Bytes) :=
  if out.haveRequestId then .error .duplicateRequestId
  else
    match parseUint64 value with
    | none => .error .invalidRequestId
    | some (parsed, rest) =>
      if parsed = 0 then .error .invalidRequestId
      else if continuesNumber rest then .error .invalidRequestId
      else .ok ({ out with requestId := parsed, haveRequestId := true }, rest)

def methodMember (out : ParsedRequest) (value : Bytes) :
    Except RequestParseError (ParsedRequest × Bytes) :=
  if out.haveMethod then .error .duplicateMethod
  else
    match parseString value with
    | none => .error .invalidMethod
    | some (method, rest) =>
      if method = [] then .error .invalidMethod
      else .ok ({ out with method := method, haveMethod := true }, rest)

def paramsMember (out : ParsedRequest) (value : Bytes) :
    Except RequestParseError (ParsedRequest × Bytes) :=
  if out.haveParams then .error .duplicateParams
  else if (expect openBrace value).isNone then .error .invalidParams
  else
    match skipMemberValue value with
    | none => .error .invalidParams
    | some rest =>
      let paramsJson := value.take (value.length - rest.length)
      .ok ({ out with paramsJson := paramsJson, haveParams := true }, rest)

def requestMember (key : Bytes) (out : ParsedRequest) (value : Bytes) :
    Except RequestParseError (ParsedRequest × Bytes) :=
  if key = text "requestId" then requestIdMember out value
  else if key = text "method" then methodMember out value
  else if key = text "params" then paramsMember out value
  else
    match skipMemberValue value with
    | none => .error .invalidJson
    | some rest => .ok (out, rest)

/-- The end of `parse_request`, behind the closing brace. -/
def requestEnd (out : ParsedRequest) (rest : Bytes) : RequestParseError × ParsedRequest :=
  if skipWs rest ≠ [] then (.invalidJson, out)
  else if !out.haveRequestId then (.missingRequestId, out)
  else if !out.haveMethod then (.missingMethod, out)
  else (.none, out)

/-- The member loop of `parse_request`.  A failed member leaves the request as read so far, which is
where the answer's `requestId` comes from. -/
def requestMembers : ℕ → ParsedRequest → Bytes → RequestParseError × ParsedRequest
  | 0, out, _ => (.invalidJson, out)
  | turns + 1, out, member =>
    match memberKey member with
    | none => (.invalidJson, out)
    | some (key, value) =>
      match requestMember key out value with
      | .error parseError => (parseError, out)
      | .ok (out, rest) =>
        match skipWs rest with
        | [] => (.invalidJson, out)
        | b :: rest =>
          if b = closeBrace then requestEnd out rest
          else if b ≠ ascii ',' then (.invalidJson, out)
          else requestMembers turns out (skipWs rest)

def parseRequest (payload : Bytes) : RequestParseError × ParsedRequest :=
  match (expect openBrace (skipWs payload)).map skipWs with
  | none => (.invalidJson, {})
  | some rest =>
    if (expect closeBrace rest).isSome then (.missingRequestId, {})
    else requestMembers payload.length {} rest

end NetworkService.Ipc
