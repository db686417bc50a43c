import NetworkService.Ipc.RequestText
import NetworkService.Types

/-!
# The dispatcher of business requests

`dispatch_business_request` reads the parameters of a request with a JSON reader of its own, asks the
daemon and prints the answer.  The daemon is a function from the call to its outcome.
-/

namespace NetworkService.Ipc

/-! ### The parameter reader -/

namespace JsonReader

/-- The bytes that `append_utf8` pushes. -/
def appendUtf8 (cp : Nat) : Option Bytes :=
  if 0x10ffff < cp ∨ (0xd800 ≤ cp ∧ cp ≤ 0xdfff) then none
  else if cp ≤ 0x7f then some [cp.toUInt8]
  else if cp ≤ 0x7ff then some [(0xc0 ||| cp >>> 6).toUInt8, (0x80 ||| cp &&& 0x3f).toUInt8]
  else if cp ≤ 0xffff then
    some [(0xe0 ||| cp >>> 12).toUInt8, (0x80 ||| cp >>> 6 &&& 0x3f).toUInt8,
      (0x80 ||| cp &&& 0x3f).toUInt8]
  else
    some [(0xf0 ||| cp >>> 18).toUInt8, (0x80 ||| cp >>> 12 &&& 0x3f).toUInt8,
      (0x80 ||| cp >>> 6 &&& 0x3f).toUInt8, (0x80 ||| cp &&& 0x3f).toUInt8]

def hexValue (c : UInt8) : Option Nat :=
  if ascii '0' ≤ c ∧ c ≤ ascii '9' then some (c - ascii '0').toNat
  else if ascii 'a' ≤ c ∧ c ≤ ascii 'f' then some ((c - ascii 'a').toNat + 10)
  else if ascii 'A' ≤ c ∧ c ≤ ascii 'F' then some ((c - ascii 'A').toNat + 10)
  else none

/-- The value of four digits. -/
def parseHex4 (h₀ h₁ h₂ h₃ : UInt8) : Option Nat := do
  let v₀ ← hexValue h₀
  let v₁ ← hexValue h₁
  let v₂ ← hexValue h₂
  let v₃ ← hexValue h₃
  some (((v₀ <<< 4 ||| v₁) <<< 4 ||| v₂) <<< 4 ||| v₃)

/-- The loop of `parse_string`, behind the opening quote. -/
def parseStringBody (out : Bytes) : Bytes → Option (Bytes × Bytes)
  | [] => none
  | c :: rest =>
    if c = quote then some (out, rest)
    else if c < 0x20 then none
    else if c ≠ backslash then parseStringBody (out ++ [c]) rest
    else
      match rest with
      | [] => none
      | escaped :: rest =>
        if escaped = ascii 'u' then
          match rest with
          | h₀ :: h₁ :: h₂ :: h₃ :: rest =>
            match parseHex4 h₀ h₁ h₂ h₃ with
            | none => none
            | some first =>
              if 0xd800 ≤ first ∧ first ≤ 0xdbff then
                match rest with
                | b :: u :: l₀ :: l₁ :: l₂ :: l₃ :: rest =>
                  if b ≠ backslash ∨ u ≠ ascii 'u' then none
                  else
                    match parseHex4 l₀ l₁ l₂ l₃ with
                    | none => none
                    | some second =>
                      if second < 0xdc00 ∨ 0xdfff < second then none
                      else
                        match appendUtf8 (0x10000 + (first - 0xd800) <<< 10 + (second - 0xdc00)) with
                        | none => none
                        | some pushed => parseStringBody (out ++ pushed) rest
                | _ => none
              else
                match appendUtf8 first with
                | none => none
                | some pushed => parseStringBody (out ++ pushed) rest
          | _ => none
        else
          match simpleEscape escaped with
          | some b => parseStringBody (out ++ [b]) rest
          | none => none

def parseString (text : Bytes) : Option (Bytes × Bytes) := do
  parseStringBody [] (← expect quote text)

/-- A zero stands alone. -/
def skipInteger : Bytes → Option Bytes
  | [] => none
  | b :: rest =>
    if b = ascii '0' then
      match rest with
      | [] => some []
      | c :: _ => if isDigit c then none else some rest
    else if isDigit b then some (skipDigits rest)
    else none

def skipNumber (text : Bytes) : Option Bytes := do
  skipExponent (← skipFraction (← skipInteger (skipMinus text)))

/-- The key of a member, its colon, and the text of its value. -/
def memberKey (member : Bytes) : Option (Bytes × Bytes) := do
  let (key, rest) ← parseString member
  let rest ← expect (ascii ':') (skipWs rest)
  some (key, skipWs rest)

def skipMember (skipElement : Bytes → Option Bytes) (text : Bytes) : Option Bytes := do
  let (_, value) ← memberKey text
  skipElement value

/-- `skip_value` at depth `d` is `skipValue (kMaxJsonDepth + 1 - d)`. -/
def skipValue : ℕ → Bytes → Option Bytes
  | 0, _ => none
  | _ + 1, [] => none
  | levels + 1, b :: rest =>
    let value := b :: rest
    if b = openBrace then skipBracketed (skipMember (skipValue levels)) openBrace closeBrace value
    else if b = ascii '[' then skipBracketed (skipValue levels) (ascii '[') (ascii ']') value
    else if b = quote then (parseString value).map Prod.snd
    else if b = ascii 't' then skipLiteral (text "true") value
    else if b = ascii 'f' then skipLiteral (text "false") value
    else if b = ascii 'n' then skipLiteral (text "null") value
    else skipNumber value

/-- The member loop of `find_member`; `found` is the text of the wanted value. -/
def findMembers (wanted : Bytes) : ℕ → Option Bytes → Bytes → Option (Option Bytes × Bytes)
  | 0, _, _ => none
  | turns + 1, found, member => do
    let (key, value) ← memberKey member
    let rest ← skipValue (kMaxJsonDepth + 1) value
    if key = wanted ∧ found.isSome then none
    else
      let found := if key = wanted then some (value.take (value.length - rest.length)) else found
      match skipWs rest with
      | [] => none
      | b :: rest =>
        if b = closeBrace then some (found, rest)
        else if b ≠ ascii ',' then none
        else findMembers wanted turns found (skipWs rest)

def findMember (object wanted : Bytes) : Option Bytes := do
  let rest := skipWs (← expect openBrace (skipWs object))
  if (expect closeBrace rest).isSome then none
  else
    let (found, rest) ← findMembers wanted object.length none rest
    if skipWs rest = [] then found else none

def parseFullString (raw : Bytes) : Option Bytes := do
  let (out, rest) ← parseString (skipWs raw)
  if skipWs rest = [] then some out else none

end JsonReader

/-- The key is a C string: its bytes, without the NUL behind them. -/
def readString (object key : Bytes) : Option Bytes := do
  JsonReader.parseFullString (← JsonReader.findMember object key)

def readBool (object key : Bytes) : Option Bool := do
  let raw ← JsonReader.findMember object key
  if raw = text "true" then some true
  else if raw = text "false" then some false
  else none

/-- A string that is not empty, as the source asks of every `ssid`. -/
def readNonEmptyString (object key : Bytes) : Option Bytes := do
  let value ← readString object key
  if value = [] then none else some value

/-! ### Calls of the daemon -/

inductive DaemonCall
  | routePolicyGet
  | routePolicyApply (policy : RoutePolicy)
  | ethGetConfig
  | ethSetDhcp
  | ethSetStatic (ip mask gateway dns : Bytes)
  | wifiScanStart
  | wifiScanStatus
  | wifiSetEnabled (enabled : Bool)
  | wifiConnect (ssid password : Bytes)
  | wifiConnectSaved (ssid : Bytes)
  | wifiListSaved
  | wifiForget (ssid : Bytes)
  | wifiSetAutoconnect (ssid : Bytes) (enabled : Bool)
  | wifiDisconnect
  deriving DecidableEq

/-- `NetworkOperationResult`, with the value as its payload encoder prints it. -/
structure OperationResult where
  status : Int := 200
  payload : Bytes := []
  error : Bytes := []
  deriving DecidableEq

def OperationResult.ok (result : OperationResult) : Bool :=
  200 ≤ result.status && result.status < 300

/-- A request that is answered without the daemon. -/
structure Rejection where
  status : Int
  code : String
  message : String

def invalidParams (message : String) : Rejection := ⟨400, "INVALID_PARAMS", message⟩

def parseProductRoutePolicy (value : Bytes) : Option RoutePolicy :=
  if value = text "ethernet_preferred" then some .ethernetPreferred
  else if value = text "wifi_preferred" then some .wifiPreferred
  else if value = text "wifi_only" then some .wifiOnly
  else none

/-- The call with its parameters, or the complaint about them. -/
def withParams (call : Option DaemonCall) (message : String) : Except Rejection DaemonCall :=
  match call with
  | some call => .ok call
  | none => .error (invalidParams message)

/-- What `dispatch_business_request` asks of the daemon. -/
def businessCall (method params : Bytes) : Except Rejection DaemonCall :=
  if method = text "network.route_policy.get" then .ok .routePolicyGet
  else if method = text "network.route_policy.apply" then
    withParams
      (do
        let policy ← parseProductRoutePolicy (← readString params (text "policy"))
        some (.routePolicyApply policy))
      ("network.route_policy.apply requires policy ethernet_preferred, wifi_preferred, or " ++
        "wifi_only")
  else if method = text "eth.get_config" then .ok .ethGetConfig
  else if method = text "eth.set_dhcp" then .ok .ethSetDhcp
  else if method = text "eth.set_static" then
    withParams
      (do
        let ip ← readString params (text "ip")
        let mask ← readString params (text "mask")
        let gateway ← readString params (text "gateway")
        let dns ← readString params (text "dns")
        some (.ethSetStatic ip mask gateway dns))
      "eth.set_static requires string ip/mask/gateway/dns"
  else if method = text "wifi.scan.start" then .ok .wifiScanStart
  else if method = text "wifi.scan.status" then .ok .wifiScanStatus
  else if method = text "wifi.set_enabled" then
    withParams
      (do
        let enabled ← readBool params (text "enabled")
        some (.wifiSetEnabled enabled))
      "wifi.set_enabled requires boolean enabled"
  else if method = text "wifi.connect" then
    withParams
      (do
        let ssid ← readNonEmptyString params (text "ssid")
        let password ← readString params (text "password")
        some (.wifiConnect ssid password))
      "wifi.connect requires non-empty string ssid and string password"
  else if method = text "wifi.connect_saved" then
    withParams
      (do
        let ssid ← readNonEmptyString params (text "ssid")
        some (.wifiConnectSaved ssid))
      "wifi.connect_saved requires non-empty string ssid"
  else if method = text "wifi.saved_list" then .ok .wifiListSaved
  else if method = text "wifi.forget" then
    withParams
      (do
        let ssid ← readNonEmptyString params (text "ssid")
        some (.wifiForget ssid))
      "wifi.forget requires non-empty string ssid"
  else if method = text "wifi.autoconnect" then
    withParams
      (do
        let ssid ← readNonEmptyString params (text "ssid")
        let enabled ← readBool params (text "enabled")
        some (.wifiSetAutoconnect ssid enabled))
      "wifi.autoconnect requires non-empty string ssid and boolean enabled"
  else if method = text "wifi.disconnect" then .ok .wifiDisconnect
  else .error ⟨404, "METHOD_NOT_FOUND", "unknown method"⟩

/-! ### The answer -/

namespace Representation

def hexDigit (n : UInt8) : UInt8 := (text "0123456789abcdef").getD n.toNat 0

/-- `json_escape` of the payload encoders. -/
def jsonEscape (value : Bytes) : Bytes :=
  value.flatMap fun ch =>
    if ch = backslash then [backslash, backslash]
    else if ch = quote then [backslash, quote]
    else if ch = 0x08 then [backslash, ascii 'b']
    else if ch = 0x0c then [backslash, ascii 'f']
    else if ch = 0x0a then [backslash, ascii 'n']
    else if ch = 0x0d then [backslash, ascii 'r']
    else if ch = 0x09 then [backslash, ascii 't']
    else if ch < 0x20 then
      text "\\u00" ++ [hexDigit ((ch >>> 4) &&& 0x0f), hexDigit (ch &&& 0x0f)]
    else [ch]

end Representation

/-- Every answer of the dispatcher begins with the id and the status of its request. -/
def businessText (requestId : UInt64) (status : Int) (outcome : Bytes) : Bytes :=
  text "\x7b\"requestId\":" ++ decimal requestId ++ text ",\"status\":" ++ text (toString status) ++
    outcome

def errorOutcome (code : String) (message : Bytes) : Bytes :=
  text ",\"error\":\x7b\"code\":\"" ++ text code ++ text "\",\"message\":\"" ++
    Representation.jsonEscape message ++ text "\"\x7d\x7d"

def resultOutcome (payload : Bytes) : Bytes := text ",\"result\":" ++ payload ++ text "\x7d"

/-- The payload of the RESPONSE to a business request. -/
def businessResponse (daemon : DaemonCall → OperationResult) (requestId : UInt64)
    (method params : Bytes) : Bytes :=
  match businessCall method params with
  | .error rejection =>
    businessText requestId rejection.status (errorOutcome rejection.code (text rejection.message))
  | .ok call =>
    let result := daemon call
    if !result.ok then
      businessText requestId result.status (errorOutcome "OPERATION_FAILED" result.error)
    else businessText requestId result.status (resultOutcome result.payload)

def dispatchBusinessRequest (daemon : DaemonCall → OperationResult) (requestId : UInt64)
    (method params : Bytes) : Bytes :=
  encodeJson .response (businessResponse daemon requestId method params)

theorem businessResponse_eq (daemon : DaemonCall → OperationResult) (requestId : UInt64)
    (method params : Bytes) :
    ∃ status outcome,
      businessResponse daemon requestId method params = businessText requestId status outcome := by
  unfold businessResponse
  split
  · exact ⟨_, _, rfl⟩
  · simp only
    split
    · exact ⟨_, _, rfl⟩
    · exact ⟨_, _, rfl⟩

end NetworkService.Ipc
