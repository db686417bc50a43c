import NetworkService.Ipc.FaithfulPayloads

/-!
# Every answer gives back what was put into it

The envelopes put a payload or an error text between their own members.  They print documents as
well, so that with the round trip of documents every text that goes out is valid to its end and gives
the names, the numbers and the bytes back.
-/

namespace NetworkService.Ipc

open Wifi Server

namespace Representation

/-! ### Payloads and envelopes -/

/-- A value with its encoder. -/
inductive Payload
  | snapshot (value : NetworkSnapshot)
  | stateChanges (value : NetworkStateChangeSet)
  | ping (value : PingInfo)
  | routePolicy (value : RoutePolicyInfo)
  | wpaEvents (value : WpaEventsView)
  | ethernetConfig (value : EthernetConfig)
  | wifiScan (value : List WifiApRecord)
  | wifiSaved (value : List WifiSavedNetwork)
  | wifiScanStatus (value : WifiScanStatus WifiApRecord)
  | wifiEnabled (value : WifiEnabledResult)
  | wifiCommand (value : WifiCommandResult)

def Payload.encoded : Payload → Bytes
  | .snapshot value => snapshotPayload value
  | .stateChanges value => stateChangesPayload value
  | .ping value => pingPayload value
  | .routePolicy value => routePolicyPayload value
  | .wpaEvents value => wpaEventsPayload value
  | .ethernetConfig value => ethernetConfigPayload value
  | .wifiScan value => wifiScanPayload value
  | .wifiSaved value => wifiSavedPayload value
  | .wifiScanStatus value => wifiScanStatusPayload value
  | .wifiEnabled value => wifiEnabledPayload value
  | .wifiCommand value => wifiCommandPayload value

def Payload.document : Payload → Document
  | .snapshot value => snapshotDocument value
  | .stateChanges value => stateChangesDocument value
  | .ping value => pingDocument value
  | .routePolicy value => routePolicyDocument value
  | .wpaEvents value => wpaEventsDocument value
  | .ethernetConfig value => ethernetConfigDocument value
  | .wifiScan value => wifiScanDocument value
  | .wifiSaved value => wifiSavedDocument value
  | .wifiScanStatus value => wifiScanStatusDocument value
  | .wifiEnabled value => wifiEnabledDocument value
  | .wifiCommand value => wifiCommandDocument value

/-- The events that the server broadcasts. -/
inductive BroadcastEvent
  | stateChanged
  | eventsSubscribed

def BroadcastEvent.name : BroadcastEvent → String
  | .stateChanged => "network.state.changed"
  | .eventsSubscribed => "network.events.subscribed"

/-- What a payload is sent in. -/
inductive Envelope
  | alone
  | v0 (status : Int)
  | response (requestId : UInt64) (status : Int)
  | snapshot (requestId generation snapshotSeq : UInt64)
  | event (broadcast : BroadcastEvent) (generation seq : UInt64)

def Envelope.wrap (payload : Bytes) : Envelope → Bytes
  | .alone => payload
  | .v0 status => v0Success status payload
  | .response requestId status => businessText requestId status (resultOutcome payload)
  | .snapshot requestId generation snapshotSeq =>
    snapshotJson requestId generation snapshotSeq payload
  | .event broadcast generation seq => EventRecord.json ⟨text broadcast.name, generation, seq, payload⟩

def Envelope.document (payload : Document) : Envelope → Document
  | .alone => payload
  | .v0 status => .object [member "status" (.number status), member "result" payload]
  | .response requestId status =>
    .object [member "requestId" (.number requestId.toNat), member "status" (.number status),
      member "result" payload]
  | .snapshot requestId generation snapshotSeq =>
    .object [member "requestId" (.number requestId.toNat), member "status" (.number 200),
      member "result" (.object [member "generation" (.number generation.toNat),
        member "snapshotSeq" (.number snapshotSeq.toNat), member "snapshot" payload])]
  | .event broadcast generation seq =>
    .object [member "event" (stringOf broadcast.name), member "generation" (.number generation.toNat),
      member "seq" (.number seq.toNat), member "payload" payload]

theorem Payload.encoded_eq (payload : Payload) : payload.encoded = payload.document.print := by
  cases payload with
  | snapshot value => exact snapshotPayload_eq value
  | stateChanges value => exact stateChangesPayload_eq value
  | ping value => exact pingPayload_eq value
  | routePolicy value => exact routePolicyPayload_eq value
  | wpaEvents value => exact wpaEventsPayload_eq value
  | ethernetConfig value => exact ethernetConfigPayload_eq value
  | wifiScan value => exact wifiScanPayload_eq value
  | wifiSaved value => exact wifiSavedPayload_eq value
  | wifiScanStatus value => exact wifiScanStatusPayload_eq value
  | wifiEnabled value => exact wifiEnabledPayload_eq value
  | wifiCommand value => exact wifiCommandPayload_eq value

theorem v0Success_print (status : Int) (payload : Document) :
    v0Success status payload.print = ((Envelope.v0 status).document payload).print := by
  unfold v0Success Envelope.document
  simp only [member, print_object, printMore, print_number_append, List.append_assoc]
  simp (disch := exact rfl) only [text_literal, List.map_cons, List.map_nil]
  simp

theorem businessText_print (requestId : UInt64) (status : Int) (payload : Document) :
    businessText requestId status (resultOutcome payload.print) =
      ((Envelope.response requestId status).document payload).print := by
  unfold businessText resultOutcome Envelope.document
  simp only [member, print_object, printMore, print_number_append, decimal_eq_number,
    List.append_assoc]
  simp (disch := exact rfl) only [text_literal, List.map_cons, List.map_nil]
  simp [number]

theorem snapshotJson_print (requestId generation snapshotSeq : UInt64) (payload : Document) :
    snapshotJson requestId generation snapshotSeq payload.print =
      ((Envelope.snapshot requestId generation snapshotSeq).document payload).print := by
  have hok : number 200 = text "200" := rfl
  unfold snapshotJson Envelope.document
  simp only [member, print_object, printMore, print_number_append, decimal_eq_number, hok,
    List.append_assoc]
  simp (disch := exact rfl) only [text_literal, List.map_cons, List.map_nil]
  simp

theorem eventEscape_letter {c : Char} {value : Bytes}
    (h : 35 ≤ c.toNat ∧ c.toNat ≤ 126 ∧ c.toNat ≠ 92) :
    NetworkService.Ipc.jsonEscape (ascii c :: value) =
      ascii c :: NetworkService.Ipc.jsonEscape value := by
  have hne := ascii_ne h
  unfold NetworkService.Ipc.jsonEscape
  rw [List.flatMap_cons, if_neg (hne _ (by decide)), if_neg (hne _ (by decide)),
    if_neg (hne _ (by decide)), if_neg (hne _ (by decide)), if_neg (hne _ (by decide)),
    if_neg (hne _ (by decide)), if_neg (hne _ (by decide)), if_neg (ascii_not_control h)]
  rfl

/-- The names of the events need no escapes, of either kind. -/
theorem escape_eventName (broadcast : BroadcastEvent) :
    NetworkService.Ipc.jsonEscape (text broadcast.name) = text broadcast.name ∧
      jsonEscape (text broadcast.name) = text broadcast.name := by
  have hnil : NetworkService.Ipc.jsonEscape [] = [] := rfl
  cases broadcast <;>
    · simp (disch := exact rfl) only [BroadcastEvent.name, text_literal, List.map_cons, List.map_nil]
      simp [eventEscape_letter, hnil]

theorem eventJson_print (broadcast : BroadcastEvent) (generation seq : UInt64) (payload : Document) :
    EventRecord.json ⟨text broadcast.name, generation, seq, payload.print⟩ =
      ((Envelope.event broadcast generation seq).document payload).print := by
  obtain ⟨hevent, hpayload⟩ := escape_eventName broadcast
  unfold EventRecord.json Envelope.document
  simp only [member, stringOf, print_object, printMore, print_string_append, print_number_append,
    decimal_eq_number, hevent, hpayload, List.append_assoc]
  simp (disch := exact rfl) only [text_literal, List.map_cons, List.map_nil]
  simp

theorem Envelope.wrap_print (payload : Document) (envelope : Envelope) :
    envelope.wrap payload.print = (envelope.document payload).print := by
  cases envelope with
  | alone => rfl
  | v0 status => exact v0Success_print status payload
  | response requestId status => exact businessText_print requestId status payload
  | snapshot requestId generation snapshotSeq =>
    exact snapshotJson_print requestId generation snapshotSeq payload
  | event broadcast generation seq => exact eventJson_print broadcast generation seq payload

/-! ### Errors -/

/-- The codes of the dispatcher's errors. -/
inductive ErrorCode
  | operationFailed
  | invalidParams
  | methodNotFound

def ErrorCode.name : ErrorCode → String
  | .operationFailed => "OPERATION_FAILED"
  | .invalidParams => "INVALID_PARAMS"
  | .methodNotFound => "METHOD_NOT_FOUND"

/-- What an error message is sent in. -/
inductive ErrorEnvelope
  | v0 (status : Int)
  | response (requestId : UInt64) (status : Int) (code : ErrorCode)

def ErrorEnvelope.wrap (message : Bytes) : ErrorEnvelope → Bytes
  | .v0 status => v0Error status message
  | .response requestId status code =>
    businessText requestId status (errorOutcome code.name message)

def ErrorEnvelope.document (message : Bytes) : ErrorEnvelope → Document
  | .v0 status => .object [member "status" (.number status), member "error" (.string message)]
  | .response requestId status code =>
    .object [member "requestId" (.number requestId.toNat), member "status" (.number status),
      member "error" (.object [member "code" (stringOf code.name),
        member "message" (.string message)])]

theorem escape_errorCode (code : ErrorCode) : jsonEscape (text code.name) = text code.name := by
  cases code <;>
    · simp (disch := exact rfl) only [ErrorCode.name, text_literal, List.map_cons, List.map_nil]
      simp

theorem ErrorEnvelope.wrap_print (message : Bytes) (envelope : ErrorEnvelope) :
    envelope.wrap message = (envelope.document message).print := by
  cases envelope with
  | v0 status =>
    unfold ErrorEnvelope.wrap ErrorEnvelope.document v0Error
    simp only [member, print_object, printMore, print_string_append, print_number_append,
      List.append_assoc]
    simp (disch := exact rfl) only [text_literal, List.map_cons, List.map_nil]
    simp
  | response requestId status code =>
    unfold ErrorEnvelope.wrap ErrorEnvelope.document businessText errorOutcome
    simp only [member, stringOf, print_object, printMore, print_string_append, print_number_append,
      decimal_eq_number, escape_errorCode, List.append_assoc]
    simp (disch := exact rfl) only [text_literal, List.map_cons, List.map_nil]
    simp [number]

/-! ### How deep the documents are -/

theorem depthEach_map_le {Record : Type} {document : Record → Document} {d : ℕ}
    (h : ∀ record, (document record).depth ≤ d) (records : List Record) :
    Document.depthEach (records.map document) ≤ d := by
  induction records with
  | nil => exact Nat.zero_le d
  | cons record records ih =>
    rw [List.map_cons, Document.depthEach]
    exact Nat.max_le.mpr ⟨h record, ih⟩

theorem wifiScanDocument_depth_le (records : List WifiApRecord) :
    (wifiScanDocument records).depth ≤ 4 := by
  have haps : Document.depthEach (records.map apDocument) ≤ 2 := depthEach_map_le (fun _ => by
    simp [apDocument, stringOf, member, Document.depth, Document.depthMembers]) records
  simp [wifiScanDocument, member, Document.depth, Document.depthMembers]
  omega

theorem wifiSavedDocument_depth_le (records : List WifiSavedNetwork) :
    (wifiSavedDocument records).depth ≤ 4 := by
  have hsaved : Document.depthEach (records.map savedDocument) ≤ 2 := depthEach_map_le (fun _ => by
    simp [savedDocument, stringOf, member, Document.depth, Document.depthMembers]) records
  simp [wifiSavedDocument, member, Document.depth, Document.depthMembers]
  omega

theorem Payload.depth_le (payload : Payload) : payload.document.depth ≤ 5 := by
  cases payload with
  | stateChanges value =>
    have hnames : Document.depthEach (value.categories.map stringOf) ≤ 1 :=
      depthEach_map_le (fun _ => Nat.le_refl 1) _
    simp [Payload.document, stateChangesDocument, member, Document.depth, Document.depthMembers]
    omega
  | wifiScan value => exact Nat.le_succ_of_le (wifiScanDocument_depth_le value)
  | wifiSaved value => exact Nat.le_succ_of_le (wifiSavedDocument_depth_le value)
  | wifiScanStatus value =>
    have hscan := wifiScanDocument_depth_le value.records
    simp [Payload.document, wifiScanStatusDocument, stringOf, member, Document.depth,
      Document.depthMembers]
    omega
  | wifiCommand value =>
    show (wifiCommandDocument value).depth ≤ 5
    unfold wifiCommandDocument
    split <;> simp [stringOf, member, Document.depth, Document.depthMembers]
  | snapshot value =>
    simp [Payload.document, snapshotDocument, ifaceDocument, stringOf, member, Document.depth,
      Document.depthMembers]
  | ping value => simp [Payload.document, pingDocument, stringOf, member, Document.depth,
      Document.depthMembers]
  | routePolicy value => simp [Payload.document, routePolicyDocument, stringOf, member,
      Document.depth, Document.depthMembers]
  | wpaEvents value => simp [Payload.document, wpaEventsDocument, stringOf, member, Document.depth,
      Document.depthMembers]
  | ethernetConfig value => simp [Payload.document, ethernetConfigDocument, stringOf, member,
      Document.depth, Document.depthMembers]
  | wifiEnabled value => simp [Payload.document, wifiEnabledDocument, member, Document.depth,
      Document.depthMembers]

theorem Envelope.depth_le (payload : Document) (envelope : Envelope) :
    (envelope.document payload).depth ≤ payload.depth + 2 := by
  have hpos : 0 < payload.depth := by
    cases payload <;> simp [Document.depth]
  cases envelope with
  | alone => exact Nat.le_add_right _ _
  | v0 status =>
    simp only [Envelope.document, member, Document.depth, Document.depthMembers]
    omega
  | response requestId status =>
    simp only [Envelope.document, member, Document.depth, Document.depthMembers]
    omega
  | snapshot requestId generation snapshotSeq =>
    simp only [Envelope.document, member, Document.depth, Document.depthMembers]
    omega
  | event broadcast generation seq =>
    simp only [Envelope.document, stringOf, member, Document.depth, Document.depthMembers]
    omega

theorem ErrorEnvelope.depth_le (message : Bytes) (envelope : ErrorEnvelope) :
    (envelope.document message).depth ≤ 3 := by
  cases envelope <;>
    simp [ErrorEnvelope.document, stringOf, member, Document.depth, Document.depthMembers]

/-! ### Faithful texts -/

/-- The parameter reader passes over the text to its end, and it is read back as the document. -/
def Faithful (encoded : Bytes) (document : Document) : Prop :=
  JsonReader.skipValue (kMaxJsonDepth + 1) encoded = some [] ∧
    JsonReader.readDocument encoded = some document

theorem faithful_print {document : Document} (h : document.depth ≤ kMaxJsonDepth + 1) :
    Faithful document.print document := (JsonReader.readDocument_print h).symm

/-- **The encoders are faithful.**  For every value of every payload type and every error message, in
each of its envelopes, the text is a valid one, and reading it gives exactly the fixed names with the
values, the lists in order behind their length. -/
theorem encoders_faithful :
    (∀ (payload : Payload) (envelope : Envelope),
      Faithful (envelope.wrap payload.encoded) (envelope.document payload.document)) ∧
    ∀ (message : Bytes) (envelope : ErrorEnvelope),
      Faithful (envelope.wrap message) (envelope.document message) := by
  constructor
  · intro payload envelope
    rw [Payload.encoded_eq, Envelope.wrap_print]
    apply faithful_print
    have hpayload := Payload.depth_le payload
    have henvelope := Envelope.depth_le payload.document envelope
    unfold kMaxJsonDepth
    omega
  · intro message envelope
    rw [ErrorEnvelope.wrap_print]
    apply faithful_print
    have henvelope := ErrorEnvelope.depth_le message envelope
    unfold kMaxJsonDepth
    omega

end Representation

end NetworkService.Ipc
