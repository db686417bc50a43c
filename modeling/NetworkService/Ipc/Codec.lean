import Mathlib.Algebra.Ring.Nat

/-!
# The NSP1 frame codec

Every v1 message is a frame: a header of twelve bytes (magic, version, type, zero flags and a
big-endian payload length) and the payload.  `encodeFrame` builds one, and `FrameDecoder` cuts
them out of a byte stream that arrives in pieces.

A `std::string` on the wire is the list of its bytes.
-/

namespace NetworkService.Ipc

abbrev Bytes := List UInt8

def ascii (c : Char) : UInt8 := c.toNat.toUInt8

/-- The bytes of a literal of the source; its characters are ASCII. -/
def text (s : String) : Bytes := s.toList.map ascii

/-- What `os << value` prints for a `uint64_t`. -/
def decimal (value : UInt64) : Bytes := text (toString value)

def kHeaderSize : Nat := 12

def kMaxPayloadBytes : Nat := 64 * 1024

def kProtocolVersion : UInt8 := 1

def kMagic : Bytes := text "NSP1"

inductive MessageType
  | hello
  | ready
  | request
  | response
  | event
  | error
  deriving DecidableEq, Repr

/-- The value of the enumerator. -/
def MessageType.toByte : MessageType → UInt8
  | hello => 1
  | ready => 2
  | request => 3
  | response => 4
  | event => 5
  | error => 6

inductive CodecError
  | none
  | invalidMagic
  | unsupportedVersion
  | invalidMessageType
  | nonZeroFlags
  | payloadTooLarge
  deriving DecidableEq, Repr

inductive DecodeStatus
  | needMore
  | frameReady
  | error
  deriving DecidableEq, Repr

structure FrameHeader where
  version : UInt8
  type : MessageType
  flags : UInt16
  payloadLength : UInt32
  deriving DecidableEq, Repr

structure Frame where
  header : FrameHeader
  payload : Bytes
  deriving DecidableEq, Repr

/-! ### Big-endian words -/

def readBe16 (p : Bytes) : UInt16 :=
  ((p.getD 0 0).toUInt16 <<< 8) ||| (p.getD 1 0).toUInt16

def readBe32 (p : Bytes) : UInt32 :=
  ((p.getD 0 0).toUInt32 <<< 24) ||| ((p.getD 1 0).toUInt32 <<< 16) |||
    ((p.getD 2 0).toUInt32 <<< 8) ||| (p.getD 3 0).toUInt32

def writeBe16 (value : UInt16) : Bytes :=
  [((value >>> 8) &&& 0xff).toUInt8, (value &&& 0xff).toUInt8]

def writeBe32 (value : UInt32) : Bytes :=
  [((value >>> 24) &&& 0xff).toUInt8, ((value >>> 16) &&& 0xff).toUInt8,
    ((value >>> 8) &&& 0xff).toUInt8, (value &&& 0xff).toUInt8]

/-! ### Headers and frames -/

def isValidMessageType (value : UInt8) : Bool :=
  MessageType.hello.toByte ≤ value && value ≤ MessageType.error.toByte

/-- The `static_cast<MessageType>` of a byte that passed `isValidMessageType`. -/
def MessageType.ofByte (value : UInt8) : MessageType :=
  if value = 1 then hello
  else if value = 2 then ready
  else if value = 3 then request
  else if value = 4 then response
  else if value = 5 then event
  else error

/-- The error `none` says that the header is not complete yet. -/
def decodeHeader (data : Bytes) : Except CodecError FrameHeader :=
  if data.length < kHeaderSize then .error .none
  else if data.take 4 ≠ kMagic then .error .invalidMagic
  else if data.getD 4 0 ≠ kProtocolVersion then .error .unsupportedVersion
  else if !isValidMessageType (data.getD 5 0) then .error .invalidMessageType
  else
    let flags := readBe16 (data.drop 6)
    if flags ≠ 0 then .error .nonZeroFlags
    else
      let payloadLength := readBe32 (data.drop 8)
      if kMaxPayloadBytes < payloadLength.toNat then .error .payloadTooLarge
      else .ok ⟨data.getD 4 0, .ofByte (data.getD 5 0), flags, payloadLength⟩

def encodeFrame (type : MessageType) (payload : Bytes) : Except CodecError Bytes :=
  if !isValidMessageType type.toByte then .error .invalidMessageType
  else if kMaxPayloadBytes < payload.length then .error .payloadTooLarge
  else
    .ok (kMagic ++ [kProtocolVersion, type.toByte] ++ writeBe16 0 ++
      writeBe32 payload.length.toUInt32 ++ payload)

/-- The encoders of the service answer an empty vector where the frame cannot be built. -/
def encodeJson (type : MessageType) (payload : Bytes) : Bytes :=
  match encodeFrame type payload with
  | .ok encoded => encoded
  | .error _ => []

/-! ### The decoder -/

structure FrameDecoder where
  buffer : Bytes := []
  frames : List Frame := []
  error : CodecError := .none
  deriving DecidableEq, Repr

namespace FrameDecoder

def status (decoder : FrameDecoder) : DecodeStatus :=
  if decoder.frames = [] then .needMore else .frameReady

/-- The loop of `parse_available`.  Every turn cuts a whole frame off the buffer, so the buffer's
length bounds the turns. -/
def parseLoop : ℕ → FrameDecoder → DecodeStatus × FrameDecoder
  | 0, decoder => (decoder.status, decoder)
  | turns + 1, decoder =>
    if decoder.buffer.length < kHeaderSize then (decoder.status, decoder)
    else
      match decodeHeader decoder.buffer with
      | .error .none => (decoder.status, decoder)
      | .error parseError => (.error, { decoder with error := parseError })
      | .ok header =>
        let frameSize := kHeaderSize + header.payloadLength.toNat
        if decoder.buffer.length < frameSize then (decoder.status, decoder)
        else
          let payload := (decoder.buffer.drop kHeaderSize).take header.payloadLength.toNat
          parseLoop turns { decoder with
            buffer := decoder.buffer.drop frameSize
            frames := decoder.frames ++ [⟨header, payload⟩] }

def parseAvailable (decoder : FrameDecoder) : DecodeStatus × FrameDecoder :=
  parseLoop decoder.buffer.length decoder

def feed (decoder : FrameDecoder) (data : Bytes) : DecodeStatus × FrameDecoder :=
  if decoder.error ≠ .none then (.error, decoder)
  else parseAvailable { decoder with buffer := decoder.buffer ++ data }

def hasFrame (decoder : FrameDecoder) : Bool := !decoder.frames.isEmpty

/-- `take_frame` throws when there is no frame. -/
def takeFrame (decoder : FrameDecoder) : Option (Frame × FrameDecoder) :=
  match decoder.frames with
  | [] => none
  | frame :: frames => some (frame, { decoder with frames := frames })

end FrameDecoder

end NetworkService.Ipc
