import RyuLdn.ProtocolCodec
import RyuLdn.ProtocolTypes

/-! The decoders of `ryu_protocol.hpp` that return a payload, and the agreement of
all encoders with all decoders. A structure template parameter is its size: the
decoders copy `sizeof(T)` bytes and never look inside. -/
namespace RyuLdn.ProtocolRoundTrip

open LittleEndian StreamFraming ProtocolTypes ProtocolCodec

def encodeHeaderOnly (bufferSize : Nat) (type : PacketId) : EncodeResult × List UInt8 :=
  if bufferSize < headerSize then (.bufferTooSmall, []) else (.success, encodeHeader type 0)

def encodeProxyData (bufferSize : Nat) (info : ProxyInfo) (data : List UInt8) :
    EncodeResult × List UInt8 :=
  encodeWithData bufferSize .proxyData
    (ProxyDataHeader.image ⟨info, UInt32.ofNat data.length⟩) data

/-- A pointer into the input buffer with its length; `none` is `nullptr`. -/
structure View where
  offset : Option Nat
  size : Nat
  deriving DecidableEq, Repr

def View.null : View := ⟨none, 0⟩

def View.bytes (view : View) (buffer : List UInt8) : List UInt8 :=
  match view.offset with
  | none => []
  | some offset => (buffer.drop offset).take view.size

/-- `memcpy(&payload, buffer + sizeof(LdnHeader), sizeof(T))`. -/
def payloadImage (structSize : Nat) (buffer : List UInt8) : List UInt8 :=
  (buffer.drop headerSize).take structSize

/-- `decode<T>`; the payload is `none` where the source leaves the output alone. -/
def decode (structSize : Nat) (buffer : List UInt8) :
    DecodeResult × LdnHeader × Option (List UInt8) :=
  match decodeHeader buffer with
  | (.success, header) =>
      if buffer.length < headerSize + structSize then (.bufferTooSmall, header, none)
      else (.success, header, some (payloadImage structSize buffer))
  | (result, header) => (result, header, none)

def decodeWithData (structSize : Nat) (buffer : List UInt8) :
    DecodeResult × LdnHeader × Option (List UInt8) × View :=
  match decodeHeader buffer with
  | (.success, header) =>
      if buffer.length < headerSize + structSize then (.bufferTooSmall, header, none, .null)
      else
        let payload := payloadImage structSize buffer
        let totalPayload := header.dataSize.toNat
        if totalPayload > structSize then
          if buffer.length < headerSize + totalPayload then
            (.incompletePacket, header, some payload, .null)
          else
            (.success, header, some payload,
              ⟨some (headerSize + structSize), totalPayload - structSize⟩)
        else (.success, header, some payload, .null)
  | (result, header) => (result, header, none, .null)

def decodeRaw (buffer : List UInt8) : DecodeResult × LdnHeader × View :=
  match decodeHeader buffer with
  | (.success, header) =>
      let dataSize := header.dataSize.toNat
      if buffer.length < headerSize + dataSize then (.incompletePacket, header, .null)
      else (.success, header, ⟨if dataSize > 0 then some headerSize else none, dataSize⟩)
  | (result, header) => (result, header, .null)

def getPacketType (buffer : List UInt8) : Option PacketId :=
  PacketId.ofByte (LdnHeader.ofImage buffer).type

/-- One call of one of the encoders, without the output buffer. -/
inductive Request where
  | headerOnly (type : PacketId)
  | struct (type : PacketId) (payload : List UInt8)
  | withData (type : PacketId) (payload extraData : List UInt8)
  | raw (type : PacketId) (data : List UInt8)
  | proxyData (info : ProxyInfo) (data : List UInt8)

def Request.encode (bufferSize : Nat) : Request → EncodeResult × List UInt8
  | .headerOnly type => encodeHeaderOnly bufferSize type
  | .struct type payload => ProtocolCodec.encode bufferSize type payload
  | .withData type payload extraData => encodeWithData bufferSize type payload extraData
  | .raw type data => encodeRaw bufferSize type data
  | .proxyData info data => encodeProxyData bufferSize info data

def Request.type : Request → PacketId
  | .headerOnly type => type
  | .struct type _ => type
  | .withData type _ _ => type
  | .raw type _ => type
  | .proxyData _ _ => .proxyData

/-- The structure at the front of the payload; raw packets have none. -/
def Request.payload : Request → List UInt8
  | .headerOnly _ => []
  | .struct _ payload => payload
  | .withData _ payload _ => payload
  | .raw _ _ => []
  | .proxyData info data => ProxyDataHeader.image ⟨info, UInt32.ofNat data.length⟩

def Request.extra : Request → List UInt8
  | .headerOnly _ => []
  | .struct _ _ => []
  | .withData _ _ extraData => extraData
  | .raw _ data => data
  | .proxyData _ data => data

def Request.size (request : Request) : Nat := request.payload.length + request.extra.length

def Request.header (request : Request) : LdnHeader :=
  ⟨protocolMagic, request.type.toByte, protocolVersion, 0, request.size⟩

def Request.wire (request : Request) : List UInt8 :=
  encodeHeader request.type request.size ++ request.payload ++ request.extra

theorem Request.encode_eq (request : Request) (bufferSize : Nat) :
    request.encode bufferSize =
      if bufferSize < headerSize + request.size then (.bufferTooSmall, [])
      else (.success, request.wire) := by
  cases request <;>
    simp [Request.encode, encodeHeaderOnly, ProtocolCodec.encode, encodeWithData, encodeRaw,
      encodeProxyData, Request.wire, Request.size, Request.type, Request.payload, Request.extra,
      Nat.add_assoc]

@[simp] theorem Request.length_wire (request : Request) :
    request.wire.length = headerSize + request.size := by
  simp [Request.wire, Request.size]

section Decoding

variable {request : Request} (small : request.size ≤ maxPacketSize) (later : List UInt8)
include small

theorem decodeHeader_wire :
    decodeHeader (request.wire ++ later) = (.success, request.header) := by
  unfold Request.wire
  rw [List.append_assoc, List.append_assoc]
  exact decodeHeader_encodeHeader request.type small _

theorem checkCompletePacket_wire :
    checkCompletePacket (request.wire ++ later) = (.success, headerSize + request.size) := by
  rw [checkCompletePacket_success, decodeHeader_wire small later]
  simp [Request.header]

theorem checkCompletePacket_take {n : Nat} (short : n < request.wire.length) :
    (checkCompletePacket (request.wire.take n)).1 = .incompletePacket ∨
      (checkCompletePacket (request.wire.take n)).1 = .bufferTooSmall := by
  have length : (request.wire.take n).length = n := by
    rw [List.length_take]
    omega
  rw [checkCompletePacket_eq]
  by_cases long : headerSize ≤ n
  · have seen := decodeHeader_append (by rw [length]; exact long) (request.wire.drop n)
    rw [List.take_append_drop] at seen
    have whole := decodeHeader_wire small []
    rw [List.append_nil, seen] at whole
    rw [Request.length_wire] at short
    simp [whole, Request.header, length, short]
  · have verdict : (decodeHeader (request.wire.take n)).1 = .bufferTooSmall :=
      decodeHeader_short (by rw [length]; omega)
    simp [verdict]

omit small in
theorem payloadImage_wire :
    payloadImage request.payload.length (request.wire ++ later) = request.payload := by
  unfold payloadImage Request.wire
  rw [List.append_assoc, List.append_assoc, List.drop_left' (encodeHeader_length _ _)]
  simp

omit small in
theorem drop_payload_wire :
    (request.wire ++ later).drop (headerSize + request.payload.length) =
      request.extra ++ later := by
  unfold Request.wire
  rw [List.append_assoc]
  exact List.drop_left' (by simp)

theorem decode_wire :
    decode request.payload.length (request.wire ++ later) =
      (.success, request.header, some request.payload) := by
  have room : ¬ (request.wire ++ later).length < headerSize + request.payload.length := by
    rw [List.length_append, Request.length_wire, Request.size]
    omega
  simp only [decode, decodeHeader_wire small later, if_neg room, payloadImage_wire]

theorem decodeWithData_wire :
    ∃ view : View,
      decodeWithData request.payload.length (request.wire ++ later) =
        (.success, request.header, some request.payload, view) ∧
      view.size = request.extra.length ∧ view.bytes (request.wire ++ later) = request.extra := by
  have room : ¬ (request.wire ++ later).length < headerSize + request.payload.length := by
    rw [List.length_append, Request.length_wire, Request.size]
    omega
  have total : request.header.dataSize.toNat = request.size := rfl
  have whole : ¬ (request.wire ++ later).length < headerSize + request.size := by
    rw [List.length_append, Request.length_wire]
    omega
  simp only [decodeWithData, decodeHeader_wire small later, if_neg room, payloadImage_wire,
    total, if_neg whole]
  -- a packet without extra bytes comes back with a null pointer
  by_cases more : request.size > request.payload.length
  · rw [if_pos more]
    refine ⟨_, rfl, by simp [Request.size], ?_⟩
    show ((request.wire ++ later).drop (headerSize + request.payload.length)).take _ = _
    rw [drop_payload_wire]
    exact List.take_left' (by simp [Request.size])
  · rw [if_neg more]
    have none : request.extra = [] := List.length_eq_zero_iff.mp (by rw [Request.size] at more; omega)
    exact ⟨_, rfl, by rw [none]; rfl, by rw [none]; rfl⟩

theorem decodeRaw_wire :
    ∃ view : View,
      decodeRaw (request.wire ++ later) = (.success, request.header, view) ∧
      view.size = request.size ∧
      view.bytes (request.wire ++ later) = request.payload ++ request.extra := by
  have total : request.header.dataSize.toNat = request.size := rfl
  have whole : ¬ (request.wire ++ later).length < headerSize + request.size := by
    rw [List.length_append, Request.length_wire]
    omega
  simp only [decodeRaw, decodeHeader_wire small later, total, if_neg whole]
  refine ⟨_, rfl, rfl, ?_⟩
  by_cases some : request.size > 0
  · simp only [View.bytes, if_pos some]
    rw [Request.wire, List.append_assoc, List.append_assoc,
      List.drop_left' (encodeHeader_length _ _), ← List.append_assoc]
    exact List.take_left' (by simp [Request.size])
  · simp only [View.bytes, if_neg some]
    have empty : (request.payload ++ request.extra).length = 0 := by
      rw [List.length_append]
      rw [Request.size] at some
      omega
    exact (List.length_eq_zero_iff.mp empty).symm

theorem getPacketType_wire : getPacketType (request.wire ++ later) = some request.type := by
  have seen := decodeHeader_wire small later
  rw [decodeHeader_of_length (by rw [List.length_append, Request.length_wire]; omega)] at seen
  rw [getPacketType, (Prod.mk.inj seen).2]
  exact PacketId.ofByte_toByte request.type

end Decoding

/-- Whatever follows the packet in the input, every decoder gives the request back,
and no proper beginning of the packet passes for a packet. -/
structure DecodesAs (wire : List UInt8) (request : Request) : Prop where
  complete : ∀ later, checkCompletePacket (wire ++ later) = (.success, wire.length)
  incomplete : ∀ n < wire.length,
    (checkCompletePacket (wire.take n)).1 = .incompletePacket ∨
      (checkCompletePacket (wire.take n)).1 = .bufferTooSmall
  type : ∀ later, getPacketType (wire ++ later) = some request.type
  struct : ∀ later, decode request.payload.length (wire ++ later) =
    (.success, request.header, some request.payload)
  withData : ∀ later, ∃ view : View,
    decodeWithData request.payload.length (wire ++ later) =
      (.success, request.header, some request.payload, view) ∧
    view.size = request.extra.length ∧ view.bytes (wire ++ later) = request.extra
  raw : ∀ later, ∃ view : View,
    decodeRaw (wire ++ later) = (.success, request.header, view) ∧
    view.size = request.size ∧ view.bytes (wire ++ later) = request.payload ++ request.extra

theorem codec_round_trip (request : Request) (bufferSize : Nat)
    (small : request.size ≤ maxPacketSize) (room : headerSize + request.size ≤ bufferSize) :
    ∃ wire, request.encode bufferSize = (.success, wire) ∧
      wire.length = headerSize + request.size ∧ DecodesAs wire request := by
  refine ⟨request.wire, ?_, request.length_wire, ?_⟩
  · rw [Request.encode_eq, if_neg (by omega)]
  · constructor
    · intro later
      rw [checkCompletePacket_wire small later, Request.length_wire]
    · intro n short
      exact checkCompletePacket_take small short
    · exact getPacketType_wire small
    · exact decode_wire small
    · exact decodeWithData_wire small
    · exact decodeRaw_wire small

theorem codec_round_trip_proxyData :
    ∃ wire, Request.encode 64 (.proxyData ⟨1, 2, 3, 4, 17⟩ [5, 6]) = (.success, wire) ∧
      wire.length = 34 ∧ DecodesAs wire (.proxyData ⟨1, 2, 3, 4, 17⟩ [5, 6]) :=
  codec_round_trip _ 64 (by decide) (by decide)

-- Both structure decoders compare `sizeof(T)` with what the buffer holds, not with what the
-- header announces.

def announced (buffer : List UInt8) : Nat := (decodeHeader buffer).2.dataSize.toNat

def frontPacket (buffer : List UInt8) : List UInt8 := buffer.take (headerSize + announced buffer)

/-- A successful decode has read the packet at the front and nothing behind it:
whatever follows that packet, header, payload and extra bytes stay the same. -/
structure StaysInPacket (structSize : Nat) (buffer : List UInt8) : Prop where
  decode_announced : (decode structSize buffer).1 = .success → structSize ≤ announced buffer
  decode_payload : (decode structSize buffer).1 = .success →
    (decode structSize buffer).2.2 = some (payloadImage structSize (frontPacket buffer))
  decode_follows : (decode structSize buffer).1 = .success →
    ∀ later, decode structSize (frontPacket buffer ++ later) = decode structSize buffer
  withData_announced : (decodeWithData structSize buffer).1 = .success →
    structSize ≤ announced buffer
  withData_payload : (decodeWithData structSize buffer).1 = .success →
    (decodeWithData structSize buffer).2.2.1 =
      some (payloadImage structSize (frontPacket buffer))
  withData_extra : (decodeWithData structSize buffer).1 = .success →
    (decodeWithData structSize buffer).2.2.2.bytes buffer =
      (frontPacket buffer).drop (headerSize + structSize)
  withData_follows : (decodeWithData structSize buffer).1 = .success →
    ∀ later, decodeWithData structSize (frontPacket buffer ++ later) =
        decodeWithData structSize buffer ∧
      (decodeWithData structSize buffer).2.2.2.bytes (frontPacket buffer ++ later) =
        (decodeWithData structSize buffer).2.2.2.bytes buffer

theorem decode_eq (structSize : Nat) (buffer : List UInt8) :
    decode structSize buffer =
      if (decodeHeader buffer).1 = .success then
        if buffer.length < headerSize + structSize then
          (.bufferTooSmall, (decodeHeader buffer).2, none)
        else (.success, (decodeHeader buffer).2, some (payloadImage structSize buffer))
      else ((decodeHeader buffer).1, (decodeHeader buffer).2, none) := by
  unfold decode
  obtain ⟨result, header⟩ := decodeHeader buffer
  cases result <;> rfl

theorem decodeWithData_eq (structSize : Nat) (buffer : List UInt8) :
    decodeWithData structSize buffer =
      if (decodeHeader buffer).1 = .success then
        if buffer.length < headerSize + structSize then
          (.bufferTooSmall, (decodeHeader buffer).2, none, .null)
        else if announced buffer > structSize then
          if buffer.length < headerSize + announced buffer then
            (.incompletePacket, (decodeHeader buffer).2, some (payloadImage structSize buffer),
              .null)
          else
            (.success, (decodeHeader buffer).2, some (payloadImage structSize buffer),
              ⟨some (headerSize + structSize), announced buffer - structSize⟩)
        else (.success, (decodeHeader buffer).2, some (payloadImage structSize buffer), .null)
      else ((decodeHeader buffer).1, (decodeHeader buffer).2, none, .null) := by
  unfold decodeWithData announced
  obtain ⟨result, header⟩ := decodeHeader buffer
  cases result <;> rfl

theorem decode_success_iff {structSize : Nat} {buffer : List UInt8} :
    (decode structSize buffer).1 = .success ↔
      (decodeHeader buffer).1 = .success ∧ headerSize + structSize ≤ buffer.length := by
  rw [decode_eq]
  split_ifs with accepted short
  · simp [short]
  · simp [accepted]
    omega
  · simp [accepted]

theorem decodeWithData_success_iff {structSize : Nat} {buffer : List UInt8} :
    (decodeWithData structSize buffer).1 = .success ↔
      (decode structSize buffer).1 = .success ∧
        (structSize < announced buffer → headerSize + announced buffer ≤ buffer.length) := by
  rw [decode_success_iff, decodeWithData_eq]
  split_ifs with accepted short more missing
  · simp [short]
  · simp [more, missing]
  · simp [accepted]
    omega
  · simp [accepted, more]
    omega
  · simp [accepted]

section FrontPacket

variable {structSize : Nat} {buffer : List UInt8}

theorem length_frontPacket :
    (frontPacket buffer).length = min (headerSize + announced buffer) buffer.length := by
  rw [frontPacket, List.length_take]

theorem decodeHeader_frontPacket (accepted : (decodeHeader buffer).1 = .success)
    (later : List UInt8) : decodeHeader (frontPacket buffer ++ later) = decodeHeader buffer := by
  have long := headerSize_le_of_success accepted
  have room : headerSize ≤ (frontPacket buffer).length := by
    rw [length_frontPacket]
    omega
  have whole := decodeHeader_append room (buffer.drop (headerSize + announced buffer))
  unfold frontPacket at whole
  rw [List.take_append_drop] at whole
  rw [decodeHeader_append room, whole]
  rfl

variable (fits : structSize ≤ announced buffer) (room : headerSize + structSize ≤ buffer.length)
include fits room

theorem payloadImage_frontPacket (later : List UInt8) :
    payloadImage structSize (frontPacket buffer ++ later) = payloadImage structSize buffer := by
  have bound : structSize ≤ ((buffer.take (headerSize + announced buffer)).drop headerSize).length := by
    rw [List.length_drop, List.length_take]
    omega
  unfold payloadImage frontPacket
  rw [List.drop_append_of_le_length (by rw [List.length_take]; omega),
    List.take_append_of_le_length bound, List.drop_take, List.take_take,
    Nat.min_eq_left (by omega)]

theorem decode_frontPacket (accepted : (decodeHeader buffer).1 = .success) (later : List UInt8) :
    decode structSize (frontPacket buffer ++ later) = decode structSize buffer := by
  have long : headerSize + structSize ≤ (frontPacket buffer ++ later).length := by
    rw [List.length_append, length_frontPacket]
    omega
  rw [decode_eq, decode_eq, decodeHeader_frontPacket accepted, if_pos accepted, if_pos accepted,
    if_neg (by omega), if_neg (by omega), payloadImage_frontPacket fits room]

variable (whole : headerSize + announced buffer ≤ buffer.length)
include whole

omit fits in
theorem decodeWithData_of_whole (accepted : (decodeHeader buffer).1 = .success) :
    decodeWithData structSize buffer =
      (.success, (decodeHeader buffer).2, some (payloadImage structSize buffer),
        if announced buffer > structSize then
          ⟨some (headerSize + structSize), announced buffer - structSize⟩
        else .null) := by
  have short : ¬ buffer.length < headerSize + structSize := by omega
  have missing : ¬ buffer.length < headerSize + announced buffer := by omega
  rw [decodeWithData_eq, if_pos accepted, if_neg short, if_neg missing]
  split_ifs <;> rfl

theorem decodeWithData_frontPacket (accepted : (decodeHeader buffer).1 = .success)
    (later : List UInt8) :
    decodeWithData structSize (frontPacket buffer ++ later) = decodeWithData structSize buffer := by
  have header := decodeHeader_frontPacket accepted later
  have same : announced (frontPacket buffer ++ later) = announced buffer := by
    rw [announced, header, announced]
  have long : headerSize + announced buffer ≤ (frontPacket buffer ++ later).length := by
    rw [List.length_append, length_frontPacket]
    omega
  rw [decodeWithData_of_whole room whole accepted,
    decodeWithData_of_whole (by omega) (by rw [same]; exact long) (by rw [header]; exact accepted),
    header, same, payloadImage_frontPacket fits room]

theorem decodeWithData_extra (accepted : (decodeHeader buffer).1 = .success)
    (later : List UInt8) :
    (decodeWithData structSize buffer).2.2.2.bytes (frontPacket buffer ++ later) =
      (frontPacket buffer).drop (headerSize + structSize) := by
  have length : (frontPacket buffer).length = headerSize + announced buffer := by
    rw [length_frontPacket, Nat.min_eq_left whole]
  rw [decodeWithData_of_whole room whole accepted]
  dsimp only
  split_ifs with more
  · show ((frontPacket buffer ++ later).drop (headerSize + structSize)).take
      (announced buffer - structSize) = _
    rw [List.drop_append_of_le_length (by omega)]
    exact List.take_left' (by rw [List.length_drop]; omega)
  · rw [List.drop_eq_nil_of_le (by omega)]
    rfl

end FrontPacket

/-- The decoders keep to their packet except where a whole `T` fits into the buffer
and not into the packet. -/
theorem staysInPacket_iff (structSize : Nat) (buffer : List UInt8) :
    StaysInPacket structSize buffer ↔
      ((decodeHeader buffer).1 = .success → headerSize + structSize ≤ buffer.length →
        structSize ≤ announced buffer) := by
  constructor
  · intro stays accepted room
    exact stays.decode_announced (decode_success_iff.mpr ⟨accepted, room⟩)
  · intro bound
    have plain : (decode structSize buffer).1 = .success →
        (decodeHeader buffer).1 = .success ∧ headerSize + structSize ≤ buffer.length ∧
          structSize ≤ announced buffer := by
      intro success
      obtain ⟨accepted, room⟩ := decode_success_iff.mp success
      exact ⟨accepted, room, bound accepted room⟩
    have full : (decodeWithData structSize buffer).1 = .success →
        (decodeHeader buffer).1 = .success ∧ headerSize + structSize ≤ buffer.length ∧
          structSize ≤ announced buffer ∧ headerSize + announced buffer ≤ buffer.length := by
      intro success
      obtain ⟨read, complete⟩ := decodeWithData_success_iff.mp success
      obtain ⟨accepted, room, fits⟩ := plain read
      refine ⟨accepted, room, fits, ?_⟩
      rcases Nat.lt_or_eq_of_le fits with more | exact
      · exact complete more
      · omega
    constructor
    · intro success
      exact (plain success).2.2
    · intro success
      obtain ⟨accepted, room, fits⟩ := plain success
      have image := payloadImage_frontPacket fits room []
      rw [List.append_nil] at image
      rw [decode_eq, if_pos accepted, if_neg (by omega), image]
    · intro success later
      obtain ⟨accepted, room, fits⟩ := plain success
      exact decode_frontPacket fits room accepted later
    · intro success
      exact (full success).2.2.1
    · intro success
      obtain ⟨accepted, room, fits, whole⟩ := full success
      have image := payloadImage_frontPacket fits room []
      rw [List.append_nil] at image
      rw [decodeWithData_of_whole room whole accepted, image]
    · intro success
      obtain ⟨accepted, room, fits, whole⟩ := full success
      have extra := decodeWithData_extra fits room whole accepted
        (buffer.drop (headerSize + announced buffer))
      rw [← extra, frontPacket, List.take_append_drop]
    · intro success later
      obtain ⟨accepted, room, fits, whole⟩ := full success
      have here := decodeWithData_extra fits room whole accepted
        (buffer.drop (headerSize + announced buffer))
      have there := decodeWithData_extra fits room whole accepted later
      refine ⟨decodeWithData_frontPacket fits room whole accepted later, ?_⟩
      rw [there, ← here, frontPacket, List.take_append_drop]

/-- A ping without its payload: the two bytes are taken from the packet behind it. -/
theorem decode_reads_following_packet :
    ¬ ∀ structSize buffer, StaysInPacket structSize buffer := by
  intro stays
  have read : (decode 2 (encodeHeader .ping 0 ++ encodeHeader .scanReplyEnd 0)).1 = .success ∧
      announced (encodeHeader .ping 0 ++ encodeHeader .scanReplyEnd 0) = 0 := by
    decide +kernel
  have bound := (stays 2 _).decode_announced read.1
  rw [read.2] at bound
  omega

end RyuLdn.ProtocolRoundTrip
