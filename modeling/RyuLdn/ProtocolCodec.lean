import RyuLdn.LittleEndian
import RyuLdn.StreamFraming

/-! The wire format of `ryu_protocol.hpp`: a 12-byte little-endian header and a
payload. A buffer is the list of its bytes, so its length is the `buffer_size`
argument; a payload structure is its byte image. Sizes travel through an
`int32_t`, which is why the header keeps a signed size and `signed32` reads the
four bytes as the source does.

`packetFraming` packages `check_complete_packet` as a framing of the TCP stream;
everything said about stream reassembly goes through its laws. -/
namespace RyuLdn.ProtocolCodec

open LittleEndian StreamFraming

inductive PacketId where
  | initializeMessage | passphrase
  | createAccessPoint | createAccessPointPrivate | externalProxy | externalProxyToken
  | externalProxyState | syncNetwork | reject | rejectReply
  | scan | scanReply | scanReplyEnd | connect | connectPrivate | connected | disconnect
  | proxyConfig | proxyConnect | proxyConnectReply | proxyData | proxyDisconnect
  | setAcceptPolicy | setAdvertiseData
  | ping | networkError
  deriving DecidableEq, Repr

def PacketId.toByte : PacketId → UInt8
  | .initializeMessage => 0 | .passphrase => 1
  | .createAccessPoint => 2 | .createAccessPointPrivate => 3 | .externalProxy => 4
  | .externalProxyToken => 5 | .externalProxyState => 6 | .syncNetwork => 7
  | .reject => 8 | .rejectReply => 9
  | .scan => 10 | .scanReply => 11 | .scanReplyEnd => 12 | .connect => 13
  | .connectPrivate => 14 | .connected => 15 | .disconnect => 16
  | .proxyConfig => 17 | .proxyConnect => 18 | .proxyConnectReply => 19
  | .proxyData => 20 | .proxyDisconnect => 21
  | .setAcceptPolicy => 22 | .setAdvertiseData => 23
  | .ping => 254 | .networkError => 255

/-- `static_cast<PacketId>` of a byte; `none` is a value without an enumerator,
which every switch of the source sends to its default branch. -/
def PacketId.ofByte (b : UInt8) : Option PacketId :=
  match b.toNat with
  | 0 => some .initializeMessage | 1 => some .passphrase
  | 2 => some .createAccessPoint | 3 => some .createAccessPointPrivate
  | 4 => some .externalProxy | 5 => some .externalProxyToken
  | 6 => some .externalProxyState | 7 => some .syncNetwork
  | 8 => some .reject | 9 => some .rejectReply
  | 10 => some .scan | 11 => some .scanReply | 12 => some .scanReplyEnd
  | 13 => some .connect | 14 => some .connectPrivate | 15 => some .connected
  | 16 => some .disconnect
  | 17 => some .proxyConfig | 18 => some .proxyConnect | 19 => some .proxyConnectReply
  | 20 => some .proxyData | 21 => some .proxyDisconnect
  | 22 => some .setAcceptPolicy | 23 => some .setAdvertiseData
  | 254 => some .ping | 255 => some .networkError
  | _ => none

@[simp] theorem PacketId.ofByte_toByte (id : PacketId) : PacketId.ofByte id.toByte = some id := by
  cases id <;> rfl

def protocolMagic : Nat := 0x4E444C52
def protocolVersion : Nat := 1
def maxPacketSize : Nat := 131072
/-- `sizeof(LdnHeader)`. -/
def headerSize : Nat := 12

inductive EncodeResult where
  | success | bufferTooSmall | invalidPacketId
  deriving DecidableEq, Repr

inductive DecodeResult where
  | success | bufferTooSmall | invalidMagic | invalidVersion | packetTooLarge | incompletePacket
  deriving DecidableEq, Repr

def encodeHeader (type : PacketId) (dataSize : Nat) : List UInt8 :=
  bytes 4 protocolMagic ++ bytes 1 type.toByte.toNat ++ bytes 1 protocolVersion ++
    bytes 2 0 ++ bytes 4 dataSize

/-- The bytes placed in the output buffer; a refused encode writes none. -/
def encode (bufferSize : Nat) (type : PacketId) (payload : List UInt8) :
    EncodeResult × List UInt8 :=
  if bufferSize < headerSize + payload.length then (.bufferTooSmall, [])
  else (.success, encodeHeader type payload.length ++ payload)

def encodeWithData (bufferSize : Nat) (type : PacketId) (payload extraData : List UInt8) :
    EncodeResult × List UInt8 :=
  if bufferSize < headerSize + payload.length + extraData.length then (.bufferTooSmall, [])
  else
    (.success, encodeHeader type (payload.length + extraData.length) ++ payload ++ extraData)

def encodeRaw (bufferSize : Nat) (type : PacketId) (data : List UInt8) :
    EncodeResult × List UInt8 :=
  if bufferSize < headerSize + data.length then (.bufferTooSmall, [])
  else (.success, encodeHeader type data.length ++ data)

structure LdnHeader where
  magic : Nat
  type : UInt8
  version : Nat
  reserved : Nat
  dataSize : Int
  deriving DecidableEq, Repr

def field (buffer : List UInt8) (offset width : Nat) : Nat :=
  value ((buffer.drop offset).take width)

def signed32 (v : Nat) : Int := if v < 2 ^ 31 then v else (v : Int) - 2 ^ 32

/-- `memcpy(&header, buffer, sizeof(LdnHeader))`. -/
def LdnHeader.ofImage (buffer : List UInt8) : LdnHeader where
  magic := field buffer 0 4
  type := UInt8.ofNat (field buffer 4 1)
  version := field buffer 5 1
  reserved := field buffer 6 2
  dataSize := signed32 (field buffer 8 4)

def LdnHeader.check (header : LdnHeader) : DecodeResult :=
  if header.magic ≠ protocolMagic then .invalidMagic
  else if header.version ≠ protocolVersion then .invalidVersion
  else if header.dataSize < 0 ∨ header.dataSize.toNat > maxPacketSize then .packetTooLarge
  else .success

/-- The header is meaningful on success only; every caller returns otherwise. -/
def decodeHeader (buffer : List UInt8) : DecodeResult × LdnHeader :=
  let header := LdnHeader.ofImage buffer
  if buffer.length < headerSize then (.bufferTooSmall, header)
  else (header.check, header)

def checkCompletePacket (buffer : List UInt8) : DecodeResult × Nat :=
  match decodeHeader buffer with
  | (.success, header) =>
      let packetSize := headerSize + header.dataSize.toNat
      if buffer.length < packetSize then (.incompletePacket, packetSize)
      else (.success, packetSize)
  | (result, _) => (result, 0)

@[simp] theorem encodeHeader_length (type : PacketId) (dataSize : Nat) :
    (encodeHeader type dataSize).length = headerSize := by
  simp [encodeHeader, headerSize]

theorem ofImage_append {buffer : List UInt8} (long : headerSize ≤ buffer.length)
    (later : List UInt8) : LdnHeader.ofImage (buffer ++ later) = LdnHeader.ofImage buffer := by
  have same : ∀ offset width, offset + width ≤ headerSize →
      field (buffer ++ later) offset width = field buffer offset width := by
    intro offset width bound
    rw [field, field, List.drop_append_of_le_length (by omega),
      List.take_append_of_le_length (by rw [List.length_drop]; omega)]
  simp only [headerSize] at same
  simp [LdnHeader.ofImage, same]

theorem decodeHeader_of_length {buffer : List UInt8} (long : headerSize ≤ buffer.length) :
    decodeHeader buffer = ((LdnHeader.ofImage buffer).check, LdnHeader.ofImage buffer) := by
  rw [decodeHeader, if_neg (by omega)]

theorem decodeHeader_append {buffer : List UInt8} (long : headerSize ≤ buffer.length)
    (later : List UInt8) : decodeHeader (buffer ++ later) = decodeHeader buffer := by
  rw [decodeHeader_of_length long, decodeHeader_of_length (by rw [List.length_append]; omega),
    ofImage_append long]

theorem decodeHeader_short {buffer : List UInt8} (short : buffer.length < headerSize) :
    (decodeHeader buffer).1 = .bufferTooSmall := by
  rw [decodeHeader, if_pos short]

theorem ofImage_encodeHeader (type : PacketId) {dataSize : Nat} (small : dataSize < 2 ^ 31)
    (later : List UInt8) :
    LdnHeader.ofImage (encodeHeader type dataSize ++ later) =
      ⟨protocolMagic, type.toByte, protocolVersion, 0, dataSize⟩ := by
  have size : value (bytes 4 dataSize) = dataSize := value_bytes_of_lt (by omega)
  have kind : value (bytes 1 type.toByte.toNat) = type.toByte.toNat :=
    value_bytes_of_lt (by have := type.toByte.toNat_lt; omega)
  rw [ofImage_append (by simp)]
  have parts : field (encodeHeader type dataSize) 0 4 = protocolMagic ∧
      field (encodeHeader type dataSize) 4 1 = value (bytes 1 type.toByte.toNat) ∧
      field (encodeHeader type dataSize) 5 1 = protocolVersion ∧
      field (encodeHeader type dataSize) 6 2 = 0 ∧
      field (encodeHeader type dataSize) 8 4 = value (bytes 4 dataSize) := by
    refine ⟨?_, ?_, ?_, ?_, ?_⟩ <;> simp [field, encodeHeader, bytes] <;> decide
  have sign : signed32 dataSize = dataSize := if_pos small
  simp [LdnHeader.ofImage, parts, size, kind, sign]

theorem decodeHeader_encodeHeader (type : PacketId) {dataSize : Nat}
    (small : dataSize ≤ maxPacketSize) (later : List UInt8) :
    decodeHeader (encodeHeader type dataSize ++ later) =
      (.success, ⟨protocolMagic, type.toByte, protocolVersion, 0, dataSize⟩) := by
  have bound : dataSize < 2 ^ 31 := lt_of_le_of_lt small (by decide)
  rw [decodeHeader_of_length (by simp), ofImage_encodeHeader type bound]
  simp [LdnHeader.check, small]

theorem checkCompletePacket_eq (buffer : List UInt8) :
    checkCompletePacket buffer =
      if (decodeHeader buffer).1 = .success then
        (if buffer.length < headerSize + (decodeHeader buffer).2.dataSize.toNat then
          .incompletePacket else .success, headerSize + (decodeHeader buffer).2.dataSize.toNat)
      else ((decodeHeader buffer).1, 0) := by
  rw [checkCompletePacket]
  rcases decodeHeader buffer with ⟨result, header⟩
  cases result <;> simp
  split <;> rfl

theorem checkCompletePacket_success {buffer : List UInt8} {n : Nat} :
    checkCompletePacket buffer = (.success, n) ↔
      (decodeHeader buffer).1 = .success ∧
        n = headerSize + (decodeHeader buffer).2.dataSize.toNat ∧ n ≤ buffer.length := by
  rw [checkCompletePacket_eq]
  split
  · rename_i accepted
    split <;> simp [accepted] <;> omega
  · rename_i refused
    simp [refused]

theorem headerSize_le_of_success {buffer : List UInt8}
    (accepted : (decodeHeader buffer).1 = .success) : headerSize ≤ buffer.length := by
  by_contra short
  rw [decodeHeader_short (by omega)] at accepted
  cases accepted

/-- What the head of a received stream shows, in the terms of `check_complete_packet`. -/
def packetHead (buffer : List UInt8) : Head :=
  match checkCompletePacket buffer with
  | (.success, packetSize) => .frame packetSize
  | (.incompletePacket, _) => .incomplete
  | (.bufferTooSmall, _) => .incomplete
  | _ => .invalid

theorem packetHead_frame {buffer : List UInt8} {n : Nat} :
    packetHead buffer = .frame n ↔ checkCompletePacket buffer = (.success, n) := by
  rw [packetHead]
  rcases checkCompletePacket buffer with ⟨result, size⟩
  cases result <;> simp

theorem packetHead_eq (buffer : List UInt8) :
    packetHead buffer =
      if buffer.length < headerSize then .incomplete
      else if (LdnHeader.ofImage buffer).check ≠ .success then .invalid
      else if buffer.length < headerSize + (LdnHeader.ofImage buffer).dataSize.toNat then .incomplete
      else .frame (headerSize + (LdnHeader.ofImage buffer).dataSize.toNat) := by
  rw [packetHead, checkCompletePacket_eq]
  by_cases short : buffer.length < headerSize
  · simp [short, decodeHeader_short short]
  · rw [if_neg short, decodeHeader_of_length (by omega)]
    by_cases accepted : (LdnHeader.ofImage buffer).check = .success
    · by_cases missing :
          buffer.length < headerSize + (LdnHeader.ofImage buffer).dataSize.toNat <;>
        simp [accepted, missing]
    · have outside : (LdnHeader.ofImage buffer).check ≠ .bufferTooSmall ∧
          (LdnHeader.ofImage buffer).check ≠ .incompletePacket := by
        unfold LdnHeader.check
        split_ifs <;> simp
      simp only [accepted, if_false, ne_eq, not_false_eq_true, if_true]
      cases verdict : (LdnHeader.ofImage buffer).check <;> simp_all

def packetFraming : Framing UInt8 where
  head := packetHead
  head_nil := by decide
  frame_pos := by
    intro xs n h
    have whole := checkCompletePacket_success.mp (packetHead_frame.mp h)
    have := whole.2.1
    simp only [headerSize] at this
    omega
  frame_le := by
    intro xs n h
    exact (checkCompletePacket_success.mp (packetHead_frame.mp h)).2.2
  frame_append := by
    intro xs n ys h
    obtain ⟨accepted, size, fits⟩ := checkCompletePacket_success.mp (packetHead_frame.mp h)
    have long := headerSize_le_of_success accepted
    rw [packetHead_frame, checkCompletePacket_success, decodeHeader_append long]
    exact ⟨accepted, size, by rw [List.length_append]; omega⟩
  frame_take := by
    intro xs n h
    obtain ⟨accepted, size, fits⟩ := checkCompletePacket_success.mp (packetHead_frame.mp h)
    have long : headerSize ≤ (xs.take n).length := by rw [List.length_take]; omega
    have same := decodeHeader_append long (xs.drop n)
    rw [List.take_append_drop] at same
    rw [packetHead_frame, checkCompletePacket_success, ← same]
    exact ⟨accepted, size, by rw [List.length_take]; omega⟩
  short_prefix := by
    intro xs ys n h short
    obtain ⟨accepted, size, fits⟩ := checkCompletePacket_success.mp (packetHead_frame.mp h)
    rw [packetHead, checkCompletePacket_eq]
    rcases Nat.lt_or_ge xs.length headerSize with tiny | long
    · simp [decodeHeader_short tiny]
    · rw [decodeHeader_append long] at accepted size
      rw [if_pos accepted, if_pos (by omega)]

/-- A whole packet: a header the decoder accepts and exactly the payload it announces. -/
abbrev IsPacket (wire : List UInt8) : Prop := IsFrame packetFraming wire

theorem isPacket_iff {wire : List UInt8} : IsPacket wire ↔ packetHead wire = .frame wire.length :=
  Iff.rfl

instance (wire : List UInt8) : Decidable (IsPacket wire) :=
  inferInstanceAs (Decidable (packetHead wire = .frame wire.length))

theorem isPacket_encode (type : PacketId) {payload : List UInt8}
    (small : payload.length ≤ maxPacketSize) :
    IsPacket (encodeHeader type payload.length ++ payload) := by
  rw [isPacket_iff, packetHead_frame, checkCompletePacket_success,
    decodeHeader_encodeHeader type small]
  simp

end RyuLdn.ProtocolCodec
