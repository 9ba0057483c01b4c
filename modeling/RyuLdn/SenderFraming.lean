import RyuLdn.TcpClient

/-! The encoders and the `send_*` of `TcpClient` on memory: the packet is built in
place in a buffer that holds an earlier one, lengths are `size_t`, and a pointer
may be null whatever size comes with it. `ProtocolCodec` and `TcpClient` say the
same of bytes that are there; here it is what reaches `send_all` that counts. -/
namespace RyuLdn.SenderFraming

open LittleEndian ProtocolTypes TcpClient TcpClient.Client
open ProtocolCodec (PacketId EncodeResult LdnHeader encodeHeader headerSize maxPacketSize
  checkCompletePacket decodeHeader)

def sizeT (n : Nat) : Nat := n % 2 ^ 64

/-- A pointer argument: its size is a `size_t`, and no object reaches `PTRDIFF_MAX`. -/
structure Span where
  blob : Blob
  size_lt : blob.size < 2 ^ 64
  object : blob.data.length < 2 ^ 63

structure Encoded where
  result : EncodeResult
  buffer : List UInt8
  outSize : Nat

def packetImage (type : PacketId) (payload : List UInt8) (extra : Blob) : List UInt8 :=
  encodeHeader type (payload.length + extra.size) ++ payload ++ extra.data

def place (buffer : List UInt8) (type : PacketId) (payload : List UInt8) (extra : Blob) : Encoded :=
  let required := sizeT (headerSize + payload.length + extra.size)
  if buffer.length < required then ⟨.bufferTooSmall, buffer, 0⟩
  else ⟨.success, overwrite buffer (packetImage type payload extra), required⟩

def encodeHeaderOnly (buffer : List UInt8) (type : PacketId) : Encoded :=
  place buffer type [] (.bytes [])

def encode (buffer : List UInt8) (type : PacketId) (payload : List UInt8) : Encoded :=
  place buffer type payload (.bytes [])

def encodeWithData (buffer : List UInt8) (type : PacketId) (payload : List UInt8)
    (extraData : Blob) : Encoded :=
  place buffer type payload extraData

def encodeRaw (buffer : List UInt8) (type : PacketId) (data : Blob) : Encoded :=
  place buffer type [] data

def encodeProxyData (buffer : List UInt8) (info : ProxyInfo) (data : Blob) : Encoded :=
  encodeWithData buffer .proxyData (ProxyDataHeader.image ⟨info, UInt32.ofNat data.size⟩) data

def sendEncoded (encoded : Encoded) : Prepared :=
  match encoded.result with
  | .success => .ready encoded.buffer (encoded.buffer.take encoded.outSize)
  | _ => .encodingError

def accessPoint (type : PacketId) (request : List UInt8) (advertise : Blob)
    (buffer : List UInt8) : Prepared :=
  let totalPayloadSize := sizeT (request.length + advertise.size)
  if totalPayloadSize > sendBufferSize - headerSize then .bufferTooSmall
  else
    let filled := overwrite buffer
      (encodeHeader type totalPayloadSize ++ request ++ advertise.data)
    .ready filled (filled.take (sizeT (headerSize + request.length + advertise.data.length)))

inductive Call where
  | packet (type : PacketId) (payload : Span)
  | raw (data : Span)
  | initializeMessage (msg : Octets 0x16)
  | passphrase (msg : Octets 0x80)
  | ping (msg : Octets 2)
  | disconnect (msg : Octets 4)
  | createAccessPoint (request : Octets 0xBC) (advertise : Span)
  | connect (request : Octets 0x500)
  | createAccessPointPrivate (request : Octets 0x13C) (advertise : Span)
  | connectPrivate (request : Octets 0xBC)
  | scan (filter : Octets 0x60)
  | proxyData (header : ProxyDataHeader) (data : Span)
  | setAcceptPolicy (request : Octets 1)
  | setAdvertiseData (data : Span)
  | reject (request : Octets 8)

/-- What the call does up to `send_all` (for `send_proxy_data`: up to the send queue),
from what is in `m_send_buffer`. -/
def Call.prepare (call : Call) (buffer : List UInt8) : Prepared :=
  match call with
  | .packet type payload => sendEncoded (encodeRaw buffer type payload.blob)
  | .raw data => if data.blob.data = [] then .encodingError else .ready buffer data.blob.data
  | .initializeMessage msg => sendEncoded (encode buffer .initializeMessage msg.bytes)
  | .passphrase msg => sendEncoded (encode buffer .passphrase msg.bytes)
  | .ping msg => sendEncoded (encode buffer .ping msg.bytes)
  | .disconnect msg => sendEncoded (encode buffer .disconnect msg.bytes)
  | .createAccessPoint request advertise =>
      accessPoint .createAccessPoint request.bytes advertise.blob buffer
  | .connect request => sendEncoded (encode buffer .connect request.bytes)
  | .createAccessPointPrivate request advertise =>
      accessPoint .createAccessPointPrivate request.bytes advertise.blob buffer
  | .connectPrivate request => sendEncoded (encode buffer .connectPrivate request.bytes)
  | .scan filter => sendEncoded (encode buffer .scan filter.bytes)
  | .proxyData header data => sendEncoded (encodeProxyData buffer header.info data.blob)
  | .setAcceptPolicy request => sendEncoded (encode buffer .setAcceptPolicy request.bytes)
  | .setAdvertiseData data => Client.setAdvertiseData data.blob buffer
  | .reject request => sendEncoded (encode buffer .reject request.bytes)

/-- An encoder that succeeds has built a packet of the size it returns. -/
def Encoded.Framed (encoded : Encoded) : Prop :=
  encoded.result = .success →
    checkCompletePacket (encoded.buffer.take encoded.outSize) = (.success, encoded.outSize)

/-- The bytes handed to `send_all` are as many as their header says, and none of them is
left from an earlier packet: they are the same whatever the send buffer held. -/
structure WellFramed (prepare : List UInt8 → Prepared) : Prop where
  length : ∀ earlier, earlier.length = sendBufferSize → ∀ sendBuffer data,
    prepare earlier = .ready sendBuffer data →
      headerSize ≤ data.length ∧
        (data.length : Int) = headerSize + (LdnHeader.ofImage data).dataSize
  fresh : ∀ earlier other, earlier.length = sendBufferSize → other.length = sendBufferSize →
    ∀ sendBuffer sendBuffer' data data', prepare earlier = .ready sendBuffer data →
      prepare other = .ready sendBuffer' data' → data = data'

theorem sizeT_add {n : Nat} (fits : headerSize + sizeT n < 2 ^ 64) :
    sizeT (headerSize + n) = headerSize + sizeT n := by
  simp only [sizeT, headerSize] at *
  omega

theorem encodeHeader_sizeT (type : PacketId) (n : Nat) :
    encodeHeader type (sizeT n) = encodeHeader type n := by
  have low : sizeT n % 256 ^ 4 = n % 256 ^ 4 := by
    simp only [sizeT]
    omega
  unfold encodeHeader
  rw [← bytes_mod 4 (sizeT n), low, bytes_mod]

theorem length_overwrite (buffer image : List UInt8) :
    (overwrite buffer image).length = max image.length buffer.length := by
  rw [overwrite, List.length_append, List.length_drop]
  omega

theorem overwrite_take {buffer image : List UInt8} {n : Nat} (covered : n ≤ image.length) :
    (overwrite buffer image).take n = image.take n := by
  rw [overwrite, List.take_append_of_le_length covered]

@[simp] theorem length_packetImage (type : PacketId) (payload : List UInt8) (extra : Blob) :
    (packetImage type payload extra).length =
      headerSize + payload.length + extra.data.length := by
  simp [packetImage, Nat.add_assoc]

theorem dataSize_le_of_accepted {buffer : List UInt8}
    (accepted : (decodeHeader buffer).1 = .success) :
    (decodeHeader buffer).2.dataSize.toNat ≤ maxPacketSize := by
  have long := ProtocolCodec.headerSize_le_of_success accepted
  rw [ProtocolCodec.decodeHeader_of_length long] at accepted ⊢
  unfold LdnHeader.check at accepted
  split_ifs at accepted with magic version size
  exact Nat.le_of_not_lt (not_or.mp size).2

section Place

variable (buffer : List UInt8) (type : PacketId) (payload : List UInt8) (extra : Blob)

theorem decodeHeader_overwrite {n : Nat} (room : headerSize ≤ n)
    (small : sizeT (payload.length + extra.size) ≤ maxPacketSize) :
    decodeHeader ((overwrite buffer (packetImage type payload extra)).take n) =
      (.success, ⟨ProtocolCodec.protocolMagic, type.toByte, ProtocolCodec.protocolVersion, 0,
        sizeT (payload.length + extra.size)⟩) := by
  rw [overwrite, packetImage, List.append_assoc, List.append_assoc, List.take_append,
    List.take_of_length_le (by rw [ProtocolCodec.encodeHeader_length]; exact room),
    ← encodeHeader_sizeT]
  exact ProtocolCodec.decodeHeader_encodeHeader type small _

theorem place_framed_iff :
    (place buffer type payload extra).Framed ↔
      (sizeT (headerSize + payload.length + extra.size) ≤ buffer.length →
        sizeT (payload.length + extra.size) ≤ maxPacketSize) := by
  have limit : headerSize + maxPacketSize < 2 ^ 64 := by decide
  unfold place Encoded.Framed
  dsimp only
  split_ifs with short
  · simp only [false_implies, true_iff]
    omega
  · simp only [forall_const, Nat.le_of_not_lt short, ProtocolCodec.checkCompletePacket_success]
    rw [Nat.add_assoc] at short ⊢
    constructor
    · rintro ⟨accepted, size, -⟩
      -- the decoder has accepted some size up to its limit, and it is the size returned
      have bound := dataSize_le_of_accepted accepted
      generalize (decodeHeader _).2.dataSize.toNat = d at size bound
      simp only [sizeT, headerSize, maxPacketSize] at size bound ⊢
      omega
    · intro small
      have required := sizeT_add (n := payload.length + extra.size) (by omega)
      have room : headerSize ≤ sizeT (headerSize + (payload.length + extra.size)) := by omega
      rw [decodeHeader_overwrite buffer type payload extra room small, required]
      refine ⟨rfl, by simp, ?_⟩
      rw [List.length_take, length_overwrite]
      omega

end Place

section Sends

variable (type : PacketId) (payload : List UInt8) (extra : Blob)

def required (payload : List UInt8) (extra : Blob) : Nat :=
  sizeT (headerSize + payload.length + extra.size)

theorem sendEncoded_place (buffer : List UInt8) (length : buffer.length = sendBufferSize) :
    sendEncoded (place buffer type payload extra) =
      if sendBufferSize < required payload extra then .encodingError
      else .ready (overwrite buffer (packetImage type payload extra))
        ((overwrite buffer (packetImage type payload extra)).take (required payload extra)) := by
  unfold place
  rw [length]
  change sendEncoded (if sendBufferSize < required payload extra then _ else _) = _
  split_ifs <;> rfl

theorem stale_of_uncovered {image : List UInt8} {n : Nat} (uncovered : image.length < n)
    (room : n ≤ sendBufferSize) :
    (overwrite (List.replicate sendBufferSize 0) image).take n ≠
      (overwrite (List.replicate sendBufferSize 1) image).take n := by
  intro same
  have position : ∀ byte : UInt8,
      ((overwrite (List.replicate sendBufferSize byte) image).take n)[image.length]? =
        some byte := by
    intro byte
    rw [List.getElem?_take_of_lt uncovered, overwrite, List.getElem?_append_right le_rfl,
      List.getElem?_drop, List.getElem?_replicate, if_pos (by omega)]
  have differ := (position 0).symm.trans ((congrArg (fun bytes => bytes[image.length]?) same).trans
    (position 1))
  exact absurd (Option.some.inj differ) (by decide)

theorem supplied_of_wellFramed
    (framed : WellFramed fun buffer => sendEncoded (place buffer type payload extra))
    (room : required payload extra ≤ sendBufferSize) :
    headerSize ≤ required payload extra ∧
      required payload extra ≤ headerSize + payload.length + extra.data.length := by
  have zeros : (List.replicate sendBufferSize (0 : UInt8)).length = sendBufferSize :=
    List.length_replicate
  have ones : (List.replicate sendBufferSize (1 : UInt8)).length = sendBufferSize :=
    List.length_replicate
  have ready : ∀ buffer : List UInt8, buffer.length = sendBufferSize →
      sendEncoded (place buffer type payload extra) =
        .ready (overwrite buffer (packetImage type payload extra))
          ((overwrite buffer (packetImage type payload extra)).take (required payload extra)) := by
    intro buffer length
    rw [sendEncoded_place type payload extra buffer length, if_neg (by omega)]
  constructor
  · have long := (framed.length _ zeros _ _ (ready _ zeros)).1
    rw [List.length_take] at long
    omega
  · by_contra uncovered
    have same := framed.fresh _ _ zeros ones _ _ _ _ (ready _ zeros) (ready _ ones)
    exact stale_of_uncovered (by rw [length_packetImage]; omega) room same

theorem data_of_supplied
    (supplied : required payload extra ≤ sendBufferSize →
      required payload extra ≤ headerSize + payload.length + extra.data.length)
    {earlier sendBuffer data : List UInt8} (length : earlier.length = sendBufferSize)
    (ready : sendEncoded (place earlier type payload extra) = .ready sendBuffer data) :
    required payload extra ≤ sendBufferSize ∧
      data = (packetImage type payload extra).take (required payload extra) := by
  rw [sendEncoded_place type payload extra earlier length] at ready
  split_ifs at ready with refused
  have room : required payload extra ≤ sendBufferSize := by omega
  have covered : required payload extra ≤ (packetImage type payload extra).length := by
    rw [length_packetImage]
    exact supplied room
  exact ⟨room, (Prepared.ready.inj ready).2.symm.trans (overwrite_take covered)⟩

theorem wellFramed_place_iff :
    WellFramed (fun buffer => sendEncoded (place buffer type payload extra)) ↔
      (required payload extra ≤ sendBufferSize → headerSize ≤ required payload extra ∧
        required payload extra ≤ headerSize + payload.length + extra.data.length) := by
  constructor
  · exact supplied_of_wellFramed type payload extra
  · intro supplied
    have covers : required payload extra ≤ sendBufferSize →
        required payload extra ≤ headerSize + payload.length + extra.data.length :=
      fun room => (supplied room).2
    constructor
    · intro earlier length sendBuffer bytes ready
      obtain ⟨room, rfl⟩ := data_of_supplied type payload extra covers length ready
      obtain ⟨long, covered⟩ := supplied room
      have size : ((packetImage type payload extra).take (required payload extra)).length =
          required payload extra := by
        rw [List.length_take, length_packetImage]
        omega
      have total : sizeT (payload.length + extra.size) + headerSize =
          required payload extra := by
        simp only [required, sizeT, headerSize, sendBufferSize] at *
        omega
      have small : sizeT (payload.length + extra.size) ≤ maxPacketSize := by
        simp only [maxPacketSize, sendBufferSize, headerSize] at *
        omega
      have header := decodeHeader_overwrite [] type payload extra long small
      rw [overwrite_take (by rw [length_packetImage]; exact covered),
        ProtocolCodec.decodeHeader_of_length (by omega)] at header
      rw [(Prod.mk.inj header).2, size]
      refine ⟨long, ?_⟩
      dsimp only
      omega
    · intro earlier other length length' sendBuffer sendBuffer' bytes bytes' ready ready'
      rw [(data_of_supplied type payload extra covers length ready).2,
        (data_of_supplied type payload extra covers length' ready').2]

end Sends

theorem Span.required_of_bytes {payload : List UInt8} (short : payload.length < 2 ^ 62)
    (data : List UInt8) (object : data.length < 2 ^ 63) :
    required payload (.bytes data) = headerSize + payload.length + data.length := by
  simp only [required, sizeT, headerSize, Blob.size]
  omega

theorem wellFramed_encode (type : PacketId) {payload : List UInt8}
    (short : payload.length < 2 ^ 62) :
    WellFramed (fun buffer => sendEncoded (encode buffer type payload)) := by
  have size := Span.required_of_bytes short [] (by decide)
  apply (wellFramed_place_iff type payload (.bytes [])).mpr
  intro _
  rw [size]
  exact ⟨by omega, le_rfl⟩

theorem wellFramed_encodeWithData_iff (type : PacketId) (payload : List UInt8)
    (short : payload.length < 2 ^ 62) (extra : Span) :
    WellFramed (fun buffer => sendEncoded (encodeWithData buffer type payload extra.blob)) ↔
      ∀ size, extra.blob = .null size → size = 0 ∨ 2 ^ 64 - payload.length ≤ size ∨
        sendBufferSize < sizeT (headerSize + payload.length + size) := by
  refine (wellFramed_place_iff type payload extra.blob).trans ?_
  have bound := extra.size_lt
  have object := extra.object
  cases pointer : extra.blob with
  | null size =>
      rw [pointer] at bound
      simp only [required, Blob.size, Blob.data, Blob.null.injEq, forall_eq', List.length_nil,
        sizeT, headerSize, sendBufferSize] at bound ⊢
      omega
  | bytes data =>
      rw [pointer] at object
      rw [Span.required_of_bytes short data object]
      simp only [reduceCtorEq, false_implies, implies_true, iff_true]
      intro _
      exact ⟨by omega, le_rfl⟩

theorem wellFramed_iff_of_const {prepare : List UInt8 → Prepared} (wire : List UInt8)
    (const : ∀ earlier, ∃ sendBuffer, prepare earlier = .ready sendBuffer wire) :
    WellFramed prepare ↔
      headerSize ≤ wire.length ∧
        (wire.length : Int) = headerSize + (LdnHeader.ofImage wire).dataSize := by
  constructor
  · intro framed
    obtain ⟨sendBuffer, ready⟩ := const (List.replicate sendBufferSize 0)
    exact framed.length _ List.length_replicate _ _ ready
  · intro size
    have same : ∀ earlier sendBuffer data, prepare earlier = .ready sendBuffer data →
        data = wire := by
      intro earlier sendBuffer data ready
      obtain ⟨_, whole⟩ := const earlier
      rw [whole] at ready
      exact (Prepared.ready.inj ready).2.symm
    constructor
    · intro earlier _ sendBuffer data ready
      rw [same earlier sendBuffer data ready]
      exact size
    · intro earlier other _ _ sendBuffer sendBuffer' data data' ready ready'
      rw [same earlier _ _ ready, same other _ _ ready']

theorem wellFramed_of_refused {prepare : List UInt8 → Prepared}
    (refused : ∀ earlier sendBuffer data, prepare earlier ≠ .ready sendBuffer data) :
    WellFramed prepare where
  length earlier _ sendBuffer data ready := absurd ready (refused earlier sendBuffer data)
  fresh earlier _ _ _ sendBuffer _ data _ ready _ := absurd ready (refused earlier sendBuffer data)

theorem dataSize_encodeHeader (type : PacketId) {n : Nat} (small : n ≤ sendBufferSize)
    (later : List UInt8) : (LdnHeader.ofImage (encodeHeader type n ++ later)).dataSize = n := by
  rw [ProtocolCodec.ofImage_encodeHeader type (by simp only [sendBufferSize] at small; omega)]

theorem wellFramed_accessPoint_iff (type : PacketId) (request : List UInt8)
    (short : request.length ≤ sendBufferSize - headerSize) (advertise : Span) :
    WellFramed (accessPoint type request advertise.blob) ↔
      ∀ size, advertise.blob = .null size → size = 0 ∨
        sendBufferSize - headerSize < sizeT (request.length + size) := by
  have bound := advertise.size_lt
  have object := advertise.object
  by_cases long : sizeT (request.length + advertise.blob.size) > sendBufferSize - headerSize
  · -- refused before anything is written
    have refused : WellFramed (accessPoint type request advertise.blob) := by
      apply wellFramed_of_refused
      intro earlier sendBuffer data
      rw [accessPoint, if_pos long]
      exact Prepared.noConfusion
    simp only [refused, true_iff]
    intro size pointer
    rw [pointer] at long
    exact Or.inr long
  · have sent : sizeT (headerSize + request.length + advertise.blob.data.length) =
        headerSize + request.length + advertise.blob.data.length := by
      simp only [sizeT, headerSize, sendBufferSize] at *
      omega
    have const : ∀ earlier, ∃ sendBuffer, accessPoint type request advertise.blob earlier =
        .ready sendBuffer (encodeHeader type (sizeT (request.length + advertise.blob.size)) ++
          request ++ advertise.blob.data) := by
      intro earlier
      rw [accessPoint, if_neg long, sent]
      refine ⟨_, congrArg (Prepared.ready _) ?_⟩
      rw [overwrite_take (by simp [Nat.add_assoc]), List.take_of_length_le (by simp [Nat.add_assoc])]
    rw [wellFramed_iff_of_const _ const, List.append_assoc,
      dataSize_encodeHeader type (by omega), List.length_append, List.length_append,
      ProtocolCodec.encodeHeader_length]
    cases pointer : advertise.blob with
    | null size =>
        rw [pointer] at bound long
        simp only [Blob.size, Blob.data, Blob.null.injEq, forall_eq', List.length_nil, sizeT,
          headerSize, sendBufferSize] at bound long short ⊢
        omega
    | bytes data =>
        rw [pointer] at object
        simp only [Blob.data] at object
        simp only [Blob.size, Blob.data, reduceCtorEq, false_implies, implies_true, iff_true, sizeT,
          headerSize, sendBufferSize] at short ⊢
        omega

theorem wellFramed_setAdvertiseData_iff (data : Blob) :
    WellFramed (setAdvertiseData data) ↔ ∀ size, data = .null size → size = 0 := by
  cases data with
  | null size =>
      simp only [Blob.null.injEq, forall_eq']
      constructor
      · intro framed
        by_contra some
        have uncovered : (encodeHeader .setAdvertiseData (min size 384) ++
            ([] : List UInt8).take (min size 384)).length < headerSize + min size 384 := by
          simp
          omega
        exact stale_of_uncovered uncovered (by simp only [headerSize, sendBufferSize]; omega)
          (framed.fresh _ _ List.length_replicate List.length_replicate _ _ _ _ rfl rfl)
      · rintro rfl
        apply (wellFramed_iff_of_const (encodeHeader .setAdvertiseData 0) ?_).mpr
        · rw [← List.append_nil (encodeHeader _ _), dataSize_encodeHeader _ (Nat.zero_le _)]
          simp
        · intro earlier
          refine ⟨_, congrArg (Prepared.ready _) ?_⟩
          exact overwrite_take (n := headerSize + 0) (by simp [Blob.size])
  | bytes data =>
      simp only [reduceCtorEq, false_implies, implies_true, iff_true]
      have length : (data.take (min data.length 384)).length = min data.length 384 := by
        rw [List.length_take]
        omega
      apply (wellFramed_iff_of_const (encodeHeader .setAdvertiseData
        (min data.length 384) ++ data.take (min data.length 384)) ?_).mpr
      · rw [dataSize_encodeHeader _ (by simp only [sendBufferSize]; omega), List.length_append,
          ProtocolCodec.encodeHeader_length, length]
        exact ⟨by omega, by push_cast; rfl⟩
      · intro earlier
        refine ⟨_, congrArg (Prepared.ready _) ?_⟩
        have whole : headerSize + min data.length 384 = (encodeHeader .setAdvertiseData
            (min data.length 384) ++ data.take (min data.length 384)).length := by
          rw [List.length_append, ProtocolCodec.encodeHeader_length, length]
        exact (overwrite_take whole.le).trans (List.take_of_length_le whole.ge)

/-- The arguments with which a call hands over a packet of its own: a pointer that is
not null, a null pointer of size zero, or one whose size the call refuses. -/
def Call.Supplied : Call → Prop
  | .packet _ payload => ∀ size, payload.blob = .null size →
      size = 0 ∨ sendBufferSize < sizeT (headerSize + size)
  -- pre-encoded data, sent as it is
  | .raw data => data.blob.data ≠ [] → headerSize ≤ data.blob.data.length ∧
      (data.blob.data.length : Int) = headerSize + (LdnHeader.ofImage data.blob.data).dataSize
  | .createAccessPoint _ advertise => ∀ size, advertise.blob = .null size →
      size = 0 ∨ sendBufferSize - headerSize < sizeT (0xBC + size)
  | .createAccessPointPrivate _ advertise => ∀ size, advertise.blob = .null size →
      size = 0 ∨ sendBufferSize - headerSize < sizeT (0x13C + size)
  -- a size just below 2^64 takes bytes of the proxy header away
  | .proxyData _ data => ∀ size, data.blob = .null size →
      size = 0 ∨ 2 ^ 64 - 20 ≤ size ∨ sendBufferSize < sizeT (headerSize + 20 + size)
  | .setAdvertiseData data => ∀ size, data.blob = .null size → size = 0
  | _ => True

theorem Call.wellFramed_iff (call : Call) : WellFramed call.prepare ↔ call.Supplied := by
  have fixed : ∀ {n : Nat} (type : PacketId) (msg : Octets n), n < 2 ^ 62 →
      (WellFramed (fun buffer => sendEncoded (encode buffer type msg.bytes)) ↔ True) := by
    intro n type msg small
    exact iff_true_intro (wellFramed_encode type (by rw [msg.length_eq]; exact small))
  cases call with
  | packet type payload =>
      refine (wellFramed_encodeWithData_iff type [] (by decide) payload).trans ?_
      have bound := payload.size_lt
      constructor
      · intro supplied size pointer
        have wraps := supplied size pointer
        rw [pointer, Blob.size] at bound
        rw [List.length_nil] at wraps
        rcases wraps with zero | high | refused
        · exact Or.inl zero
        · omega
        · exact Or.inr refused
      · intro supplied size pointer
        exact (supplied size pointer).imp_right Or.inr
  | raw data =>
      by_cases empty : data.blob.data = []
      · have refused : WellFramed (Call.raw data).prepare := by
          apply wellFramed_of_refused
          intro earlier sendBuffer bytes
          simp [Call.prepare, empty]
        simp [refused, Call.Supplied, empty]
      · rw [wellFramed_iff_of_const data.blob.data
          (fun earlier => ⟨earlier, by simp only [Call.prepare, if_neg empty]⟩)]
        simp [Call.Supplied, empty]
  | createAccessPoint request advertise =>
      have length := request.length_eq
      have framed := wellFramed_accessPoint_iff .createAccessPoint
        request.bytes (by rw [length]; decide) advertise
      rw [length] at framed
      exact framed
  | createAccessPointPrivate request advertise =>
      have length := request.length_eq
      have framed := wellFramed_accessPoint_iff .createAccessPointPrivate
        request.bytes (by rw [length]; decide) advertise
      rw [length] at framed
      exact framed
  | proxyData header data =>
      have image : ∀ size, (ProxyDataHeader.image ⟨header.info, UInt32.ofNat size⟩).length = 20 :=
        fun size => ProxyDataHeader.length_image _
      have framed := wellFramed_encodeWithData_iff .proxyData
        (ProxyDataHeader.image ⟨header.info, UInt32.ofNat data.blob.size⟩)
        (by rw [image]; decide) data
      rw [image] at framed
      exact framed
  | setAdvertiseData data => exact wellFramed_setAdvertiseData_iff data.blob
  | initializeMessage msg => exact fixed .initializeMessage msg (by decide)
  | passphrase msg => exact fixed .passphrase msg (by decide)
  | ping msg => exact fixed .ping msg (by decide)
  | disconnect msg => exact fixed .disconnect msg (by decide)
  | connect request => exact fixed .connect request (by decide)
  | connectPrivate request => exact fixed .connectPrivate request (by decide)
  | scan filter => exact fixed .scan filter (by decide)
  | setAcceptPolicy request => exact fixed .setAcceptPolicy request (by decide)
  | reject request => exact fixed .reject request (by decide)

/-- Encoders build packets exactly up to `MAX_PACKET_SIZE`, and a `send_*` hands over its
own packet exactly when its pointers supply what their sizes announce. -/
theorem sender_framed_iff (buffer : List UInt8) (type : PacketId) (payload : List UInt8)
    (extraData data : Blob) (call : Call) :
    (encodeHeaderOnly buffer type).Framed ∧
    ((encode buffer type payload).Framed ↔
      (sizeT (headerSize + payload.length) ≤ buffer.length →
        sizeT payload.length ≤ maxPacketSize)) ∧
    ((encodeWithData buffer type payload extraData).Framed ↔
      (sizeT (headerSize + payload.length + extraData.size) ≤ buffer.length →
        sizeT (payload.length + extraData.size) ≤ maxPacketSize)) ∧
    ((encodeRaw buffer type data).Framed ↔
      (sizeT (headerSize + data.size) ≤ buffer.length → sizeT data.size ≤ maxPacketSize)) ∧
    (WellFramed call.prepare ↔ call.Supplied) := by
  refine ⟨?_, ?_, ?_, ?_, Call.wellFramed_iff call⟩
  · apply (place_framed_iff buffer type [] (.bytes [])).mpr
    intro _
    decide
  · exact place_framed_iff buffer type payload (.bytes [])
  · exact place_framed_iff buffer type payload extraData
  · have framed := place_framed_iff buffer type [] data
    simp only [List.length_nil, Nat.add_zero, Nat.zero_add] at framed
    exact framed

/-- `send_set_advertise_data(nullptr, 4)` sends four bytes of the packet before. -/
theorem setAdvertiseData_sends_stale_bytes :
    ¬ ((∀ buffer type payload, (encode buffer type payload).Framed) ∧
      (∀ buffer type payload extraData, (encodeWithData buffer type payload extraData).Framed) ∧
      (∀ buffer type data, (encodeRaw buffer type data).Framed) ∧
      ∀ call : Call, WellFramed call.prepare) := by
  rintro ⟨-, -, -, framed⟩
  have fresh := (framed (.setAdvertiseData ⟨.null 4, by decide, by decide⟩)).fresh
    (List.replicate sendBufferSize 0) (List.replicate sendBufferSize 1)
    List.length_replicate List.length_replicate _ _ _ _ rfl rfl
  revert fresh
  decide +kernel

end RyuLdn.SenderFraming
