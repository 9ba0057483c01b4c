import RyuLdn.ProtocolCodec
import RyuLdn.ProtocolTypes
import Mathlib.Data.List.TakeDrop

/-! Reading the proxy structures back out of received bytes. The source casts the
payload to a packed structure; here each field is read at its offset of the wire
format. -/
namespace RyuLdn.ProtocolTypes

open LittleEndian ProtocolCodec

def Octets.ofImage (n : Nat) (buffer : List UInt8) (offset : Nat) : Octets n :=
  ⟨(buffer.drop offset).takeD n 0, List.takeD_length _ _ _⟩

def ProxyInfo.ofImage (buffer : List UInt8) : ProxyInfo where
  sourceIpv4 := UInt32.ofNat (field buffer 0 4)
  sourcePort := UInt16.ofNat (field buffer 4 2)
  destIpv4 := UInt32.ofNat (field buffer 6 4)
  destPort := UInt16.ofNat (field buffer 10 2)
  protocol := UInt32.ofNat (field buffer 12 4)

/-- `sizeof(ProxyInfo)`, also the size of `ProxyConnectRequest` and `ProxyConnectResponse`. -/
def proxyInfoSize : Nat := 16

/-- `sizeof(ProxyDataHeader)`. -/
def proxyDataHeaderSize : Nat := 20

def ProxyDataHeader.ofImage (buffer : List UInt8) : ProxyDataHeader where
  info := ProxyInfo.ofImage buffer
  dataLength := UInt32.ofNat (field buffer 16 4)

structure ProxyDisconnectMessage where
  info : ProxyInfo
  disconnectReason : UInt32
  deriving DecidableEq, Inhabited

def ProxyDisconnectMessage.image (message : ProxyDisconnectMessage) : List UInt8 :=
  message.info.image ++ bytes 4 message.disconnectReason.toNat

def ProxyDisconnectMessage.ofImage (buffer : List UInt8) : ProxyDisconnectMessage where
  info := ProxyInfo.ofImage buffer
  disconnectReason := UInt32.ofNat (field buffer 16 4)

def ExternalProxyConfig.ofImage (buffer : List UInt8) : ExternalProxyConfig where
  proxyIp := Octets.ofImage 16 buffer 0
  addressFamily := UInt32.ofNat (field buffer 16 4)
  proxyPort := UInt16.ofNat (field buffer 20 2)
  token := Octets.ofImage 16 buffer 22

theorem field_bytes {width v : Nat} (fits : v < 256 ^ width) (front rest : List UInt8) :
    field (front ++ (bytes width v ++ rest)) front.length width = v := by
  rw [field, List.drop_left, List.take_left' (bytes_length width v)]
  exact value_bytes_of_lt fits

theorem field_bytes32 (v : UInt32) (front rest : List UInt8) :
    field (front ++ (bytes 4 v.toNat ++ rest)) front.length 4 = v.toNat :=
  field_bytes v.toNat_lt front rest

theorem field_bytes16 (v : UInt16) (front rest : List UInt8) :
    field (front ++ (bytes 2 v.toNat ++ rest)) front.length 2 = v.toNat :=
  field_bytes v.toNat_lt front rest

theorem ProxyInfo.ofImage_image (info : ProxyInfo) (rest : List UInt8) :
    ProxyInfo.ofImage (info.image ++ rest) = info := by
  have source := field_bytes32 info.sourceIpv4 []
    (bytes 2 info.sourcePort.toNat ++ (bytes 4 info.destIpv4.toNat ++
      (bytes 2 info.destPort.toNat ++ (bytes 4 info.protocol.toNat ++ rest))))
  have sourcePort := field_bytes16 info.sourcePort (bytes 4 info.sourceIpv4.toNat)
    (bytes 4 info.destIpv4.toNat ++ (bytes 2 info.destPort.toNat ++
      (bytes 4 info.protocol.toNat ++ rest)))
  have dest := field_bytes32 info.destIpv4
    (bytes 4 info.sourceIpv4.toNat ++ bytes 2 info.sourcePort.toNat)
    (bytes 2 info.destPort.toNat ++ (bytes 4 info.protocol.toNat ++ rest))
  have destPort := field_bytes16 info.destPort
    (bytes 4 info.sourceIpv4.toNat ++ bytes 2 info.sourcePort.toNat ++
      bytes 4 info.destIpv4.toNat) (bytes 4 info.protocol.toNat ++ rest)
  have protocol := field_bytes32 info.protocol
    (bytes 4 info.sourceIpv4.toNat ++ bytes 2 info.sourcePort.toNat ++
      bytes 4 info.destIpv4.toNat ++ bytes 2 info.destPort.toNat) rest
  simp only [List.length_append, bytes_length, List.length_nil, List.nil_append,
    List.append_assoc, Nat.reduceAdd] at source sourcePort dest destPort protocol
  simp only [ofImage, image, List.append_assoc, source, sourcePort, dest, destPort, protocol,
    UInt32.ofNat_toNat, UInt16.ofNat_toNat]

theorem ProxyDataHeader.ofImage_image (header : ProxyDataHeader) (rest : List UInt8) :
    ProxyDataHeader.ofImage (header.image ++ rest) = header := by
  have info := header.info.ofImage_image (bytes 4 header.dataLength.toNat ++ rest)
  have length := field_bytes32 header.dataLength header.info.image rest
  simp only [ProxyInfo.length_image] at length
  simp only [ofImage, image, List.append_assoc, info, length, UInt32.ofNat_toNat]

end RyuLdn.ProtocolTypes
