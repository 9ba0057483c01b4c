import RyuLdn.LittleEndian

/-! The proxy structures of `types.hpp` and their packed byte images, field by
field in the order of the wire format. -/
namespace RyuLdn.ProtocolTypes

open LittleEndian

/-- `uint8_t x[n]`. -/
@[ext] structure Octets (n : Nat) where
  bytes : List UInt8
  length_eq : bytes.length = n
  deriving DecidableEq

instance {n : Nat} : Inhabited (Octets n) := ⟨⟨List.replicate n 0, List.length_replicate⟩⟩

structure ProxyInfo where
  sourceIpv4 : UInt32
  sourcePort : UInt16
  destIpv4 : UInt32
  destPort : UInt16
  protocol : UInt32
  deriving DecidableEq, Inhabited

def ProxyInfo.image (info : ProxyInfo) : List UInt8 :=
  bytes 4 info.sourceIpv4.toNat ++ bytes 2 info.sourcePort.toNat ++
    bytes 4 info.destIpv4.toNat ++ bytes 2 info.destPort.toNat ++ bytes 4 info.protocol.toNat

structure ProxyDataHeader where
  info : ProxyInfo
  dataLength : UInt32
  deriving DecidableEq, Inhabited

def ProxyDataHeader.image (header : ProxyDataHeader) : List UInt8 :=
  header.info.image ++ bytes 4 header.dataLength.toNat

structure ProxyConfig where
  proxyIp : UInt32
  proxySubnetMask : UInt32
  deriving DecidableEq, Inhabited

def ProxyConfig.image (config : ProxyConfig) : List UInt8 :=
  bytes 4 config.proxyIp.toNat ++ bytes 4 config.proxySubnetMask.toNat

structure ExternalProxyConfig where
  proxyIp : Octets 16
  addressFamily : UInt32
  proxyPort : UInt16
  token : Octets 16
  deriving DecidableEq, Inhabited

structure ExternalProxyToken where
  virtualIp : UInt32
  token : Octets 16
  physicalIp : Octets 16
  addressFamily : UInt32
  deriving DecidableEq, Inhabited

structure ExternalProxyConnectionState where
  ipAddress : UInt32
  connected : UInt8
  deriving DecidableEq, Inhabited

def ExternalProxyConnectionState.image (state : ExternalProxyConnectionState) : List UInt8 :=
  bytes 4 state.ipAddress.toNat ++ bytes 1 state.connected.toNat ++ bytes 3 0

@[simp] theorem ProxyInfo.length_image (info : ProxyInfo) : info.image.length = 16 := by
  simp [ProxyInfo.image]

@[simp] theorem ProxyDataHeader.length_image (header : ProxyDataHeader) :
    header.image.length = 20 := by
  simp [ProxyDataHeader.image]

end RyuLdn.ProtocolTypes
