import RyuLdn.ProtocolCodec

/-! The image of a `NetworkInfo`, with the fields that are read out of it. The two
declarations of the structure, `ldn_types.hpp` and `protocol/types.hpp`, have one layout. -/
namespace RyuLdn

open ProtocolCodec (field)

/-- `sizeof(NetworkInfo)`. -/
def NetworkInfo.imageSize : Nat := 0x480

structure NodeInfo where
  ipv4Address : UInt32
  nodeId : Int8
  isConnected : Int8
  deriving DecidableEq

structure NetworkInfo where
  bytes : List UInt8
  size : bytes.length = NetworkInfo.imageSize
  deriving DecidableEq

namespace NetworkInfo

def zero : NetworkInfo := ⟨List.replicate NetworkInfo.imageSize 0, List.length_replicate⟩

def ofData (data : List UInt8) : Option NetworkInfo :=
  if enough : NetworkInfo.imageSize ≤ data.length then
    some ⟨data.take NetworkInfo.imageSize, List.length_take_of_le enough⟩
  else none

def byte (info : NetworkInfo) (offset : Nat) : UInt8 := info.bytes.getD offset 0

def put (info : NetworkInfo) (offset : Nat) (image : List UInt8)
    (fits : offset + image.length ≤ NetworkInfo.imageSize) : NetworkInfo where
  bytes := info.bytes.take offset ++ image ++ info.bytes.drop (offset + image.length)
  size := by
    have size := info.size
    simp only [List.length_append, List.length_take, List.length_drop]
    omega

def localCommunicationId (info : NetworkInfo) : UInt64 := .ofNat (field info.bytes 0 8)

def sceneId (info : NetworkInfo) : UInt16 := .ofNat (field info.bytes 10 2)

def channel (info : NetworkInfo) : UInt16 := .ofNat (field info.bytes 72 2)

def nodeCount (info : NetworkInfo) : UInt8 := info.byte 103

def nodeOffset (slot : Nat) : Nat := 104 + 64 * slot

def node (info : NetworkInfo) (slot : Nat) : NodeInfo where
  ipv4Address := .ofNat (field info.bytes (nodeOffset slot) 4)
  nodeId := (info.byte (nodeOffset slot + 10)).toInt8
  isConnected := (info.byte (nodeOffset slot + 11)).toInt8

def isConnected (info : NetworkInfo) (slot : Nat) : Bool := (info.node slot).isConnected != 0

theorem isConnected_zero (slot : Nat) : zero.isConnected slot = false := by
  have byte_zero : zero.byte (nodeOffset slot + 11) = 0 := by
    unfold byte zero
    rw [List.getD_eq_getElem?_getD, List.getElem?_replicate]
    split <;> rfl
  unfold isConnected node
  rw [byte_zero]
  rfl

theorem byte_put {info : NetworkInfo} {offset : Nat} {image : List UInt8}
    {fits : offset + image.length ≤ NetworkInfo.imageSize} {position : Nat}
    (behind : offset + image.length ≤ position) :
    (info.put offset image fits).byte position = info.byte position := by
  have size := info.size
  unfold byte put
  rw [List.getD_eq_getElem?_getD, List.getD_eq_getElem?_getD, List.getElem?_append_right,
    List.getElem?_drop]
  · congr 2
    simp only [List.length_append, List.length_take]
    omega
  · simp only [List.length_append, List.length_take]
    omega

theorem isConnected_put {info : NetworkInfo} {offset : Nat} {image : List UInt8}
    {fits : offset + image.length ≤ NetworkInfo.imageSize} (front : offset + image.length ≤ 104)
    (slot : Nat) : (info.put offset image fits).isConnected slot = info.isConnected slot := by
  have behind : offset + image.length ≤ nodeOffset slot + 11 := by
    unfold nodeOffset
    omega
  unfold isConnected node
  rw [byte_put behind]

end NetworkInfo

end RyuLdn
