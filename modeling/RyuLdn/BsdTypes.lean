import Mathlib.Tactic.IntervalCases
import RyuLdn.ProtocolTypes

/-! The BSD types of `bsd_types.hpp` that the proxy sockets use. Addresses and
ports are stored in network byte order and read back through `GetAddr` and
`GetPort`, which swap the bytes. -/
namespace RyuLdn.BsdTypes

def bswap16 (x : UInt16) : UInt16 := (x <<< 8) ||| (x >>> 8)

def bswap32 (x : UInt32) : UInt32 :=
  (x <<< 24) ||| ((x <<< 8) &&& (0x00FF0000 : UInt32)) ||| ((x >>> 8) &&& (0x0000FF00 : UInt32)) |||
    (x >>> 24)

@[simp] theorem bswap16_bswap16 (x : UInt16) : bswap16 (bswap16 x) = x := by
  apply UInt16.toBitVec_inj.mp
  apply BitVec.eq_of_getLsbD_eq
  intro i bound
  unfold bswap16
  simp only [UInt16.toBitVec_or, UInt16.toBitVec_shiftLeft, UInt16.toBitVec_shiftRight,
    BitVec.getLsbD_or]
  interval_cases i <;> simp

theorem getLsbD_bswap32 (x : UInt32) {i : Nat} (bound : i < 32) :
    (bswap32 x).toBitVec.getLsbD i = x.toBitVec.getLsbD (24 + i - 16 * (i / 8)) := by
  unfold bswap32
  simp only [UInt32.toBitVec_or, UInt32.toBitVec_and, UInt32.toBitVec_shiftLeft,
    UInt32.toBitVec_shiftRight, BitVec.getLsbD_or, BitVec.getLsbD_and]
  interval_cases i <;> simp

@[simp] theorem bswap32_bswap32 (x : UInt32) : bswap32 (bswap32 x) = x := by
  apply UInt32.toBitVec_inj.mp
  apply BitVec.eq_of_getLsbD_eq
  intro i bound
  rw [getLsbD_bswap32 _ bound, getLsbD_bswap32 _ (by omega)]
  congr 1
  omega

def ldnNetworkBase : UInt32 := 0x0A720000
def ldnNetworkMask : UInt32 := 0xFFFF0000

def isLdnAddress (ip : UInt32) : Bool := ip &&& ldnNetworkMask == ldnNetworkBase

def inet : UInt8 := 2

/-- An `s32` cast to `SocketType`; values no branch compares with are `other`. -/
inductive SocketType where
  | stream | dgram
  | other (value : Int)
  deriving DecidableEq, Repr

def SocketType.ofInt (value : Int) : SocketType :=
  if value = 1 then .stream else if value = 2 then .dgram else .other value

/-- An `s32` cast to `ProtocolType`; values no branch compares with are `other`. -/
inductive ProtocolType where
  | unspecified | tcp | udp
  | other (value : Int)
  deriving DecidableEq, Repr

def ProtocolType.ofInt (value : Int) : ProtocolType :=
  if value = 0 then .unspecified else if value = 6 then .tcp
  else if value = 17 then .udp else .other value

def ProtocolType.toInt : ProtocolType → Int
  | .unspecified => 0
  | .tcp => 6
  | .udp => 17
  | .other value => value

def ProtocolType.toField (protocol : ProtocolType) : UInt32 := UInt32.ofInt protocol.toInt

inductive Errno where
  | badF | again | noMem | fault | inval | destAddrReq | msgSize | opNotSupp | afNoSupport
  | addrInUse | netUnreach | notConn | timedOut | connRefused | inProgress
  deriving DecidableEq, Repr

structure SockAddrIn where
  sinLen : UInt8
  sinFamily : UInt8
  sinPort : UInt16
  sinAddr : UInt32
  deriving DecidableEq, Repr, Inhabited

namespace SockAddrIn

def getPort (addr : SockAddrIn) : UInt16 := bswap16 addr.sinPort

def getAddr (addr : SockAddrIn) : UInt32 := bswap32 addr.sinAddr

def isLdnAddress (addr : SockAddrIn) : Bool := BsdTypes.isLdnAddress (bswap32 addr.sinAddr)

/-- The `AF_INET` address the sources build from an address and a port in host order. -/
def ofHost (ip : UInt32) (port : UInt16) : SockAddrIn :=
  ⟨16, inet, bswap16 port, bswap32 ip⟩

@[simp] theorem getPort_ofHost (ip : UInt32) (port : UInt16) : (ofHost ip port).getPort = port :=
  bswap16_bswap16 port

@[simp] theorem getAddr_ofHost (ip : UInt32) (port : UInt16) : (ofHost ip port).getAddr = ip :=
  bswap32_bswap32 ip

end SockAddrIn

end RyuLdn.BsdTypes
