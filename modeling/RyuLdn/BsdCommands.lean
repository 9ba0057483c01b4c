import RyuLdn.BsdSocketOptions

/-! The commands on one descriptor. Those that move data look at the mark in
`g_socket_info` first and then for the proxy socket; those that ask about the socket
look for the proxy alone; the rest know no proxies and go to the real service. -/
namespace RyuLdn.BsdCommands

open BsdTypes ProxySocket ProxySocketManager BsdMitmService LockedProgram Program

/-- `sizeof(SockAddrIn)`. -/
def sockAddrSize : Nat := 16
def fionRead : UInt32 := 0x4004667F

/-- What the game gets; an address or a count is `none` where its buffer is too short. -/
inductive Reply where
  | sent (size : Nat)
  | received (bytes : List UInt8) (addr : Option SockAddrIn)
  | name (addr : Option SockAddrIn)
  | pending (size : Option Nat)
  | option (reply : BsdSocketOptions.Reply)
  | done
  | failed (errno : Errno)
  | blocked
  | forwarded
  deriving DecidableEq

namespace Reply

def ofSent : Except Errno Nat → Reply
  | .ok size => .sent size
  | .error errno => .failed errno

/-- `from_addr` starts as zeros and is copied out if there is room. -/
def ofReceived (addrSize : Nat) : Socket.Received → Reply
  | .data bytes source =>
      .received bytes (if addrSize ≥ sockAddrSize then some (source.getD default) else none)
  | .failed errno => .failed errno
  | .blocked => .blocked

def ofOption : BsdSocketOptions.Reply → Reply
  | .forwarded => .forwarded
  | reply => .option reply

def ofAnswer : Answer → Reply
  | .own none => .done
  | .own (some errno) => .failed errno
  | .forwarded => .forwarded

end Reply

def onMarked (fd : Int) (body : Socket → Program Manager Reply) : Program Bsd Reply := do
  let known ← read (·.socketInfo.lookup fd)
  if known.any (·.isProxy) then do
    let proxy ← onManager (getProxySocket fd)
    match proxy with
    | some s => onManager (body s)
    | none => pure .forwarded
  else pure .forwarded

def onProxy (fd : Int) (body : Socket → Program Manager Reply) : Program Bsd Reply := do
  let proxy ← onManager (getProxySocket fd)
  match proxy with
  | some s => onManager (body s)
  | none => pure .forwarded

/-- `ProxySocket::Send`. -/
def sendConnected (s : Socket) (bytes : List UInt8) : Program Manager Reply := do
  if s.state ≠ .connected then pure (.failed .notConn)
  else do
    let result ← ProxySocketManager.sendTo s bytes s.remoteAddr
    pure (.ofSent result)

def receive (fd : Int) (addrSize : Nat) (call : Socket → Socket.Received × Socket) (s : Socket) :
    Program Manager Reply := do
  update (·.setSocket fd (call s).2)
  pure (.ofReceived addrSize (call s).1)

def send (fd : Int) (bytes : List UInt8) : Program Bsd Reply := onMarked fd (sendConnected · bytes)

def write (fd : Int) (bytes : List UInt8) : Program Bsd Reply := onMarked fd (sendConnected · bytes)

def recv (fd : Int) (len : Nat) (flags : UInt32) : Program Bsd Reply :=
  onMarked fd (receive fd 0 (·.recv true len flags))

def read (fd : Int) (len : Nat) : Program Bsd Reply :=
  onMarked fd (receive fd 0 (·.recv true len 0))

def recvFrom (fd : Int) (len : Nat) (flags : UInt32) (addrSize : Nat) : Program Bsd Reply :=
  onMarked fd (receive fd addrSize (·.recvFrom true len flags true))

def resume (fd : Int) (len : Nat) (flags : UInt32) (addrSize : Nat) (wantSource : Bool) :
    Program Bsd Reply :=
  onProxy fd (receive fd addrSize (·.resumeRecvFrom len flags wantSource))

def nameReply (addrSize : Nat) (addr : SockAddrIn) : Reply :=
  .name (if addrSize ≥ sockAddrSize then some addr else none)

def getPeerName (fd : Int) (addrSize : Nat) : Program Bsd Reply :=
  onProxy fd fun s =>
    pure (if s.state ≠ .connected then .failed .notConn else nameReply addrSize s.remoteAddr)

def getSockName (fd : Int) (addrSize : Nat) : Program Bsd Reply :=
  onProxy fd fun s => pure (nameReply addrSize s.localAddr)

def ioctl (fd : Int) (request : UInt32) (size : Nat) : Program Bsd Reply :=
  onProxy fd fun s =>
    pure (if request = fionRead then
      .pending (if size ≥ 4 then some s.getPendingDataSize else none)
    else .failed .inval)

/-- `forwardedOnly` stands for `Accept`, `Listen`, `Shutdown`, `DuplicateSocket`,
`RecvMMsg` and `SendMMsg`; the last two look at the mark, but only to write a warning. -/
inductive Command where
  | send (bytes : List UInt8)
  | write (bytes : List UInt8)
  | sendTo (addr : Option SockAddrIn) (bytes : List UInt8)
  | recv (len : Nat) (flags : UInt32)
  | read (len : Nat)
  | recvFrom (len : Nat) (flags : UInt32) (addrSize : Nat)
  | getPeerName (addrSize : Nat)
  | getSockName (addrSize : Nat)
  | ioctl (request : UInt32) (size : Nat)
  | fcntl (cmd : Int) (arg : UInt32)
  | getSockOpt (level optname : Int) (size : Option Nat)
  | setSockOpt (level optname : Int) (optval : List UInt8)
  | forwardedOnly

def Command.program (fd : Int) : Command → Program Bsd Reply
  | .send bytes => BsdCommands.send fd bytes
  | .write bytes => BsdCommands.write fd bytes
  | .sendTo addr bytes => do
      let answer ← BsdMitmService.sendTo fd addr bytes
      pure (.ofAnswer answer)
  | .recv len flags => BsdCommands.recv fd len flags
  | .read len => BsdCommands.read fd len
  | .recvFrom len flags addrSize => BsdCommands.recvFrom fd len flags addrSize
  | .getPeerName addrSize => BsdCommands.getPeerName fd addrSize
  | .getSockName addrSize => BsdCommands.getSockName fd addrSize
  | .ioctl request size => BsdCommands.ioctl fd request size
  | .fcntl cmd arg => do
      let reply ← BsdSocketOptions.fcntl fd cmd arg
      pure (.ofOption reply)
  | .getSockOpt level optname size => do
      let reply ← BsdSocketOptions.getSockOpt fd level optname size
      pure (.ofOption reply)
  | .setSockOpt level optname optval => do
      let reply ← BsdSocketOptions.setSockOpt fd level optname optval
      pure (.ofOption reply)
  | .forwardedOnly => pure .forwarded

end RyuLdn.BsdCommands
