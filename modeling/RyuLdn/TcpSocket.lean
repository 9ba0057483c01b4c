import Mathlib.Tactic.SplitIfs

/-! `Socket` of `socket.cpp`, over the answers of the system calls it makes. A
call that loops takes the list of answers it meets; where the list ends the
system is obliging: the rest of a write is accepted, a read finds nothing in time.
Every terminating run of a loop is one such list.

`poll` fails only with the errors it documents. The bytes themselves are not
modelled here: `send` and `sendAll` report how many were accepted. -/
namespace RyuLdn.TcpSocket

inductive SocketResult where
  | success | wouldBlock | timeout | connectionRefused | connectionReset | hostUnreachable
  | networkDown | notConnected | alreadyConnected | invalidAddress | socketError
  | notInitialized | closed
  deriving DecidableEq, Repr

/-- The values of `errno` that `errno_to_result` tells apart; `EWOULDBLOCK` is `EAGAIN`. -/
inductive Errno where
  | eagain | econnrefused | econnreset | epipe | econnaborted | ehostunreach | enetunreach
  | enetdown | enotconn | eisconn | etimedout
  | other
  deriving DecidableEq, Repr

def errnoToResult : Errno → SocketResult
  | .eagain => .wouldBlock
  | .econnrefused => .connectionRefused
  | .econnreset | .epipe | .econnaborted => .connectionReset
  | .ehostunreach | .enetunreach => .hostUnreachable
  | .enetdown => .networkDown
  | .enotconn => .notConnected
  | .eisconn => .alreadyConnected
  | .etimedout => .timeout
  | .other => .socketError

/-- Why `poll` failed: `EAGAIN`, or one of `EINTR`, `EINVAL`, `EFAULT`, `ENOMEM`. -/
inductive PollErrno where
  | eagain | other
  deriving DecidableEq, Repr

def PollErrno.toErrno : PollErrno → Errno
  | .eagain => .eagain
  | .other => .other

inductive PollReply where
  | failed (errno : PollErrno)
  | timedOut
  | ready (hangup : Bool)
  deriving DecidableEq, Repr

/-- What `::send` or `mbedtls_ssl_write` returned; `EAGAIN` stands for `WANT_READ`
and `WANT_WRITE` too. -/
inductive WriteReply where
  | written (n : Nat)
  | failed (errno : Errno)
  deriving DecidableEq, Repr

/-- What `::recv` or `mbedtls_ssl_read` returned; no bytes is the end of the stream. -/
inductive ReadReply where
  | data (bytes : List UInt8)
  | failed (errno : Errno)
  deriving DecidableEq, Repr

inductive ConnectReply where
  | established
  | unresolved
  | failed (errno : Errno)
  | timedOut
  | hungUp
  | tlsFailed
  deriving DecidableEq, Repr

/-- `initialized` is the static `s_initialized`. -/
structure Socket where
  connected : Bool
  useTls : Bool
  initialized : Bool
  deriving DecidableEq, Repr

namespace Socket

def new : Socket := ⟨false, false, false⟩

def close (s : Socket) : Socket := { s with connected := false, useTls := false }

def connect (s : Socket) (host : List UInt8) (useTls : Bool) (reply : ConnectReply) :
    SocketResult × Socket :=
  if !s.initialized then (.notInitialized, s)
  else if host = [] then (.invalidAddress, s)
  else if s.connected then (.alreadyConnected, s)
  else
    match reply with
    | .established => (.success, { s with connected := true, useTls := useTls })
    | .unresolved => (.invalidAddress, s.close)
    | .failed errno => (errnoToResult errno, s.close)
    | .timedOut => (.timeout, s.close)
    | .hungUp => (.connectionReset, s.close)
    | .tlsFailed =>
        -- Only a TLS connection has a session to set up.
        if useTls then (.socketError, s.close)
        else (.success, { s with connected := true, useTls := false })

def send (s : Socket) (size : Nat) (reply : WriteReply) : SocketResult × Nat × Socket :=
  if !s.connected then (.notConnected, 0, s)
  else
    match reply with
    | .failed errno =>
        if errno = .eagain then (.wouldBlock, 0, s)
        else
          (if s.useTls then .socketError else errnoToResult errno, 0,
            { s with connected := false })
    | .written n =>
        if !s.useTls && min n size = 0 then (.closed, 0, { s with connected := false })
        else (.success, min n size, s)

def waitReady (s : Socket) : PollReply → SocketResult × Socket
  | .failed errno => (errnoToResult errno.toErrno, s)
  | .timedOut => (.timeout, s)
  | .ready true => (.connectionReset, { s with connected := false })
  | .ready false => (.success, s)

abbrev WriteTurn := WriteReply × PollReply

/-- The loop of `send_all` from `total_sent`; the result, `total_sent` and the socket. -/
def sendAllFrom (timeoutMs : Nat) (size : Nat) : Nat → Socket → List WriteTurn →
    SocketResult × Nat × Socket
  | total, s, [] =>
      if size ≤ total then (.success, total, s)
      else if !s.connected then (.notConnected, total, s)
      else (.success, size, s)
  | total, s, (write, poll) :: turns =>
      if size ≤ total then (.success, total, s)
      else
        match s.send (size - total) write with
        | (.wouldBlock, _, s) =>
            if timeoutMs = 0 ∧ total = 0 then (.wouldBlock, total, s)
            else
              match s.waitReady poll with
              | (.success, s) => sendAllFrom timeoutMs size total s turns
              | (result, s) => (result, total, s)
        | (.success, sent, s) => sendAllFrom timeoutMs size (total + sent) s turns
        | (result, _, s) => (result, total, s)

theorem sendAllFrom_done {size total : Nat} (all : size ≤ total) (timeoutMs : Nat) (s : Socket)
    (turns : List WriteTurn) : sendAllFrom timeoutMs size total s turns = (.success, total, s) := by
  cases turns <;> rw [sendAllFrom, if_pos all]

def sendAll (s : Socket) (size : Nat) (turns : List WriteTurn) : SocketResult × Nat × Socket :=
  sendAllFrom 5000 size 0 s turns

/-- The read itself, after any wait; the result, the bytes received and the socket. -/
def read (s : Socket) (bufferSize : Nat) : ReadReply → SocketResult × List UInt8 × Socket
  | .failed errno =>
      if errno = .eagain then (.wouldBlock, [], s)
      else
        (if s.useTls then .socketError else errnoToResult errno, [],
          { s with connected := false })
  | .data bytes =>
      if bytes.take bufferSize = [] then (.closed, [], { s with connected := false })
      else (.success, bytes.take bufferSize, s)

def recv (s : Socket) (bufferSize : Nat) (timeoutMs : Int) (poll : PollReply)
    (reply : ReadReply) : SocketResult × List UInt8 × Socket :=
  if !s.connected then (.notConnected, [], s)
  else if 0 < timeoutMs then
    match s.waitReady poll with
    | (.success, s) => s.read bufferSize reply
    | (result, s) => (result, [], s)
  else s.read bufferSize reply

/-- The results that `send`, `send_all` and `recv` pair with a closed socket. -/
def GoneWhenLost (result : SocketResult) (s : Socket) : Prop :=
  result = .closed ∨ result = .connectionReset ∨ result = .notConnected → s.connected = false

theorem send_cases (s : Socket) (size : Nat) (reply : WriteReply) :
    (∃ sent ≤ size, s.send size reply = (.success, sent, s)) ∨
      s.send size reply = (.wouldBlock, 0, s) ∨
      ∃ result lost, s.send size reply = (result, 0, lost) ∧
        result ≠ .success ∧ result ≠ .wouldBlock ∧ lost.connected = false := by
  unfold send
  by_cases up : s.connected = true
  · simp only [up, Bool.not_true, Bool.false_eq_true, if_false]
    cases reply with
    | written n =>
        by_cases gone : (!s.useTls && decide (min n size = 0)) = true
        · exact Or.inr (Or.inr ⟨.closed, _, if_pos gone, by simp, by simp, rfl⟩)
        · exact Or.inl ⟨min n size, Nat.min_le_right n size, if_neg gone⟩
    | failed errno =>
        by_cases again : errno = .eagain
        · simp [again]
        · refine Or.inr (Or.inr ⟨_, _, if_neg again, ?_, ?_, rfl⟩)
          · cases errno <;> cases s.useTls <;> simp [errnoToResult]
          · cases errno <;> cases s.useTls <;> simp_all [errnoToResult]
  · simp only [Bool.not_eq_true] at up
    exact Or.inr (Or.inr ⟨.notConnected, s, by simp [up], by simp, by simp, up⟩)

theorem send_goneWhenLost (s : Socket) (size : Nat) (reply : WriteReply) :
    GoneWhenLost (s.send size reply).1 (s.send size reply).2.2 := by
  rcases s.send_cases size reply with ⟨sent, -, same⟩ | same | ⟨result, lost, same, -, -, down⟩
  · simp [same, GoneWhenLost]
  · simp [same, GoneWhenLost]
  · rw [same]
    exact fun _ => down

theorem waitReady_goneWhenLost (s : Socket) (reply : PollReply) :
    GoneWhenLost (s.waitReady reply).1 (s.waitReady reply).2 := by
  unfold GoneWhenLost
  cases reply with
  | failed errno => cases errno <;> simp [waitReady, PollErrno.toErrno, errnoToResult]
  | timedOut => simp [waitReady]
  | ready hangup => cases hangup <;> simp [waitReady]

theorem sendAllFrom_goneWhenLost (timeoutMs size : Nat) (turns : List WriteTurn) (total : Nat)
    (s : Socket) :
    GoneWhenLost (sendAllFrom timeoutMs size total s turns).1
      (sendAllFrom timeoutMs size total s turns).2.2 := by
  induction turns generalizing total s with
  | nil =>
      unfold sendAllFrom GoneWhenLost
      split_ifs with all down
      · simp
      · intro _
        simpa using down
      · simp
  | cons turn turns ih =>
      obtain ⟨write, poll⟩ := turn
      have sent := send_goneWhenLost s (size - total) write
      unfold sendAllFrom
      generalize s.send (size - total) write = outcome at sent
      obtain ⟨result, n, after⟩ := outcome
      have waited := waitReady_goneWhenLost after poll
      by_cases all : size ≤ total
      · rw [if_pos all]
        simp [GoneWhenLost]
      · rw [if_neg all]
        cases result
        case success => exact ih (total + n) after
        case wouldBlock =>
          dsimp only
          by_cases refused : timeoutMs = 0 ∧ total = 0
          · rw [if_pos refused]
            simp [GoneWhenLost]
          · rw [if_neg refused]
            generalize after.waitReady poll = wait at waited
            obtain ⟨waitResult, ready⟩ := wait
            cases waitResult
            case success => exact ih total ready
            all_goals exact waited
        all_goals exact sent

theorem read_cases (s : Socket) (bufferSize : Nat) (reply : ReadReply) :
    (∃ bytes, bytes ≠ [] ∧ s.read bufferSize reply = (.success, bytes, s)) ∨
      ∃ result after, s.read bufferSize reply = (result, [], after) ∧ result ≠ .success ∧
        GoneWhenLost result after := by
  cases reply with
  | failed errno =>
      by_cases again : errno = .eagain
      · exact Or.inr ⟨.wouldBlock, s, if_pos again, by simp, by simp [GoneWhenLost]⟩
      · refine Or.inr ⟨_, _, if_neg again, ?_, fun _ => rfl⟩
        cases errno <;> cases s.useTls <;> simp [errnoToResult]
  | data bytes =>
      by_cases eof : bytes.take bufferSize = []
      · exact Or.inr ⟨.closed, _, if_pos eof, by simp, fun _ => rfl⟩
      · exact Or.inl ⟨_, eof, if_neg eof⟩

theorem recv_cases (s : Socket) (bufferSize : Nat) (timeoutMs : Int) (poll : PollReply)
    (reply : ReadReply) :
    (∃ bytes, bytes ≠ [] ∧ s.recv bufferSize timeoutMs poll reply = (.success, bytes, s)) ∨
      ∃ result after, s.recv bufferSize timeoutMs poll reply = (result, [], after) ∧
        result ≠ .success ∧ GoneWhenLost result after := by
  unfold recv
  split_ifs with down
  · exact Or.inr ⟨.notConnected, s, rfl, by simp, fun _ => by simpa using down⟩
  · cases poll with
    | failed errno =>
        refine Or.inr ⟨errnoToResult errno.toErrno, s, ?_, ?_, ?_⟩
        all_goals cases errno <;> simp [waitReady, PollErrno.toErrno, errnoToResult, GoneWhenLost]
    | timedOut => exact Or.inr ⟨.timeout, s, rfl, by simp, by simp [GoneWhenLost]⟩
    | ready hangup =>
        cases hangup with
        | true => exact Or.inr ⟨.connectionReset, _, rfl, by simp, fun _ => rfl⟩
        | false => exact s.read_cases bufferSize reply
  · exact s.read_cases bufferSize reply

theorem connect_connected {s : Socket} (host : List UInt8) (useTls : Bool) (reply : ConnectReply)
    (idle : s.connected = false) :
    (s.connect host useTls reply).2.connected = true ↔
      (s.connect host useTls reply).1 = .success := by
  unfold connect
  by_cases early : s.initialized = true
  · by_cases empty : host = []
    · simp [early, empty, idle]
    · simp only [early, empty, idle, Bool.not_true, Bool.false_eq_true, if_false]
      cases reply with
      | failed errno => cases errno <;> simp [close, errnoToResult]
      | tlsFailed => cases useTls <;> simp [close]
      | _ => simp [close]
  · simp [early, idle]

end Socket

end RyuLdn.TcpSocket
