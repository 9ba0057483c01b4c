import RyuLdn.LdnNodeUpdates
import RyuLdn.ProtocolTypes
import RyuLdn.TransitionSystem

/-! `Scan` of `ICommunicationService` and the replies of the server. The call stops between
any two statements that the receive thread can come between: the handlers run under
`m_shared_mutex`, the call does not take it. The server answers the scans in the order they
reach it, and its packets arrive in the order it sends them.

`asked`, `wire`, `answers`, `finished` and `returned` are not in the source: the scans the
server has still to answer, the packets in flight, what the server has sent in answer to
the last scan and whether that was all, and what the calls came back with. -/
namespace RyuLdn.LdnScan

open ProtocolTypes TransitionSystem

def maxScanResults : Nat := 8

structure NetworkId where
  localCommunicationId : UInt64
  sceneId : UInt16
  sessionId : Octets 16
  deriving DecidableEq

/-- The members of `ScanFilter` and `ScanFilterFull` that `Scan` copies. -/
structure ScanFilter where
  networkId : NetworkId
  networkType : UInt32
  macAddress : Octets 6
  ssidLength : UInt8
  ssidName : Octets 33
  flag : UInt32
  deriving DecidableEq

def scanFilterFlagLocalCommunicationId : UInt32 := 1

def serverFilter (localCommunicationId : UInt64) (filter : ScanFilter) : ScanFilter :=
  { filter with
    networkId := { filter.networkId with
      localCommunicationId :=
        if filter.networkId.localCommunicationId = 0xFFFFFFFFFFFFFFFF ∨
            filter.networkId.localCommunicationId = 0 then localCommunicationId
        else filter.networkId.localCommunicationId }
    flag := filter.flag ||| scanFilterFlagLocalCommunicationId }

inductive Packet where
  | scanReply (data : List UInt8)
  | scanReplyEnd
  deriving DecidableEq

inductive Ending where
  | complete
  | timeout
  deriving DecidableEq

inductive Call where
  | idle
  | resetCount (filter : ScanFilter) (size : Nat)
  | clearResults (filter : ScanFilter) (size : Nat)
  | clearScanEvent (filter : ScanFilter) (size : Nat)
  | clearErrorEvent (filter : ScanFilter) (size : Nat)
  | storeSceneId (filter : ScanFilter) (size : Nat)
  | sending (filter : ScanFilter) (size : Nat)
  | waiting (size : Nat)
  | copying (ending : Ending) (size : Nat)
  deriving DecidableEq

/-- `MAKERESULT(0x10, ..)`, or the networks of the output buffer. -/
inductive Outcome where
  | notConnected
  | sendFailed
  | error
  | networks (ending : Ending) (infos : List NetworkInfo)
  deriving DecidableEq

structure Return where
  outcome : Outcome
  size : Nat
  answers : List (List UInt8)
  finished : Bool
  ids : LdnNodeUpdates

structure State where
  shared : LdnNodeUpdates
  scanResults : List NetworkInfo
  scanResultCount : Nat
  scanEvent : Bool
  errorEvent : Bool
  call : Call
  sent : List ScanFilter
  asked : List Nat
  wire : List Packet
  answers : List (List UInt8)
  finished : Bool
  returned : List Return

def init (localCommunicationId : UInt64) : State where
  shared := { LdnNodeUpdates.new with localCommunicationId := localCommunicationId }
  scanResults := List.replicate maxScanResults .zero
  scanResultCount := 0
  scanEvent := false
  errorEvent := false
  call := .idle
  sent := []
  asked := []
  wire := []
  answers := []
  finished := false
  returned := []

def State.handleScanReplyPacket (st : State) (data : List UInt8) : State :=
  match NetworkInfo.ofData data with
  | some info =>
      if st.scanResultCount < maxScanResults then
        { st with
          scanResults := st.scanResults.set st.scanResultCount (st.shared.fixIds info)
          scanResultCount := st.scanResultCount + 1 }
      else st
  | none => st

def State.handlePacket (st : State) : Packet → State
  | .scanReply data => st.handleScanReplyPacket data
  | .scanReplyEnd => { st with scanEvent := true }

inductive Signal where
  | scan
  | error
  | timeout
  deriving DecidableEq

def State.comeBack (st : State) (size : Nat) (outcome : Outcome) : State :=
  { st with
    call := .idle
    returned := st.returned ++ [⟨outcome, size, st.answers, st.finished, st.shared⟩] }

inductive Action where
  /-- `size` is the size of the game's buffer, `ready` what `IsServerConnected` says. -/
  | scan (filter : ScanFilter) (size : Nat) (ready : Bool)
  | proceed
  | send (sent : Bool)
  | wake (signal : Signal)
  | serverReply (data : List UInt8)
  | serverEnd
  | receive
  | networkError
  | lost
  deriving DecidableEq

def State.proceed (st : State) : Option State :=
  match st.call with
  | .resetCount filter size =>
      some { st with scanResultCount := 0, call := .clearResults filter size }
  | .clearResults filter size =>
      some { st with
        scanResults := List.replicate maxScanResults .zero
        call := .clearScanEvent filter size }
  | .clearScanEvent filter size =>
      some { st with scanEvent := false, call := .clearErrorEvent filter size }
  | .clearErrorEvent filter size =>
      some { st with errorEvent := false, call := .storeSceneId filter size }
  | .storeSceneId filter size =>
      some { st with
        shared := { st.shared with expectedSceneId := filter.networkId.sceneId }
        call := .sending filter size }
  | .copying ending size =>
      some (st.comeBack size (.networks ending (st.scanResults.take (min st.scanResultCount size))))
  | _ => none

def State.wake (st : State) (size : Nat) : Signal → Option State
  | .scan => if st.scanEvent then some { st with call := .copying .complete size } else none
  | .error => if st.errorEvent then some (st.comeBack size .error) else none
  | .timeout =>
      if !st.scanEvent && !st.errorEvent then some { st with call := .copying .timeout size }
      else none

def step (st : State) : Action → Option State
  | .scan filter size ready =>
      if st.call = .idle then
        some (if ready then { st with call := .resetCount filter size }
          else st.comeBack size .notConnected)
      else none
  | .proceed => st.proceed
  | .send sent =>
      match st.call with
      | .sending filter size =>
          some (if sent then
            { st with
              call := .waiting size
              sent := st.sent ++ [serverFilter st.shared.localCommunicationId filter]
              asked := st.asked ++ [st.sent.length]
              answers := []
              finished := false }
          else st.comeBack size .sendFailed)
      | _ => none
  | .wake signal =>
      match st.call with
      | .waiting size => st.wake size signal
      | _ => none
  | .serverReply data =>
      match st.asked with
      | k :: _ =>
          some { st with
            wire := st.wire ++ [.scanReply data]
            answers := if k + 1 = st.sent.length then st.answers ++ [data] else st.answers }
      | [] => none
  | .serverEnd =>
      match st.asked with
      | k :: rest =>
          some { st with
            wire := st.wire ++ [.scanReplyEnd]
            asked := rest
            finished := st.finished || k + 1 = st.sent.length }
      | [] => none
  | .receive =>
      match st.wire with
      | packet :: rest => some (State.handlePacket { st with wire := rest } packet)
      | [] => none
  | .networkError => some { st with errorEvent := true }
  | .lost => some { st with asked := [], wire := [] }

def corrected (ids : LdnNodeUpdates) (answers : List (List UInt8)) : List NetworkInfo :=
  ((answers.filterMap NetworkInfo.ofData).map ids.fixIds).take maxScanResults

/-- A completed call has every network the server found for it, up to the two bounds; one
that timed out has those that came in time. -/
def Return.Truthful (r : Return) : Prop :=
  match r.outcome with
  | .networks .complete infos =>
      r.finished = true ∧ infos = (corrected r.ids r.answers).take r.size
  | .networks .timeout infos =>
      ∃ handled, handled <+: r.answers ∧ infos = (corrected r.ids handled).take r.size
  | _ => True

/-- A call starts when nothing of an earlier scan is still to come. -/
def Fresh (st : State) : Action → Bool
  | .scan .. => st.asked = [] && st.wire = []
  | _ => true

def Call.isPreparing : Call → Bool
  | .resetCount .. | .clearResults .. | .clearScanEvent .. | .clearErrorEvent .. | .storeSceneId ..
  | .sending .. => true
  | _ => false

def Call.isReset : Call → Bool
  | .clearResults .. | .clearScanEvent .. | .clearErrorEvent .. | .storeSceneId ..
  | .sending .. => true
  | _ => false

def Call.isCleared : Call → Bool
  | .clearErrorEvent .. | .storeSceneId .. | .sending .. => true
  | _ => false

def Call.isOut : Call → Bool
  | .waiting _ | .copying .. => true
  | _ => false

/-- The replies of the scan: `handled` are in the array, `rest` still on the way. -/
structure Replies (st : State) (handled rest : List (List UInt8)) : Prop where
  answers : st.answers = handled ++ rest
  results : st.scanResults.take st.scanResultCount = corrected st.shared handled
  ended : st.scanEvent = true → st.finished = true ∧ rest = [] ∧ st.wire = []
  wire : st.wire = [] ∧ st.asked = [] ∨
    st.wire = rest.map .scanReply ++
        (if st.finished && !st.scanEvent then [.scanReplyEnd] else []) ∧
      (st.finished = false → ∃ k, st.asked = [k] ∧ k + 1 = st.sent.length) ∧
      (st.finished = true → st.asked = [])

structure Own (st : State) : Prop where
  length : st.scanResults.length = maxScanResults
  count : st.scanResultCount ≤ maxScanResults
  preparing : st.call.isPreparing = true → st.asked = [] ∧ st.wire = []
  reset : st.call.isReset = true → st.scanResultCount = 0
  cleared : st.call.isCleared = true → st.scanEvent = false
  out : st.call.isOut = true → ∃ handled rest, Replies st handled rest
  complete : ∀ size, st.call = .copying .complete size → st.scanEvent = true
  returned : ∀ r ∈ st.returned, r.Truthful

theorem own_init (localCommunicationId : UInt64) : Own (init localCommunicationId) where
  length := List.length_replicate
  count := Nat.zero_le _
  preparing := by simp [init, Call.isPreparing]
  reset := by simp [init, Call.isReset]
  cleared := by simp [init, Call.isCleared]
  out := by simp [init, Call.isOut]
  complete := by simp [init]
  returned := by simp [init]

theorem corrected_append (ids : LdnNodeUpdates) (handled : List (List UInt8)) (data : List UInt8) :
    corrected ids (handled ++ [data]) =
      match NetworkInfo.ofData data with
      | some info =>
          if (corrected ids handled).length < maxScanResults then
            corrected ids handled ++ [ids.fixIds info]
          else corrected ids handled
      | none => corrected ids handled := by
  unfold corrected
  rw [List.filterMap_append, List.map_append]
  cases found : NetworkInfo.ofData data with
  | none => simp [found]
  | some info =>
      simp only [List.filterMap_cons, found, List.filterMap_nil, List.map_cons, List.map_nil,
        List.length_take]
      generalize (handled.filterMap NetworkInfo.ofData).map ids.fixIds = infos
      split
      · rename_i room
        rw [List.take_of_length_le (by simp; omega), List.take_of_length_le (by omega)]
      · rename_i full
        rw [List.take_append_of_le_length (by omega)]

theorem take_set_succ {α : Type} {items : List α} {n : Nat} (here : n < items.length) (a : α) :
    (items.set n a).take (n + 1) = items.take n ++ [a] := by
  rw [List.take_add_one, List.take_set_of_le (le_refl n), List.getElem?_set_self here]
  rfl

namespace Own

variable {st next : State}

theorem comeBack (own : Own st) (size : Nat) {outcome : Outcome}
    (truthful : Return.Truthful ⟨outcome, size, st.answers, st.finished, st.shared⟩) :
    Own (st.comeBack size outcome) where
  length := own.length
  count := own.count
  preparing := by simp [State.comeBack, Call.isPreparing]
  reset := by simp [State.comeBack, Call.isReset]
  cleared := by simp [State.comeBack, Call.isCleared]
  out := by simp [State.comeBack, Call.isOut]
  complete := by simp [State.comeBack]
  returned := by
    intro r member
    rcases List.mem_append.mp member with old | here
    · exact own.returned r old
    · rw [List.mem_singleton.mp here]
      exact truthful

theorem isPreparing_of_isReset {call : Call} (reset : call.isReset = true) :
    call.isPreparing = true := by
  cases call <;> simp_all [Call.isReset, Call.isPreparing]

theorem isPreparing_of_isCleared {call : Call} (cleared : call.isCleared = true) :
    call.isPreparing = true := by
  cases call <;> simp_all [Call.isCleared, Call.isPreparing]

theorem serverReply (own : Own st) {k : Nat} {rest : List Nat} (asked : st.asked = k :: rest)
    (data : List UInt8) :
    Own { st with
      wire := st.wire ++ [.scanReply data]
      answers := if k + 1 = st.sent.length then st.answers ++ [data] else st.answers } := by
  refine ⟨own.length, own.count, ?_, own.reset, own.cleared, ?_, own.complete, own.returned⟩
  · intro preparing
    have none := (own.preparing preparing).1
    rw [asked] at none
    cases none
  · intro out
    obtain ⟨handled, late, answers, results, ended, wire⟩ := own.out out
    rcases wire with ⟨_, none⟩ | ⟨wire, open_, closed⟩
    · rw [asked] at none
      cases none
    · have unfinished : st.finished = false := by
        by_contra finished
        have none := closed (by simpa using finished)
        rw [asked] at none
        cases none
      obtain ⟨n, only, last⟩ := open_ unfinished
      rw [asked] at only
      obtain ⟨rfl, rfl⟩ := List.cons_eq_cons.mp only
      refine ⟨handled, late ++ [data], ?_, results, ?_, Or.inr ⟨?_, open_, closed⟩⟩
      · dsimp only
        rw [if_pos last, answers, List.append_assoc]
      · intro event
        rw [(ended event).1] at unfinished
        cases unfinished
      · dsimp only
        rw [wire, unfinished]
        simp

theorem serverEnd (own : Own st) {k : Nat} {rest : List Nat} (asked : st.asked = k :: rest) :
    Own { st with
      wire := st.wire ++ [.scanReplyEnd]
      asked := rest
      finished := st.finished || k + 1 = st.sent.length } := by
  refine ⟨own.length, own.count, ?_, own.reset, own.cleared, ?_, own.complete, own.returned⟩
  · intro preparing
    have none := (own.preparing preparing).1
    rw [asked] at none
    cases none
  · intro out
    obtain ⟨handled, late, answers, results, ended, wire⟩ := own.out out
    rcases wire with ⟨_, none⟩ | ⟨wire, open_, closed⟩
    · rw [asked] at none
      cases none
    · have unfinished : st.finished = false := by
        by_contra finished
        have none := closed (by simpa using finished)
        rw [asked] at none
        cases none
      have silent : st.scanEvent = false := by
        by_contra event
        rw [(ended (by simpa using event)).1] at unfinished
        cases unfinished
      obtain ⟨n, only, last⟩ := open_ unfinished
      rw [asked] at only
      obtain ⟨rfl, rfl⟩ := List.cons_eq_cons.mp only
      refine ⟨handled, late, answers, results, ?_, Or.inr ⟨?_, ?_, fun _ => rfl⟩⟩
      · simp [silent]
      · dsimp only
        rw [wire, unfinished, silent]
        simp [last]
      · simp [last]

theorem receiveReply (own : Own st) {data : List UInt8} {wire : List Packet}
    (here : st.wire = .scanReply data :: wire) :
    Own (State.handleScanReplyPacket { st with wire := wire } data) := by
  have busy : ¬ st.call.isPreparing = true := by
    intro preparing
    have none := (own.preparing preparing).2
    rw [here] at none
    cases none
  have idle : ¬ st.call.isReset = true := fun reset => busy (isPreparing_of_isReset reset)
  have out : st.call.isOut = true → ∃ handled rest,
      Replies (State.handleScanReplyPacket { st with wire := wire } data) handled rest := by
    intro out
    obtain ⟨handled, rest, answers, results, ended, stream⟩ := own.out out
    rcases stream with ⟨none, _⟩ | ⟨stream, open_, closed⟩
    · rw [here] at none
      cases none
    · have silent : st.scanEvent = false := by
        by_contra event
        have none := (ended (by simpa using event)).2.2
        rw [here] at none
        cases none
      rw [here] at stream
      cases rest with
      | nil => split at stream <;> cases stream
      | cons d rest =>
          rw [List.map_cons, List.cons_append] at stream
          injection stream with first stream
          injection first with same
          subst same
          have length : (corrected st.shared handled).length = st.scanResultCount := by
            rw [← results, List.length_take, own.length, Nat.min_eq_left own.count]
          refine ⟨handled ++ [data], rest, ?_⟩
          have next := corrected_append st.shared handled data
          rw [length] at next
          unfold State.handleScanReplyPacket
          cases found : NetworkInfo.ofData data with
          | none =>
              simp only [found] at next
              exact ⟨by simp [answers], by rw [next]; exact results, by simp [silent],
                Or.inr ⟨stream, open_, closed⟩⟩
          | some info =>
              simp only [found] at next
              by_cases room : st.scanResultCount < maxScanResults
              · rw [if_pos room] at next
                simp only [if_pos room]
                refine ⟨by simp [answers], ?_, by simp [silent], Or.inr ⟨stream, open_, closed⟩⟩
                rw [next, ← results]
                exact take_set_succ (by rw [own.length]; exact room) _
              · rw [if_neg room] at next
                simp only [if_neg room]
                exact ⟨by simp [answers], by rw [next]; exact results, by simp [silent],
                  Or.inr ⟨stream, open_, closed⟩⟩
  unfold State.handleScanReplyPacket at out ⊢
  cases found : NetworkInfo.ofData data with
  | none =>
      simp only [found] at out ⊢
      exact ⟨own.length, own.count, fun preparing => absurd preparing busy,
        fun reset => absurd reset idle, own.cleared, out, own.complete, own.returned⟩
  | some info =>
      simp only [found] at out ⊢
      by_cases room : st.scanResultCount < maxScanResults
      · simp only [if_pos room] at out ⊢
        refine ⟨?_, Nat.succ_le_of_lt room, fun preparing => absurd preparing busy,
          fun reset => absurd reset idle, own.cleared, out, own.complete, own.returned⟩
        rw [List.length_set]
        exact own.length
      · simp only [if_neg room] at out ⊢
        exact ⟨own.length, own.count, fun preparing => absurd preparing busy,
          fun reset => absurd reset idle, own.cleared, out, own.complete, own.returned⟩

theorem receiveEnd (own : Own st) {wire : List Packet} (here : st.wire = .scanReplyEnd :: wire) :
    Own { st with wire := wire, scanEvent := true } := by
  have busy : ¬ st.call.isPreparing = true := by
    intro preparing
    have none := (own.preparing preparing).2
    rw [here] at none
    cases none
  refine ⟨own.length, own.count, fun preparing => absurd preparing busy, own.reset,
    fun cleared => absurd (isPreparing_of_isCleared cleared) busy, ?_, fun _ _ => rfl, own.returned⟩
  intro out
  obtain ⟨handled, rest, answers, results, ended, stream⟩ := own.out out
  rcases stream with ⟨none, _⟩ | ⟨stream, open_, closed⟩
  · rw [here] at none
    cases none
  · rw [here] at stream
    cases rest with
    | cons d rest => cases stream
    | nil =>
        split at stream
        · rename_i last
          obtain ⟨_, rfl⟩ := List.cons_eq_cons.mp stream
          simp only [Bool.and_eq_true] at last
          exact ⟨handled, [], answers, results, fun _ => ⟨last.1, rfl, rfl⟩,
            Or.inr ⟨by simp, open_, closed⟩⟩
        · cases stream

theorem lost (own : Own st) : Own { st with asked := [], wire := [] } := by
  refine ⟨own.length, own.count, fun _ => ⟨rfl, rfl⟩, own.reset, own.cleared, ?_, own.complete,
    own.returned⟩
  intro out
  obtain ⟨handled, rest, answers, results, ended, _⟩ := own.out out
  exact ⟨handled, rest, answers, results, fun event => ⟨(ended event).1, (ended event).2.1, rfl⟩,
    Or.inl ⟨rfl, rfl⟩⟩

theorem proceed (own : Own st) (taken : st.proceed = some next) : Own next := by
  unfold State.proceed at taken
  split at taken
  · rename_i filter size call
    cases taken
    refine ⟨own.length, Nat.zero_le _, ?_, ?_, ?_, ?_, ?_, own.returned⟩
    · exact fun _ => own.preparing (by simp [call, Call.isPreparing])
    · simp
    · simp [Call.isCleared]
    · simp [Call.isOut]
    · simp
  · rename_i filter size call
    cases taken
    refine ⟨List.length_replicate, own.count, ?_, ?_, ?_, ?_, ?_, own.returned⟩
    · exact fun _ => own.preparing (by simp [call, Call.isPreparing])
    · exact fun _ => own.reset (by simp [call, Call.isReset])
    · simp [Call.isCleared]
    · simp [Call.isOut]
    · simp
  · rename_i filter size call
    cases taken
    refine ⟨own.length, own.count, ?_, ?_, ?_, ?_, ?_, own.returned⟩
    · exact fun _ => own.preparing (by simp [call, Call.isPreparing])
    · exact fun _ => own.reset (by simp [call, Call.isReset])
    · simp
    · simp [Call.isOut]
    · simp
  · rename_i filter size call
    cases taken
    refine ⟨own.length, own.count, ?_, ?_, ?_, ?_, ?_, own.returned⟩
    · exact fun _ => own.preparing (by simp [call, Call.isPreparing])
    · exact fun _ => own.reset (by simp [call, Call.isReset])
    · exact fun _ => own.cleared (by simp [call, Call.isCleared])
    · simp [Call.isOut]
    · simp
  · rename_i filter size call
    cases taken
    refine ⟨own.length, own.count, ?_, ?_, ?_, ?_, ?_, own.returned⟩
    · exact fun _ => own.preparing (by simp [call, Call.isPreparing])
    · exact fun _ => own.reset (by simp [call, Call.isReset])
    · exact fun _ => own.cleared (by simp [call, Call.isCleared])
    · simp [Call.isOut]
    · simp
  · rename_i ending size call
    cases taken
    obtain ⟨handled, rest, replies⟩ := own.out (by simp [call, Call.isOut])
    refine own.comeBack size ?_
    have copied : st.scanResults.take (min st.scanResultCount size) =
        (corrected st.shared handled).take size := by
      rw [← replies.results, List.take_take, min_comm]
    cases ending with
    | complete =>
        obtain ⟨finished, nothing, _⟩ := replies.ended (own.complete size call)
        refine ⟨finished, ?_⟩
        rw [copied, replies.answers, nothing, List.append_nil]
    | timeout => exact ⟨handled, ⟨rest, replies.answers.symm⟩, copied⟩
  · cases taken

theorem send (own : Own st) {filter : ScanFilter} {size : Nat} (here : st.call = .sending filter size)
    (sent : Bool) :
    Own (if sent then
      { st with
        call := .waiting size
        sent := st.sent ++ [serverFilter st.shared.localCommunicationId filter]
        asked := st.asked ++ [st.sent.length]
        answers := []
        finished := false }
      else st.comeBack size .sendFailed) := by
  obtain ⟨asked, wire⟩ := own.preparing (by simp [here, Call.isPreparing])
  have empty := own.reset (by simp [here, Call.isReset])
  have cleared := own.cleared (by simp [here, Call.isCleared])
  cases sent with
  | false => exact own.comeBack size trivial
  | true =>
      refine ⟨own.length, own.count, by simp [Call.isPreparing], by simp [Call.isReset],
        by simp [Call.isCleared], ?_, by simp, own.returned⟩
      intro _
      refine ⟨[], [], rfl, ?_, ?_, Or.inr ⟨?_, ?_, ?_⟩⟩
      · simp [empty, corrected]
      · simp [cleared]
      · simp [wire]
      · simp [asked]
      · simp

theorem wake (own : Own st) {size : Nat} (here : st.call = .waiting size) {signal : Signal}
    (taken : st.wake size signal = some next) : Own next := by
  have out := own.out (by simp [here, Call.isOut])
  cases signal <;> simp only [State.wake, Option.ite_none_right_eq_some, Option.some.injEq] at taken
  case scan =>
    obtain ⟨event, rfl⟩ := taken
    refine ⟨own.length, own.count, by simp [Call.isPreparing], by simp [Call.isReset],
      by simp [Call.isCleared], fun _ => ?_, fun _ _ => event, own.returned⟩
    obtain ⟨handled, rest, answers, results, ended, wire⟩ := out
    exact ⟨handled, rest, answers, results, ended, wire⟩
  case error =>
    obtain ⟨_, rfl⟩ := taken
    exact own.comeBack size trivial
  case timeout =>
    obtain ⟨_, rfl⟩ := taken
    refine ⟨own.length, own.count, by simp [Call.isPreparing], by simp [Call.isReset],
      by simp [Call.isCleared], fun _ => ?_, by simp, own.returned⟩
    obtain ⟨handled, rest, answers, results, ended, wire⟩ := out
    exact ⟨handled, rest, answers, results, ended, wire⟩

theorem step {a : Action} (own : Own st) (fresh : Fresh st a = true)
    (taken : LdnScan.step st a = some next) : Own next := by
  cases a <;> simp only [LdnScan.step, Option.some.injEq, Option.ite_none_right_eq_some] at taken
  case scan filter size ready =>
    obtain ⟨_, rfl⟩ := taken
    cases ready with
    | false => exact own.comeBack size trivial
    | true =>
        simp only [Fresh, Bool.and_eq_true, decide_eq_true_eq] at fresh
        exact ⟨own.length, own.count, fun _ => fresh, by simp [Call.isReset],
          by simp [Call.isCleared], by simp [Call.isOut], by simp, own.returned⟩
  case proceed => exact own.proceed taken
  case send sent =>
    split at taken
    · rename_i filter size here
      cases taken
      exact own.send here sent
    · cases taken
  case wake signal =>
    split at taken
    · rename_i size here
      exact own.wake here taken
    · cases taken
  case serverReply data =>
    split at taken <;> cases taken
    rename_i asked
    exact own.serverReply asked data
  case serverEnd =>
    split at taken <;> cases taken
    rename_i asked
    exact own.serverEnd asked
  case receive =>
    split at taken <;> cases taken
    rename_i packet wire here
    cases packet with
    | scanReply data => exact own.receiveReply here
    | scanReplyEnd => exact own.receiveEnd here
  case networkError =>
    subst taken
    exact ⟨own.length, own.count, own.preparing, own.reset, own.cleared,
      fun out => (own.out out).imp fun _ => .imp fun _ ⟨a, b, c, d⟩ => ⟨a, b, c, d⟩,
      own.complete, own.returned⟩
  case lost =>
    subst taken
    exact own.lost

end Own

/-- As long as each `Scan` starts when the replies to the scans before it are through, the
networks a call returns are those of its own request: all the server found, corrected and
up to the two bounds, when the call was told that they are complete, and the first of them
when it timed out. -/
theorem scan_returns_own {localCommunicationId : UInt64} {actions : List Action} {st : State}
    (steps : run (guarded Fresh step) (init localCommunicationId) actions = some st) :
    ∀ r ∈ st.returned, r.Truthful := by
  refine (run_invariant Own ?_ steps (own_init localCommunicationId)).returned
  intro here a after taken own
  obtain ⟨fresh, taken⟩ := guarded_eq_some.mp taken
  exact own.step fresh taken

def askServer : List Action :=
  let filter : ScanFilter := ⟨⟨0, 7, default⟩, 0, default, 0, default, 0⟩
  [.scan filter 4 true, .proceed, .proceed, .proceed, .proceed, .proceed, .send true]

/-- Two networks are found; the second one arrives before the end of the list does. -/
def foundTwo : List Action :=
  askServer ++ [.serverReply (List.replicate 0x480 1), .receive,
    .serverReply (List.replicate 0x480 2), .serverEnd, .receive, .receive, .wake .scan, .proceed]

theorem scan_returns_own_foundTwo :
    ∃ st, run (guarded Fresh step) (init 9) foundTwo = some st ∧ ∀ r ∈ st.returned, r.Truthful := by
  have evaluated : (run (guarded Fresh step) (init 9) foundTwo).isSome = true := by decide +kernel
  obtain ⟨st, ran⟩ := Option.isSome_iff_exists.mp evaluated
  exact ⟨st, ran, scan_returns_own ran⟩

def lateReplies : List Action :=
  askServer ++ [.wake .timeout, .proceed, .serverReply (List.replicate 0x480 1), .serverEnd] ++
    askServer ++ [.receive, .receive, .wake .scan, .proceed]

theorem lateReplies_not_truthful :
    ∃ st, run step (init 9) lateReplies = some st ∧ ¬ ∀ r ∈ st.returned, r.Truthful := by
  have evaluated : (run step (init 9) lateReplies).any (fun st => st.returned.any (fun r =>
      !r.finished && match r.outcome with
        | .networks .complete _ => true
        | _ => false)) = true := by
    decide +kernel
  obtain ⟨st, ran, found⟩ := (Option.any_eq_true _ _).mp evaluated
  obtain ⟨r, member, wrong⟩ := List.any_eq_true.mp found
  refine ⟨st, ran, fun truthful => ?_⟩
  have owed := truthful r member
  unfold Return.Truthful at owed
  cases outcome : r.outcome with
  | networks ending infos =>
      cases ending with
      | complete => simp_all
      | timeout => simp [outcome] at wrong
  | notConnected | sendFailed | error => simp [outcome] at wrong

end RyuLdn.LdnScan
