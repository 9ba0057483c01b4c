import RyuLdn.LdnDataPath

/-! A broadcast of the host's own game: the copies on the P2P sessions and the one
that goes on to the master server. `BroadcastFromHost` compares with the one
address `Configure` computed and rewrites the legacy spelling to it, also while
that address is still zero. -/
namespace RyuLdn.LdnDataPath

open LdnClient P2pRouting P2pServer ProtocolCodec ProtocolTypes

/-- `BroadcastFromHost` gets past its checks. -/
def Accepts (server : Server) (header : ProxyDataHeader) : Prop :=
  server.running = true ∧ server.hostVirtualIp ≠ 0 ∧
    (header.info.sourceIpv4 = 0 ∨ header.info.sourceIpv4 = server.hostVirtualIp)

def FitsBuffer (data : List UInt8) : Prop :=
  headerSize + proxyDataHeaderSize + data.length ≤ 4096

instance (server : Server) (header : ProxyDataHeader) : Decidable (Accepts server header) :=
  inferInstanceAs (Decidable (_ ∧ _ ∧ _))

instance (data : List UInt8) : Decidable (FitsBuffer data) :=
  inferInstanceAs (Decidable (_ ≤ _))

/-- Every authenticated session gets one copy, and the master a copy still addressed
to everybody. -/
structure ReachesEverybody (server : Server) (header : ProxyDataHeader) (data : List UInt8)
    (handed : Handed) : Prop where
  sessions : ∀ s, handed.sends.countP (Delivery.isSendTo s) =
    if s ∈ authenticatedSessions server then 1 else 0
  carried : ∀ delivery ∈ handed.sends, delivery.Carries (hostHeader server header) data
  master : ∃ copy, handed.master = some copy ∧
    isBroadcastDestination copy.info.destIpv4 = true

/-- The loop over the sessions serves each of them once. -/
def ServesAll (server : Server) (destIp : UInt32) : Prop :=
  if destIp = server.broadcastAddress then (authenticatedSessions server).Nodup
  else ∃ s, (∀ t ∈ authenticatedSessions server, t = s) ∧ (server.session s).virtualIp = destIp

theorem hostTargets_once_iff (server : Server) (destIp : UInt32) :
    (∀ s, (hostTargets server destIp).count s =
        if s ∈ authenticatedSessions server then 1 else 0) ↔
      authenticatedSessions server = [] ∨ ServesAll server destIp := by
  rw [hostTargets, ServesAll]
  generalize authenticatedSessions server = sessions
  by_cases broadcast : destIp = server.broadcastAddress
  · simp only [if_pos broadcast]
    constructor
    · intro once
      refine .inr (List.nodup_iff_count_le_one.mpr ?_)
      intro s
      rw [once s]
      split <;> decide
    · rintro (none | distinct) s
      · simp [none]
      · exact distinct.count
  · simp only [if_neg broadcast]
    cases found : sessions.find? (fun s => (server.session s).virtualIp == destIp) with
    | none =>
        have missed := List.find?_eq_none.mp found
        constructor
        · intro once
          refine .inl (List.eq_nil_iff_forall_not_mem.mpr ?_)
          intro s member
          have absent := once s
          simp [member] at absent
        · rintro (none | ⟨only, all, address⟩) s
          · simp [none]
          · have empty : sessions = [] := by
              refine List.eq_nil_iff_forall_not_mem.mpr ?_
              intro t member
              exact missed t member (by simp [all t member, address])
            simp [empty]
    | some first =>
        have member := List.mem_of_find?_eq_some found
        have address : (server.session first).virtualIp = destIp := by
          simpa using List.find?_some found
        constructor
        · intro once
          refine .inr ⟨first, ?_, address⟩
          intro t inside
          have counted := once t
          rw [if_pos inside, Option.toList_some] at counted
          have positive : 0 < [first].count t := by
            rw [counted]
            decide
          exact List.mem_singleton.mp (List.count_pos_iff.mp positive)
        · rintro (none | ⟨only, all, _⟩) s
          · simp [none] at member
          · have exactly : s ∈ sessions ↔ s = first := by
              constructor
              · intro inside
                rw [all s inside, all first member]
              · intro same
                rw [same]
                exact member
            rw [Option.toList_some, List.count_singleton]
            by_cases same : s = first
            · simp [same, member]
            · have apart : (first == s) = false := beq_eq_false_iff_ne.mpr (Ne.symm same)
              simp [exactly, same, apart]

section Send

variable {path : DataPath} {answers : Answers} {server : Server} {header : ProxyDataHeader}
  {data : List UInt8}

theorem hostSend_of_refused (host : path.p2pServer = some server)
    (refused : ¬ Accepts server header) :
    hostSend path answers header data = ⟨false, header, []⟩ := by
  unfold hostSend
  rw [host]
  dsimp only
  split_ifs with running
  · unfold broadcastFromHost
    rw [Accepts] at refused
    split_ifs with unset foreign
    · rfl
    · rfl
    · exact absurd ⟨running, unset, by tauto⟩ refused
  · rfl

theorem hostSend_of_accepted (host : path.p2pServer = some server)
    (accepted : Accepts server header) :
    (hostSend path answers header data).header = hostHeader server header ∧
      (hostSend path answers header data).sends =
        if FitsBuffer data then
          (hostTargets server (hostHeader server header).info.destIpv4).map
            (fun s => .send s (proxyDataPacket (hostHeader server header) data))
        else [] := by
  obtain ⟨running, known, source⟩ := accepted
  have result : hostSend path answers header data =
      broadcastFromHost server answers.session header data := by
    unfold hostSend
    rw [host]
    exact if_pos running
  rw [result, broadcastFromHost, if_neg known, if_neg (by tauto)]
  dsimp only
  by_cases fits : FitsBuffer data
  · have encoded : encodeWithData 4096 .proxyData (hostHeader server header).image data =
        (.success, proxyDataPacket (hostHeader server header) data) := by
      rw [proxyDataPacket, encodeWithData, if_neg]
      rw [ProxyDataHeader.length_image]
      exact Nat.not_lt.mpr fits
    rw [encoded, if_pos fits]
    exact ⟨rfl, rfl⟩
  · have refused : encodeWithData 4096 .proxyData (hostHeader server header).image data =
        (.bufferTooSmall, []) := by
      rw [encodeWithData, if_pos]
      rw [ProxyDataHeader.length_image]
      exact Nat.not_le.mp fits
    rw [refused, if_neg fits]
    exact ⟨rfl, rfl⟩

theorem hostSend_once_iff (host : path.p2pServer = some server) :
    (∀ s, (hostSend path answers header data).sends.countP (Delivery.isSendTo s) =
        if s ∈ authenticatedSessions server then 1 else 0) ↔
      authenticatedSessions server = [] ∨ Accepts server header ∧ FitsBuffer data ∧
        ServesAll server (hostHeader server header).info.destIpv4 := by
  have silent : (∀ s, (0 : Nat) = if s ∈ authenticatedSessions server then 1 else 0) ↔
      authenticatedSessions server = [] := by
    constructor
    · intro none
      refine List.eq_nil_iff_forall_not_mem.mpr ?_
      intro s member
      have absent := none s
      simp [member] at absent
    · intro empty s
      simp [empty]
  by_cases accepted : Accepts server header
  · rw [(hostSend_of_accepted host accepted).2]
    by_cases fits : FitsBuffer data
    · simp only [if_pos fits, countP_isSendTo_map, hostTargets_once_iff]
      simp [accepted, fits]
    · simp only [if_neg fits, List.countP_nil, silent]
      simp [fits]
  · rw [hostSend_of_refused host accepted]
    simp only [List.countP_nil, silent]
    simp [accepted]

theorem hostSend_carries (host : path.p2pServer = some server) :
    ∀ delivery ∈ (hostSend path answers header data).sends,
      delivery.Carries (hostHeader server header) data := by
  by_cases accepted : Accepts server header
  · rw [(hostSend_of_accepted host accepted).2]
    split_ifs with fits
    · intro delivery member
      obtain ⟨target, _, rfl⟩ := List.mem_map.mp member
      exact carries_proxyDataPacket fits target
    · simp
  · rw [hostSend_of_refused host accepted]
    simp

theorem hostSend_broadcast_iff (host : path.p2pServer = some server)
    (broadcast : isBroadcastDestination header.info.destIpv4 = true) :
    isBroadcastDestination (hostSend path answers header data).header.info.destIpv4 = true ↔
      (Accepts server header → header.info.destIpv4 = legacyBroadcast →
        isBroadcastDestination server.broadcastAddress = true) := by
  by_cases accepted : Accepts server header
  · rw [(hostSend_of_accepted host accepted).1, hostHeader]
    dsimp only
    rw [translateBroadcast]
    split_ifs with legacy
    · simp [accepted, legacy]
    · simp [legacy, broadcast]
  · rw [hostSend_of_refused host accepted]
    simp [accepted, broadcast]

theorem sendProxyDataToServer_sends (connected : path.serverConnected = true) :
    (sendProxyDataToServer path answers header data).sends =
      (hostSend path answers header data).sends := by
  unfold sendProxyDataToServer
  simp only [connected, Bool.not_true, Bool.false_eq_true, if_false]
  split_ifs <;> rfl

theorem sendProxyDataToServer_master_iff {copy : ProxyDataHeader}
    (broadcast : isBroadcastDestination copy.info.destIpv4 = true) :
    (sendProxyDataToServer path answers header data).master = some copy ↔
      path.serverConnected = true ∧ ¬ (path.p2pClientReady = true ∧ answers.p2pClient = true) ∧
        (hostSend path answers header data).header = copy := by
  unfold sendProxyDataToServer
  cases connected : path.serverConnected
  · simp
  · simp only [Bool.not_true, Bool.false_eq_true, if_false, true_and]
    split_ifs with unicast ready taken
    · have other : (hostSend path answers header data).header ≠ copy := by
        intro same
        rw [same, broadcast] at unicast
        simp at unicast
      simp [other]
    · simp [ready, taken]
    · simp [ready, taken]
    · simp [ready]

end Send

/-- The host's broadcast reaches everybody exactly if the master is connected and no
P2P client takes the packet in its place, the legacy address has a broadcast address
to be rewritten to, and there is no session to serve or each of them is served once. -/
theorem host_broadcast_reachesEverybody_iff {path : DataPath} {answers : Answers}
    {server : Server} {header : ProxyDataHeader} {data : List UInt8}
    (host : path.p2pServer = some server)
    (broadcast : isBroadcastDestination header.info.destIpv4 = true) :
    ReachesEverybody server header data (sendProxyDataToServer path answers header data) ↔
      path.serverConnected = true ∧ ¬ (path.p2pClientReady = true ∧ answers.p2pClient = true) ∧
        (Accepts server header → header.info.destIpv4 = legacyBroadcast →
          isBroadcastDestination server.broadcastAddress = true) ∧
        (authenticatedSessions server = [] ∨ Accepts server header ∧ FitsBuffer data ∧
          ServesAll server (hostHeader server header).info.destIpv4) := by
  constructor
  · rintro ⟨sessions, _, copy, continues, still⟩
    obtain ⟨connected, free, same⟩ := (sendProxyDataToServer_master_iff still).mp continues
    rw [sendProxyDataToServer_sends connected] at sessions
    rw [← same] at still
    exact ⟨connected, free, (hostSend_broadcast_iff host broadcast).mp still,
      (hostSend_once_iff host).mp sessions⟩
  · rintro ⟨connected, free, legacy, served⟩
    have still : isBroadcastDestination
        (hostSend path answers header data).header.info.destIpv4 = true :=
      (hostSend_broadcast_iff host broadcast).mpr legacy
    refine ⟨?_, ?_, _, (sendProxyDataToServer_master_iff still).mpr ⟨connected, free, rfl⟩, still⟩
    · rw [sendProxyDataToServer_sends connected]
      exact (hostSend_once_iff host).mpr served
    · rw [sendProxyDataToServer_sends connected]
      exact hostSend_carries host

/-- One joiner at 10.114.0.2: the legacy broadcast reaches it and the master. -/
theorem host_broadcast_reachesEverybody_joined :
    let server := Server.enroll
      ((setHostVirtualIp (Server.start true) 0x0A720001).accept 7 0xC0A80105 true).1 0 0x0A720002
    let header : ProxyDataHeader := ⟨⟨0, 5000, legacyBroadcast, 5000, 17⟩, 1⟩
    authenticatedSessions server = [0] ∧ ReachesEverybody server header [42]
      (sendProxyDataToServer ⟨true, some server, false⟩ ⟨fun _ => true, false, .success⟩ header
        [42]) := by
  intro server header
  have sessions : authenticatedSessions server = [0] := by decide +kernel
  have rewritten : isBroadcastDestination server.broadcastAddress = true := by decide +kernel
  have accepted : Accepts server header := by decide +kernel
  have fits : FitsBuffer [42] := by decide
  have address : (hostHeader server header).info.destIpv4 = server.broadcastAddress := by
    decide +kernel
  have served : ServesAll server (hostHeader server header).info.destIpv4 := by
    rw [ServesAll, if_pos address, sessions]
    exact List.nodup_singleton 0
  exact ⟨sessions, (host_broadcast_reachesEverybody_iff rfl (by decide)).mpr
    ⟨rfl, by simp, fun _ _ => rewritten, .inr ⟨accepted, fits, served⟩⟩⟩

/-- Before the first joiner the legacy broadcast goes on to 0.0.0.0, and with a joiner
255.255.255.255 reaches no session. -/
theorem host_broadcast_lost :
    let empty := setHostVirtualIp (Server.start true) 0x0A720001
    let joined := (empty.accept 7 0xC0A80105 true).1.enroll 0 0x0A720002
    let legacy : ProxyDataHeader := ⟨⟨0x0A720001, 5000, legacyBroadcast, 5000, 17⟩, 1⟩
    let limited : ProxyDataHeader := ⟨⟨0x0A720001, 5000, 0xFFFFFFFF, 5000, 17⟩, 1⟩
    let handed := fun server header => sendProxyDataToServer ⟨true, some server, false⟩
      ⟨fun _ => true, false, .success⟩ header [42]
    ((handed empty legacy).master.map (fun copy => copy.info.destIpv4) = some 0 ∧
        ¬ ReachesEverybody empty legacy [42] (handed empty legacy)) ∧
      (authenticatedSessions joined = [0] ∧ (handed joined limited).sends = [] ∧
        ¬ ReachesEverybody joined limited [42] (handed joined limited)) := by
  intro empty joined legacy limited handed
  have cleared : (handed empty legacy).master.map (fun copy => copy.info.destIpv4) = some 0 := by
    decide +kernel
  have sessions : authenticatedSessions joined = [0] := by decide +kernel
  have silent : (handed joined limited).sends = [] := by decide +kernel
  refine ⟨⟨cleared, ?_⟩, sessions, silent, ?_⟩
  · rintro ⟨_, _, copy, continues, still⟩
    rw [continues, Option.map_some, Option.some.injEq] at cleared
    rw [cleared] at still
    exact absurd still (by decide)
  · rintro ⟨each, _, _⟩
    have first := each 0
    rw [silent, sessions] at first
    exact absurd first (by decide)

end RyuLdn.LdnDataPath
