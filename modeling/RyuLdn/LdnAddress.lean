import RyuLdn.LdnNodeUpdates
import RyuLdn.LdnOverlay
import RyuLdn.P2pClient

/-! Our address on the virtual network. `ICommunicationService` keeps it for the game
(`m_proxy_config`) and for the node list (`m_ipv4_address`), and `ProxySocketManager` for
the sockets. Packets, calls and the P2P worker write it; what the worker assigns is one
step here. -/
namespace RyuLdn.LdnAddress

open LdnStateMachine LdnService TransitionSystem
open ProtocolCodec (PacketId)
open ProtocolTypes (ProxyConfig)
open LdnOverlay (succeeds)

structure Addresses where
  ipv4Address : UInt32
  subnetMask : UInt32
  proxyConfig : ProxyConfig
  localIp : UInt32
  deriving DecidableEq

structure State extends Addresses where
  service : Service
  updates : LdnNodeUpdates

def init (useP2pProxy : Bool) (programId : UInt64) : State where
  service := .init useP2pProxy
  updates := { LdnNodeUpdates.new with localCommunicationId := programId }
  ipv4Address := 0
  subnetMask := 0
  proxyConfig := ⟨0, 0⟩
  localIp := 0

namespace State

def nodeMac (info : NetworkInfo) (slot : Nat) : List UInt8 :=
  (info.bytes.drop (NetworkInfo.nodeOffset slot + 4)).take 6

/-- By address first, if there is one, then by the MAC address of the server client;
`none` stands for 0xFF. -/
def findLocalNodeId (mac : List UInt8) (ipv4Address : UInt32) (info : NetworkInfo) : Option Nat :=
  let slots := List.range LdnNodeUpdates.nodeCountMax
  let byAddress := slots.find? fun slot =>
    ipv4Address ≠ 0 && info.isConnected slot && (info.node slot).ipv4Address = ipv4Address
  byAddress.or (slots.find? fun slot => info.isConnected slot && nodeMac info slot = mac)

/-- The address `HandleConnectedPacket` finds for us, if it is one. -/
def resolvedIp (st : State) (mac : List UInt8) (data : List UInt8) : Option UInt32 :=
  if data.length ≥ NetworkInfo.imageSize then
    let info := (st.updates.handleConnectedPacket data).networkInfo
    ((findLocalNodeId mac st.ipv4Address info).map fun slot => (info.node slot).ipv4Address).filter
      (· ≠ 0)
  else none

def handleConnectedPacket (st : State) (mac : List UInt8) (data : List UInt8) : State :=
  let updates := st.updates.handleConnectedPacket data
  match st.resolvedIp mac data with
  | some ip => { st with updates := updates, ipv4Address := ip, localIp := ip }
  | none => { st with updates := updates }

def handleSyncNetworkPacket (st : State) (data : List UInt8) : State :=
  { st with updates := st.updates.handleSyncNetworkPacket data }

def assign (st : State) (config : ProxyConfig) : State :=
  { st with
    proxyConfig := config
    ipv4Address := config.proxyIp
    subnetMask := config.proxySubnetMask
    localIp := config.proxyIp }

def handleServerPacket (st : State) (mac : List UInt8) (data : List UInt8) : PacketId → State
  | .connected => st.handleConnectedPacket mac data
  | .syncNetwork => st.handleSyncNetworkPacket data
  | .proxyConfig => if data.length ≥ 8 then st.assign (P2pClient.proxyConfigOfImage data) else st
  | _ => st

def kPredictedHostIp : UInt32 := 0x0A720001
def kPredictedSubnetMask : UInt32 := 0xFFFF0000

def predictHostIp (st : State) : State :=
  if st.service.useP2pProxy = true ∧ st.ipv4Address = 0 then
    st.assign ⟨kPredictedHostIp, kPredictedSubnetMask⟩
  else st

/-- `ProxySocketManager::Reset` in `DisconnectFromServer`. -/
def disconnectFromServer (st : State) : State := { st with localIp := 0 }

def clearNetworkInfo (st : State) (succeeded : Bool) : State :=
  if succeeded then { st with updates := st.updates.clearNetworkInfo } else st

def cleanupSessionResources (st : State) : State :=
  { st with
    updates := st.updates.cleanupSessionResources
    proxyConfig := ⟨0, 0⟩
    ipv4Address := 0
    subnetMask := 0
    localIp := 0 }

def follow (st : State) (mac : List UInt8) : LdnService.Action → State
  | .finalize => st.cleanupSessionResources
  | .closeAccessPoint =>
      st.disconnectFromServer.clearNetworkInfo (succeeds CommState.closeAccessPoint st.service)
  | .destroyNetwork => st.clearNetworkInfo (succeeds CommState.destroyNetwork st.service)
  | .closeStation => st.clearNetworkInfo (succeeds CommState.closeStation st.service)
  | .disconnect => st.clearNetworkInfo (succeeds CommState.disconnect st.service)
  | .finish _ =>
      match st.service.call with
      | .ended .createNetwork _ true => st.predictHostIp
      | _ => st
  | .packet id data _ => st.handleServerPacket mac data id
  | .inactivityTimeout => if st.service.networkConnected then st else st.disconnectFromServer
  | _ => st

/-- The end of `HandleExternalProxyConnect` for a connection that is ready. -/
def applyP2pConfig (st : State) (config : ProxyConfig) : State :=
  if st.service.networkConnected || st.service.commState.isNetworkActive then st.assign config
  else st

/-- `GetIpv4Address`; `nifm` is the answer of the console's own network interface. -/
def getIpv4Address (st : State) (nifm : Option (UInt32 × UInt32)) : Option (UInt32 × UInt32) :=
  if st.service.serverConnected = true ∧ st.proxyConfig.proxyIp ≠ 0 then
    some (st.proxyConfig.proxyIp, st.proxyConfig.proxySubnetMask)
  else nifm

end State

inductive Action where
  | service (a : LdnService.Action)
  | scan (sceneId : UInt16)
  | p2pReady (config : ProxyConfig)

/-- `mac` is the address the server client has made up for itself. -/
def step (mac : List UInt8) (st : State) : Action → Option State
  | .service a =>
      (LdnService.step st.service a).map fun next => { st.follow mac a with service := next }
  | .scan sceneId => some { st with updates := { st.updates with expectedSceneId := sceneId } }
  | .p2pReady config => some (st.applyP2pConfig config)

/-- A virtual address the game is told is the one its sockets have. -/
def Told (st : State) : Prop :=
  ∀ nifm, st.service.serverConnected = true → st.proxyConfig.proxyIp ≠ 0 →
    st.getIpv4Address nifm = some (st.localIp, st.subnetMask)

/-- The condition on a step. A new connection to the server finds no address left over from
the one before, and a list of nodes has us under the address the game was told. -/
def Keeps (mac : List UInt8) (st : State) : Action → Bool
  | .service (.openAccessPoint .handshaken) | .service (.openStation .handshaken) =>
      st.service.commState ≠ .initialized || st.proxyConfig.proxyIp = 0 ||
        st.localIp = st.proxyConfig.proxyIp
  | .service (.packet .connected data _) =>
      match st.resolvedIp mac data with
      | some ip => !st.service.serverConnected || st.proxyConfig.proxyIp = 0 ||
          ip = st.proxyConfig.proxyIp
      | none => true
  | _ => true

structure Known (st : State) : Prop where
  socket : st.localIp = 0 ∨ st.localIp = st.ipv4Address
  mask : st.proxyConfig.proxySubnetMask = st.subnetMask
  assigned : st.ipv4Address = 0 → st.proxyConfig.proxyIp = 0

theorem told_iff {st : State} (mask : st.proxyConfig.proxySubnetMask = st.subnetMask) :
    Told st ↔ (st.service.serverConnected = true → st.proxyConfig.proxyIp ≠ 0 →
      st.localIp = st.proxyConfig.proxyIp) := by
  constructor
  · intro told connected virtual
    have answer := told none connected virtual
    rw [State.getIpv4Address, if_pos ⟨connected, virtual⟩] at answer
    exact (congrArg Prod.fst (Option.some.inj answer)).symm
  · intro same nifm connected virtual
    rw [State.getIpv4Address, if_pos ⟨connected, virtual⟩, same connected virtual, mask]

inductive Readdressed (mac : List UInt8) (st : State) : Action → Addresses → Prop where
  | kept (a : Action) : Readdressed mac st a st.toAddresses
  | assigned (a : Action) (config : ProxyConfig) :
      Readdressed mac st a ⟨config.proxyIp, config.proxySubnetMask, config, config.proxyIp⟩
  | released (a : LdnService.Action)
      (gone : ∀ s, LdnService.step st.service a = some s → s.serverConnected = false) :
      Readdressed mac st (.service a) { st.toAddresses with localIp := 0 }
  | resolved {data : List UInt8} (answers : Nat) {ip : UInt32}
      (found : st.resolvedIp mac data = some ip) :
      Readdressed mac st (.service (.packet .connected data answers))
        { st.toAddresses with ipv4Address := ip, localIp := ip }

theorem clearNetworkInfo_toAddresses (st : State) (succeeded : Bool) :
    (st.clearNetworkInfo succeeded).toAddresses = st.toAddresses := by
  cases succeeded <;> rfl

theorem predictHostIp_readdressed (mac : List UInt8) (st : State) (a : Action) :
    Readdressed mac st a st.predictHostIp.toAddresses := by
  unfold State.predictHostIp
  split
  · exact .assigned a _
  · exact .kept a

theorem step_readdressed {mac : List UInt8} {st next : State} {a : Action}
    (moved : step mac st a = some next) : Readdressed mac st a next.toAddresses := by
  cases a with
  | scan sceneId =>
      cases moved
      exact .kept _
  | p2pReady config =>
      cases moved
      unfold State.applyP2pConfig
      split
      · exact .assigned _ config
      · exact .kept _
  | service a =>
      obtain ⟨service, -, rfl⟩ := Option.map_eq_some_iff.mp moved
      change Readdressed mac st _ (st.follow mac a).toAddresses
      cases a with
      | finalize => exact .assigned _ ⟨0, 0⟩
      | closeAccessPoint =>
          rw [State.follow, clearNetworkInfo_toAddresses]
          refine .released _ ?_
          intro s taken
          obtain ⟨-, rfl⟩ := start_eq_some.mp taken
          rcases st.service.disconnectFromServer.leaveNetwork_cases CommState.closeAccessPoint with
            same | ⟨_, same⟩ <;> rw [Service.closeAccessPoint, same] <;> rfl
      | destroyNetwork | closeStation | disconnect =>
          rw [State.follow, clearNetworkInfo_toAddresses]
          exact .kept _
      | finish sent =>
          unfold State.follow
          dsimp only
          split
          · exact predictHostIp_readdressed mac st _
          · exact .kept _
      | packet id data answers =>
          unfold State.follow State.handleServerPacket
          dsimp only
          split
          · unfold State.handleConnectedPacket
            dsimp only
            split
            · rename_i found
              exact .resolved answers found
            · exact .kept _
          · exact .kept _
          · split
            · exact .assigned _ _
            · exact .kept _
          · exact .kept _
      | inactivityTimeout =>
          unfold State.follow
          dsimp only
          split
          · exact .kept _
          · rename_i left
            refine .released _ ?_
            intro s taken
            obtain ⟨-, rfl⟩ := receiving_eq_some.mp taken
            rw [Service.onInactivityTimeout, if_neg left]
            rfl
      | startUp | openAccessPoint | openStation | request | send | wait | noticeLoss | leaveLost
      | p2pFailed => exact .kept _

def opens (s : Service) : LdnService.Action → Bool
  | .openAccessPoint .handshaken | .openStation .handshaken => s.commState = .initialized
  | _ => false

section Link

variable {s t : Service} {goal : CommState}
  {closeTo : CommState → StateTransitionResult × CommState}

theorem openMode_up (other : goal ≠ .initialized) (initialized : s.commState = .initialized) :
    (s.openMode (CommState.transition [.initialized] goal) closeTo
      .handshaken).serverConnected = true := by
  have made : CommState.transition [.initialized] goal s.commState = (.success, goal) := by
    simp [CommState.transition, initialized, other.symm]
  unfold Service.openMode
  rw [made]
  rfl

theorem openMode_link {answer : Service.ServerAnswer}
    (old : ¬ (answer = .handshaken ∧ s.commState = .initialized))
    (up : (s.openMode (CommState.transition [.initialized] goal) closeTo
      answer).serverConnected = true) : s.serverConnected = true := by
  unfold Service.openMode at up
  split at up
  · rename_i state made
    have initialized := List.mem_singleton.mp (CommState.transition_success made).1
    cases answer with
    | alive =>
        cases linked : s.serverConnected with
        | true => rfl
        | false => simp [Service.connectToServer, linked] at up
    | refused => cases up
    | unanswered => cases up
    | handshaken => exact absurd ⟨rfl, initialized⟩ old
  · exact up

theorem moveBy_link (s : Service) (transition : CommState → StateTransitionResult × CommState) :
    (s.moveBy transition).serverConnected = s.serverConnected := by
  rcases s.moveBy_cases transition with same | ⟨_, _, same⟩ <;> rw [same]

theorem leaveNetwork_link (s : Service) (leave : CommState → StateTransitionResult × CommState) :
    (s.leaveNetwork leave).serverConnected = s.serverConnected := by
  rcases s.leaveNetwork_cases leave with same | ⟨_, same⟩ <;> rw [same]

theorem sendRequest_link (s : Service) (kind : Kind) (second sent : Bool) :
    (s.sendRequest kind second sent).serverConnected = s.serverConnected := by
  unfold Service.sendRequest
  split <;> rfl

theorem endRequest_link (s : Service) (kind : Kind) (second result sent : Bool) :
    (s.endRequest kind second result sent).serverConnected = s.serverConnected := by
  unfold Service.endRequest
  split
  · rfl
  · split
    · exact sendRequest_link { s with errorEvent := false } kind true sent
    · rfl

theorem receivePacket_link (s : Service) (id : PacketId) (data : List UInt8) (answers : Nat) :
    (s.receivePacket id data answers).serverConnected = s.serverConnected := by
  unfold Service.receivePacket Service.handleServerPacket Service.dispatch
    Service.handleConnectedPacket Service.handleNetworkErrorPacket
  grind

theorem service_link {a : LdnService.Action} (taken : LdnService.step s a = some t) :
    (opens s a = true → t.serverConnected = true) ∧
      (opens s a = false → t.serverConnected = true → s.serverConnected = true) := by
  have kept (same : t.serverConnected = s.serverConnected) (quiet : opens s a = false) :
      (opens s a = true → t.serverConnected = true) ∧
        (opens s a = false → t.serverConnected = true → s.serverConnected = true) :=
    ⟨fun opening => by simp [quiet] at opening, fun _ up => same ▸ up⟩
  cases a with
  | openAccessPoint answer =>
      obtain ⟨-, rfl⟩ := start_eq_some.mp taken
      constructor
      · intro opening
        cases answer <;> simp only [opens, decide_eq_true_eq, Bool.false_eq_true] at opening
        exact openMode_up (by decide) opening
      · intro quiet
        refine openMode_link ?_
        rintro ⟨rfl, initialized⟩
        simp [opens, initialized] at quiet
  | openStation answer =>
      obtain ⟨-, rfl⟩ := start_eq_some.mp taken
      constructor
      · intro opening
        cases answer <;> simp only [opens, decide_eq_true_eq, Bool.false_eq_true] at opening
        exact openMode_up (by decide) opening
      · intro quiet
        refine openMode_link ?_
        rintro ⟨rfl, initialized⟩
        simp [opens, initialized] at quiet
  | startUp | closeStation =>
      obtain ⟨-, rfl⟩ := start_eq_some.mp taken
      exact kept (moveBy_link s _) rfl
  | finalize =>
      obtain ⟨-, rfl⟩ := start_eq_some.mp taken
      exact ⟨nofun, nofun⟩
  | closeAccessPoint =>
      obtain ⟨-, rfl⟩ := start_eq_some.mp taken
      refine ⟨nofun, fun _ up => ?_⟩
      rw [Service.closeAccessPoint, leaveNetwork_link] at up
      cases up
  | destroyNetwork | disconnect =>
      obtain ⟨-, rfl⟩ := start_eq_some.mp taken
      exact kept (leaveNetwork_link s _) rfl
  | request kind ready =>
      obtain ⟨-, rfl⟩ := start_eq_some.mp taken
      rcases s.beginRequest_cases kind ready with same | ⟨_, _, same⟩ <;>
        exact kept (by rw [same]) rfl
  | send sent =>
      obtain ⟨kind, -, rfl⟩ := step_send_eq_some.mp taken
      exact kept (sendRequest_link s kind false sent) rfl
  | wait signal =>
      obtain ⟨kind, second, stage, -, waited⟩ := step_wait_eq_some.mp taken
      rcases Service.waitForResponse_cases waited with ⟨_, rfl, -⟩ | ⟨_, _, _, rfl⟩ <;>
        exact kept rfl rfl
  | finish sent =>
      obtain ⟨kind, second, result, -, rfl⟩ := step_finish_eq_some.mp taken
      exact kept (endRequest_link s kind second result sent) rfl
  | packet id data answers =>
      obtain ⟨-, rfl⟩ := receiving_eq_some.mp taken
      exact kept (receivePacket_link s id data answers) rfl
  | noticeLoss =>
      obtain ⟨-, rfl⟩ := receiving_eq_some.mp taken
      refine ⟨nofun, fun _ up => ?_⟩
      unfold Service.noticeLoss at up
      split at up
      · cases up
      · exact up
  | leaveLost =>
      obtain ⟨seen, -, rfl⟩ := Option.map_eq_some_iff.mp taken
      exact kept rfl rfl
  | inactivityTimeout =>
      obtain ⟨-, rfl⟩ := receiving_eq_some.mp taken
      refine ⟨nofun, fun _ up => ?_⟩
      unfold Service.onInactivityTimeout at up
      split at up
      · exact up
      · cases up
  | p2pFailed =>
      cases taken
      exact kept rfl rfl

end Link

theorem Known.step {mac : List UInt8} {st next : State} {a : Action} (known : Known st)
    (moved : step mac st a = some next) : Known next := by
  have readdressed := step_readdressed moved
  obtain ⟨addresses, service, updates⟩ := next
  change Readdressed mac st a addresses at readdressed
  cases readdressed with
  | kept => exact ⟨known.socket, known.mask, known.assigned⟩
  | assigned a config => exact ⟨Or.inr rfl, rfl, id⟩
  | released => exact ⟨Or.inl rfl, known.mask, known.assigned⟩
  | @resolved data answers ip found =>
      have nonzero : ip ≠ 0 := by
        unfold State.resolvedIp at found
        split at found
        · exact of_decide_eq_true (Option.filter_eq_some_iff.mp found).2
        · cases found
      exact ⟨Or.inr rfl, known.mask, fun zero => absurd zero nonzero⟩

/-- `Told`, in terms of the fields. -/
def Same (connected : Bool) (addresses : Addresses) : Prop :=
  connected = true → addresses.proxyConfig.proxyIp ≠ 0 →
    addresses.localIp = addresses.proxyConfig.proxyIp

theorem same_assigned (connected : Bool) (config : ProxyConfig) (mask : UInt32) :
    Same connected ⟨config.proxyIp, mask, config, config.proxyIp⟩ := fun _ _ => rfl

theorem same_opened {addresses : Addresses} :
    Same true addresses ↔ addresses.proxyConfig.proxyIp = 0 ∨
      addresses.localIp = addresses.proxyConfig.proxyIp := by
  constructor
  · intro same
    by_cases virtual : addresses.proxyConfig.proxyIp = 0
    · exact Or.inl virtual
    · exact Or.inr (same rfl virtual)
  · rintro (zero | same) - virtual
    · exact absurd zero virtual
    · exact same

theorem Same.mono {before after : Bool} {addresses : Addresses} (same : Same before addresses)
    (back : after = true → before = true) : Same after addresses := fun up => same (back up)

theorem open_same_iff {mac : List UInt8} {st : State} (same : Same st.service.serverConnected
    st.toAddresses) {s : Service} {a : LdnService.Action} (taken : LdnService.step st.service a = some s)
    (keeps : Keeps mac st (.service a) = (!opens st.service a || st.proxyConfig.proxyIp = 0 ||
      st.localIp = st.proxyConfig.proxyIp)) :
    Same s.serverConnected st.toAddresses ↔ Keeps mac st (.service a) = true := by
  obtain ⟨up, back⟩ := service_link taken
  rw [keeps]
  cases opening : opens st.service a with
  | true => simpa [up opening, or_assoc] using same_opened
  | false => exact iff_of_true (same.mono (back opening)) rfl

theorem connected_same_iff {mac : List UInt8} {st : State} (same : Same st.service.serverConnected
    st.toAddresses) (data : List UInt8) (answers : Nat) :
    Same st.service.serverConnected (st.handleConnectedPacket mac data).toAddresses ↔
      Keeps mac st (.service (.packet .connected data answers)) = true := by
  unfold State.handleConnectedPacket Keeps
  dsimp only
  cases found : st.resolvedIp mac data with
  | none => exact iff_of_true same rfl
  | some ip =>
      cases connected : st.service.serverConnected with
      | false => exact iff_of_true nofun rfl
      | true =>
          have opened := @same_opened { st.toAddresses with ipv4Address := ip, localIp := ip }
          simpa [or_assoc] using opened

theorem told_step_iff {mac : List UInt8} {st next : State} {a : Action} (known : Known st)
    (told : Told st) (moved : step mac st a = some next) : Told next ↔ Keeps mac st a = true := by
  have same : Same st.service.serverConnected st.toAddresses := (told_iff known.mask).mp told
  rw [told_iff (known.step moved).mask]
  change Same next.service.serverConnected next.toAddresses ↔ _
  cases a with
  | scan sceneId =>
      cases moved
      exact iff_of_true same rfl
  | p2pReady config =>
      cases moved
      refine iff_of_true ?_ rfl
      unfold State.applyP2pConfig
      split
      · exact same_assigned _ config _
      · exact same
  | service a =>
      obtain ⟨s, taken, rfl⟩ := Option.map_eq_some_iff.mp moved
      change Same s.serverConnected (st.follow mac a).toAddresses ↔ _
      have back := (service_link taken).2
      cases a with
      | openAccessPoint answer | openStation answer =>
          refine open_same_iff same taken ?_
          cases answer <;> simp [Keeps, opens]
      | packet id data answers =>
          obtain ⟨-, rfl⟩ := receiving_eq_some.mp taken
          rw [receivePacket_link]
          cases id with
          | connected => exact connected_same_iff same data answers
          | proxyConfig =>
              refine iff_of_true ?_ rfl
              unfold State.follow State.handleServerPacket
              dsimp only
              split
              · exact same_assigned _ _ _
              · exact same
          | _ => exact iff_of_true same rfl
      | finalize => exact iff_of_true (fun _ virtual => absurd rfl virtual) rfl
      | closeAccessPoint =>
          obtain ⟨-, rfl⟩ := start_eq_some.mp taken
          rw [Service.closeAccessPoint, leaveNetwork_link]
          exact iff_of_true nofun rfl
      | destroyNetwork | closeStation | disconnect =>
          rw [State.follow, clearNetworkInfo_toAddresses]
          exact iff_of_true (same.mono (back rfl)) rfl
      | finish sent =>
          refine iff_of_true ?_ rfl
          unfold State.follow State.predictHostIp
          dsimp only
          split
          · split
            · exact same_assigned _ _ _
            · exact same.mono (back rfl)
          · exact same.mono (back rfl)
      | inactivityTimeout =>
          obtain ⟨-, rfl⟩ := receiving_eq_some.mp taken
          refine iff_of_true ?_ rfl
          unfold State.follow Service.onInactivityTimeout
          dsimp only
          split
          · exact same
          · exact nofun
      | startUp | request | send | wait | noticeLoss | leaveLost | p2pFailed =>
          exact iff_of_true (same.mono (back rfl)) rfl

theorem known_init (useP2pProxy : Bool) (programId : UInt64) : Known (init useP2pProxy programId) :=
  ⟨Or.inl rfl, rfl, fun _ => rfl⟩

/-- Whatever comes in whatever order, the sockets have our address of the node list or
none, and with a virtual address `GetIpv4Address` returns the mask that was stored last. -/
theorem known_run {mac : List UInt8} {useP2pProxy : Bool} {programId : UInt64}
    {actions : List Action} {st : State}
    (steps : run (step mac) (init useP2pProxy programId) actions = some st) :
    Known st ∧ ∀ nifm, st.service.serverConnected = true → st.proxyConfig.proxyIp ≠ 0 →
      st.getIpv4Address nifm = some (st.proxyConfig.proxyIp, st.subnetMask) := by
  have known := run_invariant Known (fun moved known => known.step moved) steps
    (known_init useP2pProxy programId)
  refine ⟨known, ?_⟩
  intro nifm connected virtual
  rw [State.getIpv4Address, if_pos ⟨connected, virtual⟩, known.mask]

/-- Along a run, a virtual address that `GetIpv4Address` answers with is the one the sockets
have, in every state, exactly if every step keeps it. -/
theorem address_told_iff {mac : List UInt8} {useP2pProxy : Bool} {programId : UInt64}
    {actions : List Action} {st : State}
    (steps : run (step mac) (init useP2pProxy programId) actions = some st) :
    (∀ front back m, actions = front ++ back →
        run (step mac) (init useP2pProxy programId) front = some m → Told m) ↔
      run (guarded (Keeps mac) (step mac)) (init useP2pProxy programId) actions = some st := by
  have keep : ∀ {m a m'}, Known m → Told m → step mac m a = some m' → Told m' → Known m' :=
    fun known _ moved _ => known.step moved
  have exact_ : ∀ {m a m'}, Known m → Told m → step mac m a = some m' →
      (Told m' ↔ Keeps mac m a = true) :=
    fun known told moved => told_step_iff known told moved
  exact run_guarded_iff keep exact_ (known_init useP2pProxy programId) (fun _ up => nomatch up) steps

def someMac : List UInt8 := [2, 0, 1, 2, 3, 4]

def aloneInNetwork : List UInt8 :=
  (NetworkInfo.zero.put 104 ([1, 0, 0x72, 0x0A] ++ someMac ++ [0, 1]) (by decide)).bytes

def hosted : List Action :=
  ([.startUp, .openAccessPoint .handshaken, .request .createNetwork true, .send true,
    .wait .timeout, .wait .timeout, .wait .timeout,
    .packet .proxyConfig [1, 0, 0x72, 0x0A, 0, 0, 0xFF, 0xFF] 0, .packet .connected aloneInNetwork 1,
    .wait .response, .wait .response, .finish true, .closeAccessPoint].map Action.service)

theorem address_told_iff_hosted : ∃ st,
    run (guarded (Keeps someMac) (step someMac)) (init false 7) hosted = some st ∧
      ∀ front back m, hosted = front ++ back →
        run (step someMac) (init false 7) front = some m → Told m := by
  have evaluated : (run (guarded (Keeps someMac) (step someMac)) (init false 7)
      hosted).isSome = true := by
    decide +kernel
  obtain ⟨st, ran⟩ := Option.isSome_iff_exists.mp evaluated
  exact ⟨st, ran, (address_told_iff (run_of_guarded ran)).mpr ran⟩

theorem known_run_hosted : ∃ st,
    run (step someMac) (init false 7) hosted = some st ∧ Known st ∧
      ∀ nifm, st.service.serverConnected = true → st.proxyConfig.proxyIp ≠ 0 →
        st.getIpv4Address nifm = some (st.proxyConfig.proxyIp, st.subnetMask) := by
  have evaluated : (run (step someMac) (init false 7) hosted).isSome = true := by decide +kernel
  obtain ⟨st, ran⟩ := Option.isSome_iff_exists.mp evaluated
  exact ⟨st, ran, known_run ran⟩

def reopened : List Action := hosted ++ [.service (.openStation .handshaken)]

theorem reopened_not_told : ∃ st,
    run (step someMac) (init false 7) reopened = some st ∧ ¬ Told st := by
  have evaluated : (run (step someMac) (init false 7) reopened).any (fun st =>
      st.service.serverConnected = true ∧ st.proxyConfig.proxyIp = 0x0A720001 ∧
        st.localIp = 0) = true := by
    decide +kernel
  obtain ⟨st, ran, facts⟩ := (Option.any_eq_true _ _).mp evaluated
  obtain ⟨connected, stale, unset⟩ := of_decide_eq_true facts
  refine ⟨st, ran, fun told => ?_⟩
  have known := run_invariant Known (fun moved known => known.step moved) ran (known_init false 7)
  have same := (told_iff known.mask).mp told connected (by rw [stale]; decide)
  rw [unset, stale] at same
  exact absurd same (by decide)

end RyuLdn.LdnAddress
