import RyuLdn.DnsQueries
import RyuLdn.BsdTypes
import RyuLdn.CText

/-! The resolver around the encoder and the parser: one query to the DNS server, one
datagram back, and the address `Socket::connect` takes from it. `inetPton` is the parser
of address literals. -/
namespace RyuLdn.DnsWrap

open BigEndian LabelSequence BsdTypes

/-- What `nifmGetCurrentIpConfigInfo` returned; the addresses are in network order. -/
structure NifmReply where
  rc : UInt32
  dns1 : UInt32
  dns2 : UInt32

/-- `dns_ip`. -/
def getDnsServerIp (reply : NifmReply) : UInt32 :=
  if reply.rc = 0 then
    if reply.dns1 ≠ 0 then reply.dns1
    else if reply.dns2 ≠ 0 then reply.dns2
    else 0x08080808
  else 0x08080808

structure Datagram where
  fromAddr : SockAddrIn
  payload : List UInt8

/-- What the system answers during one call. `received` is `none` where `recvfrom` fails or
times out, and `allocations` is how many calls of `malloc` succeed. -/
structure SystemAnswers where
  nifm : NifmReply
  opens : Bool
  sends : Bool
  received : Option Datagram
  allocations : Nat

/-- What a call did: `nextQueryId` is the counter behind it, `sent` the query and where it
went. -/
structure Resolution where
  nextQueryId : UInt16
  sent : Option (SockAddrIn × List UInt8)
  parsed : Parsed

def dnsAddr (dnsIp : UInt32) : SockAddrIn := ⟨0, inet, bswap16 53, dnsIp⟩

/-- The first bytes of a datagram: what fits in `resp_buf`. -/
def Datagram.response (datagram : Datagram) : List UInt8 := datagram.payload.take 512

def resolveHostnameDns (hostname : List UInt8) (maxIps : Int) (nextQueryId : UInt16)
    (answers : SystemAnswers) : Option Resolution :=
  if maxIps ≤ 0 then some ⟨nextQueryId, none, ⟨.error .fail, []⟩⟩
  else
    match buildDnsQuery hostname nextQueryId 512 with
    | none => some ⟨nextQueryId + 1, none, ⟨.error .fail, []⟩⟩
    | some query =>
        if answers.opens = false then some ⟨nextQueryId + 1, none, ⟨.error .fail, []⟩⟩
        else if answers.sends = false then some ⟨nextQueryId + 1, none, ⟨.error .again, []⟩⟩
        else
          let sent := some (dnsAddr (getDnsServerIp answers.nifm), query)
          match answers.received with
          | none => some ⟨nextQueryId + 1, sent, ⟨.error .again, []⟩⟩
          | some datagram =>
              if datagram.response = [] then some ⟨nextQueryId + 1, sent, ⟨.error .again, []⟩⟩
              else
                -- Who sent the datagram is not looked at.
                match parseDnsResponse datagram.response maxIps with
                | none => none
                | some parsed => some ⟨nextQueryId + 1, sent, parsed⟩

inductive AddressFamily where
  | unspec | inet | other
  deriving DecidableEq

structure Hints where
  aiFlagsPassive : Bool
  aiFamily : AddressFamily
  aiSocktype : Int
  aiProtocol : Int

structure AddrInfo where
  aiSocktype : Int
  aiProtocol : Int
  aiAddr : SockAddrIn

inductive GaiError where
  | noName | family | memory
  | dns (e : DnsError)

def addrInfo (hints : Option Hints) (sa : SockAddrIn) : AddrInfo :=
  ⟨(hints.map Hints.aiSocktype).getD 0, (hints.map Hints.aiProtocol).getD 0, sa⟩

/-- The list of nodes; `none` where one is not allocated, and the ones before it are freed. -/
def buildAddrInfos (hints : Option Hints) (port : UInt16) :
    (allocations : Nat) → (ips : List UInt32) → Option (List AddrInfo)
  | _, [] => some []
  | 0, _ :: _ => none
  | allocations + 1, ip :: ips =>
      match buildAddrInfos hints port allocations ips with
      | none => none
      | some infos => some (addrInfo hints ⟨0, inet, bswap16 port, bswap32 ip⟩ :: infos)

/-- `service` is the number that `atoi` reads in it. The outer `none` is that of the parser. -/
def wrapGetaddrinfo (inetPton : List UInt8 → Option UInt32) (node : Option (List UInt8))
    (service : Option UInt16) (hints : Option Hints) (nextQueryId : UInt16)
    (answers : SystemAnswers) : Option (Except GaiError (List AddrInfo)) :=
  if node.isNone ∧ service.isNone then some (.error .noName)
  else
    let family := (hints.map Hints.aiFamily).getD .unspec
    if family ≠ .unspec ∧ family ≠ .inet then some (.error .family)
    else
      let port := service.getD 0
      let single := fun sinAddr =>
        if answers.allocations = 0 then some (.error .memory)
        else some (.ok [addrInfo hints ⟨0, inet, bswap16 port, sinAddr⟩])
      match node with
      | none =>
          let passive := (hints.map Hints.aiFlagsPassive).getD false
          single (bswap32 (if passive then 0 else 0x7F000001))
      | some node =>
          match inetPton node with
          | some sinAddr => single sinAddr
          | none =>
              match resolveHostnameDns node 8 nextQueryId answers with
              | none => none
              | some resolution =>
                  match resolution.parsed.result with
                  | .error e => some (.error (.dns e))
                  | .ok _ =>
                      match buildAddrInfos hints port answers.allocations
                        resolution.parsed.outIps with
                      | none => some (.error .memory)
                      | some infos => some (.ok infos)

/-- `resolve_host` asks for IPv4 and TCP. -/
def resolveHostHints : Hints := ⟨false, .inet, 1, 0⟩

def resolveHost (inetPton : List UInt8 → Option UInt32) (host : List UInt8) (nextQueryId : UInt16)
    (answers : SystemAnswers) : Option (Option SockAddrIn) :=
  match inetPton host with
  | some sinAddr => some (some ⟨0, inet, 0, sinAddr⟩)
  | none =>
      match wrapGetaddrinfo inetPton (some host) none (some resolveHostHints) nextQueryId answers
        with
      | none => none
      | some (.error _) => some none
      | some (.ok infos) =>
          match infos with
          | [] => some none
          | info :: _ => some (some info.aiAddr)

def connectAddress (inetPton : List UInt8 → Option UInt32) (host : List UInt8) (port : UInt16)
    (nextQueryId : UInt16) (answers : SystemAnswers) : Option (Option SockAddrIn) :=
  match resolveHost inetPton host nextQueryId answers with
  | none => none
  | some none => some none
  | some (some addr) => some (some { addr with sinPort := bswap16 port })

def MatchesQuery (query response : List UInt8) : Prop :=
  read response 0 2 = read query 0 2 ∧ read response 4 2 = read query 4 2 ∧
    query.drop 12 <+: response.drop 12

def IsFrom (server sender : SockAddrIn) : Prop :=
  sender.sinAddr = server.sinAddr ∧ sender.sinPort = server.sinPort

/-- The call gets as far as to a datagram behind the query. -/
def Delivers (hostname : List UInt8) (nextQueryId : UInt16) (answers : SystemAnswers)
    (query : List UInt8) (datagram : Datagram) : Prop :=
  buildDnsQuery hostname nextQueryId 512 = some query ∧ answers.opens = true ∧
    answers.sends = true ∧ answers.received = some datagram

theorem resolveHostnameDns_delivers {hostname query : List UInt8} {nextQueryId : UInt16}
    {answers : SystemAnswers} {datagram : Datagram} {maxIps : Int} {parsed : Parsed}
    (delivers : Delivers hostname nextQueryId answers query datagram) (positive : 0 < maxIps)
    (nonempty : datagram.response ≠ [])
    (read : parseDnsResponse datagram.response maxIps = some parsed) :
    resolveHostnameDns hostname maxIps nextQueryId answers =
      some ⟨nextQueryId + 1, some (dnsAddr (getDnsServerIp answers.nifm), query), parsed⟩ := by
  obtain ⟨built, opens, sends, received⟩ := delivers
  rw [resolveHostnameDns, if_neg (Int.not_le.mpr positive), built]
  dsimp only
  rw [opens, sends, received, if_neg (by decide), if_neg (by decide)]
  dsimp only
  rw [if_neg nonempty, read]

theorem answered_ne_nil {response : List UInt8} {maxIps : Int} {ips : List UInt32}
    (answered : Answered response maxIps ips) : response ≠ [] := by
  obtain ⟨header, questions, records, rest, whole, -⟩ := answered
  rintro rfl
  have length := congrArg List.length whole
  simp only [List.length_append, Header.length_image, List.length_nil] at length
  omega

theorem resolveHostnameDns_of_answered {hostname query : List UInt8} {nextQueryId : UInt16}
    {answers : SystemAnswers} {datagram : Datagram} {maxIps : Int} {ips : List UInt32}
    (delivers : Delivers hostname nextQueryId answers query datagram)
    (answered : Answered datagram.response maxIps ips) :
    resolveHostnameDns hostname maxIps nextQueryId answers =
      some ⟨nextQueryId + 1, some (dnsAddr (getDnsServerIp answers.nifm), query),
        ⟨.ok ips.length, ips⟩⟩ :=
  resolveHostnameDns_delivers delivers (answered_room answered).1 (answered_ne_nil answered)
    (parseDnsResponse_of_answered answered)

theorem resolveHostnameDns_spec (hostname : List UInt8) (maxIps : Int) (nextQueryId : UInt16)
    (answers : SystemAnswers) :
    ∃ resolution, resolveHostnameDns hostname maxIps nextQueryId answers = some resolution ∧
      ∀ ipCount, resolution.parsed.result = .ok ipCount →
        ∃ query datagram, Delivers hostname nextQueryId answers query datagram ∧
          resolution.sent = some (dnsAddr (getDnsServerIp answers.nifm), query) ∧
          Answered datagram.response maxIps resolution.parsed.outIps := by
  by_cases room : maxIps ≤ 0
  · exact ⟨_, if_pos room, fun _ same => by cases same⟩
  · rw [resolveHostnameDns, if_neg room]
    cases built : buildDnsQuery hostname nextQueryId 512 with
    | none => exact ⟨_, rfl, fun _ same => by cases same⟩
    | some query =>
        dsimp only
        cases opens : answers.opens with
        | false => exact ⟨_, rfl, fun _ same => by cases same⟩
        | true =>
            cases sends : answers.sends with
            | false => exact ⟨_, rfl, fun _ same => by cases same⟩
            | true =>
                cases received : answers.received with
                | none => exact ⟨_, rfl, fun _ same => by cases same⟩
                | some datagram =>
                    dsimp only
                    by_cases empty : datagram.response = []
                    · rw [if_pos empty]
                      exact ⟨_, rfl, fun _ same => by cases same⟩
                    · obtain ⟨parsed, same, -, ok⟩ :=
                        parseDnsResponse_spec datagram.response maxIps
                      rw [if_neg empty, same]
                      refine ⟨_, rfl, ?_⟩
                      intro ipCount result
                      exact ⟨query, datagram, ⟨built, opens, sends, received⟩, rfl,
                        (ok ipCount result).2⟩

theorem buildAddrInfos_of_le (hints : Option Hints) (port : UInt16) {ips : List UInt32}
    {allocations : Nat} (enough : ips.length ≤ allocations) :
    buildAddrInfos hints port allocations ips =
      some (ips.map fun ip => addrInfo hints ⟨0, inet, bswap16 port, bswap32 ip⟩) := by
  induction ips generalizing allocations with
  | nil => cases allocations <;> rfl
  | cons ip ips ih =>
      cases allocations with
      | zero => cases enough
      | succ allocations =>
          rw [buildAddrInfos, ih (Nat.le_of_succ_le_succ enough)]
          rfl

theorem buildAddrInfos_of_lt (hints : Option Hints) (port : UInt16) {ips : List UInt32}
    {allocations : Nat} (few : allocations < ips.length) :
    buildAddrInfos hints port allocations ips = none := by
  induction ips generalizing allocations with
  | nil => cases few
  | cons ip ips ih =>
      cases allocations with
      | zero => rfl
      | succ allocations => rw [buildAddrInfos, ih (Nat.lt_of_succ_lt_succ few)]

section Connecting

variable {inetPton : List UInt8 → Option UInt32} {host : List UInt8} {port nextQueryId : UInt16}
  {answers : SystemAnswers}

theorem wrapGetaddrinfo_host (notLiteral : inetPton host = none) {resolution : Resolution}
    (resolved : resolveHostnameDns host 8 nextQueryId answers = some resolution) :
    wrapGetaddrinfo inetPton (some host) none (some resolveHostHints) nextQueryId answers =
      match resolution.parsed.result with
      | .error e => some (.error (.dns e))
      | .ok _ =>
          match buildAddrInfos (some resolveHostHints) 0 answers.allocations
            resolution.parsed.outIps with
          | none => some (.error .memory)
          | some infos => some (.ok infos) := by
  rw [wrapGetaddrinfo, if_neg (by simp)]
  dsimp only
  rw [if_neg (by simp [resolveHostHints]), notLiteral]
  dsimp only
  rw [resolved]
  rfl

theorem connectAddress_of_answered (notLiteral : inetPton host = none) {query : List UInt8}
    {datagram : Datagram} (delivers : Delivers host nextQueryId answers query datagram)
    {ip : UInt32} {ips : List UInt32} (answered : Answered datagram.response 8 (ip :: ips))
    (enough : (ip :: ips).length ≤ answers.allocations) :
    connectAddress inetPton host port nextQueryId answers =
      some (some ⟨0, inet, bswap16 port, bswap32 ip⟩) := by
  have resolved := resolveHostnameDns_of_answered delivers answered
  rw [connectAddress, resolveHost, notLiteral]
  dsimp only
  rw [wrapGetaddrinfo_host notLiteral resolved]
  dsimp only
  rw [buildAddrInfos_of_le _ _ enough]
  rfl

theorem connectAddress_some (notLiteral : inetPton host = none) {address : SockAddrIn}
    (connects : connectAddress inetPton host port nextQueryId answers = some (some address)) :
    ∃ query datagram ips, Delivers host nextQueryId answers query datagram ∧
      Answered datagram.response 8 ips ∧ ips.length ≤ answers.allocations := by
  obtain ⟨resolution, resolved, ok⟩ := resolveHostnameDns_spec host 8 nextQueryId answers
  rw [connectAddress, resolveHost, notLiteral] at connects
  dsimp only at connects
  rw [wrapGetaddrinfo_host notLiteral resolved] at connects
  cases result : resolution.parsed.result with
  | error e =>
      rw [result] at connects
      cases connects
  | ok ipCount =>
      obtain ⟨query, datagram, delivers, -, answered⟩ := ok ipCount result
      refine ⟨query, datagram, _, delivers, answered, ?_⟩
      by_contra few
      rw [result] at connects
      dsimp only at connects
      rw [buildAddrInfos_of_lt _ _ (Nat.not_le.mp few)] at connects
      cases connects

end Connecting

/-- Addresses are returned for a datagram that matches the query, and an address is
connected to for one that the DNS server sent, too. -/
structure UsesOnlyItsAnswer (inetPton : List UInt8 → Option UInt32) (host : List UInt8)
    (port nextQueryId : UInt16) (answers : SystemAnswers) : Prop where
  resolves : ∀ maxIps resolution ipCount,
    resolveHostnameDns host maxIps nextQueryId answers = some resolution →
    resolution.parsed.result = .ok ipCount →
    ∃ server query datagram, resolution.sent = some (server, query) ∧
      answers.received = some datagram ∧ MatchesQuery query datagram.response
  connects : ∀ address, inetPton host = none →
    connectAddress inetPton host port nextQueryId answers = some (some address) →
    ∃ resolution server query datagram,
      resolveHostnameDns host 8 nextQueryId answers = some resolution ∧
      resolution.sent = some (server, query) ∧ answers.received = some datagram ∧
      MatchesQuery query datagram.response ∧ IsFrom server datagram.fromAddr

/-- The datagram is no answer at all, or it is the one to this query. -/
def IsGenuine (inetPton : List UInt8 → Option UInt32) (host : List UInt8) (nextQueryId : UInt16)
    (answers : SystemAnswers) : Prop :=
  ∀ query datagram, Delivers host nextQueryId answers query datagram →
    (∀ maxIps ips, Answered datagram.response maxIps ips → MatchesQuery query datagram.response) ∧
    (inetPton host = none → ∀ ips, Answered datagram.response 8 ips →
      ips.length ≤ answers.allocations →
      IsFrom (dnsAddr (getDnsServerIp answers.nifm)) datagram.fromAddr)

theorem usesOnlyItsAnswer_of_isGenuine {inetPton : List UInt8 → Option UInt32} {host : List UInt8}
    {port nextQueryId : UInt16} {answers : SystemAnswers}
    (genuine : IsGenuine inetPton host nextQueryId answers) :
    UsesOnlyItsAnswer inetPton host port nextQueryId answers where
  resolves := by
    intro maxIps resolution ipCount resolved result
    obtain ⟨_, same, ok⟩ := resolveHostnameDns_spec host maxIps nextQueryId answers
    rw [resolved] at same
    cases same
    obtain ⟨query, datagram, delivers, sent, answered⟩ := ok ipCount result
    exact ⟨_, query, datagram, sent, delivers.2.2.2,
      (genuine query datagram delivers).1 _ _ answered⟩
  connects := by
    intro address notLiteral connects
    obtain ⟨query, datagram, ips, delivers, answered, enough⟩ :=
      connectAddress_some notLiteral connects
    have ⟨matched, sender⟩ := genuine query datagram delivers
    exact ⟨_, _, query, datagram, resolveHostnameDns_of_answered delivers answered, rfl,
      delivers.2.2.2, matched 8 ips answered, sender notLiteral ips answered enough⟩

theorem isGenuine_of_usesOnlyItsAnswer {inetPton : List UInt8 → Option UInt32}
    {host : List UInt8} {port nextQueryId : UInt16} {answers : SystemAnswers}
    (uses : UsesOnlyItsAnswer inetPton host port nextQueryId answers) :
    IsGenuine inetPton host nextQueryId answers := by
  intro query datagram delivers
  have received := delivers.2.2.2
  refine ⟨?_, ?_⟩
  · intro maxIps ips answered
    obtain ⟨server, query', datagram', sent, same, matched⟩ :=
      uses.resolves maxIps _ _ (resolveHostnameDns_of_answered delivers answered) rfl
    rw [received] at same
    cases sent
    cases same
    exact matched
  · intro notLiteral ips answered enough
    cases ips with
    | nil => exact absurd rfl (answered_room answered).2
    | cons ip ips =>
        obtain ⟨resolution, server, query', datagram', resolved, sent, same, -, sender⟩ :=
          uses.connects _ notLiteral
            (connectAddress_of_answered notLiteral delivers answered enough)
        rw [resolveHostnameDns_of_answered delivers answered] at resolved
        rw [received] at same
        cases resolved
        cases sent
        cases same
        exact sender

theorem usesOnlyItsAnswer_iff (inetPton : List UInt8 → Option UInt32) (host : List UInt8)
    (port nextQueryId : UInt16) (answers : SystemAnswers) :
    UsesOnlyItsAnswer inetPton host port nextQueryId answers ↔
      IsGenuine inetPton host nextQueryId answers :=
  ⟨isGenuine_of_usesOnlyItsAnswer, usesOnlyItsAnswer_of_isGenuine⟩

def forgedRecord : Record :=
  ⟨⟨[], none, proper_nil, marked_none⟩, 1, 1, 0, [6, 6, 6, 6], by decide⟩

def forgedResponse : List UInt8 := Header.image ⟨0, 0x8180, 0, 1, 0, 0⟩ ++ forgedRecord.image

theorem forgedResponse_answered : Answered forgedResponse 8 [0x06060606] := by
  refine ⟨⟨0, 0x8180, 0, 1, 0, 0⟩, [], [forgedRecord], [], by decide, ?_, rfl, ?_, by decide,
    by decide⟩
  · unfold Header.IsAnswer
    decide
  · have found : forgedRecord.address = some 0x06060606 := by decide
    exact .address found .counted

def forgedAnswers : SystemAnswers where
  nifm := ⟨0, 0x0101A8C0, 0⟩
  opens := true
  sends := true
  received := some ⟨⟨16, inet, bswap16 9999, 0x4200000A⟩, forgedResponse⟩
  allocations := 8

/-- The first query for the default server is answered by a stranger. -/
theorem stranger_answers :
    connectAddress (fun _ => none) (CText.ascii "ldn.ryujinx.app") 30456 0x1234 forgedAnswers =
        some (some ⟨0, inet, bswap16 30456, 0x06060606⟩) ∧
      ¬ UsesOnlyItsAnswer (fun _ => none) (CText.ascii "ldn.ryujinx.app") 30456 0x1234
        forgedAnswers := by
  have encoded := (encodeDnsName_eq_some_iff (CText.ascii "ldn.ryujinx.app") 256 _).mpr
    ⟨by decide, by decide, rfl⟩
  have built : buildDnsQuery (CText.ascii "ldn.ryujinx.app") 0x1234 512 = some
      (bytes 2 0x1234 ++ [0x01, 0x00] ++ [0x00, 0x01] ++ [0x00, 0x00] ++ [0x00, 0x00] ++
        [0x00, 0x00] ++ encoding (CText.ascii "ldn.ryujinx.app") ++ [0x00, 0x01] ++
        [0x00, 0x01]) := by
    rw [buildDnsQuery, if_neg (by decide), encoded]
    exact if_neg (by decide)
  have delivers : Delivers _ 0x1234 forgedAnswers _ _ := ⟨built, rfl, rfl, rfl⟩
  refine ⟨connectAddress_of_answered rfl delivers forgedResponse_answered (by decide), ?_⟩
  intro uses
  obtain ⟨server, query, datagram, sent, received, matched⟩ :=
    uses.resolves 8 _ _ (resolveHostnameDns_of_answered delivers forgedResponse_answered) rfl
  cases sent
  cases received
  exact absurd matched.1 (by decide)

end RyuLdn.DnsWrap
