import RyuLdn.LittleEndian
import RyuLdn.BigEndian
import RyuLdn.LabelSequence
import RyuLdn.CText
import RyuLdn.StreamFraming
import RyuLdn.ArrayQueue
import RyuLdn.OwnerSlots
import RyuLdn.RingBuffer
import RyuLdn.TransitionSystem
import RyuLdn.UpnpLease
import RyuLdn.LdnScan
import RyuLdn.LockedProgram
import RyuLdn.ResourceLedger
import RyuLdn.HandleLedger
import RyuLdn.FateLedger
import RyuLdn.BitMask
import RyuLdn.ProtocolCodec
import RyuLdn.ProtocolTypes
import RyuLdn.ProtocolImages
import RyuLdn.ProtocolRoundTrip
import RyuLdn.StreamReassembly
import RyuLdn.StreamResync
import RyuLdn.P2pReceiveLoops
import RyuLdn.P2pServer
import RyuLdn.P2pServerRuns
import RyuLdn.P2pAuthentication
import RyuLdn.P2pRouting
import RyuLdn.P2pDelivery
import RyuLdn.P2pDescriptors
import RyuLdn.P2pSessionPool
import RyuLdn.P2pSessionOwnership
import RyuLdn.DnsWrap
import RyuLdn.TcpSocket
import RyuLdn.TcpClient
import RyuLdn.SenderFraming
import RyuLdn.ConnectionState
import RyuLdn.Reconnect
import RyuLdn.LdnClient
import RyuLdn.LdnClientRuns
import RyuLdn.LdnClientConnect
import RyuLdn.LdnClientHandshake
import RyuLdn.LdnClientTeardown
import RyuLdn.LdnClientReceive
import RyuLdn.LdnClientTrace
import RyuLdn.LdnClientTimer
import RyuLdn.LdnClientRetries
import RyuLdn.LdnClientBackoff
import RyuLdn.LdnClientKeepalive
import RyuLdn.LdnClientPingTimeout
import RyuLdn.CheckedArithmetic
import RyuLdn.ReconnectArithmetic
import RyuLdn.TcpSendQueue
import RyuLdn.TcpSendOrder
import RyuLdn.TcpSendStream
import RyuLdn.LdnProxyBuffer
import RyuLdn.BsdTypes
import RyuLdn.ProxySocket
import RyuLdn.ProxySocketStream
import RyuLdn.ProxySocketQueue
import RyuLdn.EphemeralPortPool
import RyuLdn.PortPoolRuns
import RyuLdn.ProxySocketManager
import RyuLdn.ProxySocketLocks
import RyuLdn.PendingRing
import RyuLdn.SocketRouting
import RyuLdn.ProxySocketHandshake
import RyuLdn.BsdMitmService
import RyuLdn.BsdAccept
import RyuLdn.BsdBookkeeping
import RyuLdn.BsdBindSteps
import RyuLdn.BsdBookkeepingRuns
import RyuLdn.BsdBindFailure
import RyuLdn.BsdReadiness
import RyuLdn.NetworkInfo
import RyuLdn.LdnNodeMapper
import RyuLdn.LdnNodeUpdates
import RyuLdn.LdnSessionHandler
import RyuLdn.SlotFlags
import RyuLdn.LdnStackSlots
import RyuLdn.LdnStateMachine
import RyuLdn.LdnService
import RyuLdn.LdnResponses
import RyuLdn.LdnNetworkFlag
import RyuLdn.LdnHosting
import RyuLdn.LdnServerLink
import RyuLdn.LdnSession
import RyuLdn.LdnSessionLoss
import RyuLdn.LdnDataPath
import RyuLdn.P2pHostBroadcast
import RyuLdn.P2pClient
import RyuLdn.P2pClientRuns
import RyuLdn.P2pJoin
import RyuLdn.P2pJoinRuns
import RyuLdn.DatagramRelay
import RyuLdn.ConfigFile
import RyuLdn.ConfigRoundTrip
import RyuLdn.ConfigReaders
import RyuLdn.ConfigService
import RyuLdn.LogBuffer
import RyuLdn.DnsQueries
import RyuLdn.DnsResolver
import RyuLdn.SortedSearch
import RyuLdn.GameWhitelist
import RyuLdn.WhitelistLookup
import RyuLdn.TcpSendAccounting
import RyuLdn.BsdInterception
import RyuLdn.BsdSocketOptions
import RyuLdn.LdnOverlay
import RyuLdn.LdnAddress
import RyuLdn.PassphraseEntry
import RyuLdn.BsdRouting
import RyuLdn.BsdDelivery
import RyuLdn.BsdDeliveryRuns
