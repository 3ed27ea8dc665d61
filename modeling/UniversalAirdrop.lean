import UniversalAirdrop.Library.Program
import UniversalAirdrop.Library.Paths
import UniversalAirdrop.Library.Stream
import UniversalAirdrop.Library.Numeral
import UniversalAirdrop.Library.Aead
import UniversalAirdrop.Library.FirstSeen
import UniversalAirdrop.Library.Threads
import UniversalAirdrop.Library.Ledger
import UniversalAirdrop.Library.Medium
import UniversalAirdrop.Library.Locking
import UniversalAirdrop.Library.Store
import UniversalAirdrop.Library.Mailbox
import UniversalAirdrop.Cxx
import UniversalAirdrop.Protocol
import UniversalAirdrop.WireFormat
import UniversalAirdrop.Crypto
import UniversalAirdrop.FileTransfer
import UniversalAirdrop.TcpServer
import UniversalAirdrop.Framing
import UniversalAirdrop.Receiving
import UniversalAirdrop.Storing
import UniversalAirdrop.Robustness
import UniversalAirdrop.Concurrency
import UniversalAirdrop.Mixing
import UniversalAirdrop.Handler
import UniversalAirdrop.Lifecycle
import UniversalAirdrop.TcpClient
import UniversalAirdrop.Sending
import UniversalAirdrop.Progress
import UniversalAirdrop.Transfer
import UniversalAirdrop.Responses
import UniversalAirdrop.Delivery
import UniversalAirdrop.Soundness
import UniversalAirdrop.UdpDiscovery
import UniversalAirdrop.Datagrams
import UniversalAirdrop.Announcing
import UniversalAirdrop.Sessions
import UniversalAirdrop.UdpSockets
import UniversalAirdrop.Lan
import UniversalAirdrop.DiscoveryThreads
import UniversalAirdrop.TcpSockets
import UniversalAirdrop.Outcomes
import UniversalAirdrop.DropBox
import UniversalAirdrop.Interruptions
import UniversalAirdrop.ServerRuns
import UniversalAirdrop.CommandLine
import UniversalAirdrop.Neighbourhood
import UniversalAirdrop.Window
import UniversalAirdrop.DeviceList
import UniversalAirdrop.SendingTab
