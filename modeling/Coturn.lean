import Coturn.Allocation.Cap
import Coturn.Allocation.Lifetime
import Coturn.BpsCapacity
import Coturn.OauthToken
import Coturn.Ports.EvenSearch
import Coturn.ProxyHeader
import Coturn.RtcpMap
import Coturn.SaslPrep
import Coturn.Server.AllocateErrors
import Coturn.Server.AllocateOrder
import Coturn.Server.AllocateTrace
import Coturn.Server.AlternateServers
import Coturn.Server.BandwidthIntervals
import Coturn.Server.Framing
import Coturn.Server.PeerFamilies
import Coturn.Server.PeerPayload
import Coturn.Server.RejectedAttempts
import Coturn.Server.Retransmission
import Coturn.Server.SendIndication
import Coturn.Server.TcpData
import Coturn.Server.Tickets
import Coturn.Server.Usage
import Coturn.SessionMaps
import Coturn.StrBuffer
import Coturn.StringMap
import Coturn.Stun.Addresses
import Coturn.Stun.Bandwidth
import Coturn.Stun.Fingerprint
import Coturn.Stun.ShortTerm
import Coturn.Udp.Tos
import Coturn.Udp.Transparent
