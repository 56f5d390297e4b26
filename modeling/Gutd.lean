import Gutd.Shared.Words
import Gutd.Shared.Checked
import Gutd.Crypto
import Gutd.Wire.Format
import Gutd.Proto.Quic
import Gutd.Userspace.LongHeader
import Gutd.Bpf.XdpProbe
import Gutd.Bpf.XdpReceive
import Gutd.Config
import Gutd.Userspace.Encap
import Gutd.Userspace.Decap
import Gutd.Userspace.RoundTrip
import Gutd.Proto.Base64
import Gutd.Proto.Syslog
import Gutd.Proto.Sip
import Gutd.Shared.Net
import Gutd.Userspace.Ingress
import Gutd.Userspace.Delivery
import Gutd.Userspace.GutDelivery
import Gutd.Userspace.Probe
import Gutd.Userspace.Egress
import Gutd.Userspace.Threads
import Gutd.Userspace.Routing
import Gutd.Bpf.LongHeader
import Gutd.Bpf.TcEgress
import Gutd.Bpf.TcSend
import Gutd.Bpf.Loader
import Gutd.Interop
import Gutd.Bpf.Unwrap
import Gutd.Bpf.XdpRejection
import Gutd.Bpf.ReplyLoop
import Gutd.Userspace.HostOrder
import Gutd.Agreement
import Gutd.Userspace.Silence
import Gutd.Bpf.SipScan
import Gutd.Bpf.Base64
import Gutd.Bpf.TextReceive
import Gutd.Bpf.TextSend
import Gutd.SyslogInterop
import Gutd.Proto.SipLines
import Gutd.Proto.SipHeader
import Gutd.Bpf.SipSend
import Gutd.SipInterop
import Gutd.Bpf.WellFormed
import Gutd.SipLimit
import Gutd.Bpf.ProbeReply
import Gutd.Bpf.Dispatch
import Gutd.Bpf.TcPlan
import Gutd.Bpf.TcRedirect
import Gutd.Bpf.TcExits
import Gutd.Shared.Fips180
import Gutd.Crypto.Digest
import Gutd.Crypto.KeyDerivation
import Gutd.Proto.Base64Strict
import Gutd.Bpf.Scratch
import Gutd.Shared.Rfc9000
import Gutd.Userspace.SharedAddr
import Gutd.Shared.BlockWords
import Gutd.Userspace.VersionNegotiation
import Gutd.Bpf.Aead
import Gutd.Bpf.AeadScratch
import Gutd.Shared.Digits
import Gutd.Proto.SipToken
import Gutd.Shared.NetParse
import Gutd.Config.Load
import Gutd.Config.Validity
import Gutd.Config.Settings
import Gutd.Config.EnvAgreement
import Gutd.Shared.Numerals
import Gutd.Shared.Hexadecimal
import Gutd.Config.Sections
import Gutd.Config.SectionOrder
import Gutd.Tun
import Gutd.Config.Subnets
import Gutd.Config.HexKey
import Gutd.Genkey
import Gutd.Shared.Gregorian
import Gutd.Dates
import Gutd.Shared.FirstMax
import Gutd.Shared.LeadingBits
import Gutd.Bpf.RouteTable
import Gutd.Netlink.Neighbour
import Gutd.Shared.Batches
import Gutd.Userspace.BatchRecv
import Gutd.Shared.Cursor
import Gutd.Proto.SipCursor
import Gutd.Shared.Ticker
import Gutd.Shared.Folds
import Gutd.Shared.Roaming
import Gutd.Bpf.Destination
import Gutd.Bpf.Learning
import Gutd.Daemon.Manager
import Gutd.Daemon.Loop
import Gutd.Daemon.Reload
import Gutd.Userspace.EgressThread
import Gutd.Userspace.IngressThread
import Gutd.Shared.NetText
import Gutd.Userspace.Start
import Gutd.Userspace.StaticPeer
