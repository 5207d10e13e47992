import Inet.Tcp.Queues.ByteStreamReassembly
import Inet.Tcp.Queues.MessageDelivery
import Inet.Tcp.FinPosition
import Inet.Tcp.ScoreboardCalls
import Inet.Tcp.ReturnToListen
import Inet.Tcp.NegotiationAgreement
import Inet.Base.ShortestPaths
import Inet.Ipv4.AddressText
import Inet.Ipv4.FragBuf
import Inet.Ipv4.OptimizedRoutes
import Inet.Ipv6.FragBuf
import Inet.Ipv6.AddressText
import Inet.Ipv6.DestinationCache
import Inet.Ospf.NextHops
import Inet.Ospf.NetworkRoutes
import Inet.Ospf.ReliableFlooding
import Inet.Ospf.DatabaseExchange
import Inet.Ospf.Election
import Inet.Ospf.HelloHandler
import Inet.Ospf.SummaryOrigination
import Inet.Sctp.Revocation
import Inet.Sctp.BufferAccounting
import Inet.Sctp.SkippedMessages
import Inet.Sctp.WholeMessages
import Inet.Rip.LostRoutes
import Inet.Aodv.WaitingDatagrams
import Inet.Aodv.LoopFreedom
import Inet.Ieee8021d.PortRoleRuns
import Inet.Ieee8021d.HelloInterval
import Inet.Ieee8021d.SpanningTree
import Inet.Headerserializers.IPv4RoundTrip
import Inet.Headerserializers.SCTPRoundTrip
import Inet.Headerserializers.TCPParsing
import Inet.Headerserializers.ExactChecksum
import Inet.Tcp.Pipe
import Inet.Tcp.SentSegment
import Inet.Tcp.DroppedSyn
import Inet.Tcp.Queues.QueueInit
import Inet.Tcp.Flavours.TCPSegmentTransmitInfoList
import Inet.Tcp.Flavours.TCPNewReno
import Inet.Tcp.Flavours.DCTCP
import Inet.Tcp.Flavours.TCPBaseAlg
import Inet.Dhcp.LeasedAddresses
import Inet.Diffserv.Meters
import Inet.Queueing.REDDropper
import Inet.Queueing.WRRScheduler
import Inet.Ted.TED
