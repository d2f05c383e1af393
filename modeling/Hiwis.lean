import Hiwis.Ipv4.IPv4FragBuf
import Hiwis.Transport.ExactlyOnce
import Hiwis.Transport.RequestReply
import Hiwis.Scheduler.RealtimeScheduler
import Hiwis.Rip.DistanceVector
import Hiwis.Configurator.AddressAssignment
import Hiwis.Ospf.DesignatedRouter
import Hiwis.Sctp.GapListRuns
import Hiwis.Sctp.StreamDelivery
import Hiwis.Tcp.ConnectionTables
import Hiwis.Ospf.AgingRuns
import Hiwis.Ospf.ReliableFlooding
import Hiwis.Ieee8021d.Relay
import Hiwis.Ieee8021d.VlanAddressTables
import Hiwis.Sctp.SendRuns
import Hiwis.Ieee8021d.SpanningTree
import Hiwis.Ieee8021d.RstpBackup
import Hiwis.Aodv.RouteDiscovery
import Hiwis.Aodv.RequestIds
import Hiwis.Udp.Demultiplexing
import Hiwis.Arp.AddressResolution
import Hiwis.Ipv6.LongestPrefixMatch
import Hiwis.Ipv6.StraddlingHeaders
import Hiwis.Wire.Checksums
import Hiwis.Bgp.DecisionProcess
import Hiwis.Bgp.SessionTimers
import Hiwis.Dymo.RouteDiscovery
import Hiwis.Icmpv6.NeighbourRuns
import Hiwis.Igmp.GroupState
import Hiwis.Rsvp.Bandwidth
import Hiwis.Dymo.LoopFreedom
import Hiwis.Tcp.LossRecovery
import Hiwis.Base.OverlappingFragments
import Hiwis.Configurator.MergeCheck
import Hiwis.Tcp.WindowRuns
import Hiwis.Contract.IPv4AddressText
import Hiwis.Contract.IPv6AddressText
import Hiwis.Rip.UpdateContent
import Hiwis.Rip.Robustness
import Hiwis.Sctp.SackLength
import Hiwis.Sctp.AuthKeys
import Hiwis.Ospf.SelfOriginated
import Hiwis.Ospf.SummaryOrigination
import Hiwis.Ospf.TransitAreas
import Hiwis.Diffserv.Accrual
import Hiwis.Queue.WRRScheduler
import Hiwis.Tcp.ByteStreamTransfer
