import KernelModules.Foundations.CreditBucket
import KernelModules.Foundations.Draining
import KernelModules.Foundations.PerCpu
import KernelModules.Foundations.Bytes
import KernelModules.Foundations.ReorderBuffer
import KernelModules.Foundations.SequenceSpace
import KernelModules.Foundations.Resync
import KernelModules.Foundations.HashChains
import KernelModules.Foundations.Lists
import KernelModules.Foundations.Runs
import KernelModules.Foundations.Ledger
import KernelModules.Foundations.References
import KernelModules.Foundations.Faults
import KernelModules.Foundations.Accounts
import KernelModules.Foundations.Exchange
import KernelModules.Foundations.TracedReads
import KernelModules.Foundations.Numbering
import KernelModules.Foundations.Cursors
import KernelModules.Foundations.Strings
import KernelModules.Foundations.KernelThreads
import KernelModules.Foundations.PartialSums
import KernelModules.Policing.TokenBucket
import KernelModules.Policing.Refill
import KernelModules.Policing.DroppedPackets
import KernelModules.L2tp.Types
import KernelModules.L2tp.Header
import KernelModules.L2tp.Session
import KernelModules.L2tp.Receive
import KernelModules.L2tp.Conservation
import KernelModules.L2tp.SequenceNumbers
import KernelModules.L2tp.Reorder
import KernelModules.L2tp.SequenceProgress
import KernelModules.L2tp.Net
import KernelModules.L2tp.Dumps
import KernelModules.L2tp.SeqFiles
import KernelModules.L2tp.Control
import KernelModules.L2tp.Input
import KernelModules.L2tp.Transmit
import KernelModules.L2tp.PppRoundTrip
import KernelModules.L2tp.HeaderRoundTrip
import KernelModules.L2tp.HeaderReads
import KernelModules.L2tp.Discards
import KernelModules.L2tp.StaleNumbers
import KernelModules.L2tp.DataPath
import KernelModules.L2tp.SocketOptions
import KernelModules.L2tp.TransmitAccounting
import KernelModules.L2tp.SessionRuns
import KernelModules.L2tp.HeaderLength
import KernelModules.L2tp.RecvSide
import KernelModules.L2tp.ReceiveWindow
import KernelModules.L2tp.Resync
import KernelModules.L2tp.LeftoverFrames
import KernelModules.L2tp.OutOfSequence
import KernelModules.L2tp.OlderPort
import KernelModules.L2tp.TwinPorts
import KernelModules.L2tp.SentNumbers
import KernelModules.L2tp.System
import KernelModules.L2tp.FailedConnect
import KernelModules.L2tp.SessionTables
import KernelModules.L2tp.UdpDisposition
import KernelModules.L2tp.AttachedSessions
import KernelModules.L2tp.Lifetimes
import KernelModules.L2tp.TunnelReferences
import KernelModules.L2tp.TunnelLifetimes
import KernelModules.L2tp.Closeall
import KernelModules.L2tp.TunnelSockets
import KernelModules.L2tp.IpBindings
import KernelModules.L2tp.SocketReferences
import KernelModules.L2tp.SharedCounters
import KernelModules.L2tp.SharedRuns
import KernelModules.L2tp.TunnelTotals
import KernelModules.L2tp.Statistics
import KernelModules.L2tp.UdpChecksum
import KernelModules.L2tp.IpControl
import KernelModules.L2tp.OrderedTransport
import KernelModules.L2tp.NamespaceExit
import KernelModules.NetlinkServer.Server
import KernelModules.NetlinkServer.Carrier
import KernelModules.NetlinkServer.CarrierEffects
import KernelModules.NetlinkServer.MessageReads
import KernelModules.NetlinkServer.NamespaceReferences
import KernelModules.NetlinkServer.ProcInfo
import KernelModules.IcmpRequest.Reply
import KernelModules.NetdevProto.VirtStats
import KernelModules.CharDevicePoll.Poll
import KernelModules.BlockDriver.RamDisk
import KernelModules.ProcPractik.Buffer
import KernelModules.IrqProc.CounterText
import KernelModules.SymbolDevices.Drivers
import KernelModules.SymbolDevices.SameDevice
import KernelModules.KernelThread.Lock
