import ActiveRouting.Buffer.Components
import ActiveRouting.Buffer.CubeTails
import ActiveRouting.Buffer.MasterRuns
import ActiveRouting.Buffer.MasterTails
import ActiveRouting.Buffer.MasterVectors
import ActiveRouting.Cache.CacheL1
import ActiveRouting.Cache.CacheL2
import ActiveRouting.Cache.Directory
import ActiveRouting.Cache.DirectoryCache
import ActiveRouting.Cache.MSHR
import ActiveRouting.Cache.SetRepresentation
import ActiveRouting.Core.Discipline
import ActiveRouting.Core.FetchQueue
import ActiveRouting.Core.Issue
import ActiveRouting.Core.O3Core
import ActiveRouting.Core.ReorderBuffer
import ActiveRouting.Core.RobTrace
import ActiveRouting.Cube.CrossbarSwitch
import ActiveRouting.Cube.FlowConservation
import ActiveRouting.Cube.MultPipeline
import ActiveRouting.Cube.PageOffload
import ActiveRouting.Cube.Reassembly
import ActiveRouting.Cube.Segmentation
import ActiveRouting.Cube.Visits
import ActiveRouting.Host.EventQueue
import ActiveRouting.Host.FlowRound
import ActiveRouting.Host.ForestGather
import ActiveRouting.Host.GatherBarrier
import ActiveRouting.Host.HMCController
import ActiveRouting.Host.HostSystem
import ActiveRouting.Host.LocalQueue
import ActiveRouting.Host.NetworkClock
import ActiveRouting.Host.OperandCubes
import ActiveRouting.Host.PTSHMCController
import ActiveRouting.Host.ProcessEvent
import ActiveRouting.Host.TLB
import ActiveRouting.Host.Transaction
import ActiveRouting.Host.WakeUps
import ActiveRouting.Library.Barrier
import ActiveRouting.Library.Bins
import ActiveRouting.Library.BlockRing
import ActiveRouting.Library.Blocks
import ActiveRouting.Library.DerivedClock
import ActiveRouting.Library.Dictionary
import ActiveRouting.Library.GatherAccounts
import ActiveRouting.Library.GatherTree
import ActiveRouting.Library.HierarchicalWords
import ActiveRouting.Library.History
import ActiveRouting.Library.InputStream
import ActiveRouting.Library.Ledger
import ActiveRouting.Library.MixedRadix
import ActiveRouting.Library.Multimap
import ActiveRouting.Library.Numerals
import ActiveRouting.Library.Outcome
import ActiveRouting.Library.QueueTable
import ActiveRouting.Library.ReflectedCRC
import ActiveRouting.Library.RingBuffer
import ActiveRouting.Library.Run
import ActiveRouting.Library.SlidingWindow
import ActiveRouting.Library.Switches
import ActiveRouting.Library.Trail
import ActiveRouting.Library.Unsigned
import ActiveRouting.Library.WaitQueues
import ActiveRouting.Library.Walk
import ActiveRouting.Library.WaySet
import ActiveRouting.Link.FlowControl
import ActiveRouting.Link.LinkMaster
import ActiveRouting.Link.LinkSlave
import ActiveRouting.Link.LinkSystem
import ActiveRouting.Link.MasterTokens
import ActiveRouting.Link.Sequence
import ActiveRouting.Link.SlaveTokens
import ActiveRouting.Link.Tokens
import ActiveRouting.Network.DFlyDelivery
import ActiveRouting.Network.DFlyWiring
import ActiveRouting.Network.FastSync
import ActiveRouting.Network.FlowTree
import ActiveRouting.Network.MeshRouting
import ActiveRouting.Network.MeshWiring
import ActiveRouting.Network.Network
import ActiveRouting.Network.ParentLinks
import ActiveRouting.Network.RoutingFunction
import ActiveRouting.Noc.Agreement
import ActiveRouting.Noc.Component
import ActiveRouting.Noc.Crossbar
import ActiveRouting.Noc.CrossbarRounds
import ActiveRouting.Noc.Delivery
import ActiveRouting.Noc.Mesh2D
import ActiveRouting.Noc.MeshArbitration
import ActiveRouting.Noc.MeshRounds
import ActiveRouting.Noc.Ring
import ActiveRouting.Noc.RingDelivery
import ActiveRouting.Noc.RingRounds
import ActiveRouting.Noc.RingRouting
import ActiveRouting.Packet
import ActiveRouting.PacketCRC
import ActiveRouting.Reduction.Actions
import ActiveRouting.Reduction.AnswerSteps
import ActiveRouting.Reduction.CommitSteps
import ActiveRouting.Reduction.CubeNetwork
import ActiveRouting.Reduction.FlowView
import ActiveRouting.Reduction.Placement
import ActiveRouting.Reduction.Refinement
import ActiveRouting.Reduction.Dragonfly
import ActiveRouting.Reduction.WellPlaced
import ActiveRouting.SimConfig
import ActiveRouting.Thread.Activity
import ActiveRouting.Thread.Arrival
import ActiveRouting.Thread.Blocking
import ActiveRouting.Thread.Bookkeeping
import ActiveRouting.Thread.Cancellation
import ActiveRouting.Thread.HardwareThreads
import ActiveRouting.Thread.InstructionStream
import ActiveRouting.Thread.Joining
import ActiveRouting.Thread.Locking
import ActiveRouting.Thread.Managers
import ActiveRouting.Thread.PTS
import ActiveRouting.Thread.PthreadKey
import ActiveRouting.Thread.PthreadScheduler
import ActiveRouting.Thread.PthreadSim
import ActiveRouting.Thread.Registration
import ActiveRouting.Thread.RunningThread
import ActiveRouting.Thread.TraceReplay
import ActiveRouting.Vault.ActivateWindow
import ActiveRouting.Vault.AddressMap
import ActiveRouting.Vault.Answers
import ActiveRouting.Vault.BankPhase
import ActiveRouting.Vault.BankRules
import ActiveRouting.Vault.BankStages
import ActiveRouting.Vault.BankTiming
import ActiveRouting.Vault.BankWork
import ActiveRouting.Vault.ClosePage
import ActiveRouting.Vault.CloseRun
import ActiveRouting.Vault.CommandLedger
import ActiveRouting.Vault.CommandQueue
import ActiveRouting.Vault.Contents
import ActiveRouting.Vault.DRAM
import ActiveRouting.Vault.DRAMCommand
import ActiveRouting.Vault.DrainedBanks
import ActiveRouting.Vault.OpenOrder
import ActiveRouting.Vault.OpenPage
import ActiveRouting.Vault.QueueCapacity
import ActiveRouting.Vault.QueueStages
import ActiveRouting.Vault.ReadPath
import ActiveRouting.Vault.ReadTags
import ActiveRouting.Vault.Reservation
import ActiveRouting.Vault.RowGroups
import ActiveRouting.Vault.RowOrder
import ActiveRouting.Vault.Scheduling
import ActiveRouting.Vault.ServiceOrder
import ActiveRouting.Vault.TimingLegality
import ActiveRouting.Vault.VLPVaultController
import ActiveRouting.Vault.VaultController
