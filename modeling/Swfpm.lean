import Swfpm.Support.ByteBuffer
import Swfpm.Support.RingBuffer
import Swfpm.Support.SlotTable
import Swfpm.Support.Timeline
import Swfpm.Support.Crc
import Swfpm.Support.Rounding
import Swfpm.Support.Int64Range
import Swfpm.Support.SignedOps
import Swfpm.Storage.Record
import Swfpm.Storage.AbSlot
import Swfpm.Storage.Service
import Swfpm.Storage.Accounting
import Swfpm.Storage.FramSystem
import Swfpm.Storage.Progress
import Swfpm.Storage.Commit
import Swfpm.Storage.VolumeCommit
import Swfpm.Storage.Restore
import Swfpm.Storage.WriteFrame
import Swfpm.Storage.WriteOnce
import Swfpm.Storage.Codec
import Swfpm.Storage.Corruption
import Swfpm.Storage.Checksum
import Swfpm.Storage.SlotSymmetry
import Swfpm.Domain.Measurement
import Swfpm.Volume.Accumulator
import Swfpm.Volume.Conservation
import Swfpm.Volume.Coverage
import Swfpm.Volume.Rejection
import Swfpm.Queue.EventQueue
import Swfpm.Queue.Refinement
import Swfpm.Queue.Reservation
import Swfpm.Queue.Fairness
import Swfpm.Time.Scheduler
import Swfpm.Time.Grid
import Swfpm.Time.Outstanding
import Swfpm.Bus.I2cBusManager
import Swfpm.Bus.Registration
import Swfpm.Bus.Ledger
import Swfpm.Bus.ExactlyOnce
import Swfpm.Bus.Arbitration
import Swfpm.Bus.SpiBusManager
import Swfpm.Bus.StaleCompletion
import Swfpm.Storage.Pending
import Swfpm.Drivers.FramDriver
import Swfpm.Drivers.FramMemory
import Swfpm.Drivers.FramSound
import Swfpm.Numeric.CheckedMath
import Swfpm.Numeric.CheckedSteps
import Swfpm.Numeric.RoundHalfEven
import Swfpm.Numeric.Interpolation
import Swfpm.Drivers.Max35103
import Swfpm.Drivers.FlowFrame
import Swfpm.Drivers.Zssc3241
import Swfpm.Drivers.PressureSamples
import Swfpm.Drivers.FlowPublication
import Swfpm.Processing.FlowService
import Swfpm.Processing.PressureService
import Swfpm.Processing.ProfileValidation
import Swfpm.Processing.FlowRange
import Swfpm.Processing.PressureRange
import Swfpm.Leak.LeakDetection
import Swfpm.Support.Evidence
import Swfpm.Leak.Tracker
import Swfpm.Leak.Activation
import Swfpm.Leak.Verdict
import Swfpm.Leak.Consistency
import Swfpm.Leak.Hysteresis
import Swfpm.Measurement.MeasurementManager
import Swfpm.Measurement.Dispatch
import Swfpm.Measurement.AllOrNothing
import Swfpm.Measurement.PressureSide
import Swfpm.Measurement.PressureRecovery
import Swfpm.Measurement.Gap
import Swfpm.Volume.PowerCycle
import Swfpm.Storage.CheckpointPolicy
import Swfpm.Volume.SourceRestart
import Swfpm.Domain.System
import Swfpm.Repository.DataRepository
import Swfpm.Repository.Transactions
import Swfpm.Repository.SnapshotReader
import Swfpm.Processing.CalibrationService
import Swfpm.Processing.TemperaturePairing
import Swfpm.Power.PowerService
import Swfpm.Power.PowerFacade
import Swfpm.Power.Announcement
import Swfpm.Mode.SystemFsm
import Swfpm.Mode.Mirror
import Swfpm.Mode.ErrorExit
import Swfpm.Loop.EventLoop
import Swfpm.Loop.PendingActions
import Swfpm.Loop.ScheduledWork
import Swfpm.Telemetry.Queue
import Swfpm.Telemetry.Conservation
import Swfpm.Telemetry.Delivery
import Swfpm.Telemetry.Acknowledgement
import Swfpm.AutoCal.Profile
import Swfpm.AutoCal.Calibrator
import Swfpm.AutoCal.DefaultConfig
import Swfpm.AutoCal.Candidates
import Swfpm.AutoCal.Metrics
import Swfpm.AutoCal.Stages
import Swfpm.AutoCal.Finalists
import Swfpm.AutoCal.Step
import Swfpm.Support.OrderStatistics
import Swfpm.AutoCal.Selection
import Swfpm.AutoCal.Quickselect
import Swfpm.AutoCal.Batch
import Swfpm.Support.Descent
import Swfpm.AutoCal.Termination
import Swfpm.AutoCal.ReferenceStatistics
import Swfpm.AutoCal.Evidence
import Swfpm.AutoCal.Report
import Swfpm.AutoCal.Discovery
import Swfpm.AutoCal.Registers
import Swfpm.AutoCal.Grid
import Swfpm.AutoCal.OwnedBits
import Swfpm.AutoCal.GridPoints
import Swfpm.AutoCal.HeldProfiles
import Swfpm.AutoCal.Coverage
import Swfpm.Max35103.Driver
import Swfpm.Max35103.Results
import Swfpm.Max35103.Spi
import Swfpm.Max35103.Events
import Swfpm.Max35103.Control
import Swfpm.Max35103.Moves
import Swfpm.Max35103.OperationMoves
import Swfpm.Max35103.Device
import Swfpm.Max35103.Ownership
import Swfpm.Max35103.Halt
import Swfpm.Max35103.EventView
import Swfpm.Max35103.EventSteps
import Swfpm.Max35103.Evidence
import Swfpm.Max35103.MeasureLoop
import Swfpm.Max35103.IntStatus
import Swfpm.Max35103.Shadow
import Swfpm.Zssc3241.Driver
import Swfpm.Zssc3241.Mapping
import Swfpm.Support.Progression
import Swfpm.Connectivity.ReportingSchedule
import Swfpm.Connectivity.NextDue
import Swfpm.Connectivity.SlotOrdinal
import Swfpm.Support.BoundedFifo
import Swfpm.Support.BestOfFamilies
import Swfpm.Support.Grid
import Swfpm.Max35103.Queues
import Swfpm.Support.BinaryHeap
import Swfpm.Simulation.ActionQueue
import Swfpm.Simulation.RunController
import Swfpm.Support.Program
import Swfpm.Support.RetryLedger
import Swfpm.Storage.Attempts
import Swfpm.Storage.Retries
import Swfpm.Zssc3241.Operations
import Swfpm.Zssc3241.Footprint
import Swfpm.Zssc3241.NvmGuard
import Swfpm.Zssc3241.NvmBlock
import Swfpm.Zssc3241.Labels
import Swfpm.Max35103.TimeoutRecords
import Swfpm.Max35103.Edges
import Swfpm.Max35103.Deadlines
import Swfpm.Support.AsyncTransfer
import Swfpm.Bus.PortSteps
import Swfpm.Bus.Stm32Port
import Swfpm.Bus.BoardTransfers
import Swfpm.Bus.BoardRuns
