import Montana.Common.Reference
import Montana.Common.AtomicSave
import Montana.Roles.SequencerRecovery
import Montana.Roles.ValidatorSoundness
import Montana.Roles.ValidatorCrash
import Montana.Node.Pipeline
import Montana.Node.ShutdownRequest
import Montana.Node.LostUpdate
import Montana.Batching.Consumers
import Montana.Anvil.Submitters
import Montana.Anvil.Calldata
import Montana.Derivation.NoGap
import Montana.Derivation.Restarts
import Montana.Storage.CommitRule
import Montana.Storage.CommitFailure
import Montana.Storage.GenesisRestart
import Montana.Vm.Atomicity
import Montana.Migration.ZeroSlots
import Montana.Buffer.Slots
import Montana.BlockSource.Agreement
import Montana.TxMgr.FreshNonces
import Montana.Storage.RemoteCache
import Montana.Roles.SequencerFlush
import Montana.Roles.SequencerLimits
import Montana.Roles.SequencerWorkers
import Montana.Roles.SequencerCatchUp
import Montana.Batching.Bounds
import Montana.Batcher.Resume
import Montana.Derivation.Heads
import Montana.Node.SyncProgress
import Montana.Zstd.Compressor
import Montana.TxMgr.Requests
import Montana.TxMgr.Reorgs
import Montana.TxMgr.SendTrace
import Montana.TxMgr.Retries
import Montana.Migration.Compact
import Montana.Migration.Untrusted
import Montana.Batching.Reports
import Montana.Local.Accepted
import Montana.Local.Delivery
import Montana.Vm.Verification
import Montana.Node.ChainExecution
import Montana.Tui.Panels
import Montana.Node.Dashboard
import Montana.Node.RunnersOnL1
import Montana.Storage.LedgerMirror
import Montana.Node.DevnetExecution
import Montana.Vm.Restarts
import Montana.Migration.Execution
