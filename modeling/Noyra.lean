import Noyra.Lib.HashChain
import Noyra.Lib.Json
import Noyra.Lib.Machine
import Noyra.Lib.Outcome
import Noyra.Lib.Program
import Noyra.Lib.Table
import Noyra.Lib.Text
import Noyra.Lib.Time
import Noyra.Wallet.Types
import Noyra.Wallet.Database
import Noyra.Wallet.Hashing
import Noyra.Wallet.Policy
import Noyra.Wallet.Economy
import Noyra.Wallet.Registry
import Noyra.Wallet.Transfer
import Noyra.Wallet.Execution
import Noyra.Wallet.Calls
import Noyra.Wallet.System
import Noyra.Wallet.Integrity
import Noyra.Wallet.Payouts
import Noyra.Wallet.Workflow
import Noyra.Signer.Service
import Noyra.Signer.System
import Noyra.Core.Admission
import Noyra.Core.ProviderHealth
import Noyra.Proofs.Writes
import Noyra.Proofs.Steps
import Noyra.Proofs.Effects
import Noyra.Proofs.Store
import Noyra.Proofs.Invariant
import Noyra.Proofs.Ledger
import Noyra.Proofs.Envelope
import Noyra.Proofs.Funds
import Noyra.Proofs.Reorganization
import Noyra.Proofs.Outcome
import Noyra.Proofs.Hashes
import Noyra.Proofs.DailyCap
import Noyra.Proofs.Balance
import Noyra.Proofs.Integrity
import Noyra.Proofs.Signer
import Noyra.Proofs.Admission
import Noyra.Proofs.ProviderHealth
import Noyra.Proofs.Payouts
import Noyra.Core.Events
import Noyra.Core.Actions
import Noyra.Core.Runtime
import Noyra.Proofs.EventChain
import Noyra.Proofs.Actions
import Noyra.Proofs.Runtime
import Noyra.Interaction.Inbound
import Noyra.Interaction.Ingest
import Noyra.Proofs.Deliveries
import Noyra.Lib.Calls
import Noyra.Migration.Types
import Noyra.Migration.Manager
import Noyra.Migration.Cutover
import Noyra.Migration.System
import Noyra.Proofs.MigrationEffects
import Noyra.Proofs.Fencing
import Noyra.Proofs.FencedCalls
import Noyra.Proofs.Release
import Noyra.Proofs.Approvals
import Noyra.Proofs.Standing
import Noyra.Migration.Chain
import Noyra.Proofs.Ownership
import Noyra.Archive.Replicas
import Noyra.Archive.Queue
import Noyra.Proofs.TransferQueue
import Noyra.Archive.Staging
import Noyra.Archive.Keyring
import Noyra.Proofs.Keyrings
import Noyra.Sleep.Types
import Noyra.Sleep.Engine
import Noyra.Sleep.Kernel
import Noyra.Sleep.Integrity
import Noyra.Proofs.SleepEffects
import Noyra.Proofs.SleepBooks
import Noyra.Proofs.SleepRuns
import Noyra.Proofs.SleepWaking
import Noyra.Proofs.SleepRest
import Noyra.Proofs.SleepAudit
import Noyra.Proofs.Capability
import Noyra.Proofs.Expiry
import Noyra.Proofs.Authentication
import Noyra.Proofs.Routes
import Noyra.Proofs.BackupRetention
import Noyra.Lib.SlidingWindow
import Noyra.Wallet.Acquisition
import Noyra.Proofs.Acquisition
import Noyra.Wallet.RewardExecution
import Noyra.Proofs.RewardLinks
import Noyra.Proofs.RewardExecution
import Noyra.Proofs.SettledWorkflows
import Noyra.Lib.Document
import Noyra.Core.Snapshots
import Noyra.Proofs.Snapshots
import Noyra.Migration.ChunkReceipt
import Noyra.Lib.Stream
import Noyra.Migration.Transfer
import Noyra.Proofs.Transfer
import Noyra.Lib.Replace
import Noyra.Lib.JsonText
import Noyra.Cognition.Thought
import Noyra.Proofs.Thought
import Noyra.Mind.Memory
import Noyra.Mind.Integration
import Noyra.Proofs.Integration
import Noyra.Migration.Bundle
import Noyra.Proofs.Bundle
import Noyra.Proofs.ChunkReceipt
import Noyra.Mind.Consolidation
import Noyra.Proofs.Consolidation
import Noyra.Lib.Versions
import Noyra.Mind.Store
import Noyra.Proofs.MemoryStore
import Noyra.Lib.Rely
import Noyra.Archive.Observations
import Noyra.Proofs.Observations
