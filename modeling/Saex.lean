import Saex.LeaseAuthority
import Saex.LeaseEpochs
import Saex.BoundedFifo
import Saex.BoundedInbox
import Saex.LeaseFence
import Saex.LeaseNoninterference
import Saex.MappingLedger
import Saex.MappingLedgerHistory
import Saex.BootstrapRuns
import Saex.Suppression
import Saex.SuppressionLaws
import Saex.CheckpointAutomaton
import Saex.LoaderAutomaton
import Saex.LoaderLockstep
import Saex.BootstrapAgreement
import Saex.PeGrammar
import Saex.PeOffsets
import Saex.PeReadersAgree
import Saex.AuditAcceptance
import Saex.AuditRelocation
import Saex.CwdSeh
import Saex.CwdSehRun
import Saex.FiniteGraphs
import Saex.FixtureCodec
import Saex.FixtureFrames
import Saex.LaunchBlocks
import Saex.ProfileGate
import Saex.ProfileGatesAgree
import Saex.WorldPlan
import Saex.WorldPlanRules
import Saex.ApplicationRouting
import Saex.ApplicationRoutingRun
import Saex.CdStreamChannels
import Saex.CdStreamChannelsRun
import Saex.CwdCopy
import Saex.CwdLockRun
import Saex.CwdReturn
import Saex.DirectoryBuffer
import Saex.FileManagerReadyRun
import Saex.PeRawOffset
import Saex.AllocationHash
import Saex.ExportRelocation
import Saex.Ia32Sweeps
import Saex.ImageCopies
import Saex.LoaderOperands
import Saex.LoggedRuns
import Saex.PeExports
import Saex.WorldPlanNames
import Saex.WorldPlanOrder
import Saex.AllocationTemplates
import Saex.CheckedJson
import Saex.CrtStartup
import Saex.CrtStartupPolicy
import Saex.ImageRegionScan
import Saex.LoaderPolicy
import Saex.LoaderPolicyReview
import Saex.Occurrences
import Saex.SourcePatches
import Saex.StartupInventory
import Saex.StartupInventoryOrder
import Saex.CdStreamAllocationReturn
import Saex.CallPrograms
import Saex.ChildCustody
import Saex.ChildLifetime
import Saex.CwdCopier
import Saex.CwdCopierRun
import Saex.GamePrelude
import Saex.GamePreludeRun
import Saex.CurrentDirectoryRun
