import EngineeringPlatform.WorkflowDispatchSafety
import EngineeringPlatform.IdempotentExecution
import EngineeringPlatform.AgentDeliveryRecording
import EngineeringPlatform.TaskBranchSafety
import EngineeringPlatform.LoginPassword
import EngineeringPlatform.SessionValidity
import EngineeringPlatform.TotpSingleUse
import EngineeringPlatform.QualificationSnapshot
import EngineeringPlatform.StalePrivilege
import EngineeringPlatform.SandboxOccupancy
import EngineeringPlatform.RequirementCompletion
import EngineeringPlatform.RequirementBaselines
import EngineeringPlatform.ModelCheckSafety
import EngineeringPlatform.BackoffRecording
import EngineeringPlatform.MembershipProjectionSafety
import EngineeringPlatform.SandboxEvidence
import EngineeringPlatform.EvidenceIntegrity
import EngineeringPlatform.EvidenceAcceptance
import EngineeringPlatform.OrganizationTree
import EngineeringPlatform.WorkspaceRepair
import EngineeringPlatform.DraftMerge
import EngineeringPlatform.FairBatching
import EngineeringPlatform.StreamReencoding
import EngineeringPlatform.StreamSuccess
import EngineeringPlatform.ProvisionReplay
import EngineeringPlatform.FormalObservations
import EngineeringPlatform.FormalBatch
import EngineeringPlatform.CanonicalEvidence
import EngineeringPlatform.ModelMetadata
import EngineeringPlatform.SearchSources
import EngineeringPlatform.DossierStore
import EngineeringPlatform.AgentListings
import EngineeringPlatform.IntegrationMergeCalls
