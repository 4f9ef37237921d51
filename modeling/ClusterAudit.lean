import ClusterAudit.Main
import ClusterAudit.Proofs.FieldSelector
import ClusterAudit.Proofs.FetchFacts
import ClusterAudit.Proofs.ServerSideNarrowing
import ClusterAudit.Proofs.Inspection
import ClusterAudit.Proofs.ReportOrder
import ClusterAudit.Proofs.RegistryFacts
import ClusterAudit.Proofs.Timing
import ClusterAudit.Proofs.ScopedRules
import ClusterAudit.Proofs.OutlyingSecrets
import ClusterAudit.Proofs.WebhookTargets
import ClusterAudit.Proofs.RepeatedNarrowing
import ClusterAudit.Proofs.RegisterCalls
import ClusterAudit.Proofs.SelectedChecks
import ClusterAudit.Proofs.Passes
import ClusterAudit.Proofs.Provenance
import ClusterAudit.Proofs.SwitchingOff
import ClusterAudit.Proofs.ListingOrder
import ClusterAudit.Proofs.WholeFetch
import ClusterAudit.Proofs.ReportLines
import ClusterAudit.Proofs.RunOutput
import ClusterAudit.Proofs.MessageLines
import ClusterAudit.Proofs.PrintedLines
import ClusterAudit.Proofs.UnusedObjects
import ClusterAudit.Proofs.ImageOffsets
import ClusterAudit.Proofs.CanonicalImages
import ClusterAudit.Proofs.ImageVerdicts
import ClusterAudit.Proofs.ReportLevels
import ClusterAudit.Proofs.SelectorLaws
import ClusterAudit.Proofs.DanglingServices
import ClusterAudit.Proofs.BlockingWebhooks
import ClusterAudit.Proofs.WebhookKinds
import ClusterAudit.Proofs.NamedChecks
import ClusterAudit.Proofs.NarrowingLaws
import ClusterAudit.Proofs.ContainerVisits
import ClusterAudit.Proofs.DefaultNamespace
import ClusterAudit.Proofs.BulkRegistration
import ClusterAudit.Proofs.GroupListings
import ClusterAudit.Proofs.DiagnosticJson
