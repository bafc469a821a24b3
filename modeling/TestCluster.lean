import TestCluster.Main
import TestCluster.Proofs.ApplyOrder
import TestCluster.Proofs.PoolAccounts
import TestCluster.Proofs.Rollback
import TestCluster.Proofs.Splitting
import TestCluster.Resource.Clients
import TestCluster.Scripted.Backend
import TestCluster.Scripted.Server
import TestCluster.Scripted.Tools
import TestCluster.Proofs.Ownership
import TestCluster.Proofs.FamilyHistory
import TestCluster.Proofs.DecimalDigits
import TestCluster.Proofs.EncodedText
import TestCluster.Proofs.JsonText
import TestCluster.Proofs.JsonLayout
import TestCluster.Proofs.JsonValue
import TestCluster.Proofs.Timestamps
import TestCluster.Proofs.WrittenMetadata
import TestCluster.Proofs.WrittenObjects
import TestCluster.Proofs.DecodedObjects
import TestCluster.Proofs.EchoedApply
import TestCluster.Proofs.SteadyServer
import TestCluster.Proofs.ScopedSettings
import TestCluster.Proofs.Connections
import TestCluster.Proofs.WrittenOptions
import TestCluster.Proofs.YamlNodes
import TestCluster.Proofs.OptionsFiles
import TestCluster.Proofs.Footprints
import TestCluster.Proofs.MergedSettings
import TestCluster.Proofs.OneAim
import TestCluster.Proofs.TemporaryFiles
import TestCluster.Proofs.BlockLines
import TestCluster.Proofs.BlockNodes
import TestCluster.Proofs.KindDocument
import TestCluster.Proofs.PublishedIngress
import TestCluster.Proofs.Sections
import TestCluster.Proofs.Preloading
import TestCluster.Proofs.Namespaces
import TestCluster.Proofs.NumberedDocuments
import TestCluster.Proofs.BoundPorts
import TestCluster.Proofs.JsonGrammar
import TestCluster.Proofs.IngressOrder
import TestCluster.Proofs.OptionsDocuments
import TestCluster.Proofs.NodePortText
import TestCluster.Proofs.PortProbes
import TestCluster.Proofs.SequentialPools
import TestCluster.Proofs.PrintedNames
import TestCluster.Proofs.ListedClusters
import TestCluster.Proofs.LetterCase
import TestCluster.Proofs.WrittenOverrides
import TestCluster.Proofs.DescribedClusters
import TestCluster.Proofs.DryRuns
