import SourceSig.Main
import SourceSig.Service.Api
import SourceSig.Settings.KeyPath
import SourceSig.Text.Alphanumeric
import SourceSig.Settings.Ini
import SourceSig.Settings.Json5
import SourceSig.Settings.Ron
import SourceSig.Settings.LoadError
import SourceSig.Settings.Yaml.Node
import SourceSig.Settings.Yaml.Scalar
import SourceSig.Proofs.DigestText
import SourceSig.Proofs.PositionInvariance
import SourceSig.Proofs.SignatureText
import SourceSig.Proofs.Scheduling
import SourceSig.Proofs.OpaqueBodies
import SourceSig.Proofs.MemberOrder
import SourceSig.Proofs.DefineCalls
import SourceSig.Proofs.ReportAgreement
import SourceSig.Proofs.FailureLines
import SourceSig.Proofs.LayoutChoice
import SourceSig.Proofs.NodeDecoding
import SourceSig.Proofs.LiteralText
import SourceSig.Proofs.TypeText
import SourceSig.Proofs.TypeFaults
import SourceSig.Proofs.FaultOrigin
import SourceSig.Proofs.KeptMembers
import SourceSig.Proofs.CategoryOrder
import SourceSig.Proofs.ChildPaths
import SourceSig.Proofs.DiscoveredFiles
import SourceSig.Proofs.ReportPaths
import SourceSig.Proofs.DumpBanners
import SourceSig.Proofs.LineMentions
