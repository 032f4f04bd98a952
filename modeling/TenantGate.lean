import TenantGate.Base64.Canonical
import TenantGate.Derivation
import TenantGate.Main
import TenantGate.Resolver.Steps
import TenantGate.Service.Sites
import TenantGate.Proofs.Base64Text
import TenantGate.Proofs.Decoding
import TenantGate.Proofs.SignatureCheck
import TenantGate.Proofs.Decision
import TenantGate.Proofs.Acceptance
import TenantGate.Proofs.UnsignedDefaults
import TenantGate.Proofs.Replay
import TenantGate.Proofs.Rejection
import TenantGate.Proofs.Influence
import TenantGate.Proofs.SignedText
import TenantGate.Proofs.KeyIndependence
import TenantGate.Proofs.AnswerText
import TenantGate.Proofs.Layers
import TenantGate.Proofs.Routes
import TenantGate.Proofs.Application
import TenantGate.Proofs.RejectedCalls
import TenantGate.Proofs.ResolverRuns
import TenantGate.Proofs.BodyLimit
import TenantGate.Proofs.ForwardedGrammar
import TenantGate.Proofs.UnquotedHosts
import TenantGate.Proofs.EnvironmentWins
import TenantGate.Proofs.LaterHops
import TenantGate.Proofs.UnterminatedHosts
import TenantGate.Proofs.ExactKeys
import TenantGate.Proofs.ToldContext
import TenantGate.Proofs.Shadowing
import TenantGate.Proofs.LosslessCuts
