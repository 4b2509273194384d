import Eudiplo.Properties.PreAuthorizedCodes
import Eudiplo.StatusList.SubjectKey
import Eudiplo.Properties.PushedRequests
import Eudiplo.Properties.RefreshBinding
import Eudiplo.Properties.SingleWinner
import Eudiplo.Properties.TerminalStatus
import Eudiplo.Properties.Notifications
import Eudiplo.Properties.TxCodeLockout
import Eudiplo.DpopReplay.Registry
import Eudiplo.Properties.CredentialNonces
import Eudiplo.Properties.DeferredTransactions
import Eudiplo.Properties.ListDeletion
import Eudiplo.Properties.StatusValues
import Eudiplo.Properties.ClientIsolation
import Eudiplo.Properties.CertificateRefresh
import Eudiplo.Properties.PrivilegedRoles
import Eudiplo.Outbound.Policy
import Eudiplo.Properties.TransactionData
import Eudiplo.Properties.CredentialTypes
import Eudiplo.Properties.RequestObjects
import Eudiplo.Properties.HolderBinding
import Eudiplo.Properties.TrustListVersions
import Eudiplo.Properties.PinnedCertificates
import Eudiplo.Properties.OfferDecryption
import Eudiplo.Auth.Offers
import Eudiplo.Properties.SessionKinds
import Eudiplo.Properties.Retention
import Eudiplo.Properties.IssuingCertificates
import Eudiplo.Properties.StaleLists
import Eudiplo.Properties.WalletProviders
import Eudiplo.Verifier.StatusListVerifier
import Eudiplo.Properties.DetachedResources
import Eudiplo.Properties.DanglingReferences
import Eudiplo.Properties.PlanAgreement
import Eudiplo.Properties.ExportedSecrets
import Eudiplo.Properties.ServiceTypes
import Eudiplo.Verifier.CredentialStatus
import Eudiplo.Verifier.ClaimPaths
import Eudiplo.Issuance.CredentialAuthorization
import Eudiplo.Properties.TrustedAuthorities
import Eudiplo.Properties.ConfigWriters
import Eudiplo.Properties.GuardedRoutes
import Eudiplo.Properties.FederationTraversal
import Eudiplo.Federation.TrustService
import Eudiplo.Session.SessionSearch
import Eudiplo.Properties.DistributionPoints
import Eudiplo.Issuance.TokenSession
import Eudiplo.Issuance.CredentialsFromProofs
import Eudiplo.StatusList.Availability
import Eudiplo.HostedAs.Lifetime
import Eudiplo.Properties.CrlAnswers
import Eudiplo.Properties.BoundedCache
import Eudiplo.Credential.ConfigService
import Eudiplo.Credential.SdJwtVc
import Eudiplo.Credential.SdkDerive
import Eudiplo.Credential.Disclosure
import Eudiplo.ConfigFormat.CentralDirectory
import Eudiplo.Portability.Requirements
import Eudiplo.Iso18013.Hpke
import Eudiplo.Properties.RegeneratedKeys
import Eudiplo.KeyChain.Rotate
import Eudiplo.ConfigFormat.Migration
import Eudiplo.Verifier.MdocCertificates
import Eudiplo.Properties.BestEffortRevocation
import Eudiplo.Properties.KmsCredentials
import Eudiplo.ConfigFormat.Changes
import Eudiplo.Verifier.RedirectUri
import Eudiplo.Auth.ClientCredentials
import Eudiplo.Auth.KeycloakMirror
import Eudiplo.Verifier.MdocChain
import Eudiplo.Storage.EncryptedColumns
import Eudiplo.Properties.WalletHints
import Eudiplo.Properties.StatusHistory
import Eudiplo.Kms.EcdsaSignature
import Eudiplo.Storage.LocalFileStorage
import Eudiplo.Observability.RedactUrl
import Eudiplo.Properties.SessionProgress
