import Linkapro.Documents.ExportRuns
import Linkapro.Events.Generation
import Linkapro.Events.Planning
import Linkapro.Events.WorkspaceViews
import Linkapro.Identity.Account
import Linkapro.Identity.AccountContract
import Linkapro.Identity.AccountExecutions
import Linkapro.Identity.AccountHandlers
import Linkapro.Identity.AccountParts
import Linkapro.Identity.AccountRuns
import Linkapro.Identity.AccountStore
import Linkapro.Identity.AccountTransactions
import Linkapro.Identity.Authentication
import Linkapro.Identity.CachedChallenges
import Linkapro.Identity.Challenges
import Linkapro.Identity.ContractRules
import Linkapro.Identity.DisabledAccounts
import Linkapro.Identity.EmailVerification
import Linkapro.Identity.FamilyClosure
import Linkapro.Identity.IdentityCommands
import Linkapro.Identity.InterleavedAccounts
import Linkapro.Identity.LinkRuns
import Linkapro.Identity.LinkStore
import Linkapro.Identity.LinkedIdentities
import Linkapro.Identity.LockoutHistory
import Linkapro.Identity.LoginAttempts
import Linkapro.Identity.LoginEffects
import Linkapro.Identity.LoginHistory
import Linkapro.Identity.MfaAttempts
import Linkapro.Identity.MfaLoginRuns
import Linkapro.Identity.MfaLogins
import Linkapro.Identity.MfaStores
import Linkapro.Identity.OAuth
import Linkapro.Identity.OAuthAcceptance
import Linkapro.Identity.ParallelLogins
import Linkapro.Identity.PasswordReuse
import Linkapro.Identity.Passwords
import Linkapro.Identity.ProviderLogins
import Linkapro.Identity.RecoveryCodes
import Linkapro.Identity.RecoveryLogins
import Linkapro.Identity.RecoveryRuns
import Linkapro.Identity.RefreshSession
import Linkapro.Identity.RegistrationRuns
import Linkapro.Identity.RequestViews
import Linkapro.Identity.ResetTokens
import Linkapro.Identity.ReuseDetection
import Linkapro.Identity.RevocationRaces
import Linkapro.Identity.Revocations
import Linkapro.Identity.RoleAssignments
import Linkapro.Identity.SavedAccounts
import Linkapro.Identity.SelfService
import Linkapro.Identity.SequentialRuns
import Linkapro.Identity.SessionBootstrap
import Linkapro.Identity.SessionStore
import Linkapro.Identity.SingleUse
import Linkapro.Identity.StaleTokens
import Linkapro.Identity.Tokens
import Linkapro.Identity.TotpReplays
import Linkapro.Identity.TotpSecrets
import Linkapro.Identity.VerificationRuns
import Linkapro.Lib.Binary64
import Linkapro.Lib.Expiring
import Linkapro.Lib.Interleave
import Linkapro.Lib.Program
import Linkapro.Lib.Sequential
import Linkapro.Lib.Stages
import Linkapro.Lib.Table
import Linkapro.Lib.Windows
import Linkapro.Marketplace.Convergence
import Linkapro.Marketplace.DeliveryOrder
import Linkapro.Marketplace.ListingUpserts
import Linkapro.Marketplace.Ratings
import Linkapro.Marketplace.SearchPages
import Linkapro.Marketplace.Searches
import Linkapro.Marketplace.ServiceAuth
import Linkapro.Outboxes.Retries
import Linkapro.Outboxes.SessionCutoffs
import Linkapro.Payments.Amounts
import Linkapro.Payments.Contract
import Linkapro.Payments.DailyAmounts
import Linkapro.Payments.Domain
import Linkapro.Payments.Envelope
import Linkapro.Payments.Environment
import Linkapro.Payments.FailedPayments
import Linkapro.Payments.Handlers
import Linkapro.Payments.HmacRequests
import Linkapro.Payments.InitiateView
import Linkapro.Payments.Initiations
import Linkapro.Payments.KeyRequests
import Linkapro.Payments.Locks
import Linkapro.Payments.Outbox
import Linkapro.Payments.PaymentLinks
import Linkapro.Payments.Replays
import Linkapro.Payments.RequestFaults
import Linkapro.Payments.RequestUsers
import Linkapro.Payments.Retry
import Linkapro.Payments.SavedPayments
import Linkapro.Payments.Settlement
import Linkapro.Payments.Statuses
import Linkapro.Payments.StepUp
import Linkapro.Payments.Store
import Linkapro.Payments.Tasks
import Linkapro.Payments.Transactions
import Linkapro.Payments.Velocity
import Linkapro.Payments.VelocityStage
import Linkapro.Payments.WebhookReplays
import Linkapro.Shared
import Linkapro.Vendors.Captions
import Linkapro.Vendors.Idempotency
import Linkapro.Vendors.InquiryAbuse
import Linkapro.Vendors.MediaDecisions
import Linkapro.Vendors.Operations
import Linkapro.Vendors.PackageApprovals
import Linkapro.Vendors.Pages
import Linkapro.Vendors.PdfScan
import Linkapro.Vendors.PortfolioApproval
import Linkapro.Vendors.ProfileViews
import Linkapro.Vendors.SafeUrls
import Linkapro.Vendors.Storage
