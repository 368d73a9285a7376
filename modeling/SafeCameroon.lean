import SafeCameroon.Access.AlertListing
import SafeCameroon.Access.AtomicRegistration
import SafeCameroon.Access.Bootstrap
import SafeCameroon.Access.CitizenScope
import SafeCameroon.Access.ManagementToken
import SafeCameroon.Access.NotificationIsolation
import SafeCameroon.Access.ProvisioningRuns
import SafeCameroon.Access.SubscriptionEdits
import SafeCameroon.Aggregate.Completeness
import SafeCameroon.Aggregate.Matching
import SafeCameroon.Api.ChannelIsolation
import SafeCameroon.Api.FailureReports
import SafeCameroon.Api.GeographyAreas
import SafeCameroon.Api.SessionRuns
import SafeCameroon.Api.SourceKey
import SafeCameroon.Api.SubscriptionRuleCodec
import SafeCameroon.Application.Disclosure
import SafeCameroon.Attachments.Uploads
import SafeCameroon.Delivery.Acknowledged
import SafeCameroon.Delivery.Agreement
import SafeCameroon.Delivery.Announced
import SafeCameroon.Delivery.Fallback
import SafeCameroon.Delivery.Relayed
import SafeCameroon.Delivery.Stranded
import SafeCameroon.Incidents.CaseAuthority
import SafeCameroon.Incidents.ReportRuns
import SafeCameroon.Incidents.Unauthenticated
import SafeCameroon.Infrastructure.AlertMarkup
import SafeCameroon.Infrastructure.HexSignature
import SafeCameroon.Infrastructure.MessageHeader
import SafeCameroon.Infrastructure.ReplayGuard
import SafeCameroon.Postgres.AlertDescriptions
import SafeCameroon.Postgres.AlertReload
import SafeCameroon.Postgres.DeliveryCodec
import SafeCameroon.Postgres.Listings
import SafeCameroon.Postgres.RateLimitRuns
import SafeCameroon.Postgres.RetryBackoff
import SafeCameroon.Postgres.SubscriptionRules
import SafeCameroon.Submission.Idempotency
