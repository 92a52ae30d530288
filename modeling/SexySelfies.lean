import SexySelfies.PayoutConservation
import SexySelfies.SubscriptionUniqueness
import SexySelfies.SubscriptionBilling
import SexySelfies.WalletBalance
import SexySelfies.MemberUpdates
import SexySelfies.WebhookAuth
import SexySelfies.SaleReversal
import SexySelfies.AdminAnswers
import SexySelfies.ViolationStatus
import SexySelfies.ViolationAccounts
import SexySelfies.ReportResolution
import SexySelfies.PasswordHook
import SexySelfies.ConnectionConsent
import SexySelfies.ConnectionMessages
import SexySelfies.SalesActivity
import SexySelfies.SalesHours
import SexySelfies.ConversationCreation
import SexySelfies.ConversationCounters
import SexySelfies.ConversationOutsiders
import SexySelfies.SocketClient
import SexySelfies.ContentAccess
import SexySelfies.EarningsDays
import SexySelfies.CardCatalogue
import SexySelfies.LoggedOutTokens
import SexySelfies.ApiCache
import SexySelfies.TokenRefresh
import SexySelfies.OfflineQueue
import SexySelfies.SafetyFilter
import SexySelfies.MemberBlocks
import SexySelfies.BulkRecipients
import SexySelfies.CardChecksum
import SexySelfies.WebhookSignature
import SexySelfies.BillingCalendar
import SexySelfies.GiftLimits
import SexySelfies.OfferLimits
import SexySelfies.TransactionSplit
import SexySelfies.ContentPrices
import SexySelfies.SalesReset
import SexySelfies.RequestRates
import SexySelfies.SwipeStack
import SexySelfies.SocketMessages
import SexySelfies.ConnectionStats
import SexySelfies.SalesConversions
import SexySelfies.SalesStreaks
import SexySelfies.SpendingPrivacy
import SexySelfies.SensitiveInfo
import SexySelfies.ResponseFrame
import SexySelfies.HighPotential
import SexySelfies.SegmentResults
import SexySelfies.CrossSegments
import SexySelfies.ActivityLevels
import SexySelfies.SpendingJobs
import SexySelfies.EngagementCounters
import SexySelfies.RealTimeMetrics
import SexySelfies.CookieConsent
import SexySelfies.PurchaseConsistency
import SexySelfies.EarningsForecast
import SexySelfies.DiscountedPrices
import SexySelfies.CacheManager
