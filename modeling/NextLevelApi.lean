import NextLevelApi.Auth.Sessions
import NextLevelApi.Auth.Roles
import NextLevelApi.Auth.LogoutFinal
import NextLevelApi.Auth.SingleUse
import NextLevelApi.Auth.Provenance
import NextLevelApi.User.Updates
import NextLevelApi.Erp.Configs
import NextLevelApi.Erp.Softone
import NextLevelApi.Erp.SoftoneEnds
import NextLevelApi.Erp.Dashboard
import NextLevelApi.Erp.Amounts
import NextLevelApi.Receipt.FailedScan
import NextLevelApi.Receipt.Accepted
import NextLevelApi.Receipt.Dates
import NextLevelApi.Receipt.Images
import NextLevelApi.Receipt.ReadBack
import NextLevelApi.Receipt.Paging
import NextLevelApi.Receipt.Access
import NextLevelApi.Library.LastPart
import NextLevelApi.Receipt.Uploads
import NextLevelApi.Receipt.Serializability
import NextLevelApi.Receipt.Durable
import NextLevelApi.Receipt.Accounting
import NextLevelApi.Receipt.Requests
import NextLevelApi.Auth.Browser
import NextLevelApi.Auth.Isolation
import NextLevelApi.Auth.Latency
import NextLevelApi.Erp.DashboardRequest
import NextLevelApi.Database.Migrations
