import Invetrixa.Library.Table
import Invetrixa.Library.Lots
import Invetrixa.Library.Runs
import Invetrixa.Library.Handlers
import Invetrixa.Library.OneTime
import Invetrixa.Library.Loops
import Invetrixa.Library.JobQueue
import Invetrixa.Library.Views
import Invetrixa.Library.Numerals
import Invetrixa.Library.Uuids
import Invetrixa.Library.Clamping
import Invetrixa.Library.Unique
import Invetrixa.Library.Floats
import Invetrixa.Schema
import Invetrixa.Numbering
import Invetrixa.Stock.Validation
import Invetrixa.Stock.Valuation
import Invetrixa.Stock.Movement
import Invetrixa.Stock.Transfer
import Invetrixa.Stock.Reservation
import Invetrixa.Stock.ReservationQueue
import Invetrixa.Pos.Sale
import Invetrixa.Pos.Cart
import Invetrixa.Pos.Refund
import Invetrixa.Pos.Session
import Invetrixa.Pos.CartCleanup
import Invetrixa.Invoice.Invoice
import Invetrixa.Server
import Invetrixa.Pos.Reporting
import Invetrixa.Bookings
import Invetrixa.Auth.Accounts
import Invetrixa.Auth.Mfa
import Invetrixa.Auth.Auth
import Invetrixa.Auth.Tokens
import Invetrixa.Refinement.Books
import Invetrixa.Refinement.Stock
import Invetrixa.Refinement.Reservations
import Invetrixa.Refinement.Sales
import Invetrixa.Refinement.Step
import Invetrixa.Refinement.SaleSteps
import Invetrixa.Refinement.SaleAmounts
import Invetrixa.Refinement.Transfers
import Invetrixa.Refinement.Invoices
import Invetrixa.Correctness.Ledger
import Invetrixa.Correctness.Tracing
import Invetrixa.Correctness.Reserved
import Invetrixa.Correctness.GivenBack
import Invetrixa.Correctness.ExpiryJobs
import Invetrixa.Correctness.SaleRaces
import Invetrixa.Correctness.CleanupRaces
import Invetrixa.Correctness.CartCleanup
import Invetrixa.Correctness.Tills
import Invetrixa.Correctness.SaleCosts
import Invetrixa.Correctness.Drawer
import Invetrixa.Correctness.InvoiceAmounts
import Invetrixa.Correctness.InvoiceLife
import Invetrixa.Correctness.InvoicePayments
import Invetrixa.Correctness.QuoteRaces
import Invetrixa.Correctness.MoneyLaw
import Invetrixa.Correctness.NegativeAmounts
import Invetrixa.Correctness.QuickSales
import Invetrixa.Correctness.DailyBalance
import Invetrixa.Correctness.DailyFreshness
import Invetrixa.Correctness.Numbers
import Invetrixa.Correctness.Returns
import Invetrixa.Correctness.RefundAmounts
import Invetrixa.Correctness.Oversell
import Invetrixa.Correctness.Races
import Invetrixa.Correctness.Checkout
import Invetrixa.Correctness.Honoured
import Invetrixa.Correctness.CartHolds
import Invetrixa.Correctness.Valuation
import Invetrixa.Correctness.Consumption
import Invetrixa.Correctness.TransferValue
import Invetrixa.Correctness.TransferRaces
import Invetrixa.Correctness.TransferConservation
import Invetrixa.Correctness.SecondFactor
import Invetrixa.Correctness.Challenges
import Invetrixa.Correctness.OneTimeSecrets
import Invetrixa.Correctness.Lockout
import Invetrixa.Correctness.CategoryTree
import Invetrixa.Correctness.CategoryLinks
import Invetrixa.Library.Groups
import Invetrixa.Correctness.ProductIdentity
import Invetrixa.Library.Trees
import Invetrixa.Common.Response
import Invetrixa.Correctness.Responses
import Invetrixa.Correctness.Revocation
import Invetrixa.Correctness.TillRaces
import Invetrixa.Access.Access
import Invetrixa.Access.InvitationSteps
import Invetrixa.Correctness.InvitationLife
import Invetrixa.Access.Steps
import Invetrixa.Correctness.Owners
import Invetrixa.Correctness.Assignments
import Invetrixa.Access.Guard
import Invetrixa.Correctness.LocationScope
import Invetrixa.Correctness.IdLists
import Invetrixa.Correctness.ShippedAtOnce
import Invetrixa.Customer.Customer
import Invetrixa.Correctness.DefaultAddresses
import Invetrixa.Access.RoleSync
import Invetrixa.Correctness.RoleSync
import Invetrixa.Stock.ValuationReport
import Invetrixa.Correctness.ValuationReport
import Invetrixa.Access.Location
import Invetrixa.Correctness.LocationRemoval
import Invetrixa.Auth.SessionList
import Invetrixa.Correctness.SessionList
import Invetrixa.Common.Pagination
import Invetrixa.Correctness.Pagination
import Invetrixa.Catalog.Shop
import Invetrixa.Correctness.ProductCreation
import Invetrixa.Correctness.Identifiers
import Invetrixa.Pos.Terminal
import Invetrixa.Correctness.TerminalCodes
import Invetrixa.Catalog.Pricing
import Invetrixa.Correctness.SellingPrices
import Invetrixa.Library.Agreement
import Invetrixa.Refinement.TenantViews
import Invetrixa.Refinement.TenantSteps
import Invetrixa.Refinement.TenantFrames
import Invetrixa.Correctness.Isolation
import Invetrixa.Library.Evolution
import Invetrixa.Correctness.Records
import Invetrixa.Correctness.Lifecycles
import Invetrixa.Correctness.Credentials
import Invetrixa.Correctness.Recovery
import Invetrixa.Correctness.AccountRuns
import Invetrixa.Correctness.PendingInvitations
import Invetrixa.Correctness.BalanceReports
import Invetrixa.Correctness.DeviceTrust
import Invetrixa.Correctness.Rights
import Invetrixa.Correctness.Refusals
import Invetrixa.Correctness.SessionLife
