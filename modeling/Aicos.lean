import Aicos.Transition.Run
import Aicos.Transaction.Program
import Aicos.Transaction.ReadCommitted
import Aicos.Data.Rows
import Aicos.Commerce.Schema
import Aicos.Inventory.Statements
import Aicos.Inventory.Service
import Aicos.Billing.DecrementStock
import Aicos.Returns.Restock
import Aicos.Inventory.Interleaving
import Aicos.Inventory.Ledger
import Aicos.Inventory.Requests
import Aicos.Properties.StockLedger
import Aicos.Properties.NonNegativeStock
import Aicos.Billing.Events
import Aicos.Commerce.Tables
import Aicos.Billing.Processor
import Aicos.Orders.Refund
import Aicos.Returns.Service
import Aicos.Returns.Portal
import Aicos.Storefront.Cart
import Aicos.Storefront.Checkout
import Aicos.Storefront.Shop
import Aicos.Settlement.Requests
import Aicos.Properties.Redelivery
import Aicos.Inventory.Sequential
import Aicos.Settlement.Recording
import Aicos.Properties.RefundStatuses
import Aicos.Properties.ReturnQuantities
import Aicos.Settlement.Bank
import Aicos.Properties.RefundCeiling
import Aicos.Billing.Settling
import Aicos.Storefront.Steps
import Aicos.Properties.ShelfSales
import Aicos.Properties.CartConversion
import Aicos.Returns.Interleaving
import Aicos.Properties.ReturnHandledOnce
import Aicos.Settlement.Standing
import Aicos.Settlement.Orderings
import Aicos.Settlement.Tracking
import Aicos.Properties.EventOrder
import Aicos.Transaction.RowSecurity
import Aicos.Tenancy.WithTenant
import Aicos.Properties.TenantIsolation
import Aicos.Data.Text
import Aicos.Data.Json
import Aicos.Data.Best
import Aicos.Identity.Schema
import Aicos.Identity.Statements
import Aicos.Identity.Service
import Aicos.Identity.SignIns
import Aicos.Properties.PlaceholderHash
import Aicos.Transaction.Recorded
import Aicos.Identity.Sessions
import Aicos.Properties.TokenRotation
import Aicos.Properties.SignInAtomicity
import Aicos.Storefront.AddItem
import Aicos.Properties.CartIncrements
import Aicos.Storefront.Numbering
import Aicos.Properties.OrderNumbers
import Aicos.Settlement.Retries
import Aicos.Properties.RefundRetries
import Aicos.Extraction.Schema
import Aicos.Extraction.Processor
import Aicos.Extraction.Runs
import Aicos.Properties.ReviewCounts
import Aicos.Extraction.Barcodes
import Aicos.Extraction.Analyzer
import Aicos.Extraction.Merging
import Aicos.Properties.ResolvedBarcodes
import Aicos.Data.Table
import Aicos.Catalog.Naming
import Aicos.Catalog.Schema
import Aicos.Catalog.Products
import Aicos.Catalog.Categories
import Aicos.Catalog.Locations
import Aicos.Catalog.Stock
import Aicos.Catalog.Requests
import Aicos.Properties.TenantReferences
import Aicos.Storefront.Market
import Aicos.Properties.ShownSales
import Aicos.Transaction.Certified
import Aicos.Extraction.Review
import Aicos.Properties.AcceptedResults
import Aicos.Gdpr.Erasure
import Aicos.Properties.Erasure
import Aicos.Data.Parents
import Aicos.Catalog.CategoryTree
import Aicos.Properties.CategoryCycles
import Aicos.Import.Service
import Aicos.Import.Rows
import Aicos.Properties.Reimport
import Aicos.Properties.ImportedProducts
import Aicos.Transition.Mirror
import Aicos.Search.Documents
import Aicos.Search.Indexer
import Aicos.Search.Writes
import Aicos.Properties.IndexInStep
import Aicos.Properties.RebuiltIndex
import Aicos.Connect.Service
import Aicos.Properties.ConnectMirror
import Aicos.Transition.Backlog
import Aicos.Queue.Producers
import Aicos.Properties.QueuedRows
import Aicos.Shipping.Service
import Aicos.Shipping.Effects
import Aicos.Properties.ShippedOnce
import Aicos.Properties.FulfilledOrders
import Aicos.Queue.Notifications
import Aicos.Properties.AcceptedMails
import Aicos.Media.Service
import Aicos.Properties.RemovedMedia
import Aicos.Connect.Accounts
import Aicos.Properties.CreatedAccounts
import Aicos.Data.DelimitedText
import Aicos.Import.Csv
import Aicos.Properties.ParsedTables
import Aicos.Properties.TakenStock
import Aicos.Storefront.Session
import Aicos.Properties.PlacedOrders
import Aicos.Data.Double
import Aicos.Data.Sorting
import Aicos.Extraction.FrameSampler
import Aicos.Extraction.FrameFiles
import Aicos.Properties.SampledFrames
import Aicos.Properties.SharpFrames
import Aicos.Data.Greedy
import Aicos.Data.Number
import Aicos.Extraction.SemanticDeduper
import Aicos.Properties.KeptFrames
import Aicos.Properties.EnrichedProducts
import Aicos.Catalog.CategoryForest
import Aicos.Properties.CategoryForest
import Aicos.Ai.Router
import Aicos.Properties.RoutedCalls
import Aicos.Shipping.Snapshots
import Aicos.Properties.ShipTo
import Aicos.Extraction.BarcodeHosts
import Aicos.Properties.BarcodeCopies
import Aicos.Gdpr.Routines
import Aicos.Properties.ErasureCopies
import Aicos.Extraction.FrameRate
import Aicos.Properties.FrameSpan
import Aicos.Properties.ImportConstraints
import Aicos.Properties.CsvColumns
import Aicos.Data.Words
import Aicos.Properties.DerivedSlugs
import Aicos.Properties.DerivedKeys
import Aicos.Properties.RefusedAdjustments
import Aicos.Properties.CheckoutCurrency
import Aicos.Identity.Cookies
import Aicos.Properties.TtlDurations
import Aicos.Money.Rendering
import Aicos.Properties.ShownAmounts
import Aicos.Properties.FullReturns
import Aicos.Extraction.ReviewedCatalog
import Aicos.Properties.PrimaryImages
import Aicos.Properties.PublishedProducts
import Aicos.Properties.PlatformFees
import Aicos.Data.Bits
import Aicos.Data.Loops
import Aicos.Data.Variance
import Aicos.Extraction.FocusMeasure
import Aicos.Extraction.FrameHashes
import Aicos.Properties.FrameHashes
import Aicos.Properties.FocusMeasure
import Aicos.Properties.UniqueSlugs
import Aicos.Media.Uploads
import Aicos.Properties.ObjectKeys
import Aicos.Data.Joined
import Aicos.Queue.JobIds
import Aicos.Properties.JobIds
import Aicos.Properties.DefaultLocations
import Aicos.Identity.Admission
import Aicos.Properties.AdmittedRequests
import Aicos.Identity.Provisioning
import Aicos.Properties.ProvisionedTenants
import Aicos.Identity.ApiClient
import Aicos.Properties.SilentRefresh
import Aicos.Properties.EchoedRequests
import Aicos.Storefront.WebCart
import Aicos.Properties.RecoveredCarts
import Aicos.Properties.ChargedTotals
import Aicos.Data.Paging
import Aicos.Commerce.Pagination
import Aicos.Orders.Listing
import Aicos.Properties.PagedOrders
import Aicos.Storefront.Browse
import Aicos.Properties.BrowsedProducts
import Aicos.Properties.GuestPortal
import Aicos.Properties.KeptSessions
import Aicos.Transition.WorkQueue
import Aicos.Billing.Webhooks
import Aicos.Settlement.OwnRows
import Aicos.Properties.HandledEvents
