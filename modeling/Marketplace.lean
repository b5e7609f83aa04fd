import Marketplace.Foundation.KeyedTable
import Marketplace.Foundation.CallTree
import Marketplace.Foundation.Noted
import Marketplace.Foundation.Truncation
import Marketplace.Foundation.Rounding
import Marketplace.Foundation.RoundedSums
import Marketplace.Foundation.Runs
import Marketplace.Foundation.Selection
import Marketplace.Foundation.Interleaving
import Marketplace.Foundation.Cells
import Marketplace.Foundation.RelyGuarantee
import Marketplace.Foundation.Coupling
import Marketplace.Foundation.Separation
import Marketplace.Store.Arithmetic
import Marketplace.Store.Database
import Marketplace.Store.Sqlite
import Marketplace.Store.Queries
import Marketplace.Store.QueryRuns
import Marketplace.Store.Listings
import Marketplace.Command.Trading
import Marketplace.Command.Outcomes
import Marketplace.Command.Integers
import Marketplace.Market.Operations
import Marketplace.Market.Effects
import Marketplace.Market.Coins
import Marketplace.Market.Conservation
import Marketplace.Market.Overdraft
import Marketplace.Market.Exposure
import Marketplace.Market.Crossing
import Marketplace.Market.Arrival
import Marketplace.Market.Archive
import Marketplace.Market.Priority
import Marketplace.Market.Ties
import Marketplace.Market.View
import Marketplace.Market.Refund
import Marketplace.Market.Transfer
import Marketplace.Market.Completion
import Marketplace.Market.Parties
import Marketplace.Market.Provenance
import Marketplace.Market.IntResults
import Marketplace.Market.IntBounds
import Marketplace.Market.IntFills
import Marketplace.Market.IntSafety
import Marketplace.Session.Statements
import Marketplace.Session.Shared
import Marketplace.Session.Balances
import Marketplace.Session.Consumption
import Marketplace.Failure.Faults
import Marketplace.Failure.FaultyOutcomes
import Marketplace.Failure.Atomicity
import Marketplace.Failure.Eligibility
import Marketplace.Failure.Taken
import Marketplace.Concurrent.Forked
import Marketplace.Concurrent.Deeds
import Marketplace.Concurrent.Conduct
import Marketplace.Concurrent.Statements
import Marketplace.Concurrent.Commands
import Marketplace.Concurrent.Confinement
import Marketplace.Concurrent.Histories
import Marketplace.Concurrent.Shown
import Marketplace.Concurrent.Secrecy
import Marketplace.Server.CText
import Marketplace.Server.Startup
import Marketplace.Server.Tokens
import Marketplace.Server.Words
import Marketplace.Server.StringHeap
import Marketplace.Server.Handlers
import Marketplace.Server.TokenMemory
import Marketplace.Server.Requests
import Marketplace.Server.BookForm
import Marketplace.Server.LoneTrader
import Marketplace.Server.Overflow
import Marketplace.Server.Replies
import Marketplace.Server.Numerals
import Marketplace.Server.Numbers
import Marketplace.Server.Screens
import Marketplace.Server.Dialogue
import Marketplace.Server.Login
import Marketplace.Server.Credentials
import Marketplace.Server.Survival
import Marketplace.Server.Connections
import Marketplace.Server.Authorship
import Marketplace.Server.ForkedServer
import Marketplace.Server.Intruders
import Marketplace.Server.LineAtATime
