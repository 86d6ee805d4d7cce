import FluxSwap.Lib.System
import FluxSwap.Lib.Checked
import FluxSwap.Lib.Ledger
import FluxSwap.Lib.Rounding
import FluxSwap.Lib.Roles
import FluxSwap.Lib.ProRata
import FluxSwap.Contracts.Basic
import FluxSwap.Contracts.Abi
import FluxSwap.Contracts.TypedData
import FluxSwap.Amm.Factory
import FluxSwap.Amm.Chain
import FluxSwap.Amm.Pair
import FluxSwap.Amm.PairRun
import FluxSwap.Amm.PairSound
import FluxSwap.Amm.ShareValue
import FluxSwap.Amm.Representation
import FluxSwap.Amm.Holders
import FluxSwap.Amm.Permits
import FluxSwap.Amm.PlainSwap
import FluxSwap.Amm.Router
import FluxSwap.Amm.Quotes
import FluxSwap.Amm.ExactInput
import FluxSwap.Amm.Conservation
import FluxSwap.Amm.Liquidity
import FluxSwap.Amm.Provision
import FluxSwap.Amm.Oracle
import FluxSwap.Lib.Shares
import FluxSwap.Lib.Text
import FluxSwap.Lib.Base64
import FluxSwap.Lib.Rfc3339
import FluxSwap.Lib.Selection
import FluxSwap.Lib.Keyset
import FluxSwap.Amm.RoundTrip
import FluxSwap.Amm.Removal
import FluxSwap.Amm.SquareRoot
import FluxSwap.Amm.Opening
import FluxSwap.Amm.Proceeds
import FluxSwap.Amm.Inverse
import FluxSwap.Settlement.Model
import FluxSwap.Settlement.Encoding
import FluxSwap.Settlement.Nonces
import FluxSwap.Settlement.Checks
import FluxSwap.Settlement.Onchain
import FluxSwap.Settlement.Payout
import FluxSwap.Settlement.Readiness
import FluxSwap.Settlement.Trigger
import FluxSwap.Staking.Model
import FluxSwap.Staking.Solvency
import FluxSwap.Staking.Liveness
import FluxSwap.Staking.Structure
import FluxSwap.Staking.Distribution
import FluxSwap.Staking.Fairness
import FluxSwap.Manager.Model
import FluxSwap.Manager.Accounting
import FluxSwap.Manager.Views
import FluxSwap.Access.Model
import FluxSwap.Revenue.Executor
import FluxSwap.Revenue.Distributor
import FluxSwap.Access.Operator
import FluxSwap.Access.Ownership
import FluxSwap.Admin.Redemption
import FluxSwap.Lib.Index
import FluxSwap.Pools.Model
import FluxSwap.Pools.Registry
import FluxSwap.Treasury.Model
import FluxSwap.Treasury.Steps
import FluxSwap.Treasury.Timelock
import FluxSwap.Treasury.Caps
import FluxSwap.Treasury.Outflow
import FluxSwap.Revenue.World
import FluxSwap.Revenue.Pipeline
import FluxSwap.Subgraph.Mapping
import FluxSwap.Subgraph.Mirror
import FluxSwap.Backend.Orders
import FluxSwap.Backend.EventService
import FluxSwap.Backend.Executor
import FluxSwap.Backend.Workers
import FluxSwap.Backend.Exclusion
import FluxSwap.Backend.Receipts
import FluxSwap.Backend.StatusLog
import FluxSwap.Backend.Restoration
import FluxSwap.Backend.Closing
import FluxSwap.Backend.Absorbing
import FluxSwap.Backend.Trail
import FluxSwap.Backend.Migration
import FluxSwap.Indexer.Subscriber
import FluxSwap.Indexer.Decoding
import FluxSwap.Indexer.Foreign
import FluxSwap.Indexer.Session
import FluxSwap.Indexer.NoLoss
import FluxSwap.Indexer.Reorg
import FluxSwap.Indexer.Joint
import FluxSwap.Indexer.Outcome
import FluxSwap.Signing.OrderSignature
import FluxSwap.Signing.LimitOrders
import FluxSwap.Signing.Agreement
import FluxSwap.Backend.Creation
import FluxSwap.Backend.Cancellation
import FluxSwap.Backend.CancelFrame
import FluxSwap.Backend.Acceptance
import FluxSwap.Backend.Expiry
import FluxSwap.Backend.Submission
import FluxSwap.Backend.Listing
import FluxSwap.Backend.Candidates
import FluxSwap.Backend.BestRoute
import FluxSwap.Backend.Optimum
import FluxSwap.Backend.Fallback
import FluxSwap.RouterGraph.Worker
import FluxSwap.RouterGraph.Edges
import FluxSwap.RouterGraph.Convergence
import FluxSwap.Token.FluxToken
import FluxSwap.Token.Supply
import FluxSwap.Token.Minters
