import PropAMM.Lib.Txn
import PropAMM.Lib.EnumerableSet
import PropAMM.Router.Chain
import PropAMM.Router.Calls
import PropAMM.Router.Config
import PropAMM.Router.Quotes
import PropAMM.Router.FrontendFees
import PropAMM.Router.SplitPlanner
import PropAMM.Router.Swap
import PropAMM.Router.Entrypoints
import PropAMM.Router.Frames
import PropAMM.Router.Execution
import PropAMM.Router.SplitExecution
import PropAMM.Router.Runs
import PropAMM.Router.Mocks
import PropAMM.Router.Slippage
import PropAMM.Lib.GreedyFill
import PropAMM.Lib.InsertionSort
import PropAMM.Router.Ranking
import PropAMM.Router.Waterfall
import PropAMM.Router.PlanSafety
import PropAMM.Router.PlanValue
import PropAMM.Router.Deployment
import PropAMM.Lib.FirstMax
import PropAMM.Router.Selection
import PropAMM.Router.FeeSoundness
import PropAMM.Router.SplitEvents
import PropAMM.Lib.Flow
import PropAMM.Router.Effects
import PropAMM.Router.StandingTokens
import PropAMM.Router.Custody
import PropAMM.Router.Gating
import PropAMM.Router.Delisting
import PropAMM.Lib.WriteLog
import PropAMM.Router.FallbackFees
import PropAMM.Router.Probing
import PropAMM.Lib.Agree
import PropAMM.Router.PlanOrder
import PropAMM.Sdk.SwapResult
import PropAMM.Lib.Dict
import PropAMM.Sdk.Json
import PropAMM.Sdk.Pamms
import PropAMM.Sdk.RustOverrides
import PropAMM.Sdk.Freshness
import PropAMM.Lib.Machine
import PropAMM.Sdk.WsSource
import PropAMM.Sdk.WsConnection
import PropAMM.Sdk.OverridesWsSource
import PropAMM.Lib.DecimalText
import PropAMM.Lib.HalfUp
import PropAMM.Sdk.PriceRungs
import PropAMM.Sdk.PriceAgreement
import PropAMM.Lib.Blocks
import PropAMM.Sdk.HexText
import PropAMM.Sdk.OverridePayload
import PropAMM.Sdk.PythonOverrides
import PropAMM.Sdk.TypeScriptOverrides
import PropAMM.Sdk.OverrideIsolation
import PropAMM.Router.Optimality
import PropAMM.Router.LegFloors
import PropAMM.Router.GrossBoundary
import PropAMM.Sdk.Units
import PropAMM.Lib.Keyed
import PropAMM.Sdk.PriceBooks
import PropAMM.Lib.Budget
import PropAMM.Router.CallBudget
import PropAMM.Router.Reverts
import PropAMM.Router.Pausing
import PropAMM.Sdk.RouterAbi
import PropAMM.Sdk.RouterBindings
import PropAMM.Sdk.RevertNames
import PropAMM.Sdk.VenueQuotes
import PropAMM.Sdk.PriceMessages
import PropAMM.Sdk.QuotedSwap
