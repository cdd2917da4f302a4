import Sgr.Accounting.Netting
import Sgr.Accounting.Vouchers
import Sgr.Arithmetic.Decimal
import Sgr.Arithmetic.Percentile
import Sgr.Arithmetic.Precision
import Sgr.Backtesting.Agreement
import Sgr.Backtesting.CashBalance
import Sgr.Backtesting.Drawdown
import Sgr.Backtesting.EquityCurve
import Sgr.Backtesting.Features
import Sgr.Backtesting.GoLive
import Sgr.Backtesting.GridSimulator
import Sgr.Backtesting.HistoryLoader
import Sgr.Backtesting.LoaderCache
import Sgr.Backtesting.LookAhead
import Sgr.Backtesting.MonteCarlo
import Sgr.Backtesting.Pagination
import Sgr.Backtesting.Performance
import Sgr.Backtesting.SeriesGaps
import Sgr.Backtesting.Simulator
import Sgr.Backtesting.Slippage
import Sgr.Backtesting.Types
import Sgr.Backtesting.WalkForward
import Sgr.Collection.Causal
import Sgr.Collection.Dict
import Sgr.Collection.Expiring
import Sgr.Collection.FirstWrites
import Sgr.Collection.Memo
import Sgr.Collection.PageRuns
import Sgr.Collection.Pages
import Sgr.Collection.Pairing
import Sgr.Collection.PeakScan
import Sgr.Collection.RateWindows
import Sgr.Collection.Registry
import Sgr.Collection.Series
import Sgr.Collection.Slots
import Sgr.Collection.Totals
import Sgr.Compliance.Engine
import Sgr.Concurrency.Deterministic
import Sgr.Concurrency.Machine
import Sgr.Concurrency.Pool
import Sgr.Concurrency.Refinement
import Sgr.Concurrency.Since
import Sgr.Core.CircuitBreaker
import Sgr.Core.Delivery
import Sgr.Core.Encryption
import Sgr.Core.EventBus
import Sgr.Core.GracefulShutdown
import Sgr.Core.HandledOnce
import Sgr.Core.RedisKeys
import Sgr.Core.SymbolText
import Sgr.Core.Types
import Sgr.Encoding.Base64
import Sgr.Exchange.Answers
import Sgr.Exchange.CcxtOrders
import Sgr.Exchange.PaperAdapter
import Sgr.Exchange.PionexCandles
import Sgr.Exchange.PionexOrders
import Sgr.Exchange.PlaceOrder
import Sgr.Exchange.SymbolNames
import Sgr.Execution.Engine.Basic
import Sgr.Execution.Engine.Bypass
import Sgr.Execution.Engine.BypassMet
import Sgr.Execution.Engine.Environment
import Sgr.Execution.Engine.Exceptions
import Sgr.Execution.Engine.Executions
import Sgr.Execution.Engine.Identity
import Sgr.Execution.Engine.KillSwitch
import Sgr.Execution.Engine.Leverage
import Sgr.Execution.Engine.Monitoring
import Sgr.Execution.Engine.OpeningLimits
import Sgr.Execution.Engine.Results
import Sgr.Execution.Engine.Steps
import Sgr.Execution.Engine.Tracking
import Sgr.Execution.Engine.Verification
import Sgr.Execution.GridRateLimiter
import Sgr.Execution.LostExpiry
import Sgr.Execution.OrderSafety.Basic
import Sgr.Execution.OrderSafety.CreatedOrders
import Sgr.Execution.OrderSafety.Restarts
import Sgr.Execution.OrderSafety.Schedules
import Sgr.Execution.OrderSafety.Steps
import Sgr.Execution.OrderSafety.Unknown
import Sgr.Execution.Preflight
import Sgr.Execution.Quantization
import Sgr.Execution.TickSizes
import Sgr.Grid.CloseGrid
import Sgr.Grid.Controller
import Sgr.Grid.CrashConsistency
import Sgr.Grid.FillLevel
import Sgr.Grid.LevelOutcomes
import Sgr.Grid.LevelPrices
import Sgr.Grid.LevelTotals
import Sgr.Grid.Mirror
import Sgr.Grid.MissedCrossings
import Sgr.Grid.MoneyMade
import Sgr.Grid.NetDrift
import Sgr.Grid.OpenCells
import Sgr.Grid.Opening
import Sgr.Grid.Parameters
import Sgr.Grid.PriceTick
import Sgr.Grid.Replay
import Sgr.Grid.Restore
import Sgr.Grid.StuckGrids
import Sgr.Grid.Tasks
import Sgr.Grid.Types
import Sgr.MarketData.BufferOrder
import Sgr.MarketData.CandleStore
import Sgr.MarketData.FeatureEngineer
import Sgr.MarketData.Feed
import Sgr.MarketData.FormingBars
import Sgr.MarketData.GridSuitability
import Sgr.MarketData.Indicators
import Sgr.MarketData.PollTasks
import Sgr.MarketData.StorageKeys
import Sgr.MarketData.StoredSeries
import Sgr.MarketData.Subscriptions
import Sgr.Orchestrator.Accounts
import Sgr.Orchestrator.BookedOnce
import Sgr.Orchestrator.Booking
import Sgr.Orchestrator.Cooldown
import Sgr.Orchestrator.GridExits
import Sgr.Orchestrator.GridKeys
import Sgr.Orchestrator.GridScheduler
import Sgr.Orchestrator.Segments
import Sgr.Portfolio.Basic
import Sgr.Portfolio.Closing
import Sgr.Portfolio.Effects
import Sgr.Portfolio.Equity
import Sgr.Portfolio.FailingWrites
import Sgr.Portfolio.HeldPositions
import Sgr.Portfolio.Linearizability
import Sgr.Portfolio.Markets
import Sgr.Portfolio.NetQuantity
import Sgr.Portfolio.PositionDicts
import Sgr.Portfolio.ProtectedPositions
import Sgr.Portfolio.Restore
import Sgr.Portfolio.RestoreRows
import Sgr.Portfolio.Siblings
import Sgr.Portfolio.Simulation
import Sgr.Portfolio.Tasks
import Sgr.Portfolio.UnrealizedPnl
import Sgr.Reconciliation.Engine
import Sgr.Risk.Agreement
import Sgr.Risk.Closers
import Sgr.Risk.CostGuard
import Sgr.Risk.DailyLoss
import Sgr.Risk.Deactivation
import Sgr.Risk.Engine.Caps
import Sgr.Risk.Engine.CloseSignals
import Sgr.Risk.Engine.Evaluate
import Sgr.Risk.Engine.Gates
import Sgr.Risk.Engine.Sizing
import Sgr.Risk.Flattening
import Sgr.Risk.GridApproval
import Sgr.Risk.GridRisk
import Sgr.Risk.KillSwitch
import Sgr.Risk.Liquidation
import Sgr.Risk.LiveGates
import Sgr.Risk.PositionProtection
import Sgr.Risk.ReduceOnly
import Sgr.Risk.RegimeExits
import Sgr.Risk.ResetOrder
import Sgr.Risk.SymbolKillSwitch
import Sgr.Risk.VerificationBudget
import Sgr.Risk.VerificationRuns
import Sgr.Risk.WatchdogExits
import Sgr.Risk.WatchdogTick
import Sgr.Saas.ApiKeys
import Sgr.Saas.Auth
import Sgr.Saas.Fees
import Sgr.Saas.TenantKeys
import Sgr.Saas.TwoFactor
import Sgr.Strategy.FuturesGrid
import Sgr.Strategy.GridBook
import Sgr.Strategy.LiveWorker
import Sgr.Strategy.ParameterWindows
import Sgr.Strategy.Registry
import Sgr.Strategy.SharedRedis
import Sgr.Strategy.SignalEngine
import Sgr.Strategy.SignalFlow
import Sgr.Strategy.Startup
import Sgr.Strategy.Strategies
import Sgr.Strategy.SymbolGate
import Sgr.Strategy.SymbolValidation
import Sgr.Strategy.UntestedRegimes
