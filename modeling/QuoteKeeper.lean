import QuoteKeeper.Alert
import QuoteKeeper.App.Backend
import QuoteKeeper.App.Container
import QuoteKeeper.App.Lifecycle
import QuoteKeeper.App.Plan
import QuoteKeeper.App.Wiring
import QuoteKeeper.Breaker
import QuoteKeeper.Chain.Abi
import QuoteKeeper.Chain.Address
import QuoteKeeper.Chain.Contracts
import QuoteKeeper.Chain.Head
import QuoteKeeper.Chain.Key
import QuoteKeeper.Chain.Node
import QuoteKeeper.Chain.Quantity
import QuoteKeeper.Chain.Rlp
import QuoteKeeper.Chain.Secp256k1
import QuoteKeeper.Chain.Subscription
import QuoteKeeper.Chain.Transaction
import QuoteKeeper.Cli.Flags
import QuoteKeeper.Cli.Process
import QuoteKeeper.Command.Catalog
import QuoteKeeper.Command.MetricsProbe
import QuoteKeeper.Command.ReferencePrices
import QuoteKeeper.Command.Runner
import QuoteKeeper.Command.WithdrawEstimate
import QuoteKeeper.Config.Reload
import QuoteKeeper.Config.Report
import QuoteKeeper.Config.Settings
import QuoteKeeper.Config.Validate
import QuoteKeeper.Engine.Decision
import QuoteKeeper.Engine.Options
import QuoteKeeper.Engine.Run
import QuoteKeeper.Failure
import QuoteKeeper.Gateway.Lending
import QuoteKeeper.Gateway.Squid
import QuoteKeeper.Gateway.Swap
import QuoteKeeper.Hash.Keccak
import QuoteKeeper.Hash.Sha256
import QuoteKeeper.Lending.Bounds
import QuoteKeeper.Lending.Calculator
import QuoteKeeper.Lending.Market
import QuoteKeeper.Log.Encoder
import QuoteKeeper.Log.Entry
import QuoteKeeper.Log.Output
import QuoteKeeper.Log.Schema
import QuoteKeeper.Log.Setup
import QuoteKeeper.Main
import QuoteKeeper.Monitor.Pricer
import QuoteKeeper.Monitor.Registry
import QuoteKeeper.Number.Binary
import QuoteKeeper.Number.Decimal
import QuoteKeeper.Number.Elementary
import QuoteKeeper.Number.Fixed
import QuoteKeeper.Number.Literal
import QuoteKeeper.Price.Basic
import QuoteKeeper.Range
import QuoteKeeper.Reference.Fallback
import QuoteKeeper.Reference.Quote
import QuoteKeeper.Reference.Swap
import QuoteKeeper.Retry
import QuoteKeeper.Runner
import QuoteKeeper.Runner.Drive
import QuoteKeeper.Service
import QuoteKeeper.Sim.Alerts
import QuoteKeeper.Sim.Chain
import QuoteKeeper.Sim.Cli
import QuoteKeeper.Sim.Container
import QuoteKeeper.Sim.Engine
import QuoteKeeper.Sim.Fields
import QuoteKeeper.Sim.Gateway
import QuoteKeeper.Sim.Lending
import QuoteKeeper.Sim.Logging
import QuoteKeeper.Sim.Monitor
import QuoteKeeper.Sim.Node
import QuoteKeeper.Sim.Pricing
import QuoteKeeper.Sim.Reload
import QuoteKeeper.Sim.Resilience
import QuoteKeeper.Sim.Runner
import QuoteKeeper.Sim.Script
import QuoteKeeper.Sim.Service
import QuoteKeeper.Sim.Settings
import QuoteKeeper.Sim.Subscription
import QuoteKeeper.Strategy
import QuoteKeeper.Text.Base64
import QuoteKeeper.Text.Hex
import QuoteKeeper.Text.Json
import QuoteKeeper.Text.Json.Reading
import QuoteKeeper.Text.Printable
import QuoteKeeper.Text.Quoted
import QuoteKeeper.Text.Table
import QuoteKeeper.Text.Utf8
import QuoteKeeper.Time
import QuoteKeeper.Time.Calendar
import QuoteKeeper.Time.Reading
import QuoteKeeper.Time.Rfc3339
import QuoteKeeper.Web.Binding
import QuoteKeeper.Web.Client
import QuoteKeeper.Web.IpAddress
import QuoteKeeper.Web.Listen
import QuoteKeeper.Web.Url
import QuoteKeeper.Withdrawal.Estimate
import QuoteKeeper.Withdrawal.Source
import QuoteKeeper.Yaml.Decode
import QuoteKeeper.Yaml.Node
import QuoteKeeper.Yaml.Parser
import QuoteKeeper.Yaml.Scanner
import QuoteKeeper.Proofs.PriceArithmetic
import QuoteKeeper.Proofs.RangeCross
import QuoteKeeper.Proofs.EngineStages
import QuoteKeeper.Proofs.EngineSpread
import QuoteKeeper.Proofs.EngineSubmission
import QuoteKeeper.Proofs.EngineFixpoint
import QuoteKeeper.Proofs.FallbackPriority
import QuoteKeeper.Proofs.BreakerInvariants
import QuoteKeeper.Proofs.EngineAudit
import QuoteKeeper.Proofs.ClientRetry
import QuoteKeeper.Proofs.RangeIdempotent
import QuoteKeeper.Proofs.FeeStrategy
import QuoteKeeper.Proofs.LendingCalculator
import QuoteKeeper.Proofs.LendingPin
import QuoteKeeper.Proofs.RateInversion
import QuoteKeeper.Proofs.WithdrawalEstimate
import QuoteKeeper.Proofs.DecimalText
import QuoteKeeper.Proofs.PriceText
import QuoteKeeper.Proofs.RateAdjustment
import QuoteKeeper.Proofs.SwapLegs
import QuoteKeeper.Proofs.ValidatedConversions
import QuoteKeeper.Proofs.ValidationOrder
import QuoteKeeper.Proofs.WithdrawalSource
import QuoteKeeper.Proofs.RetryAccounting
import QuoteKeeper.Proofs.AlertThrottling
import QuoteKeeper.Proofs.EngineBranchOrder
import QuoteKeeper.Proofs.ScaleComposition
import QuoteKeeper.Proofs.HeadQuantity
import QuoteKeeper.Proofs.RetryPauses
import QuoteKeeper.Proofs.ContractReads
