import Ballast.Api.Estimate
import Ballast.Api.Proofs.Balance
import Ballast.Api.Proofs.Fills
import Ballast.Api.Proofs.Pausing
import Ballast.Api.Proofs.PledgeBooks
import Ballast.Api.Proofs.RepoBooks
import Ballast.ApiKeys.AuthHook
import Ballast.ApiKeys.Proofs.AuthHook
import Ballast.ApiKeys.Proofs.RateWindow
import Ballast.ApiKeys.Proofs.Replay
import Ballast.Common.AdvisoryLock
import Ballast.Common.Changes
import Ballast.Common.Cut
import Ballast.Common.FixedWindow
import Ballast.Common.Margin
import Ballast.Common.Numerals
import Ballast.Common.Risk
import Ballast.Common.Stretches
import Ballast.Common.Table
import Ballast.Compliance.Proofs.Csv
import Ballast.Compliance.Proofs.Holds
import Ballast.Compliance.Proofs.Names
import Ballast.CreditLine.Proofs.Breach
import Ballast.CreditLine.Proofs.Cure
import Ballast.CreditLine.Proofs.Outcome
import Ballast.CreditLine.Proofs.Repay
import Ballast.CreditLine.Proofs.Solvency
import Ballast.DomainTypes.Money
import Ballast.DomainTypes.Proofs.Money
import Ballast.ExitDesk.Proofs.Blind
import Ballast.ExitDesk.Proofs.Caps
import Ballast.ExitDesk.Proofs.Quotes
import Ballast.Governance
import Ballast.Indexer.Proofs.Complete
import Ballast.IssuerGateway.Proofs.Idempotent
import Ballast.Keeper.Lane
import Ballast.Keeper.Proofs.Aftermath
import Ballast.Keeper.Proofs.Booked
import Ballast.Keeper.Proofs.Due
import Ballast.Keeper.Proofs.Filed
import Ballast.Keeper.Proofs.InLine
import Ballast.Keeper.Proofs.InStep
import Ballast.Keeper.Proofs.Lanes
import Ballast.Keeper.Proofs.LegTwo
import Ballast.Keeper.Proofs.Mutex
import Ballast.Keeper.Proofs.Recovery
import Ballast.Keeper.Proofs.Steps
import Ballast.Keeper.Proofs.Uncut
import Ballast.Keeper.Proofs.Untorn
import Ballast.Keeper.Proofs.Waits
import Ballast.Keeper.Proofs.Window
import Ballast.Keeper.RepoMargin
import Ballast.Keeper.SyncCollateral
import Ballast.MarginMonitor.Basic
import Ballast.PayoutHop.Basic
import Ballast.PayoutHop.Proofs.Repair
import Ballast.PledgeVault.Proofs.Admin
import Ballast.PriceGuard.DecimalAscii
import Ballast.PriceGuard.Proofs.Again
import Ballast.PriceGuard.Proofs.Answers
import Ballast.PriceGuard.Proofs.Drift
import Ballast.PriceGuard.Proofs.Issuer
import Ballast.PriceGuard.Proofs.Latch
import Ballast.PriceGuard.Proofs.NavMessage
import Ballast.PriceGuard.Proofs.Prices
import Ballast.PriceGuard.Service
import Ballast.Priced.Basic
import Ballast.Priced.Proofs.Risk
import Ballast.Reconcile.Proofs.Replay
import Ballast.Registry.Proofs.Haircut
import Ballast.RepoDvp.Proofs.Allowance
import Ballast.RepoDvp.Proofs.Blind
import Ballast.RepoDvp.Proofs.Cure
import Ballast.RepoDvp.Proofs.Demand
import Ballast.RepoDvp.Proofs.Expiry
import Ballast.RepoDvp.Proofs.Overdue
import Ballast.RepoDvp.Proofs.Split
import Ballast.Soroban.Purge
import Ballast.Webhooks.FanOut
import Ballast.Webhooks.Outbox
import Ballast.Webhooks.Proofs.Accepted
import Ballast.Webhooks.Proofs.Answered
import Ballast.Webhooks.Proofs.Batch
import Ballast.Webhooks.Proofs.Cured
import Ballast.Webhooks.Proofs.Letters
import Ballast.Webhooks.Proofs.Passes
import Ballast.Webhooks.Proofs.Signing
import Ballast.Webhooks.Proofs.Spellings
import Ballast.Webhooks.Proofs.Told
import Ballast.Webhooks.Proofs.Tries
import Ballast.Webhooks.Signing
import Ballast.Webhooks.System
import Ballast.Wired.Proofs.Freeze
import Ballast.Wired.Proofs.Lending
import Ballast.Wired.Proofs.RiskPaths
