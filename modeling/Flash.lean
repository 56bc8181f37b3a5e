import Flash.Support.Prog
import Flash.Support.Pool
import Flash.Support.Except
import Flash.Support.Js
import Flash.Support.Documents
import Flash.Support.Licence
import Flash.Support.Evidence
import Flash.Support.Rounding
import Flash.Support.Decimal
import Flash.Support.Json
import Flash.Shared.Amounts
import Flash.Shared.Calculator
import Flash.Shared.Money
import Flash.Bitcoin.Lightning
import Flash.Payments.PriceRatio
import Flash.Payments.LightningFlow
import Flash.CashWalletCutover.Status
import Flash.CashWalletCutover.Migration
import Flash.CashWalletCutover.World
import Flash.CashWalletCutover.Worker
import Flash.CashWalletCutover.Rollback
import Flash.CashWalletCutover.Runner
import Flash.CashWalletCutover.Payments
import Flash.CashWalletCutover.Pointer
import Flash.CashWalletCutover.RollbackRace
import Flash.CashWalletCutover.Routing
import Flash.Ledger.EntryBuilder
import Flash.Payments.Idempotency
import Flash.Invite.Collection
import Flash.Invite.Redemption
import Flash.Invite.Reward
import Flash.Fygaro.Outcome
import Flash.Fygaro.OutcomeRecord
import Flash.Fygaro.CreditGate
import Flash.Fygaro.TopupWorld
import Flash.Fygaro.TopupServices
import Flash.Fygaro.Checkout
import Flash.Bridge.Withdrawals
import Flash.Bridge.Service
import Flash.Bridge.Lifecycle
import Flash.GrpcStreamClient.Stream
import Flash.Offers.Serde
import Flash.Support.Phases
import Flash.Fygaro.Authorize
import Flash.Fygaro.Webhook
import Flash.Fygaro.AuthorizePhases
import Flash.Fygaro.Allowance
import Flash.Fygaro.PaymentPhases
import Flash.Fygaro.DailyLimit
import Flash.Fygaro.CreditEvidence
