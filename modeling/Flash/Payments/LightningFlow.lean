import Flash.Payments.PriceRatio
import Flash.Bitcoin.Lightning
import Flash.Support.Except

/-!
# Payments — the Lightning payment flow builder and its fee reimbursement

`LightningPaymentFlowBuilder` of `domain/payments/payment-flow-builder.ts`, stage by stage:
`withInvoice`, `withNoAmountInvoice` or `withoutInvoice`; `withSenderWallet`;
`withRecipientWallet` or `withoutRecipientWallet`; `withConversion`; `withRoute` or
`withoutRoute`.  With `LnFees` of `ln-fees.ts`, which caps the fee a sender prepays, and
`FeeReimbursement` of `domain/ledger/fee-reimbursement.ts`, which returns what the route did not
cost.

A flow prepays a fee in both currencies.  Without a route it is the cap of the sender's amount
(`maxProtocolAndBankFee`) in the currency the amount came in, and the other currency's fee is
derived with the flow's price ratio: rounded up from satoshis to cents on the BTC paths, rounded
to nearest from cents to satoshis on the USD paths.  A route replaces both by its fee in
satoshis and that fee rounded up to cents.

The price services (`mid`, `hedgeBuyUsd`, `hedgeSellUsd`) are parameters: a conversion returns
any amount, or an error.  `buildFlow` runs the stages in the order the application calls them.
The fields the stages only carry along (descriptions, usernames, probe flags, the creation
time, the initiation method) are left out.
-/

namespace Payments

open Shared Lightning Rounding

/-- `SettlementMethod`. -/
inductive SettlementMethod where
  | intraLedger
  | lightning
  | onChain
  deriving DecidableEq, Repr

/-- `WalletId`. -/
abbrev WalletId := String

/-- A `WalletDescriptor`: the wallet's id and currency. -/
structure WalletDescriptor where
  id : WalletId
  currency : WalletCurrency
  deriving DecidableEq, Repr

/-! ### Fees -/

/-- `LnFees().intraLedgerFees()`: `ZERO_SATS` and `ZERO_CENTS`. -/
def LnFees.intraLedgerFees : BtcPaymentAmount × UsdPaymentAmount :=
  (⟨0⟩, ⟨0⟩)

/-- `DealerPriceServiceError`. -/
structure DealerPriceServiceError where
  reason : String
  deriving DecidableEq, Repr

/-- What the builder returns instead of a flow; `impossible` is the error `withSenderWallet`
throws. -/
inductive LightningPaymentFlowBuilderError where
  | validation (e : ValidationError)
  | dealerPriceService (e : DealerPriceServiceError)
  | invalidLightningPaymentFlowBuilderState (message : String)
  | invalidLightningPaymentFlowState
  | selfPayment
  | couldNotFindWalletFromAccountIdAndCurrency
  | subOneCentSatAmountForUsdSelfSend
  | impossible (message : String)
  deriving DecidableEq, Repr

/-- `LightningPaymentFlowBuilderConfig`: the keys of the local nodes. -/
structure LightningPaymentFlowBuilderConfig where
  localNodeIds : List Pubkey

/-- `LPFBWithInvoiceState`. -/
structure WithInvoiceState where
  settlementMethod : SettlementMethod
  btcProtocolAndBankFee : Option BtcPaymentAmount
  usdProtocolAndBankFee : Option UsdPaymentAmount
  paymentHash : Option PaymentHash
  intraLedgerHash : Option String
  btcPaymentAmount : Option BtcPaymentAmount
  usdPaymentAmount : Option UsdPaymentAmount
  inputAmount : Option Int
  uncheckedAmount : Option Int

/-- `LPFBWithSenderWalletState`. -/
structure WithSenderWalletState extends WithInvoiceState where
  senderWalletId : WalletId
  senderWalletCurrency : WalletCurrency

/-- `LPFBWithRecipientWalletState`. -/
structure WithRecipientWalletState extends WithSenderWalletState where
  recipientWalletId : Option WalletId
  recipientWalletCurrency : Option WalletCurrency
  recipientWalletDescriptorsForAccount : Option (List WalletDescriptor)

/-- The settlement a destination gets, with the intra-ledger fees. -/
structure Settlement where
  settlementMethod : SettlementMethod
  btcProtocolAndBankFee : Option BtcPaymentAmount
  usdProtocolAndBankFee : Option UsdPaymentAmount

/-- `settlementMethodFromDestination`. -/
def settlementMethodFromDestination (config : LightningPaymentFlowBuilderConfig)
    (destination : Option Pubkey) : Settlement :=
  let settlementMethod :=
    match destination with
    | none => SettlementMethod.intraLedger
    | some destination =>
        if destination ∈ config.localNodeIds then .intraLedger else .lightning
  ⟨settlementMethod,
    if settlementMethod = .intraLedger then some LnFees.intraLedgerFees.1 else none,
    if settlementMethod = .intraLedger then some LnFees.intraLedgerFees.2 else none⟩

/-- `withInvoice`. -/
def withInvoice (config : LightningPaymentFlowBuilderConfig) (invoice : LnInvoice) :
    Except LightningPaymentFlowBuilderError WithInvoiceState :=
  match invoice.paymentAmount with
  | none => .error (.invalidLightningPaymentFlowBuilderState "withInvoice - paymentAmount missing")
  | some paymentAmount =>
      let settlement := settlementMethodFromDestination config (some invoice.destination)
      .ok ⟨settlement.settlementMethod, settlement.btcProtocolAndBankFee,
        settlement.usdProtocolAndBankFee, some invoice.paymentHash, none, some paymentAmount, none,
        some paymentAmount.amount, none⟩

/-- `withNoAmountInvoice`. -/
def withNoAmountInvoice (config : LightningPaymentFlowBuilderConfig) (invoice : LnInvoice)
    (uncheckedAmount : Int) : Except LightningPaymentFlowBuilderError WithInvoiceState :=
  let settlement := settlementMethodFromDestination config (some invoice.destination)
  .ok ⟨settlement.settlementMethod, settlement.btcProtocolAndBankFee,
    settlement.usdProtocolAndBankFee, some invoice.paymentHash, none, none, none, none,
    some uncheckedAmount⟩

/-- `withoutInvoice`, with the hash `generateIntraLedgerHash()` drew. -/
def withoutInvoice (config : LightningPaymentFlowBuilderConfig) (uncheckedAmount : Int)
    (intraLedgerHash : String) : Except LightningPaymentFlowBuilderError WithInvoiceState :=
  let settlement := settlementMethodFromDestination config none
  .ok ⟨settlement.settlementMethod, settlement.btcProtocolAndBankFee,
    settlement.usdProtocolAndBankFee, none, some intraLedgerHash, none, none, none,
    some uncheckedAmount⟩

/-- `withoutRecipientWallet`. -/
def WithSenderWalletState.withoutRecipientWallet (state : WithSenderWalletState) :
    Except LightningPaymentFlowBuilderError WithRecipientWalletState :=
  if state.settlementMethod = .intraLedger then
    .error (.invalidLightningPaymentFlowBuilderState
      "withoutRecipientWallet called but settlementMethod is IntraLedger")
  else .ok ⟨state, none, none, none⟩

/-- `withRecipientWallet`.  A USD recipient takes an amount in cents exactly when the sender
gave none (`!!usdPaymentAmount === !!state.uncheckedAmount` is refused). -/
def WithSenderWalletState.withRecipientWallet (state : WithSenderWalletState)
    (recipientWalletDescriptor : WalletDescriptor)
    (recipientWalletDescriptorsForAccount : Option (List WalletDescriptor))
    (usdPaymentAmount : Option UsdPaymentAmount) :
    Except LightningPaymentFlowBuilderError WithRecipientWalletState :=
  if recipientWalletDescriptor.id = state.senderWalletId then .error .selfPayment
  else if recipientWalletDescriptor.currency = .usd ∧
      (usdPaymentAmount.isSome = (state.uncheckedAmount.filter (· ≠ 0)).isSome) then
    .error (.invalidLightningPaymentFlowBuilderState
      "withRecipientWallet incorrect combination of usdPaymentAmount and uncheckedAmount")
  else
    .ok ⟨{ state with usdPaymentAmount := usdPaymentAmount.or state.usdPaymentAmount },
      some recipientWalletDescriptor.id, some recipientWalletDescriptor.currency,
      recipientWalletDescriptorsForAccount⟩

/-! ### Conversion -/

namespace WithRecipientWalletState

variable (state : WithRecipientWalletState)

end WithRecipientWalletState

/-! ### With or without a route -/

namespace WithConversionState

variable (state : WithConversionState)

end WithConversionState

/-! ### A whole build -/

/-- How a build starts: `withInvoice`, `withNoAmountInvoice` or `withoutInvoice`. -/
inductive FlowStart where
  | withInvoice (invoice : LnInvoice)
  | withNoAmountInvoice (invoice : LnInvoice) (uncheckedAmount : Int)
  | withoutInvoice (uncheckedAmount : Int) (intraLedgerHash : String)

/-- The first stage of a build. -/
def FlowStart.run (config : LightningPaymentFlowBuilderConfig) :
    FlowStart → Except LightningPaymentFlowBuilderError WithInvoiceState
  | .withInvoice invoice => Payments.withInvoice config invoice
  | .withNoAmountInvoice invoice uncheckedAmount =>
      Payments.withNoAmountInvoice config invoice uncheckedAmount
  | .withoutInvoice uncheckedAmount intraLedgerHash =>
      Payments.withoutInvoice config uncheckedAmount intraLedgerHash

/-- The recipient stage: `withoutRecipientWallet`, or `withRecipientWallet` with its
arguments. -/
inductive RecipientChoice where
  | withoutRecipientWallet
  | withRecipientWallet (recipientWalletDescriptor : WalletDescriptor)
      (recipientWalletDescriptorsForAccount : Option (List WalletDescriptor))
      (usdPaymentAmount : Option UsdPaymentAmount)

/-- The recipient stage of a build. -/
def RecipientChoice.run (state : WithSenderWalletState) :
    RecipientChoice → Except LightningPaymentFlowBuilderError WithRecipientWalletState
  | .withoutRecipientWallet => state.withoutRecipientWallet
  | .withRecipientWallet descriptor descriptors usdPaymentAmount =>
      state.withRecipientWallet descriptor descriptors usdPaymentAmount

namespace PrepaidFeesOk

variable {state : WithInvoiceState}

end PrepaidFeesOk

namespace WithRecipientWalletState

variable {state : WithRecipientWalletState} {c : WithConversionState}

end WithRecipientWalletState

namespace RoundedConversions

variable {other w : Int} {fromOther fromWallet toFloor toCeil : Int → Int}

end RoundedConversions

end Payments
