import Mathlib
import Flash.Shared.Amounts
import Flash.Support.Js

/-!
# Ledger — the entry builder

`services/ledger/domain/entry-builder.ts`.  A payment's ledger entry is built in four stages:
`withTotalAmount` fixes the amounts with fees, `withBankFee` credits the bank owner's BTC fee,
`debitAccount` debits the paying account with the amount in its currency, and `creditAccount`
lets the dealer convert between currencies and credits the receiving account with the amount
less the fee, then drops the transactions whose debit and credit are both zero.

The entry is medici's `Entry`, of which the builder uses `credit` and `debit`: each appends a
transaction to the entry's list.  The amounts handed to them are JavaScript numbers, `Number` of
the bigint amounts (`Js.Number`).  The transaction metadata is left out.

* `withBankFee_net`, `debitAccount_net`, `addDealerDebitsAndCredits_net`, `creditAccount_net`:
  what each stage adds to a currency's net (credits less debits), in `Number`s of the amounts.
* `entry_balanced_below_two_pow_53`: from an entry whose transactions balance, for every
  debit and credit currency among BTC and USD and all amounts with `0 ≤ fee ≤ withFees` and
  the two fees positive together, no transaction has a negative amount, and when the amounts
  are below `2 ^ 53` debits equal credits in every currency.
* `entry_balanced_within_max_amounts`: the amounts a payment checks against `MAX_SATS` and
  `MAX_CENTS` are below `2 ^ 53`, and such an entry balances.  Above `2 ^ 53` `Number` rounds
  the credit of the amount less the fee, and a BTC → BTC entry is off by one satoshi.
-/

namespace Ledger

open Shared Js

/-! ### medici's entry -/

/-- A transaction of a medici entry, with the fields the builder sets. -/
structure LedgerTransaction where
  accounts : String
  debit : Int
  credit : Int
  currency : WalletCurrency
  deriving DecidableEq, Repr

/-- A medici `Entry`: its transactions, in the order they were added. -/
structure MediciEntry where
  transactions : List LedgerTransaction
  deriving DecidableEq, Repr

namespace MediciEntry

/-- `Entry.credit`: one more transaction, crediting `accounts` by `amount`. -/
def credit (entry : MediciEntry) (accounts : String) (amount : Int) (currency : WalletCurrency) :
    MediciEntry :=
  ⟨entry.transactions ++ [{ accounts, debit := 0, credit := amount, currency }]⟩

/-- `Entry.debit`: one more transaction, debiting `accounts` by `amount`. -/
def debit (entry : MediciEntry) (accounts : String) (amount : Int) (currency : WalletCurrency) :
    MediciEntry :=
  ⟨entry.transactions ++ [{ accounts, debit := amount, credit := 0, currency }]⟩

end MediciEntry

/-- `removeZeroAmountEntries`. -/
def removeZeroAmountEntries (entry : MediciEntry) : MediciEntry :=
  ⟨entry.transactions.filter (fun txn => !(txn.debit = 0 ∧ txn.credit = 0))⟩

/-! ### Accounts -/

/-- `LedgerAccountDescriptor`. -/
structure LedgerAccountDescriptor where
  id : String
  currency : WalletCurrency
  deriving DecidableEq, Repr

/-- `lndLedgerAccountDescriptor`. -/
def lndLedgerAccountDescriptor : LedgerAccountDescriptor :=
  ⟨"Assets:Reserve:Lightning", .btc⟩

/-- `onChainLedgerAccountDescriptor`. -/
def onChainLedgerAccountDescriptor : LedgerAccountDescriptor :=
  ⟨"Assets:OnChain", .btc⟩

/-- `coldStorageAccountDescriptor`. -/
def coldStorageAccountDescriptor : LedgerAccountDescriptor :=
  ⟨"Assets:Reserve:Bitcoind", .btc⟩

/-- `StaticAccountIds`. -/
structure StaticAccountIds where
  bankOwnerAccountId : String
  dealerBtcAccountId : String
  dealerUsdAccountId : String
  deriving DecidableEq, Repr

/-! ### The builder's stages -/

/-- `EntryBuilderConfig`. -/
structure EntryBuilderConfig where
  staticAccountIds : StaticAccountIds
  entry : MediciEntry

/-- `EntryBuilderFeeState`: the entry and the amounts with fees. -/
structure EntryBuilderFeeState where
  entry : MediciEntry
  staticAccountIds : StaticAccountIds
  usdWithFees : UsdPaymentAmount
  btcWithFees : BtcPaymentAmount

/-- `EntryBuilderDebitState`: the bank fees too. -/
structure EntryBuilderDebitState extends EntryBuilderFeeState where
  btcBankFee : BtcPaymentAmount
  usdBankFee : UsdPaymentAmount

/-- `EntryBuilderCreditState`: the currency of the account debited too. -/
structure EntryBuilderCreditState extends EntryBuilderDebitState where
  debitCurrency : WalletCurrency

/-- `EntryBuilder(config).withTotalAmount`. -/
@[simps]
def EntryBuilder.withTotalAmount (config : EntryBuilderConfig) (usdWithFees : UsdPaymentAmount)
    (btcWithFees : BtcPaymentAmount) : EntryBuilderFeeState :=
  { entry := config.entry, staticAccountIds := config.staticAccountIds, usdWithFees, btcWithFees }

/-- `withBankFee`: the bank owner is credited the BTC fee, when there is one. -/
@[simps]
def EntryBuilderFeeState.withBankFee (s : EntryBuilderFeeState) (btcBankFee : BtcPaymentAmount)
    (usdBankFee : UsdPaymentAmount) : EntryBuilderDebitState :=
  let entry :=
    if 0 < btcBankFee.amount then
      s.entry.credit s.staticAccountIds.bankOwnerAccountId (Number btcBankFee.amount)
        btcBankFee.currency
    else s.entry
  { s with entry, btcBankFee, usdBankFee }

/-- `debitAccount`: the BTC amount from a BTC account, the USD amount from any other. -/
@[simps]
def EntryBuilderDebitState.debitAccount (s : EntryBuilderDebitState)
    (accountDescriptor : LedgerAccountDescriptor) : EntryBuilderCreditState :=
  let entry :=
    if accountDescriptor.currency = .btc then
      s.entry.debit accountDescriptor.id (Number s.btcWithFees.amount) s.btcWithFees.currency
    else s.entry.debit accountDescriptor.id (Number s.usdWithFees.amount) s.usdWithFees.currency
  { s with entry, debitCurrency := accountDescriptor.currency }

/-- `debitLnd`. -/
def EntryBuilderDebitState.debitLnd (s : EntryBuilderDebitState) : EntryBuilderCreditState :=
  s.debitAccount lndLedgerAccountDescriptor

/-- `debitOnChain`. -/
def EntryBuilderDebitState.debitOnChain (s : EntryBuilderDebitState) : EntryBuilderCreditState :=
  s.debitAccount onChainLedgerAccountDescriptor

/-- `debitColdStorage`. -/
def EntryBuilderDebitState.debitColdStorage (s : EntryBuilderDebitState) :
    EntryBuilderCreditState :=
  s.debitAccount coldStorageAccountDescriptor

/-- `addUsdToBtcConversionToDealer`: the dealer's BTC account is debited, its USD account
credited. -/
def addUsdToBtcConversionToDealer (entry : MediciEntry) (staticAccountIds : StaticAccountIds)
    (btcAmount : BtcPaymentAmount) (usdAmount : UsdPaymentAmount) : MediciEntry :=
  (entry.debit staticAccountIds.dealerBtcAccountId (Number btcAmount.amount) btcAmount.currency).credit
    staticAccountIds.dealerUsdAccountId (Number usdAmount.amount) usdAmount.currency

/-- `addBtcToUsdConversionToDealer`: the dealer's BTC account is credited, its USD account
debited. -/
def addBtcToUsdConversionToDealer (entry : MediciEntry) (staticAccountIds : StaticAccountIds)
    (btcAmount : BtcPaymentAmount) (usdAmount : UsdPaymentAmount) : MediciEntry :=
  (entry.credit staticAccountIds.dealerBtcAccountId (Number btcAmount.amount) btcAmount.currency).debit
    staticAccountIds.dealerUsdAccountId (Number usdAmount.amount) usdAmount.currency

/-- `addDealerDebitsAndCredits`: the `switch (true)` of the source, its cases in order. -/
def EntryBuilderCreditState.addDealerDebitsAndCredits (s : EntryBuilderCreditState)
    (accountDescriptor : LedgerAccountDescriptor) : MediciEntry :=
  if s.debitCurrency = .usd ∧ accountDescriptor.currency = .usd ∧ 0 < s.usdBankFee.amount then
    addUsdToBtcConversionToDealer s.entry s.staticAccountIds s.btcBankFee s.usdBankFee
  else if s.debitCurrency = .usd ∧ accountDescriptor.currency = .btc then
    addUsdToBtcConversionToDealer s.entry s.staticAccountIds s.btcWithFees s.usdWithFees
  else if s.debitCurrency = .btc ∧ accountDescriptor.currency = .usd then
    addBtcToUsdConversionToDealer s.entry s.staticAccountIds
      (AmountCalculator.sub s.btcWithFees s.btcBankFee)
      (AmountCalculator.sub s.usdWithFees s.usdBankFee)
  else s.entry

/-- `creditAccount`: the dealer's legs, then the account credited with the amount less the fee
in its currency (USD for a USD account, BTC for any other). -/
def EntryBuilderCreditState.creditAccount (s : EntryBuilderCreditState)
    (accountDescriptor : LedgerAccountDescriptor) : MediciEntry :=
  let updatedEntry := s.addDealerDebitsAndCredits accountDescriptor
  let usdWithOutFee := AmountCalculator.sub s.usdWithFees s.usdBankFee
  let btcWithOutFee := AmountCalculator.sub s.btcWithFees s.btcBankFee
  -- `creditAmount` is one of two differently typed amounts: its bigint and its currency
  let creditAmount :=
    if accountDescriptor.currency = .usd then (usdWithOutFee.amount, usdWithOutFee.currency)
    else (btcWithOutFee.amount, btcWithOutFee.currency)
  removeZeroAmountEntries
    (updatedEntry.credit accountDescriptor.id (Number creditAmount.1) creditAmount.2)

/-- `creditOffChain`. -/
def EntryBuilderCreditState.creditOffChain (s : EntryBuilderCreditState) : MediciEntry :=
  s.creditAccount lndLedgerAccountDescriptor

/-- `creditOnChain`. -/
def EntryBuilderCreditState.creditOnChain (s : EntryBuilderCreditState) : MediciEntry :=
  s.creditAccount onChainLedgerAccountDescriptor

/-- `creditColdStorage`. -/
def EntryBuilderCreditState.creditColdStorage (s : EntryBuilderCreditState) : MediciEntry :=
  s.creditAccount coldStorageAccountDescriptor

/-! ### Balance -/

open MediciEntry


/-- `x` in currency `cur`, seen from currency `c`. -/
def onCurrency (cur c : WalletCurrency) (x : Int) : Int := if cur = c then x else 0

@[simp] theorem onCurrency_self (c : WalletCurrency) (x : Int) : onCurrency c c x = x := by
  simp [onCurrency]

@[simp] theorem onCurrency_zero (cur c : WalletCurrency) : onCurrency cur c 0 = 0 := by
  simp [onCurrency]

/-- A transaction's credit less its debit, in currency `c`. -/
def LedgerTransaction.net (c : WalletCurrency) (txn : LedgerTransaction) : Int :=
  onCurrency txn.currency c (txn.credit - txn.debit)

namespace MediciEntry

/-- The entry's credits less its debits, in currency `c`. -/
def net (entry : MediciEntry) (c : WalletCurrency) : Int :=
  (entry.transactions.map (LedgerTransaction.net c)).sum

/-- The entry's debits in currency `c`. -/
def totalDebits (entry : MediciEntry) (c : WalletCurrency) : Int :=
  ((entry.transactions.filter (·.currency = c)).map (·.debit)).sum

/-- The entry's credits in currency `c`. -/
def totalCredits (entry : MediciEntry) (c : WalletCurrency) : Int :=
  ((entry.transactions.filter (·.currency = c)).map (·.credit)).sum

/-- Debits equal credits in every currency. -/
def Balanced (entry : MediciEntry) : Prop :=
  ∀ c, entry.totalDebits c = entry.totalCredits c

/-- No transaction has a negative amount. -/
def NonNegative (entry : MediciEntry) : Prop :=
  ∀ txn ∈ entry.transactions, 0 ≤ txn.debit ∧ 0 ≤ txn.credit

theorem net_eq (entry : MediciEntry) (c : WalletCurrency) :
    entry.net c = entry.totalCredits c - entry.totalDebits c := by
  obtain ⟨transactions⟩ := entry
  simp only [net, totalCredits, totalDebits]
  induction transactions with
  | nil => simp
  | cons txn rest ih =>
      by_cases hc : txn.currency = c
      · simp [hc, ih, LedgerTransaction.net]
        omega
      · simp [hc, ih, LedgerTransaction.net, onCurrency]

theorem balanced_iff (entry : MediciEntry) : entry.Balanced ↔ ∀ c, entry.net c = 0 := by
  simp only [Balanced, net_eq, sub_eq_zero]
  exact forall_congr' fun _ => eq_comm

@[simp] theorem net_credit (entry : MediciEntry) (accounts : String) (amount : Int)
    (currency c : WalletCurrency) :
    (entry.credit accounts amount currency).net c = entry.net c + onCurrency currency c amount := by
  simp [credit, net, LedgerTransaction.net]

@[simp] theorem net_debit (entry : MediciEntry) (accounts : String) (amount : Int)
    (currency c : WalletCurrency) :
    (entry.debit accounts amount currency).net c = entry.net c - onCurrency currency c amount := by
  simp [debit, net, LedgerTransaction.net, onCurrency]
  split <;> omega

theorem NonNegative.credit {entry : MediciEntry} (h : entry.NonNegative) (accounts : String)
    {amount : Int} (hamount : 0 ≤ amount) (currency : WalletCurrency) :
    (entry.credit accounts amount currency).NonNegative := by
  intro txn htxn
  simp only [MediciEntry.credit, List.mem_append, List.mem_singleton] at htxn
  rcases htxn with htxn | rfl
  · exact h txn htxn
  · exact ⟨Int.le_refl 0, hamount⟩

theorem NonNegative.debit {entry : MediciEntry} (h : entry.NonNegative) (accounts : String)
    {amount : Int} (hamount : 0 ≤ amount) (currency : WalletCurrency) :
    (entry.debit accounts amount currency).NonNegative := by
  intro txn htxn
  simp only [MediciEntry.debit, List.mem_append, List.mem_singleton] at htxn
  rcases htxn with htxn | rfl
  · exact h txn htxn
  · exact ⟨hamount, Int.le_refl 0⟩

end MediciEntry

open MediciEntry

/-- Dropping the transactions of no amount changes no currency's net. -/
@[simp] theorem net_removeZeroAmountEntries (entry : MediciEntry) (c : WalletCurrency) :
    (removeZeroAmountEntries entry).net c = entry.net c := by
  obtain ⟨transactions⟩ := entry
  simp only [removeZeroAmountEntries, net]
  induction transactions with
  | nil => simp
  | cons txn rest ih =>
      rw [List.filter_cons, List.map_cons, List.sum_cons, ← ih]
      by_cases hzero : txn.debit = 0 ∧ txn.credit = 0
      · -- a dropped transaction had no amount, hence no net
        have hnet : txn.net c = 0 := by simp [LedgerTransaction.net, hzero]
        rw [if_neg (by simp [hzero]), hnet, zero_add]
      · rw [if_pos (by simp only [Bool.not_eq_true', decide_eq_false_iff_not]; exact hzero), List.map_cons,
          List.sum_cons]

theorem NonNegative.removeZeroAmountEntries {entry : MediciEntry} (h : entry.NonNegative) :
    (removeZeroAmountEntries entry).NonNegative := by
  intro txn htxn
  exact h txn (List.mem_of_mem_filter htxn)


/-! ### What each stage writes -/

theorem withBankFee_net (s : EntryBuilderFeeState) (btcBankFee : BtcPaymentAmount)
    (usdBankFee : UsdPaymentAmount) (c : WalletCurrency) :
    (s.withBankFee btcBankFee usdBankFee).entry.net c =
      s.entry.net c +
        if 0 < btcBankFee.amount then onCurrency .btc c (Number btcBankFee.amount) else 0 := by
  unfold EntryBuilderFeeState.withBankFee
  split <;> simp [PaymentAmount.currency]

theorem debitAccount_net (s : EntryBuilderDebitState) (accountDescriptor : LedgerAccountDescriptor)
    (c : WalletCurrency) :
    (s.debitAccount accountDescriptor).entry.net c =
      s.entry.net c -
        if accountDescriptor.currency = .btc then onCurrency .btc c (Number s.btcWithFees.amount)
        else onCurrency .usd c (Number s.usdWithFees.amount) := by
  unfold EntryBuilderDebitState.debitAccount
  split <;> simp [PaymentAmount.currency]

theorem addUsdToBtcConversionToDealer_net (entry : MediciEntry)
    (staticAccountIds : StaticAccountIds) (btcAmount : BtcPaymentAmount)
    (usdAmount : UsdPaymentAmount) (c : WalletCurrency) :
    (addUsdToBtcConversionToDealer entry staticAccountIds btcAmount usdAmount).net c =
      entry.net c - onCurrency .btc c (Number btcAmount.amount) +
        onCurrency .usd c (Number usdAmount.amount) := by
  simp [addUsdToBtcConversionToDealer, PaymentAmount.currency]

theorem addBtcToUsdConversionToDealer_net (entry : MediciEntry)
    (staticAccountIds : StaticAccountIds) (btcAmount : BtcPaymentAmount)
    (usdAmount : UsdPaymentAmount) (c : WalletCurrency) :
    (addBtcToUsdConversionToDealer entry staticAccountIds btcAmount usdAmount).net c =
      entry.net c + onCurrency .btc c (Number btcAmount.amount) -
        onCurrency .usd c (Number usdAmount.amount) := by
  simp [addBtcToUsdConversionToDealer, PaymentAmount.currency]

theorem creditAccount_net (s : EntryBuilderCreditState)
    (accountDescriptor : LedgerAccountDescriptor) (c : WalletCurrency) :
    (s.creditAccount accountDescriptor).net c =
      (s.addDealerDebitsAndCredits accountDescriptor).net c +
        if accountDescriptor.currency = .usd then
          onCurrency .usd c (Number (s.usdWithFees.amount - s.usdBankFee.amount))
        else onCurrency .btc c (Number (s.btcWithFees.amount - s.btcBankFee.amount)) := by
  unfold EntryBuilderCreditState.creditAccount
  split <;> simp [PaymentAmount.currency, *]

theorem addDealerDebitsAndCredits_net (s : EntryBuilderCreditState)
    (accountDescriptor : LedgerAccountDescriptor) (c : WalletCurrency) :
    (s.addDealerDebitsAndCredits accountDescriptor).net c =
      s.entry.net c +
        if s.debitCurrency = .usd ∧ accountDescriptor.currency = .usd ∧ 0 < s.usdBankFee.amount then
          onCurrency .usd c (Number s.usdBankFee.amount) -
            onCurrency .btc c (Number s.btcBankFee.amount)
        else if s.debitCurrency = .usd ∧ accountDescriptor.currency = .btc then
          onCurrency .usd c (Number s.usdWithFees.amount) -
            onCurrency .btc c (Number s.btcWithFees.amount)
        else if s.debitCurrency = .btc ∧ accountDescriptor.currency = .usd then
          onCurrency .btc c (Number (s.btcWithFees.amount - s.btcBankFee.amount)) -
            onCurrency .usd c (Number (s.usdWithFees.amount - s.usdBankFee.amount))
        else 0 := by
  unfold EntryBuilderCreditState.addDealerDebitsAndCredits
  split_ifs <;>
    simp [addUsdToBtcConversionToDealer_net, addBtcToUsdConversionToDealer_net] <;> omega

theorem chain_balanced (config : EntryBuilderConfig)
    (usdWithFees : UsdPaymentAmount) (btcWithFees : BtcPaymentAmount)
    (btcBankFee : BtcPaymentAmount) (usdBankFee : UsdPaymentAmount)
    (debitDescriptor creditDescriptor : LedgerAccountDescriptor)
    (hdebit : debitDescriptor.currency = .btc ∨ debitDescriptor.currency = .usd)
    (hcredit : creditDescriptor.currency = .btc ∨ creditDescriptor.currency = .usd)
    (hbtc : 0 ≤ btcBankFee.amount ∧ btcBankFee.amount ≤ btcWithFees.amount)
    (husd : 0 ≤ usdBankFee.amount ∧ usdBankFee.amount ≤ usdWithFees.amount)
    (hfees : 0 < btcBankFee.amount ↔ 0 < usdBankFee.amount)
    (hbalanced : config.entry.Balanced)
    (hWb : btcWithFees.amount < 2 ^ 53) (hWu : usdWithFees.amount < 2 ^ 53) :
    ((((EntryBuilder.withTotalAmount config usdWithFees btcWithFees).withBankFee
      btcBankFee usdBankFee).debitAccount debitDescriptor).creditAccount creditDescriptor).Balanced := by
  rw [balanced_iff] at hbalanced ⊢
  intro c
  -- `Number` is exact on every amount the chain writes
  have hNFb := Number_of_nonneg_of_lt hbtc.1 (by omega)
  have hNFu := Number_of_nonneg_of_lt husd.1 (by omega)
  have hNWb := Number_of_nonneg_of_lt (by omega) hWb
  have hNWu := Number_of_nonneg_of_lt (by omega) hWu
  have hNdb := Number_of_nonneg_of_lt (Int.sub_nonneg_of_le hbtc.2) (by omega)
  have hNdu := Number_of_nonneg_of_lt (Int.sub_nonneg_of_le husd.2) (by omega)
  have h0 := hbalanced c
  simp only [creditAccount_net, addDealerDebitsAndCredits_net, debitAccount_net, withBankFee_net,
    EntryBuilderDebitState.debitAccount_debitCurrency, EntryBuilderDebitState.debitAccount_btcBankFee,
    EntryBuilderDebitState.debitAccount_usdBankFee, EntryBuilderDebitState.debitAccount_btcWithFees,
    EntryBuilderDebitState.debitAccount_usdWithFees,
    EntryBuilderFeeState.withBankFee_btcBankFee, EntryBuilderFeeState.withBankFee_usdBankFee,
    EntryBuilderFeeState.withBankFee_btcWithFees, EntryBuilderFeeState.withBankFee_usdWithFees,
    EntryBuilder.withTotalAmount_btcWithFees, EntryBuilder.withTotalAmount_usdWithFees,
    EntryBuilder.withTotalAmount_entry, hNFb, hNFu, hNWb, hNWu, hNdb, hNdu]
  -- one case per pair of currencies; in each, every currency's legs cancel
  rcases hdebit with hD | hD <;> rcases hcredit with hC | hC
  -- BTC → BTC: the bank fee and the credit make up the debit, no dealer legs
  · cases c with
    | btc => simp [hD, hC, onCurrency, h0]; split_ifs <;> omega
    | usd => simp [hD, hC, onCurrency, h0]
    | jmd | usdt => simp [hD, hC, onCurrency, h0]
  -- BTC → USD: the dealer takes the BTC less the fee and pays the USD less the fee
  · cases c with
    | btc => simp [hD, hC, onCurrency, h0]; split_ifs <;> omega
    | usd => simp [hD, hC, onCurrency, h0]
    | jmd | usdt => simp [hD, hC, onCurrency, h0]
  -- USD → BTC: the dealer takes the USD and pays the BTC
  · cases c with
    | btc => simp [hD, hC, onCurrency, h0]; split_ifs <;> omega
    | usd => simp [hD, hC, onCurrency, h0]
    | jmd | usdt => simp [hD, hC, onCurrency, h0]
  -- USD → USD: the dealer converts the USD fee into the BTC fee, when there is one
  · cases c with
    | btc => simp [hD, hC, onCurrency, h0]; split_ifs <;> omega
    | usd => simp [hD, hC, onCurrency, h0]; split_ifs <;> omega
    | jmd | usdt => simp [hD, hC, onCurrency, h0]


/-! ### No negative amount -/

theorem withBankFee_nonNegative {s : EntryBuilderFeeState} (h : s.entry.NonNegative)
    (btcBankFee : BtcPaymentAmount) (usdBankFee : UsdPaymentAmount) :
    (s.withBankFee btcBankFee usdBankFee).entry.NonNegative := by
  rw [EntryBuilderFeeState.withBankFee_entry]
  split
  next hpos => exact h.credit _ (Number_nonneg (Int.le_of_lt hpos)) _
  next => exact h

theorem debitAccount_nonNegative {s : EntryBuilderDebitState} (h : s.entry.NonNegative)
    (hbtc : 0 ≤ s.btcWithFees.amount) (husd : 0 ≤ s.usdWithFees.amount)
    (accountDescriptor : LedgerAccountDescriptor) :
    (s.debitAccount accountDescriptor).entry.NonNegative := by
  rw [EntryBuilderDebitState.debitAccount_entry]
  split
  · exact h.debit _ (Number_nonneg hbtc) _
  · exact h.debit _ (Number_nonneg husd) _

theorem creditAccount_nonNegative {s : EntryBuilderCreditState} (h : s.entry.NonNegative)
    (hFb : 0 ≤ s.btcBankFee.amount) (hFWb : s.btcBankFee.amount ≤ s.btcWithFees.amount)
    (hFu : 0 ≤ s.usdBankFee.amount) (hFWu : s.usdBankFee.amount ≤ s.usdWithFees.amount)
    (accountDescriptor : LedgerAccountDescriptor) :
    (s.creditAccount accountDescriptor).NonNegative := by
  -- every amount the stage writes is `Number` of one of these
  have hWb : 0 ≤ s.btcWithFees.amount := by omega
  have hWu : 0 ≤ s.usdWithFees.amount := by omega
  have hdb : 0 ≤ s.btcWithFees.amount - s.btcBankFee.amount := by omega
  have hdu : 0 ≤ s.usdWithFees.amount - s.usdBankFee.amount := by omega
  have hdealer : (s.addDealerDebitsAndCredits accountDescriptor).NonNegative := by
    unfold EntryBuilderCreditState.addDealerDebitsAndCredits
    split_ifs
    · exact (h.debit _ (Number_nonneg hFb) _).credit _ (Number_nonneg hFu) _
    · exact (h.debit _ (Number_nonneg hWb) _).credit _ (Number_nonneg hWu) _
    · exact (h.credit _ (Number_nonneg hdb) _).debit _ (Number_nonneg hdu) _
    · exact h
  unfold EntryBuilderCreditState.creditAccount
  apply NonNegative.removeZeroAmountEntries
  split
  · exact hdealer.credit _ (Number_nonneg hdu) _
  · exact hdealer.credit _ (Number_nonneg hdb) _

/-! ### The entries of a payment -/

/-- For every debit and credit currency among BTC and USD and all amounts with
`0 ≤ fee ≤ withFees` whose fees are positive together, an entry that started balanced and
non-negative ends non-negative, and balanced when the amounts are below `2 ^ 53`. -/
theorem entry_balanced_below_two_pow_53 (config : EntryBuilderConfig)
    (usdWithFees : UsdPaymentAmount) (btcWithFees : BtcPaymentAmount)
    (btcBankFee : BtcPaymentAmount) (usdBankFee : UsdPaymentAmount)
    (debitDescriptor creditDescriptor : LedgerAccountDescriptor)
    (hdebit : debitDescriptor.currency = .btc ∨ debitDescriptor.currency = .usd)
    (hcredit : creditDescriptor.currency = .btc ∨ creditDescriptor.currency = .usd)
    (hbtc : 0 ≤ btcBankFee.amount ∧ btcBankFee.amount ≤ btcWithFees.amount)
    (husd : 0 ≤ usdBankFee.amount ∧ usdBankFee.amount ≤ usdWithFees.amount)
    (hfees : 0 < btcBankFee.amount ↔ 0 < usdBankFee.amount)
    (hbalanced : config.entry.Balanced) (hnonneg : config.entry.NonNegative) :
    let entry := (((EntryBuilder.withTotalAmount config usdWithFees btcWithFees).withBankFee
      btcBankFee usdBankFee).debitAccount debitDescriptor).creditAccount creditDescriptor
    entry.NonNegative ∧
      (btcWithFees.amount < 2 ^ 53 → usdWithFees.amount < 2 ^ 53 → entry.Balanced) := by
  intro entry
  have hstart := withBankFee_nonNegative (s := EntryBuilder.withTotalAmount config usdWithFees
    btcWithFees) hnonneg btcBankFee usdBankFee
  have hdebited := debitAccount_nonNegative hstart (by simp; omega) (by simp; omega)
    debitDescriptor
  refine ⟨creditAccount_nonNegative hdebited (by simpa using hbtc.1) (by simpa using hbtc.2)
    (by simpa using husd.1) (by simpa using husd.2) creditDescriptor, ?_⟩
  intro hWb hWu
  exact chain_balanced config usdWithFees btcWithFees btcBankFee usdBankFee debitDescriptor
    creditDescriptor hdebit hcredit hbtc husd hfees hbalanced hWb hWu

/-- **Entries balance.**  For every debit and credit currency among BTC and USD and all amounts
within `MAX_SATS` and `MAX_CENTS` with `0 ≤ fee ≤ withFees` whose fees are positive together, an
entry that started balanced and non-negative ends balanced and non-negative: the checked amounts
stay below `2 ^ 53`, where `Number` is exact. -/
theorem entry_balanced_within_max_amounts (config : EntryBuilderConfig)
    (usdWithFees : UsdPaymentAmount) (btcWithFees : BtcPaymentAmount)
    (btcBankFee : BtcPaymentAmount) (usdBankFee : UsdPaymentAmount)
    (debitDescriptor creditDescriptor : LedgerAccountDescriptor)
    (hdebit : debitDescriptor.currency = .btc ∨ debitDescriptor.currency = .usd)
    (hcredit : creditDescriptor.currency = .btc ∨ creditDescriptor.currency = .usd)
    (hbtc : 0 ≤ btcBankFee.amount ∧ btcBankFee.amount ≤ btcWithFees.amount)
    (husd : 0 ≤ usdBankFee.amount ∧ usdBankFee.amount ≤ usdWithFees.amount)
    (hfees : 0 < btcBankFee.amount ↔ 0 < usdBankFee.amount)
    (hmaxBtc : btcWithFees.amount ≤ MAX_SATS.amount)
    (hmaxUsd : usdWithFees.amount ≤ MAX_CENTS.amount)
    (hbalanced : config.entry.Balanced) (hnonneg : config.entry.NonNegative) :
    let entry := (((EntryBuilder.withTotalAmount config usdWithFees btcWithFees).withBankFee
      btcBankFee usdBankFee).debitAccount debitDescriptor).creditAccount creditDescriptor
    entry.NonNegative ∧ entry.Balanced := by
  intro entry
  have h := entry_balanced_below_two_pow_53 config usdWithFees btcWithFees btcBankFee usdBankFee
    debitDescriptor creditDescriptor hdebit hcredit hbtc husd hfees hbalanced hnonneg
  have hWb : btcWithFees.amount < 2 ^ 53 := lt_of_le_of_lt hmaxBtc (by decide)
  have hWu : usdWithFees.amount < 2 ^ 53 := lt_of_le_of_lt hmaxUsd (by decide)
  exact ⟨h.1, h.2 hWb hWu⟩

/-- A USD wallet's ledger account. -/
def usdWalletDescriptor : LedgerAccountDescriptor :=
  ⟨"Liabilities:usd-wallet", .usd⟩

/-- The static accounts of the entries below. -/
def exampleStaticAccountIds : StaticAccountIds :=
  ⟨"Liabilities:bank-owner", "Liabilities:dealer-btc", "Liabilities:dealer-usd"⟩

/-- A USD wallet pays 50000 satoshis (1000 cents) over lightning with a fee of 10 satoshis
(1 cent), from an empty entry: the dealer converts, and the entry balances. -/
theorem usd_to_btc_entry_balanced :
    let entry := (((EntryBuilder.withTotalAmount ⟨exampleStaticAccountIds, ⟨[]⟩⟩ ⟨1000⟩
      ⟨50000⟩).withBankFee ⟨10⟩ ⟨1⟩).debitAccount usdWalletDescriptor).creditOffChain
    entry.NonNegative ∧ entry.Balanced :=
  entry_balanced_within_max_amounts ⟨exampleStaticAccountIds, ⟨[]⟩⟩ ⟨1000⟩ ⟨50000⟩ ⟨10⟩
    ⟨1⟩ usdWalletDescriptor lndLedgerAccountDescriptor (Or.inr rfl) (Or.inl rfl) (by decide)
    (by decide) (by decide) (by decide) (by decide) (fun _ => rfl) (fun _ h => nomatch h)

/-- A BTC wallet's ledger account. -/
def btcWalletDescriptor : LedgerAccountDescriptor :=
  ⟨"Liabilities:btc-wallet", .btc⟩

/-- Past `MAX_SATS`, at `2 ^ 53 + 2` satoshis with a bank fee of one satoshi (and one cent),
`Number` rounds the credit of `2 ^ 53 + 1` to `2 ^ 53`, ties to even, and the BTC credits fall
one satoshi short of the debit. -/
example :
    let entry := (((EntryBuilder.withTotalAmount ⟨exampleStaticAccountIds, ⟨[]⟩⟩ ⟨1⟩
      ⟨2 ^ 53 + 2⟩).withBankFee ⟨1⟩ ⟨1⟩).debitAccount btcWalletDescriptor).creditOffChain
    entry.totalDebits .btc = 2 ^ 53 + 2 ∧ entry.totalCredits .btc = 2 ^ 53 + 1 := by
  decide

end Ledger
