import Flash.Shared.Amounts

/-!
# Bitcoin — Lightning invoices

`LnInvoice` of `domain/bitcoin/lightning`, the record `decodeInvoice` makes of a BOLT 11 payment
request.  Its `Date` is the instant in milliseconds since the epoch; its numbers (millisatoshis,
satoshis, the CLTV delta and a hop's fee rate) are integers.
-/

namespace Lightning

open Shared

/-- `Pubkey`, a node's public key in hex. -/
abbrev Pubkey := String

/-- `PaymentHash`. -/
abbrev PaymentHash := String

/-- A `Hop` of a route hint.  The first hop of a decoded route names only its node. -/
structure Hop where
  baseFeeMTokens : Option String
  channel : Option String
  cltvDelta : Option Int
  feeRate : Option Int
  nodePubkey : Pubkey
  deriving DecidableEq, Repr

/-- An `LnInvoiceFeature`: a BOLT 9 feature bit. -/
structure LnInvoiceFeature where
  bit : Int
  isRequired : Bool
  type : String
  deriving DecidableEq, Repr

/-- `LnInvoice`. -/
structure LnInvoice where
  destination : Pubkey
  paymentHash : PaymentHash
  paymentRequest : String
  milliSatsAmount : Int
  description : String
  cltvDelta : Option Int
  amount : Option Int
  paymentAmount : Option BtcPaymentAmount
  routeHints : List (List Hop)
  paymentSecret : Option String
  features : List LnInvoiceFeature
  expiresAt : Int
  isExpired : Bool
  deriving DecidableEq, Repr

end Lightning
