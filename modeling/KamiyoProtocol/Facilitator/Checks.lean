/-
The checks that the payment routes share, word for word in the source.
-/
import KamiyoProtocol.Facilitator.Operations

namespace KamiyoProtocol.Facilitator

open Exec

/-- Scheme and network of a payment header. -/
def acceptScheme (env : Env) (paymentHeader : String)
    (requirementNetwork : Option String) :
    Except Failure (Scheme × String) := do
  let unsupported : Failure :=
    ⟨400, "unsupported_network", "Unsupported network"⟩
  let scheme ← okOr (env.parsePaymentScheme paymentHeader) unsupported
  let network ← okOr (env.canonicalizeNetwork scheme.network) unsupported
  require (env.isSupportedNetwork network) unsupported
  require (∀ required ∈ requirementNetwork,
    env.canonicalizeNetwork required = some network)
    ⟨400, "network_mismatch",
      "paymentRequirements.network does not match payment payload network"⟩
  return (scheme, network)

/-- The signed payment, fresh and signed by a payer of the network. -/
def acceptPayment (env : Env) (paymentHeader network : String) (now : Nat) :
    Except Failure Payment := do
  let payment ← okOr (env.decodePaymentHeader paymentHeader)
    ⟨400, "invalid_payment_payload", "Malformed payment header"⟩
  require (isPaymentFresh payment env.config.maxPaymentAgeMs now)
    ⟨400, "payment_expired", "Payment expired"⟩
  require (env.verifyPaymentAuth payment)
    ⟨400, "invalid_signature", "Invalid signature"⟩
  require (env.isValidPayerForNetwork payment.payer network)
    ⟨400, "invalid_payer_wallet", "Invalid payer wallet for network"⟩
  return payment

/-- The merchant is the one of the API key and has a wallet there. -/
def checkMerchant (env : Env) (network apiMerchantWallet
    merchantWallet : String) : Except Failure Unit := do
  require (apiMerchantWallet = merchantWallet)
    ⟨403, "merchant_mismatch", "Merchant wallet does not match API key"⟩
  if network = baseMainnetCaip2 then
    require (env.isAddress merchantWallet)
      ⟨400, "invalid_wallet", "Invalid Base wallet address"⟩
  else
    require (env.isPublicKey merchantWallet)
      ⟨400, "invalid_wallet", "Invalid Solana wallet address"⟩

end KamiyoProtocol.Facilitator
