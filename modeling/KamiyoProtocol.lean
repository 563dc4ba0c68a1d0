import KamiyoProtocol.Kamiyo.Custody
import KamiyoProtocol.Kamiyo.RegistrySolvency
import KamiyoProtocol.Kamiyo.RewardBacking
import KamiyoProtocol.Kamiyo.Independence
import KamiyoProtocol.Kamiyo.Verdict
import KamiyoProtocol.Kamiyo.ConsensusLaw
import KamiyoProtocol.Kamiyo.RegistryBooks
import KamiyoProtocol.Kamiyo.LaunchCustody
import KamiyoProtocol.Kamiyo.LaunchRate
import KamiyoProtocol.Kamiyo.Poch.Nullifier
import KamiyoProtocol.Kamiyo.Poch.Resubmission
import KamiyoProtocol.Staking.Rewards
import KamiyoProtocol.Staking.Principal
import KamiyoProtocol.Staking.Weights
import KamiyoProtocol.CompanionEscrow.StakeGate
import KamiyoProtocol.CompanionEscrow.Conservation
import KamiyoProtocol.Facilitator.Cover
import KamiyoProtocol.Facilitator.OnePayout
import KamiyoProtocol.Facilitator.Sessions
import KamiyoProtocol.Facilitator.Exposure
import KamiyoProtocol.ZkReputation.ValidationFinality
import KamiyoProtocol.Hyperliquid.TwoOfThree
import KamiyoProtocol.Hyperliquid.ModularAgreement
import KamiyoProtocol.TrustLayer.Ingest
import KamiyoProtocol.ZkReputation.EarnedTiers
import KamiyoProtocol.KamiyoZk.VoteBinding
import KamiyoProtocol.DarkForest.AgencZk
import KamiyoProtocol.Swarm.DagSound
import KamiyoProtocol.LimitlessCourt.Sound
import KamiyoProtocol.LimitlessCourt.Median
import KamiyoProtocol.LimitlessCourt.Restore
import KamiyoProtocol.Meishi.MandateCache
import KamiyoProtocol.Meishi.MandateSignature
import KamiyoProtocol.Meishi.Quorum
import KamiyoProtocol.Hive.SwarmVotes
import KamiyoProtocol.Hive.SealedBids
import KamiyoProtocol.Hive.StakeVault
import KamiyoProtocol.Hive.Recovery
import KamiyoProtocol.Governance.TokenVotes
import KamiyoProtocol.TransferHook.Quotas
import KamiyoProtocol.Facilitator.Amounts
import KamiyoProtocol.Facilitator.Valuation
import KamiyoProtocol.Facilitator.RepaymentLocks
import KamiyoProtocol.Facilitator.Fronting
import KamiyoProtocol.Facilitator.Replays
import KamiyoProtocol.TrustLayer.Decisions
import KamiyoProtocol.TrustLayer.Receipts
import KamiyoProtocol.TrustLayer.Encoding
import KamiyoProtocol.ZkReputation.EagerDecay
import KamiyoProtocol.Hyperliquid.StakeFloor
import KamiyoProtocol.Hyperliquid.PersonalTiers
import KamiyoProtocol.Facilitator.Health
import KamiyoProtocol.TrustSync.Leases
import KamiyoProtocol.Facilitator.Agreement
import KamiyoProtocol.ZkReputation.AgentWallets
import KamiyoProtocol.ZkReputation.FeedbackRegistry
import KamiyoProtocol.ZkReputation.Bridge
import KamiyoProtocol.DarkForest.FieldPaths
