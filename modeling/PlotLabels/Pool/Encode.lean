import PlotLabels.Pool.Record
import PlotLabels.Json.Value
/-!
# Writing plot NFT records

The snake-case JSON of a record, with every field present: an absent optional value is
`null` and a status is its code.

* `PlotNft.toJson` and the writers of the parts.
-/

namespace PlotLabels.Pool

open Json

/-- A 64-bit count as JSON. -/
def u64Json (n : UInt64) : Value := .number (.nat n)

/-- A 32-bit count as JSON. -/
def u32Json (n : UInt32) : Value := .ofNat n.toNat

/-- The JSON of a wallet balance. -/
def WalletBalance.toJson (b : WalletBalance) : Value :=
  .ofFields [("wallet_id", u32Json b.walletId),
    ("confirmed_wallet_balance", u64Json b.confirmedWalletBalance),
    ("unconfirmed_wallet_balance", u64Json b.unconfirmedWalletBalance),
    ("spendable_balance", u64Json b.spendableBalance),
    ("pending_change", u64Json b.pendingChange),
    ("max_send_amount", u64Json b.maxSendAmount),
    ("unspent_coin_count", u32Json b.unspentCoinCount),
    ("pending_coin_removal_count", u32Json b.pendingCoinRemovalCount)]

/-- The JSON of a pool configuration. -/
def PoolConfig.toJson (c : PoolConfig) : Value :=
  .ofFields [("launcher_id", .string c.launcherId), ("pool_url", .string c.poolUrl),
    ("payout_instructions", .string c.payoutInstructions)]

/-- The JSON of a pool state. -/
def PoolState.toJson (s : PoolState) : Value :=
  .ofFields [("p2_singleton_puzzle_hash", .string s.p2SingletonPuzzleHash),
    ("pool_config", s.poolConfig.toJson),
    ("current_points", u64Json s.currentPoints),
    ("current_difficulty", match s.currentDifficulty with | some d => u64Json d | none => .null),
    ("points_found_since_start", u64Json s.pointsFoundSinceStart),
    ("points_acknowledged_since_start", u64Json s.pointsAcknowledgedSinceStart)]

/-- The JSON of a singleton state. -/
def SingletonState.toJson (s : SingletonState) : Value :=
  .ofFields [("state", .ofNat s.state.code.toNat),
    ("target_puzzle_hash", .string s.targetPuzzleHash),
    ("pool_url", match s.poolUrl with | some u => .string u | none => .null),
    ("relative_lock_height", u32Json s.relativeLockHeight)]

/-- The JSON of a pool wallet status. -/
def WalletStatus.toJson (s : WalletStatus) : Value :=
  .ofFields [("launcher_id", .string s.launcherId), ("wallet_id", u32Json s.walletId),
    ("current", s.current.toJson)]

/-- The JSON of a plot NFT. -/
def PlotNft.toJson (n : PlotNft) : Value :=
  .ofFields [("pool_state", n.poolState.toJson),
    ("pool_wallet_status", n.poolWalletStatus.toJson),
    ("wallet_balance", n.walletBalance.toJson)]

end PlotLabels.Pool
