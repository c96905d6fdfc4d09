import PlotLabels.Pool.Record
import PlotLabels.Json.Decode
import PlotLabels.Text.WordCase
import PlotLabels.Allocator
/-!
# Reading and naming plot NFT records

A record is read from a wallet's JSON report in snake case or camel case: every key is put
into snake case first, then each part is decoded as a record (`Json.Record`), with the
fields in the order below. A status is a code from 1 to 3. A record is named by resolving its
seed, the p2 singleton puzzle hash, with an allocator; a record with an empty hash has no seed
and is refused.

* `Status.decode` and the decoders of the parts.
* `PlotNft.decode`: a record from snake-case JSON.
* `PlotNft.fromReport`: a record from a report in either case, or `deserialisation`.
* `PlotNft.name`: the label of a plot NFT, and the allocator after it.
-/

namespace PlotLabels.Pool

open Json

/-- A status from its code; any other byte is refused by name. -/
def Status.decode : Decoder Status := fun v => do
  let n ← Decode.u8 v
  match Status.ofCode? n with
  | some s => pure s
  | none => throw (.custom ("unknown pool singleton state " ++ toString n.toNat))

/-- A wallet balance; every field may be missing and is then zero. -/
def WalletBalance.decode : Decoder WalletBalance := fun v => do
  let walletId : FieldSpec UInt32 := ⟨"wallet_id", Decode.u32, some 0⟩
  let confirmed : FieldSpec UInt64 := ⟨"confirmed_wallet_balance", Decode.u64, some 0⟩
  let unconfirmed : FieldSpec UInt64 := ⟨"unconfirmed_wallet_balance", Decode.u64, some 0⟩
  let spendable : FieldSpec UInt64 := ⟨"spendable_balance", Decode.u64, some 0⟩
  let pending : FieldSpec UInt64 := ⟨"pending_change", Decode.u64, some 0⟩
  let maxSend : FieldSpec UInt64 := ⟨"max_send_amount", Decode.u64, some 0⟩
  let unspent : FieldSpec UInt32 := ⟨"unspent_coin_count", Decode.u32, some 0⟩
  let removals : FieldSpec UInt32 := ⟨"pending_coin_removal_count", Decode.u32, some 0⟩
  let r ← Record.ofValue "WalletBalance" [walletId.check, confirmed.check, unconfirmed.check,
    spendable.check, pending.check, maxSend.check, unspent.check, removals.check] v
  let b : WalletBalance := {
    walletId := ← r.get 0 walletId
    confirmedWalletBalance := ← r.get 1 confirmed
    unconfirmedWalletBalance := ← r.get 2 unconfirmed
    spendableBalance := ← r.get 3 spendable
    pendingChange := ← r.get 4 pending
    maxSendAmount := ← r.get 5 maxSend
    unspentCoinCount := ← r.get 6 unspent
    pendingCoinRemovalCount := ← r.get 7 removals }
  r.close
  pure b

/-- A pool configuration; the launcher id is required. -/
def PoolConfig.decode : Decoder PoolConfig := fun v => do
  let launcherId : FieldSpec String := ⟨"launcher_id", Decode.string, none⟩
  let poolUrl : FieldSpec String := ⟨"pool_url", Decode.string, some ""⟩
  let payout : FieldSpec String := ⟨"payout_instructions", Decode.string, some ""⟩
  let r ← Record.ofValue "PoolConfig" [launcherId.check, poolUrl.check, payout.check] v
  let c : PoolConfig := {
    launcherId := ← r.get 0 launcherId
    poolUrl := ← r.get 1 poolUrl
    payoutInstructions := ← r.get 2 payout }
  r.close
  pure c

/-- A pool state; the puzzle hash and the pool configuration are required. -/
def PoolState.decode : Decoder PoolState := fun v => do
  let hash : FieldSpec String := ⟨"p2_singleton_puzzle_hash", Decode.string, none⟩
  let config : FieldSpec PoolConfig := ⟨"pool_config", PoolConfig.decode, none⟩
  let points : FieldSpec UInt64 := ⟨"current_points", Decode.u64, some 0⟩
  let difficulty : FieldSpec (Option UInt64) := ⟨"current_difficulty", Decode.option Decode.u64, some none⟩
  let found : FieldSpec UInt64 := ⟨"points_found_since_start", Decode.u64, some 0⟩
  let acknowledged : FieldSpec UInt64 := ⟨"points_acknowledged_since_start", Decode.u64, some 0⟩
  let r ← Record.ofValue "PoolState" [hash.check, config.check, points.check, difficulty.check,
    found.check, acknowledged.check] v
  let s : PoolState := {
    p2SingletonPuzzleHash := ← r.get 0 hash
    poolConfig := ← r.get 1 config
    currentPoints := ← r.get 2 points
    currentDifficulty := ← r.get 3 difficulty
    pointsFoundSinceStart := ← r.get 4 found
    pointsAcknowledgedSinceStart := ← r.get 5 acknowledged }
  r.close
  pure s

/-- A singleton state; the status and the target puzzle hash are required. -/
def SingletonState.decode : Decoder SingletonState := fun v => do
  let state : FieldSpec Status := ⟨"state", Status.decode, none⟩
  let target : FieldSpec String := ⟨"target_puzzle_hash", Decode.string, none⟩
  let poolUrl : FieldSpec (Option String) := ⟨"pool_url", Decode.option Decode.string, some none⟩
  let height : FieldSpec UInt32 := ⟨"relative_lock_height", Decode.u32, some 0⟩
  let r ← Record.ofValue "PoolSingletonState" [state.check, target.check, poolUrl.check,
    height.check] v
  let s : SingletonState := {
    state := ← r.get 0 state
    targetPuzzleHash := ← r.get 1 target
    poolUrl := ← r.get 2 poolUrl
    relativeLockHeight := ← r.get 3 height }
  r.close
  pure s

/-- A pool wallet status; all fields are required. -/
def WalletStatus.decode : Decoder WalletStatus := fun v => do
  let launcherId : FieldSpec String := ⟨"launcher_id", Decode.string, none⟩
  let walletId : FieldSpec UInt32 := ⟨"wallet_id", Decode.u32, none⟩
  let current : FieldSpec SingletonState := ⟨"current", SingletonState.decode, none⟩
  let r ← Record.ofValue "PoolWalletStatus" [launcherId.check, walletId.check, current.check] v
  let s : WalletStatus := {
    launcherId := ← r.get 0 launcherId
    walletId := ← r.get 1 walletId
    current := ← r.get 2 current }
  r.close
  pure s

/-- A plot NFT from snake-case JSON; the balance may be missing. -/
def PlotNft.decode : Decoder PlotNft := fun v => do
  let poolState : FieldSpec PoolState := ⟨"pool_state", PoolState.decode, none⟩
  let walletStatus : FieldSpec WalletStatus := ⟨"pool_wallet_status", WalletStatus.decode, none⟩
  let balance : FieldSpec WalletBalance := ⟨"wallet_balance", WalletBalance.decode, some {}⟩
  let r ← Record.ofValue "PlotNft" [poolState.check, walletStatus.check, balance.check] v
  let n : PlotNft := {
    poolState := ← r.get 0 poolState
    poolWalletStatus := ← r.get 1 walletStatus
    walletBalance := ← r.get 2 balance }
  r.close
  pure n

/-- A plot NFT from a wallet report in snake case or camel case. -/
def PlotNft.fromReport (v : Value) : Except NamingError PlotNft :=
  match PlotNft.decode (v.rekey Text.toSnakeCase) with
  | .ok n => .ok n
  | .error e => .error (.deserialisation e)

/-! ## Naming -/

/-- The label of a plot NFT, resolved by the allocator. -/
def PlotNft.name (a : Allocator) (n : PlotNft) : Except NamingError (Label × Allocator) :=
  if n.seed.isEmpty then .error .missingSeed else a.resolve n.seed

end PlotLabels.Pool
