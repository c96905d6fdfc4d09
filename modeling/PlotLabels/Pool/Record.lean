/-!
# Plot NFT records

What a wallet reports about a plot NFT: the state of its pool (whose p2 singleton puzzle hash
is the seed its name is derived from), the status of its pool wallet, and the wallet's
balance. Fields marked optional in the wallet's reports carry their defaults here.

* `Status`: self pooling, leaving a pool, or farming to a pool, with codes 1, 2 and 3.
* `PlotNft` and its parts.
* `PlotNft.seed`, `PlotNft.launcherId`, `PlotNft.status`, `PlotNft.isSelfPooling`.
-/

namespace PlotLabels.Pool

/-- Where the singleton of a plot NFT stands. -/
inductive Status where
  | selfPooling
  | leavingPool
  | farmingToPool
  deriving DecidableEq, Repr

namespace Status

/-- The code of a status in wallet reports. -/
def code : Status → UInt8
  | selfPooling => 1
  | leavingPool => 2
  | farmingToPool => 3

/-- The status with a code. -/
def ofCode? (n : UInt8) : Option Status :=
  if n = 1 then some selfPooling
  else if n = 2 then some leavingPool
  else if n = 3 then some farmingToPool
  else none

/-- The words for a status. -/
def text : Status → String
  | selfPooling => "Self pooling"
  | leavingPool => "Leaving pool"
  | farmingToPool => "Farming to pool"

theorem ofCode?_code (s : Status) : ofCode? s.code = some s := by
  cases s <;> rfl

end Status

/-- The balance of a pool wallet, in mojos and coins. -/
structure WalletBalance where
  walletId : UInt32 := 0
  confirmedWalletBalance : UInt64 := 0
  unconfirmedWalletBalance : UInt64 := 0
  spendableBalance : UInt64 := 0
  pendingChange : UInt64 := 0
  maxSendAmount : UInt64 := 0
  unspentCoinCount : UInt32 := 0
  pendingCoinRemovalCount : UInt32 := 0
  deriving DecidableEq, Repr

/-- The pool a plot NFT is configured for. -/
structure PoolConfig where
  launcherId : String
  poolUrl : String := ""
  payoutInstructions : String := ""
  deriving DecidableEq, Repr

/-- The state of the pool a plot NFT farms for. -/
structure PoolState where
  p2SingletonPuzzleHash : String
  poolConfig : PoolConfig
  currentPoints : UInt64 := 0
  currentDifficulty : Option UInt64 := none
  pointsFoundSinceStart : UInt64 := 0
  pointsAcknowledgedSinceStart : UInt64 := 0
  deriving DecidableEq, Repr

/-- The state of the singleton behind a plot NFT. -/
structure SingletonState where
  state : Status
  targetPuzzleHash : String
  poolUrl : Option String := none
  relativeLockHeight : UInt32 := 0
  deriving DecidableEq, Repr

/-- The status of a pool wallet. -/
structure WalletStatus where
  launcherId : String
  walletId : UInt32
  current : SingletonState
  deriving DecidableEq, Repr

/-- A plot NFT as a wallet reports it. -/
structure PlotNft where
  poolState : PoolState
  poolWalletStatus : WalletStatus
  walletBalance : WalletBalance := {}
  deriving DecidableEq, Repr

namespace PlotNft

/-- The seed of a plot NFT's name: its p2 singleton puzzle hash. -/
def seed (n : PlotNft) : String :=
  n.poolState.p2SingletonPuzzleHash

/-- The launcher id of its pool wallet. -/
def launcherId (n : PlotNft) : String :=
  n.poolWalletStatus.launcherId

/-- Where its singleton stands. -/
def status (n : PlotNft) : Status :=
  n.poolWalletStatus.current.state

/-- Whether it farms for itself. -/
def isSelfPooling (n : PlotNft) : Bool :=
  n.status == .selfPooling

end PlotNft

end PlotLabels.Pool
