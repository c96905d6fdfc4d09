/-!
# SHA3-256

The digest that turns a salt into key material: the Keccak-f[1600] permutation
and the sponge of FIPS 202 with rate 136 bytes and the domain padding `0x06 … 0x80`.

* `permute`: twenty-four rounds of θ, ρ, π, χ and ι on the 5 × 5 lanes.
* `padded`: the message, the byte `0x06`, zeros up to a whole block, and the top bit
  of the last byte set.
* `sha3_256`: absorb every block of `padded`, then read the first 32 bytes of the state.
* `sha3_256_size`: the digest always has 32 bytes.
-/

namespace PlotLabels.Hash.Sha3

/-! ## 1. The permutation -/

/-- The Keccak state: 25 lanes of 64 bits, lane `(x, y)` at index `x + 5 * y`. -/
abbrev State := Vector UInt64 25

/-- The lane in column `x` and row `y`. -/
def lane (a : State) (x y : Fin 5) : UInt64 :=
  a.get ⟨x.val + 5 * y.val, by omega⟩

/-- Rotation of a lane towards its high bits. -/
def rotl (w : UInt64) (n : UInt64) : UInt64 :=
  (w <<< n) ||| (w >>> (64 - n))

/-- θ: every lane takes in the parities of the two neighbouring columns. -/
def theta (a : State) : State :=
  let parity : Vector UInt64 5 := Vector.ofFn fun x =>
    lane a x 0 ^^^ lane a x 1 ^^^ lane a x 2 ^^^ lane a x 3 ^^^ lane a x 4
  let effect : Vector UInt64 5 := Vector.ofFn fun x =>
    parity.get (x - 1) ^^^ rotl (parity.get (x + 1)) 1
  Vector.ofFn fun i => a.get i ^^^ effect.get ⟨i.val % 5, Nat.mod_lt _ (by decide)⟩

/-- The ρ offsets, indexed like the state. -/
def rhoOffsets : Vector UInt64 25 :=
  #v[0, 1, 62, 28, 27,
     36, 44, 6, 55, 20,
     3, 10, 43, 25, 39,
     41, 45, 15, 21, 8,
     18, 2, 61, 56, 14]

/-- ρ and π together: lane `(x, y)` is rotated by its offset and moved to `(y, 2x + 3y)`.
Read from the target, lane `(X, Y)` comes from `(X + 3Y, X)`. -/
def rhoPi (a : State) : State :=
  Vector.ofFn fun i =>
    let X : Fin 5 := ⟨i.val % 5, Nat.mod_lt _ (by decide)⟩
    let Y : Fin 5 := ⟨i.val / 5, by omega⟩
    let x := X + 3 * Y
    rotl (lane a x X) (rhoOffsets.get ⟨x.val + 5 * X.val, by omega⟩)

/-- χ: each lane is flipped where its right neighbour is clear and the next one is set. -/
def chi (b : State) : State :=
  Vector.ofFn fun i =>
    let x : Fin 5 := ⟨i.val % 5, Nat.mod_lt _ (by decide)⟩
    let y : Fin 5 := ⟨i.val / 5, by omega⟩
    lane b x y ^^^ (~~~(lane b (x + 1) y) &&& lane b (x + 2) y)

/-- The round constants of ι, one per round. -/
def roundConstants : List UInt64 :=
  [0x0000000000000001, 0x0000000000008082, 0x800000000000808A, 0x8000000080008000,
   0x000000000000808B, 0x0000000080000001, 0x8000000080008081, 0x8000000000008009,
   0x000000000000008A, 0x0000000000000088, 0x0000000080008009, 0x000000008000000A,
   0x000000008000808B, 0x800000000000008B, 0x8000000000008089, 0x8000000000008003,
   0x8000000000008002, 0x8000000000000080, 0x000000000000800A, 0x800000008000000A,
   0x8000000080008081, 0x8000000000008080, 0x0000000080000001, 0x8000000080008008]

/-- One round; ι adds the round constant to lane `(0, 0)`. -/
def round (a : State) (rc : UInt64) : State :=
  let b := chi (rhoPi (theta a))
  b.set 0 (b.get 0 ^^^ rc)

/-- Keccak-f[1600]: the rounds in order. -/
def permute (a : State) : State :=
  roundConstants.foldl round a

/-! ## 2. The sponge -/

/-- Bytes taken in per block: 1088 of the 1600 bits. -/
def rate : Nat := 136

/-- The message followed by `0x06`, zeros, and a final `0x80`, to a whole number of
blocks. When one byte of room is left, it holds both marks as `0x86`. -/
def padded (msg : ByteArray) : ByteArray :=
  let fill := rate - msg.size % rate
  let tail : List UInt8 := (List.range fill).map fun i =>
    (if i = 0 then 0x06 else 0) ||| (if i + 1 = fill then 0x80 else 0)
  msg ++ ⟨tail.toArray⟩

/-- The byte at `i`, zero past the end. -/
def byteAt (m : ByteArray) (i : Nat) : UInt8 :=
  (m[i]?).getD 0

/-- The little-endian 64-bit word from the eight bytes at `start`. -/
def wordAt (m : ByteArray) (start : Nat) : UInt64 :=
  (List.range 8).foldr (fun k acc => (acc <<< 8) ||| (byteAt m (start + k)).toUInt64) 0

/-- Absorbing the block that begins at `start`: its 17 words enter the first 17 lanes. -/
def absorbBlock (m : ByteArray) (a : State) (start : Nat) : State :=
  permute <| Vector.ofFn fun i =>
    if i.val < rate / 8 then a.get i ^^^ wordAt m (start + 8 * i.val) else a.get i

/-- The state after absorbing every block of a padded message. -/
def absorb (m : ByteArray) : State :=
  (List.range (m.size / rate)).foldl (fun a b => absorbBlock m a (b * rate))
    (Vector.replicate 25 0)

/-- The eight bytes of a lane, least significant first. -/
def laneBytes (w : UInt64) : List UInt8 :=
  (List.range 8).map fun k => (w >>> (8 * k).toUInt64).toUInt8

/-- The SHA3-256 digest of a byte string. -/
def sha3_256 (msg : ByteArray) : ByteArray :=
  let a := absorb (padded msg)
  ⟨((List.range 4).flatMap fun i => laneBytes (a.getD i 0)).toArray⟩

theorem laneBytes_length (w : UInt64) : (laneBytes w).length = 8 := by
  simp [laneBytes]

/-- The digest always has 32 bytes. -/
theorem sha3_256_size (msg : ByteArray) : (sha3_256 msg).size = 32 := by
  simp only [sha3_256, ByteArray.size, List.size_toArray, List.length_flatMap, laneBytes_length]
  rfl

end PlotLabels.Hash.Sha3
