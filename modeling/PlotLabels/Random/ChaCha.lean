/-!
# The ChaCha20 word stream

A 32-byte key names an endless stream of 32-bit words: block `n` of the stream is the
ChaCha20 block function (twenty rounds) of the key with the 64-bit block counter `n` and
the stream number zero, and the words of each block are read in order.

* `block`: the sixteen output words of one block.
* `wordAt`: word `p` of the stream, from block `p / 16`.
* `Stream.next`: the next word, and the stream one word on.
* `Stream.next_position`: reading a word moves the position by one.
-/

namespace PlotLabels.Random.ChaCha

/-- The sixteen words of a ChaCha state. -/
abbrev Block := Vector UInt32 16

/-- The little-endian word from four bytes of the key, zero past the end. -/
def keyWord (key : ByteArray) (i : Nat) : UInt32 :=
  let b (k : Nat) : UInt32 := ((key[4 * i + k]?).getD 0).toUInt32
  b 0 ||| (b 1 <<< 8) ||| (b 2 <<< 16) ||| (b 3 <<< 24)

/-- The starting state: the four words of "expand 32-byte k", the eight key words, the
block counter in words 12 (low half) and 13 (high half), and stream number zero. -/
def initial (key : ByteArray) (counter : UInt64) : Block :=
  Vector.ofFn fun i =>
    if h : i.val < 4 then #v[0x61707865, 0x3320646e, 0x79622d32, 0x6b206574].get ⟨i.val, by omega⟩
    else if i.val < 12 then keyWord key (i.val - 4)
    else if i.val = 12 then counter.toUInt32
    else if i.val = 13 then (counter >>> 32).toUInt32
    else 0

/-- Rotation of a word towards its high bits. -/
def rotl (w : UInt32) (n : UInt32) : UInt32 :=
  (w <<< n) ||| (w >>> (32 - n))

/-- The quarter round on the words at `a`, `b`, `c` and `d`. -/
def quarter (s : Block) (a b c d : Fin 16) : Block :=
  let va := s.get a + s.get b
  let vd := rotl (s.get d ^^^ va) 16
  let vc := s.get c + vd
  let vb := rotl (s.get b ^^^ vc) 12
  let va := va + vb
  let vd := rotl (vd ^^^ va) 8
  let vc := vc + vd
  let vb := rotl (vb ^^^ vc) 7
  ((((s.set a va).set b vb).set c vc).set d vd)

/-- A column round and then a diagonal round. -/
def doubleRound (s : Block) : Block :=
  let s := quarter s 0 4 8 12
  let s := quarter s 1 5 9 13
  let s := quarter s 2 6 10 14
  let s := quarter s 3 7 11 15
  let s := quarter s 0 5 10 15
  let s := quarter s 1 6 11 12
  let s := quarter s 2 7 8 13
  quarter s 3 4 9 14

/-- Block `counter` of the key's stream: ten double rounds, then the starting state added
word by word. -/
def block (key : ByteArray) (counter : UInt64) : Block :=
  let start := initial key counter
  let mixed := (List.range 10).foldl (fun s _ => doubleRound s) start
  Vector.ofFn fun i => mixed.get i + start.get i

/-- Word `p` of the key's stream. -/
def wordAt (key : ByteArray) (p : Nat) : UInt32 :=
  (block key (p / 16).toUInt64).get ⟨p % 16, Nat.mod_lt _ (by decide)⟩

/-- A stream of words: a key and the position of the next word. -/
structure Stream where
  key : ByteArray
  position : Nat := 0

/-- The next word, and the stream after it. -/
def Stream.next (s : Stream) : UInt32 × Stream :=
  (wordAt s.key s.position, { s with position := s.position + 1 })

/-- Reading a word moves the position by one and keeps the key. -/
@[simp]
theorem Stream.next_position (s : Stream) : s.next.2.position = s.position + 1 := rfl

@[simp]
theorem Stream.next_key (s : Stream) : s.next.2.key = s.key := rfl

@[simp]
theorem Stream.next_word (s : Stream) : s.next.1 = wordAt s.key s.position := rfl

end PlotLabels.Random.ChaCha
