import PlotLabels.Proofs.Json.Casing
import PlotLabels.Pool.Decode
import PlotLabels.Pool.Encode
/-!
# Plot NFT records read back

Every plot NFT record is read back from the JSON it is written as, and from the same JSON with
its keys put into camel case, as the wallet's GUI layer sends it.

* `unsigned_ofNat`: a count is read back by every decoder whose range holds it; so the 64-, 32-
  and 8-bit decoders invert their writers (`u64_u64Json`, `u32_u32Json`, `u8_ofNat`).
* `Status.ofCode?_eq_some_iff`: a status is read from its code and from nothing else, and a
  byte that is no code is refused by name (`Status.decode_ofNat_of_ne_code`).
* `snakeCased_toJson` for each record: records are written with distinct snake-case keys.
* `decode_toJson` for each record: each part is decoded back from its JSON.
* `PlotNft.report_round_trip`: a record reads back from its report in either casing.

The keys of a record are literals: that they are distinct snake-case identifiers is checked
by evaluation on the keys alone, the values being left as they are.
-/

namespace PlotLabels.Pool

open Json

/-! ## 1. Numbers and statuses -/

/-- A count written as a JSON number is read back by a decoder whose range holds it. -/
theorem unsigned_ofNat {name : String} {max m : Nat} (hm : m < UInt64.size) (h : m ≤ max) :
    Decode.unsigned name max (.ofNat m) = .ok m := by
  have hm' : m.toUInt64.toNat = m := UInt64.toNat_ofNat_of_lt' hm
  simp only [Value.ofNat, Decode.unsigned, hm']
  rw [if_pos h]

theorem u64Json_eq_ofNat (n : UInt64) : u64Json n = .ofNat n.toNat :=
  congrArg (fun m => Value.number (.nat m)) n.ofNat_toNat.symm

theorem u64_u64Json (n : UInt64) : Decode.u64 (u64Json n) = .ok n := by
  have hlt := n.toNat_lt_size
  simp only [Decode.u64, u64Json_eq_ofNat]
  rw [unsigned_ofNat hlt (by omega)]
  exact congrArg Except.ok n.ofNat_toNat

theorem u32_u32Json (n : UInt32) : Decode.u32 (u32Json n) = .ok n := by
  have hlt := n.toNat_lt_size
  simp only [Decode.u32, u32Json]
  rw [unsigned_ofNat (Nat.lt_trans hlt (by decide)) (by omega)]
  exact congrArg Except.ok n.ofNat_toNat

theorem u8_ofNat (n : UInt8) : Decode.u8 (.ofNat n.toNat) = .ok n := by
  have hlt := n.toNat_lt_size
  simp only [Decode.u8]
  rw [unsigned_ofNat (Nat.lt_trans hlt (by decide)) (by omega)]
  exact congrArg Except.ok n.ofNat_toNat

theorem option_null {α : Type} (d : Decoder α) : Decode.option d .null = .ok none :=
  rfl

theorem option_u64Json (n : UInt64) : Decode.option Decode.u64 (u64Json n) = .ok (some n) := by
  show (Decode.u64 (u64Json n)).map some = _
  rw [u64_u64Json]
  rfl

/-- **A status is read from its code and from no other byte.** -/
theorem Status.ofCode?_eq_some_iff {n : UInt8} {s : Status} :
    Status.ofCode? n = some s ↔ s.code = n := by
  constructor
  · intro h
    unfold Status.ofCode? at h
    split_ifs at h with h₁ h₂ h₃ <;> cases h
    · exact h₁.symm
    · exact h₂.symm
    · exact h₃.symm
  · rintro rfl
    exact Status.ofCode?_code s

theorem Status.decode_code (s : Status) : Status.decode (.ofNat s.code.toNat) = .ok s := by
  simp only [Status.decode, u8_ofNat, bind, Except.bind, Status.ofCode?_code]
  rfl

/-- A byte that is the code of no status is refused, with the byte in the message. -/
theorem Status.decode_ofNat_of_ne_code {n : UInt8} (h : ∀ s : Status, s.code ≠ n) :
    Status.decode (.ofNat n.toNat) =
      .error (.custom ("unknown pool singleton state " ++ toString n.toNat)) := by
  have hnone : Status.ofCode? n = none :=
    Option.eq_none_iff_forall_ne_some.mpr fun s hs => h s (Status.ofCode?_eq_some_iff.mp hs)
  simp only [Status.decode, u8_ofNat, bind, Except.bind, hnone]
  rfl

/-! ## 2. Records are written with snake-case keys -/

theorem WalletBalance.snakeCased_toJson (b : WalletBalance) : SnakeCased b.toJson := by
  refine .object (by simp only [keys, List.map_cons, List.map_nil]; decide)
    (by simp only [keys, List.map_cons, List.map_nil]; decide +kernel) ?_
  simp only [List.forall_mem_cons, List.not_mem_nil, IsEmpty.forall_iff, implies_true, and_true]
  exact ⟨.number _, .number _, .number _, .number _, .number _, .number _, .number _,
    .number _⟩

theorem PoolConfig.snakeCased_toJson (c : PoolConfig) : SnakeCased c.toJson := by
  refine .object (by simp only [keys, List.map_cons, List.map_nil]; decide)
    (by simp only [keys, List.map_cons, List.map_nil]; decide +kernel) ?_
  simp only [List.forall_mem_cons, List.not_mem_nil, IsEmpty.forall_iff, implies_true, and_true]
  exact ⟨.string _, .string _, .string _⟩

theorem PoolState.snakeCased_toJson (s : PoolState) : SnakeCased s.toJson := by
  refine .object (by simp only [keys, List.map_cons, List.map_nil]; decide)
    (by simp only [keys, List.map_cons, List.map_nil]; decide +kernel) ?_
  simp only [List.forall_mem_cons, List.not_mem_nil, IsEmpty.forall_iff, implies_true, and_true]
  refine ⟨.string _, s.poolConfig.snakeCased_toJson, .number _, ?_, .number _, .number _⟩
  -- the difficulty is a number or `null`
  split <;> constructor

theorem SingletonState.snakeCased_toJson (s : SingletonState) : SnakeCased s.toJson := by
  refine .object (by simp only [keys, List.map_cons, List.map_nil]; decide)
    (by simp only [keys, List.map_cons, List.map_nil]; decide +kernel) ?_
  simp only [List.forall_mem_cons, List.not_mem_nil, IsEmpty.forall_iff, implies_true, and_true]
  refine ⟨.number _, .string _, ?_, .number _⟩
  -- the pool's address is a string or `null`
  split <;> constructor

theorem WalletStatus.snakeCased_toJson (s : WalletStatus) : SnakeCased s.toJson := by
  refine .object (by simp only [keys, List.map_cons, List.map_nil]; decide)
    (by simp only [keys, List.map_cons, List.map_nil]; decide +kernel) ?_
  simp only [List.forall_mem_cons, List.not_mem_nil, IsEmpty.forall_iff, implies_true, and_true]
  exact ⟨.string _, .number _, s.current.snakeCased_toJson⟩

theorem PlotNft.snakeCased_toJson (n : PlotNft) : SnakeCased n.toJson := by
  refine .object (by simp only [keys, List.map_cons, List.map_nil]; decide)
    (by simp only [keys, List.map_cons, List.map_nil]; decide +kernel) ?_
  simp only [List.forall_mem_cons, List.not_mem_nil, IsEmpty.forall_iff, implies_true, and_true]
  exact ⟨n.poolState.snakeCased_toJson, n.poolWalletStatus.snakeCased_toJson,
    n.walletBalance.snakeCased_toJson⟩

/-! ## 3. Records are decoded back

Each decoder opens its record on the object, which checks every member against its field
(the second goal), and then reads the fields from the members, which `lookup_insertAll` takes
back to the list the writer gave; its side condition, that the keys are distinct, is evaluated
(`of_decide_eq_true rfl`). -/

theorem WalletBalance.decode_toJson (b : WalletBalance) :
    WalletBalance.decode b.toJson = .ok b := by
  unfold WalletBalance.decode WalletBalance.toJson
  dsimp only
  rw [Record.ofValue_ofFields]
  · simp (disch := exact of_decide_eq_true rfl) only [bind, Except.bind, Record.get,
      lookup_insertAll, List.lookup_cons, String.reduceBEq, u32_u32Json, u64_u64Json]
    rfl
  · intro p hp c hc
    simp only [List.mem_cons, List.not_mem_nil, or_false] at hp
    rcases hp with rfl | rfl | rfl | rfl | rfl | rfl | rfl | rfl <;> cases hc <;>
      simp only [u32_u32Json, u64_u64Json, Except.map]

theorem PoolConfig.decode_toJson (c : PoolConfig) : PoolConfig.decode c.toJson = .ok c := by
  unfold PoolConfig.decode PoolConfig.toJson
  dsimp only
  rw [Record.ofValue_ofFields]
  · simp (disch := exact of_decide_eq_true rfl) only [bind, Except.bind, Record.get,
      lookup_insertAll, List.lookup_cons, String.reduceBEq]
    rfl
  · intro p hp c hc
    simp only [List.mem_cons, List.not_mem_nil, or_false] at hp
    rcases hp with rfl | rfl | rfl <;> cases hc <;> simp only [Decode.string, Except.map]

theorem PoolState.decode_toJson (s : PoolState) : PoolState.decode s.toJson = .ok s := by
  obtain ⟨hash, config, points, difficulty, found, acknowledged⟩ := s
  -- an absent difficulty is written as `null`, a present one as its number
  cases difficulty
  all_goals
    unfold PoolState.decode PoolState.toJson
    dsimp only
    rw [Record.ofValue_ofFields]
    · simp (disch := exact of_decide_eq_true rfl) only [bind, Except.bind, Record.get,
        lookup_insertAll, List.lookup_cons, String.reduceBEq, u64_u64Json, option_u64Json,
        PoolConfig.decode_toJson]
      rfl
    · intro p hp c hc
      simp only [List.mem_cons, List.not_mem_nil, or_false] at hp
      rcases hp with rfl | rfl | rfl | rfl | rfl | rfl <;> cases hc <;>
        simp only [Decode.string, option_null, u64_u64Json, option_u64Json,
          PoolConfig.decode_toJson, Except.map]

theorem SingletonState.decode_toJson (s : SingletonState) :
    SingletonState.decode s.toJson = .ok s := by
  obtain ⟨state, target, poolUrl, height⟩ := s
  -- an absent pool address is written as `null`, a present one as its text
  cases poolUrl
  all_goals
    unfold SingletonState.decode SingletonState.toJson
    dsimp only
    rw [Record.ofValue_ofFields]
    · simp (disch := exact of_decide_eq_true rfl) only [bind, Except.bind, Record.get,
        lookup_insertAll, List.lookup_cons, String.reduceBEq, u32_u32Json, Status.decode_code]
      rfl
    · intro p hp c hc
      simp only [List.mem_cons, List.not_mem_nil, or_false] at hp
      rcases hp with rfl | rfl | rfl | rfl <;> cases hc <;>
        simp only [Decode.string, Decode.option, u32_u32Json, Status.decode_code, Except.map]

theorem WalletStatus.decode_toJson (s : WalletStatus) : WalletStatus.decode s.toJson = .ok s := by
  unfold WalletStatus.decode WalletStatus.toJson
  dsimp only
  rw [Record.ofValue_ofFields]
  · simp (disch := exact of_decide_eq_true rfl) only [bind, Except.bind, Record.get,
      lookup_insertAll, List.lookup_cons, String.reduceBEq, u32_u32Json,
      SingletonState.decode_toJson]
    rfl
  · intro p hp c hc
    simp only [List.mem_cons, List.not_mem_nil, or_false] at hp
    rcases hp with rfl | rfl | rfl <;> cases hc <;>
      simp only [Decode.string, u32_u32Json, SingletonState.decode_toJson, Except.map]

theorem PlotNft.decode_toJson (n : PlotNft) : PlotNft.decode n.toJson = .ok n := by
  unfold PlotNft.decode PlotNft.toJson
  dsimp only
  rw [Record.ofValue_ofFields]
  · simp (disch := exact of_decide_eq_true rfl) only [bind, Except.bind, Record.get,
      lookup_insertAll, List.lookup_cons, String.reduceBEq, PoolState.decode_toJson,
      WalletStatus.decode_toJson, WalletBalance.decode_toJson]
    rfl
  · intro p hp c hc
    simp only [List.mem_cons, List.not_mem_nil, or_false] at hp
    rcases hp with rfl | rfl | rfl <;> cases hc <;>
      simp only [PoolState.decode_toJson, WalletStatus.decode_toJson,
        WalletBalance.decode_toJson, Except.map]

/-! ## 4. Reports in either casing -/

/-- A report whose keys, put into snake case, give a record's JSON is read as that record. -/
theorem PlotNft.fromReport_of_rekey {v : Value} {n : PlotNft}
    (h : v.rekey Text.toSnakeCase = n.toJson) : PlotNft.fromReport v = .ok n := by
  unfold PlotNft.fromReport
  rw [h, PlotNft.decode_toJson]

/-- **A plot NFT reads back from its report in either casing.** Written as JSON, every record
is read back as itself, and so is the same JSON with every key put into camel case. A status
is read from its code and from no other byte, and a byte that is no status's code is refused
with the message naming it. -/
theorem PlotNft.report_round_trip :
    (∀ n : PlotNft, PlotNft.fromReport n.toJson = .ok n ∧
      PlotNft.fromReport (n.toJson.rekey Text.toLowerCamelCase) = .ok n) ∧
    (∀ (n : UInt8) (s : Status), Status.ofCode? n = some s ↔ s.code = n) ∧
    (∀ s : Status, Status.decode (.ofNat s.code.toNat) = .ok s) ∧
    ∀ n : UInt8, (∀ s : Status, s.code ≠ n) →
      Status.decode (.ofNat n.toNat) =
        .error (.custom ("unknown pool singleton state " ++ toString n.toNat)) := by
  refine ⟨fun n => ⟨?_, ?_⟩, fun _ _ => Status.ofCode?_eq_some_iff, Status.decode_code,
    fun _ => Status.decode_ofNat_of_ne_code⟩
  · -- the keys are already in snake case
    exact PlotNft.fromReport_of_rekey n.snakeCased_toJson.rekey_toSnakeCase
  · -- camel case is put back into snake case key by key
    exact PlotNft.fromReport_of_rekey n.snakeCased_toJson.rekey_camel_snake

end PlotLabels.Pool
