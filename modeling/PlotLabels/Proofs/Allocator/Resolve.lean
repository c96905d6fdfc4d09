import PlotLabels.Allocator
import PlotLabels.Proofs.Registry.Insert
import PlotLabels.Proofs.Style.LabelSpace
/-!
# Resolving a seed

What one call of `Allocator.resolve` does, said once, so that the theorems about runs never open
its definition again.

* `firstFree_eq_some`, `firstFree_eq_none_iff`: the search returns the candidate of the least
  attempt whose label is free for the seed, or nothing when no attempt's label is; in 32-bit
  attempts below the limit, `firstFree_eq_least` and `firstFree_eq_none_of_held`.
* `Allocator.resolve_of_firstFree_eq_some`: when the two indexes are inverse, a seed without a
  label gets the first free candidate, and the registry gains exactly that pair: the insert
  after the search never fails, because a label free for an unlabelled seed is held by nobody.
* `Allocator.resolve_eq_ok`: what a successful resolve did, in two cases;
  `Allocator.wellFormed_of_resolve_eq_ok`: the registry's invariant holds after it.
* `Allocator.resolve_eq_error`: exhaustion is the only error; `Allocator.resolve_outcome`: the
  whole of one resolve, read off the registry and the candidates.
-/

namespace PlotLabels

variable {r : Registry} {seed : Seed} {l : Label}

/-- Under inverse lookups, a label free for a seed without a label is held by nobody. -/
theorem Registry.seedOf_eq_none_of_isFreeFor (hr : r.Inverse) (hs : r.labelOf seed = none)
    (hf : r.isFreeFor l seed = true) : r.seedOf l = none := by
  rcases (r.isFreeFor_eq_true_iff l seed).mp hf with h | h
  · exact h
  · rw [hr, hs] at h
    cases h

/-! ## 1. The search for a free candidate -/

/-- **The search returns the first free candidate**: the candidate of some attempt below the
bound, free for the seed, after attempts whose candidates were all held by other seeds. -/
theorem firstFree_eq_some {t : Style} {i n : Nat} (h : firstFree r seed t i n = some l) :
    ∃ k < n, candidate seed (i + k).toUInt32 t = l ∧ r.isFreeFor l seed = true ∧
      ∀ j < k, r.isFreeFor (candidate seed (i + j).toUInt32 t) seed = false := by
  induction n generalizing i with
  | zero => cases h
  | succ n ih =>
    simp only [firstFree] at h
    split at h
    · rename_i hfree
      cases h
      exact ⟨0, by omega, rfl, hfree, fun j hj => absurd hj (Nat.not_lt_zero j)⟩
    · rename_i hheld
      obtain ⟨k, hk, hl, hfree, hbefore⟩ := ih h
      refine ⟨k + 1, by omega, by rw [← hl, Nat.add_right_comm, Nat.add_assoc], hfree, ?_⟩
      intro j hj
      cases j with
      | zero => simpa using hheld
      | succ j =>
        have e : i + (j + 1) = i + 1 + j := by omega
        rw [e]
        exact hbefore j (by omega)

/-- **The search finds nothing exactly when every attempt's candidate is held by another
seed.** -/
theorem firstFree_eq_none_iff {t : Style} {i n : Nat} :
    firstFree r seed t i n = none ↔
      ∀ k < n, r.isFreeFor (candidate seed (i + k).toUInt32 t) seed = false := by
  induction n generalizing i with
  | zero => simp [firstFree]
  | succ n ih =>
    simp only [firstFree]
    split
    · rename_i hfree
      simp only [reduceCtorEq, false_iff, not_forall]
      exact ⟨0, by omega, by simpa using hfree⟩
    · rename_i hheld
      rw [ih]
      constructor
      · intro hall k hk
        cases k with
        | zero => simpa using hheld
        | succ k =>
          have e : i + (k + 1) = i + 1 + k := by omega
          rw [e]
          exact hall k (by omega)
      · intro hall k hk
        have e : i + 1 + k = i + (k + 1) := by omega
        rw [e]
        exact hall (k + 1) (by omega)

/-- The search returns a candidate of the style. -/
theorem mem_labels_of_firstFree_eq_some {t : Style} {i n : Nat}
    (h : firstFree r seed t i n = some l) : l ∈ t.labels := by
  obtain ⟨k, -, rfl, -⟩ := firstFree_eq_some h
  exact candidate_mem_labels seed _ t

/-- A limit below `2 ^ 32` keeps an attempt below it when the attempt becomes a 32-bit word. -/
theorem toUInt32_lt {k : Nat} {m : UInt32} (h : k < m.toNat) : k.toUInt32 < m := by
  rw [UInt32.lt_iff_toNat_lt]
  have hm := m.toNat_lt
  simp only [Nat.toUInt32, UInt32.toNat_ofNat']
  omega

theorem toUInt32_toNat (k : UInt32) : k.toNat.toUInt32 = k := by
  simp only [Nat.toUInt32_eq, UInt32.ofNat_toNat]

/-- **The search returns the candidate of the least free attempt below the limit.** -/
theorem firstFree_eq_least {t : Style} {m k : UInt32} (hk : k < m)
    (hbefore : ∀ j < k, r.isFreeFor (candidate seed j t) seed = false)
    (hfree : r.isFreeFor (candidate seed k t) seed = true) :
    firstFree r seed t 0 m.toNat = some (candidate seed k t) := by
  have hk' : k.toNat < m.toNat := UInt32.lt_iff_toNat_lt.mp hk
  cases h : firstFree r seed t 0 m.toNat with
  | none =>
    have hheld := firstFree_eq_none_iff.mp h k.toNat hk'
    rw [Nat.zero_add, toUInt32_toNat, hfree] at hheld
    cases hheld
  | some l =>
    obtain ⟨i, -, hl, hifree, hibefore⟩ := firstFree_eq_some h
    rw [Nat.zero_add] at hl
    -- the attempt found is `k`: one before it would be a free attempt before `k`, one after it
    -- would have passed over the free attempt `k`
    rcases Nat.lt_trichotomy i k.toNat with hlt | heq | hgt
    · rw [← hl, hbefore i.toUInt32 (toUInt32_lt hlt)] at hifree
      cases hifree
    · rw [← hl, heq, toUInt32_toNat]
    · have hheld := hibefore k.toNat hgt
      rw [Nat.zero_add, toUInt32_toNat, hfree] at hheld
      cases hheld

/-- The search finds nothing when the candidate of every attempt below the limit is held by
another seed. -/
theorem firstFree_eq_none_of_held {t : Style} {m : UInt32}
    (h : ∀ k < m, r.isFreeFor (candidate seed k t) seed = false) :
    firstFree r seed t 0 m.toNat = none :=
  firstFree_eq_none_iff.mpr fun k hk => by
    rw [Nat.zero_add]
    exact h _ (toUInt32_lt hk)

/-! ## 2. One resolve -/

namespace Allocator

variable {a a' : Allocator}

/-- **A seed without a label gets the first free candidate**, and the registry gains exactly
that pair: the label was held by nobody, so the insert succeeds. -/
theorem resolve_of_firstFree_eq_some (hr : a.registry.Inverse)
    (hs : a.registry.labelOf seed = none)
    (hf : firstFree a.registry seed a.config.style 0 a.config.maxAttempts.toNat = some l) :
    a.registry.seedOf l = none ∧
      a.resolve seed = .ok (l, { a with registry := a.registry.place l seed }) := by
  obtain ⟨-, -, -, hfree, -⟩ := firstFree_eq_some hf
  have hl := Registry.seedOf_eq_none_of_isFreeFor hr hs hfree
  refine ⟨hl, ?_⟩
  rw [resolve_of_labelOf_eq_none hs, hf]
  dsimp only
  rw [Registry.insert_of_seedOf_eq_none seed hl, hs]
  rfl

/-- A seed without a label, whose every candidate is held, exhausts the label space. -/
theorem resolve_of_firstFree_eq_none (hs : a.registry.labelOf seed = none)
    (hf : firstFree a.registry seed a.config.style 0 a.config.maxAttempts.toNat = none) :
    a.resolve seed = .error (.labelSpaceExhausted seed a.config.maxAttempts) := by
  rw [resolve_of_labelOf_eq_none hs, hf]

/-- **What a successful resolve did**: gave back the label the seed held and changed nothing, or
gave the seed the first free candidate, held by nobody before, and placed that pair. -/
theorem resolve_eq_ok (hr : a.registry.WellFormed) (h : a.resolve seed = .ok (l, a')) :
    (a.registry.labelOf seed = some l ∧ a' = a) ∨
      (a.registry.labelOf seed = none ∧ a.registry.seedOf l = none ∧
        firstFree a.registry seed a.config.style 0 a.config.maxAttempts.toNat = some l ∧
        a' = { a with registry := a.registry.place l seed }) := by
  cases hs : a.registry.labelOf seed with
  | some l₀ =>
    rw [resolve_of_labelOf_eq_some hs] at h
    obtain ⟨rfl, rfl⟩ := Prod.mk.inj (Except.ok.inj h)
    exact .inl ⟨rfl, rfl⟩
  | none =>
    cases hf : firstFree a.registry seed a.config.style 0 a.config.maxAttempts.toNat with
    | none =>
      rw [resolve_of_firstFree_eq_none hs hf] at h
      cases h
    | some l₀ =>
      obtain ⟨hl, hres⟩ := resolve_of_firstFree_eq_some hr.inverse hs hf
      rw [hres] at h
      obtain ⟨rfl, rfl⟩ := Prod.mk.inj (Except.ok.inj h)
      exact .inr ⟨rfl, hl, rfl, rfl⟩

/-- **A successful resolve keeps the registry's invariant.** -/
theorem wellFormed_of_resolve_eq_ok (hr : a.registry.WellFormed)
    (h : a.resolve seed = .ok (l, a')) : a'.registry.WellFormed := by
  rcases resolve_eq_ok hr h with ⟨-, rfl⟩ | ⟨hs, hl, hf, rfl⟩
  · exact hr
  · exact hr.place hl hs (Style.valid_of_mem_labels (mem_labels_of_firstFree_eq_some hf))

/-- After a successful resolve the registry records the pair returned. -/
theorem mem_registry_of_resolve_eq_ok (hr : a.registry.WellFormed)
    (h : a.resolve seed = .ok (l, a')) : (l, seed) ∈ a'.registry.entries := by
  rcases resolve_eq_ok hr h with ⟨hs, rfl⟩ | ⟨-, -, -, rfl⟩
  · exact Registry.mem_of_labelOf_eq_some hs
  · exact Registry.mem_place.mpr (.inl rfl)

/-- After a successful resolve the seed holds the label returned. -/
theorem labelOf_of_resolve_eq_ok (hr : a.registry.WellFormed) (h : a.resolve seed = .ok (l, a')) :
    a'.registry.labelOf seed = some l :=
  (wellFormed_of_resolve_eq_ok hr h).labelOf_eq_some_iff.mpr (mem_registry_of_resolve_eq_ok hr h)

/-! ## 3. One resolve, read off the registry -/

/-- **Exhaustion is the only error of a resolve**, under inverse lookups: the insert after the
search never fails, so neither `labelTaken` nor `seedAlreadyLabelled` comes out. -/
theorem resolve_eq_error (hr : a.registry.Inverse) {e : NamingError}
    (h : a.resolve seed = .error e) : e = .labelSpaceExhausted seed a.config.maxAttempts := by
  cases hs : a.registry.labelOf seed with
  | some l₀ =>
    rw [resolve_of_labelOf_eq_some hs] at h
    cases h
  | none =>
    cases hf : firstFree a.registry seed a.config.style 0 a.config.maxAttempts.toNat with
    | none =>
      rw [resolve_of_firstFree_eq_none hs hf] at h
      exact (Except.error.inj h).symm
    | some l₀ =>
      rw [(resolve_of_firstFree_eq_some hr hs hf).2] at h
      cases h

/-- The attempt after one below a 32-bit limit is counted without wrapping. -/
theorem toNat_add_one_of_lt {k m : UInt32} (h : k < m) : (k + 1).toNat = k.toNat + 1 := by
  have hm := m.toNat_lt
  rw [UInt32.lt_iff_toNat_lt] at h
  rw [UInt32.toNat_add, UInt32.toNat_one]
  omega

/-- **What one resolve does**, on a registry whose two indexes are inverse: a seed that holds a
label gets it back and nothing changes; otherwise the seed gets the candidate of the least
attempt below the limit whose label is free for it, and the registry gains exactly that pair;
when no attempt's label is free, naming fails with exhaustion after `maxAttempts` attempts (and
the caller keeps its allocator). No other error comes out, and counting the attempts never
wraps. -/
theorem resolve_outcome (hr : a.registry.Inverse) (seed : Seed) :
    (∀ l, a.registry.labelOf seed = some l → a.resolve seed = .ok (l, a)) ∧
    (a.registry.labelOf seed = none → ∀ k < a.config.maxAttempts,
      (∀ j < k, a.registry.isFreeFor (candidate seed j a.config.style) seed = false) →
      a.registry.isFreeFor (candidate seed k a.config.style) seed = true →
      a.resolve seed = .ok (candidate seed k a.config.style,
        { a with registry := a.registry.place (candidate seed k a.config.style) seed })) ∧
    (a.registry.labelOf seed = none →
      (∀ k < a.config.maxAttempts,
        a.registry.isFreeFor (candidate seed k a.config.style) seed = false) →
      a.resolve seed = .error (.labelSpaceExhausted seed a.config.maxAttempts)) ∧
    (∀ l o, a.resolve seed ≠ .error (.labelTaken l o)) ∧
    (∀ s e, a.resolve seed ≠ .error (.seedAlreadyLabelled s e)) ∧
    (∀ k < a.config.maxAttempts, (k + 1).toNat = k.toNat + 1) := by
  refine ⟨fun l hs => resolve_of_labelOf_eq_some hs, fun hs k hk hbefore hfree => ?_,
    fun hs hheld => resolve_of_firstFree_eq_none hs (firstFree_eq_none_of_held hheld),
    fun l o h => ?_, fun s e h => ?_, fun k hk => toNat_add_one_of_lt hk⟩
  · exact (resolve_of_firstFree_eq_some hr hs (firstFree_eq_least hk hbefore hfree)).2
  · cases resolve_eq_error hr h
  · cases resolve_eq_error hr h

/-- The default configuration over a registry where `Orange Peafowl` is held by seed `b`,
resolving seed `a`. -/
theorem resolve_outcome_one_pair :
    (Allocator.mk {} ⟨[(⟨"Orange", "Peafowl"⟩, "b")]⟩).registry.Inverse ∧
    ((∀ l, (Registry.mk [(⟨"Orange", "Peafowl"⟩, "b")]).labelOf "a" = some l →
        (Allocator.mk {} ⟨[(⟨"Orange", "Peafowl"⟩, "b")]⟩).resolve "a" =
          .ok (l, (Allocator.mk {} ⟨[(⟨"Orange", "Peafowl"⟩, "b")]⟩))) ∧
      ((Registry.mk [(⟨"Orange", "Peafowl"⟩, "b")]).labelOf "a" = none →
        ∀ k < (1000 : UInt32),
        (∀ j < k, (Registry.mk [(⟨"Orange", "Peafowl"⟩, "b")]).isFreeFor
          (candidate "a" j .colorAnimal) "a" = false) →
        (Registry.mk [(⟨"Orange", "Peafowl"⟩, "b")]).isFreeFor
          (candidate "a" k .colorAnimal) "a" = true →
        (Allocator.mk {} ⟨[(⟨"Orange", "Peafowl"⟩, "b")]⟩).resolve "a" =
          .ok (candidate "a" k .colorAnimal,
            ⟨{}, (Registry.mk [(⟨"Orange", "Peafowl"⟩, "b")]).place
              (candidate "a" k .colorAnimal) "a"⟩)) ∧
      ((Registry.mk [(⟨"Orange", "Peafowl"⟩, "b")]).labelOf "a" = none →
        (∀ k < (1000 : UInt32),
          (Registry.mk [(⟨"Orange", "Peafowl"⟩, "b")]).isFreeFor
            (candidate "a" k .colorAnimal) "a" = false) →
        (Allocator.mk {} ⟨[(⟨"Orange", "Peafowl"⟩, "b")]⟩).resolve "a" =
          .error (.labelSpaceExhausted "a" 1000)) ∧
      (∀ l o, (Allocator.mk {} ⟨[(⟨"Orange", "Peafowl"⟩, "b")]⟩).resolve "a" ≠
        .error (.labelTaken l o)) ∧
      (∀ s e, (Allocator.mk {} ⟨[(⟨"Orange", "Peafowl"⟩, "b")]⟩).resolve "a" ≠
        .error (.seedAlreadyLabelled s e)) ∧
      (∀ k < (1000 : UInt32), (k + 1).toNat = k.toNat + 1)) :=
  have hr : (Allocator.mk {} ⟨[(⟨"Orange", "Peafowl"⟩, "b")]⟩).registry.Inverse :=
    Registry.WellFormed.inverse ⟨List.pairwise_singleton _ _, List.nodup_singleton _,
      fun e he => by
        rw [List.mem_singleton.mp he]
        exact Label.parse?_text (by decide) (by decide)⟩
  ⟨hr, resolve_outcome hr "a"⟩

end Allocator

end PlotLabels
