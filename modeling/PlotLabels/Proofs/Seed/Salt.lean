import PlotLabels.Candidate
/-!
# Salt collisions

A retry hashes the seed, a hyphen and the attempt's decimal numeral. A numeral holds no hyphen
and spells one number only, so in the salt of a retry the last hyphen marks where the seed
ends. Two salts are therefore equal only when they come from the same seed and attempt, or
when one of them is a first attempt whose seed spells the other: seed `x` on attempt 1 and
seed `x-1` on attempt 0 share a salt, and nothing else collides.

* `hyphen_not_mem_decimal`, `decimal_inj`: a numeral has no hyphen and names one number.
* `eq_of_append_cons_eq`: two lists that end in a separator followed by separator-free tails
  are cut there the same way.
* `retry_salted_eq_iff`: two retries share a salt only as the same seed and attempt.
* `salted_eq_salted_iff`: exactly when two salts coincide.
* `ne_retry_salt`, `salted_injective`: the attempts of one seed have pairwise distinct salts.
* `candidate_salted`: a candidate is the first-attempt candidate of its salt.
* `salt_collisions`: the three together.
-/

namespace PlotLabels.Seed

/-! ## 1. Decimal numerals -/

theorem hyphen_not_mem_decimal (n : Nat) : '-' ∉ (toString n).toList := by
  intro h
  rw [Nat.toString_eq_repr, Nat.toList_repr] at h
  have hdigit : '-'.isDigit = true := Nat.isDigit_of_mem_toDigits (by decide) (by decide) h
  exact absurd hdigit (by decide)

/-- **A decimal numeral names one number.** -/
theorem decimal_inj {m n : Nat} (h : toString m = toString n) : m = n := by
  have hd : Nat.toDigits 10 m = Nat.toDigits 10 n := by
    simpa only [Nat.toString_eq_repr, Nat.toList_repr] using congrArg String.toList h
  calc m = Nat.ofDigitChars 10 (Nat.toDigits 10 m) 0 := Nat.ofDigitChars_ten_toDigits.symm
    _ = Nat.ofDigitChars 10 (Nat.toDigits 10 n) 0 := by rw [hd]
    _ = n := Nat.ofDigitChars_ten_toDigits

/-! ## 2. Cutting at the last separator -/

/-- Two lists that end in `c` followed by tails without `c` agree before and after it. -/
theorem eq_of_append_cons_eq {α : Type} {c : α} {x₁ x₂ z₁ z₂ : List α} (h₁ : c ∉ z₁)
    (h₂ : c ∉ z₂) (h : x₁ ++ c :: z₁ = x₂ ++ c :: z₂) : x₁ = x₂ ∧ z₁ = z₂ := by
  rcases List.append_eq_append_iff.mp h with ⟨a, rfl, ha⟩ | ⟨a, rfl, ha⟩
  · cases a with
    | nil => simpa using ha
    | cons d a =>
      -- a longer first part would leave a `c` in the tail `z₁`
      obtain ⟨-, rfl⟩ := List.cons_eq_cons.mp ha
      exact absurd (by simp) h₁
  · cases a with
    | nil => simpa using ha.symm
    | cons d a =>
      obtain ⟨-, rfl⟩ := List.cons_eq_cons.mp ha
      exact absurd (by simp) h₂

/-! ## 3. Salts -/

theorem toList_salted_retry (s : Seed) {n : UInt32} (h : n ≠ 0) :
    (s.salted n).toList = s.toList ++ '-' :: (toString n.toNat).toList := by
  rw [salted_ne_zero s h]
  simp [String.toList_append]

/-- **Two retries share a salt only as the same seed and attempt.** -/
theorem retry_salted_eq_iff {s s' : Seed} {n n' : UInt32} (hn : n ≠ 0) (hn' : n' ≠ 0) :
    s.salted n = s'.salted n' ↔ s = s' ∧ n = n' := by
  constructor
  · intro h
    have hl := congrArg String.toList h
    rw [toList_salted_retry s hn, toList_salted_retry s' hn'] at hl
    obtain ⟨hs, hd⟩ :=
      eq_of_append_cons_eq (hyphen_not_mem_decimal _) (hyphen_not_mem_decimal _) hl
    have hnat : n.toNat = n'.toNat := decimal_inj (String.toList_inj.mp hd)
    exact ⟨String.toList_inj.mp hs, UInt32.toNat_inj.mp hnat⟩
  · rintro ⟨rfl, rfl⟩
    rfl

/-- **Salt collisions.** Two salts are equal exactly when they are the same seed's same
attempt, or one is a first attempt whose seed is the other's retry salt. -/
theorem salted_eq_salted_iff (s s' : Seed) (n n' : UInt32) :
    s.salted n = s'.salted n' ↔
      (s = s' ∧ n = n') ∨ (n = 0 ∧ 0 < n' ∧ s = s' ++ "-" ++ toString n'.toNat) ∨
        (n' = 0 ∧ 0 < n ∧ s' = s ++ "-" ++ toString n.toNat) := by
  -- the salt of a first attempt is the seed itself, so split on which attempts are first
  by_cases hn : n = 0 <;> by_cases hn' : n' = 0
  · subst hn hn'
    simp
  · have hpos : 0 < n' := UInt32.pos_iff_ne_zero.mpr hn'
    subst hn
    simp [salted_ne_zero s' hn', hn', Ne.symm hn', hpos]
  · have hpos : 0 < n := UInt32.pos_iff_ne_zero.mpr hn
    subst hn'
    simp [salted_ne_zero s hn, hn, hpos, eq_comm]
  · simp [retry_salted_eq_iff hn hn', hn, hn']

/-- A seed is never its own retry salt: that would be one hyphen longer than itself. -/
theorem ne_retry_salt (s : Seed) (d : String) : s ≠ s ++ "-" ++ d := by
  intro e
  have hlen := congrArg String.length e
  simp only [String.length_append] at hlen
  have hhyphen : "-".length = 1 := rfl
  omega

/-- **The attempts of one seed have pairwise distinct salts.** -/
theorem salted_injective (s : Seed) : Function.Injective s.salted := by
  intro n n' h
  rcases (salted_eq_salted_iff s s n n').mp h with ⟨-, e⟩ | ⟨-, -, e⟩ | ⟨-, -, e⟩
  · exact e
  · exact absurd e (ne_retry_salt s _)
  · exact absurd e (ne_retry_salt s _)

/-- **A candidate is the first-attempt candidate of its salt.** -/
theorem candidate_salted (s : Seed) (n : UInt32) (t : Style) :
    candidate s n t = candidate (s.salted n) 0 t := by
  simp only [candidate, salted_zero]

/-- **Salt collisions are exactly the alias of a retry and a first attempt**, so one seed's
attempts use distinct salts, and each attempt's candidate is the first-attempt candidate of
its salt. -/
theorem salt_collisions :
    (∀ (s s' : Seed) (n n' : UInt32), s.salted n = s'.salted n' ↔
      (s = s' ∧ n = n') ∨ (n = 0 ∧ 0 < n' ∧ s = s' ++ "-" ++ toString n'.toNat) ∨
        (n' = 0 ∧ 0 < n ∧ s' = s ++ "-" ++ toString n.toNat)) ∧
    (∀ s : Seed, Function.Injective s.salted) ∧
    (∀ (s : Seed) (n : UInt32) (t : Style), candidate s n t = candidate (s.salted n) 0 t) :=
  ⟨salted_eq_salted_iff, salted_injective, candidate_salted⟩

end PlotLabels.Seed
