import PlotLabels.Proofs.Registry.Invariant
/-!
# What an insert does

`Registry.insert` checks the label index first and the seed index second. Read off the two
lookups, its outcome falls into four cases, and each case is an `iff`:

* the pair is already there: success, and the registry is unchanged (`insert_eq_ok_self_iff`);
* the label is held by another seed `o`: `labelTaken l o` (`insert_eq_labelTaken_iff`);
* the label is free and the seed holds another label `e`: `seedAlreadyLabelled s e`
  (`insert_eq_seedAlreadyLabelled_iff`), and `e` is not `l` when the lookups are inverse;
* otherwise the pair is placed (`insert_of_free`), and both lookups gain exactly that pair,
  every other answer unchanged (`seedOf_place`, `labelOf_place`).

A failed insert returns no registry, so the caller keeps the one it had. `isFreeFor` is the
first check alone (`isFreeFor_iff_not_labelTaken`). `Registry.Inverse` is the invariant the
program keeps between its two indexes; `insert_outcome` gathers the four cases under it.
-/

namespace PlotLabels.Registry

variable {r : Registry} {l l' : Label} {s s' : Seed}

/-- The label index and the seed index of a registry are inverse: a label is held by a seed
exactly when the seed holds the label. -/
def Inverse (r : Registry) : Prop :=
  ∀ l s, r.seedOf l = some s ↔ r.labelOf s = some l

theorem WellFormed.inverse (hr : r.WellFormed) : r.Inverse :=
  fun _ _ => hr.seedOf_eq_some_iff_labelOf

theorem inverse_empty : Registry.empty.Inverse := by
  intro l s
  simp

/-! ## 1. Placing a pair, seen through the lookups -/

/-- The first entry answers a lookup when its label is the one looked up. -/
theorem lookup_cons_eq_ite (x : Label × Seed) (xs : List (Label × Seed)) (l : Label) :
    (x :: xs).lookup l = if l = x.1 then some x.2 else xs.lookup l := by
  obtain ⟨k, v⟩ := x
  rw [List.lookup_cons]
  by_cases e : l = k
  · simp [e]
  · simp [e, beq_eq_false_iff_ne.mpr e]

/-- The first entry answers a search by seed when its seed is the one searched for. -/
theorem find?_cons_eq_ite (x : Label × Seed) (xs : List (Label × Seed)) (s : Seed) :
    ((x :: xs).find? (·.2 == s)).map (·.1) =
      if x.2 = s then some x.1 else (xs.find? (·.2 == s)).map (·.1) := by
  by_cases e : x.2 = s
  · simp [e]
  · simp [e]

/-- Placing a pair whose label is absent answers that label with the pair's seed, and every
other label as before. -/
theorem lookup_insertSorted {xs : List (Label × Seed)} (h : xs.lookup l = none) :
    (insertSorted (l, s) xs).lookup l' = if l' = l then some s else xs.lookup l' := by
  induction xs with
  | nil => simp [insertSorted, lookup_cons_eq_ite]
  | cons x xs ih =>
    rw [lookup_cons_eq_ite] at h
    have hx : l ≠ x.1 := fun e => by simp [e] at h
    have hxs : xs.lookup l = none := by simpa [hx] using h
    unfold insertSorted
    split
    · exact lookup_cons_eq_ite _ _ l'
    · rw [lookup_cons_eq_ite, lookup_cons_eq_ite, ih hxs]
      by_cases e : l' = x.1
      · -- the entry ahead of the new pair answers, and its label is not the new one
        simp [e, Ne.symm hx]
      · simp [e]

/-- Placing a pair whose seed is absent answers that seed with the pair's label, and every
other seed as before. -/
theorem find?_insertSorted {xs : List (Label × Seed)} (h : xs.find? (·.2 == s) = none) :
    ((insertSorted (l, s) xs).find? (·.2 == s')).map (·.1) =
      if s' = s then some l else (xs.find? (·.2 == s')).map (·.1) := by
  induction xs with
  | nil =>
    rw [insertSorted, find?_cons_eq_ite]
    by_cases e : s' = s
    · simp [e]
    · simp [e, Ne.symm e]
  | cons x xs ih =>
    have hx : x.2 ≠ s ∧ xs.find? (·.2 == s) = none := by simpa using h
    unfold insertSorted
    split
    · rw [find?_cons_eq_ite]
      by_cases e : s' = s
      · simp [e]
      · simp [e, Ne.symm e]
    · rw [find?_cons_eq_ite, find?_cons_eq_ite, ih hx.2]
      by_cases e : x.2 = s'
      · -- the entry ahead of the new pair answers, and its seed is not the new one
        have hne : s' ≠ s := e ▸ hx.1
        simp [e, hne]
      · simp [e]

/-- **Placing a pair extends the label index by exactly that pair.** -/
theorem seedOf_place (hl : r.seedOf l = none) :
    (r.place l s).seedOf = Function.update r.seedOf l (some s) := by
  funext l'
  simp only [seedOf, place, Function.update_apply]
  exact lookup_insertSorted hl

/-- **Placing a pair extends the seed index by exactly that pair.** -/
theorem labelOf_place (hs : r.labelOf s = none) :
    (r.place l s).labelOf = Function.update r.labelOf s (some l) := by
  have hs' : r.entries.find? (·.2 == s) = none := Option.map_eq_none_iff.mp hs
  funext s'
  simp only [labelOf, place, Function.update_apply]
  exact find?_insertSorted hs'

theorem place_ne_self : r.place l s ≠ r := by
  intro h
  have hsize := congrArg Registry.size h
  rw [size_place] at hsize
  omega

/-! ## 2. The four outcomes -/

/-- **The insert changes nothing exactly when the pair is already there.** -/
theorem insert_eq_ok_self_iff : r.insert l s = .ok r ↔ r.seedOf l = some s := by
  constructor
  · intro h
    rcases insert_eq_ok h with ⟨hl, -⟩ | ⟨-, -, hp⟩
    · exact hl
    · exact absurd hp.symm place_ne_self
  · intro hl
    rw [insert_of_seedOf_eq_some s hl, if_pos rfl]

/-- **The insert reports the label taken exactly when another seed holds it.** -/
theorem insert_eq_labelTaken_iff {o : Seed} :
    r.insert l s = .error (.labelTaken l o) ↔ r.seedOf l = some o ∧ o ≠ s := by
  cases hl : r.seedOf l with
  | some owner =>
    rw [insert_of_seedOf_eq_some s hl]
    by_cases ho : owner = s
    · simp only [ho, if_true, reduceCtorEq, Option.some.injEq, false_iff, not_and, not_not]
      exact Eq.symm
    · simp only [ho, if_false, Except.error.injEq, NamingError.labelTaken.injEq, true_and,
        Option.some.injEq]
      constructor
      · rintro rfl
        exact ⟨rfl, ho⟩
      · rintro ⟨rfl, -⟩
        rfl
  | none =>
    rw [insert_of_seedOf_eq_none s hl]
    cases r.labelOf s <;> simp

/-- **The insert reports the seed labelled exactly when the label is free and the seed holds
a label.** -/
theorem insert_eq_seedAlreadyLabelled_iff {e : Label} :
    r.insert l s = .error (.seedAlreadyLabelled s e) ↔
      r.seedOf l = none ∧ r.labelOf s = some e := by
  cases hl : r.seedOf l with
  | some owner =>
    rw [insert_of_seedOf_eq_some s hl]
    by_cases ho : owner = s <;> simp [ho]
  | none =>
    rw [insert_of_seedOf_eq_none s hl]
    cases r.labelOf s <;> simp

/-- **A free label and an unlabelled seed: the pair is placed.** -/
theorem insert_of_free (hl : r.seedOf l = none) (hs : r.labelOf s = none) :
    r.insert l s = .ok (r.place l s) := by
  rw [insert_of_seedOf_eq_none s hl, hs]
  rfl

/-- Under inverse lookups, the label a seed already holds is not a free label. -/
theorem Inverse.ne_of_labelOf (hr : r.Inverse) (hl : r.seedOf l = none) {e : Label}
    (he : r.labelOf s = some e) : e ≠ l := by
  rintro rfl
  rw [(hr e s).mpr he] at hl
  cases hl

/-- **A label is free for a seed exactly when inserting the pair does not find it taken.** -/
theorem isFreeFor_iff_not_labelTaken :
    r.isFreeFor l s = true ↔ ∀ o, r.insert l s ≠ .error (.labelTaken l o) := by
  simp only [ne_eq, insert_eq_labelTaken_iff, not_and, not_not, isFreeFor_eq_true_iff]
  cases r.seedOf l with
  | none => simp
  | some owner =>
    simp only [reduceCtorEq, false_or, Option.some.injEq]
    exact ⟨fun h o ho => ho ▸ h, fun h => h owner rfl⟩

/-- **What an insert does**, on a registry whose two indexes are inverse: it changes nothing
when the pair is there, reports the label taken when another seed holds it, reports the seed
labelled (with a label other than `l`) when the label is free and the seed holds one, and
otherwise places the pair, extending each index by exactly that pair. The label is free for
the seed exactly when the label is not reported taken. -/
theorem insert_outcome (hr : r.Inverse) (l : Label) (s : Seed) :
    (r.insert l s = .ok r ↔ r.seedOf l = some s) ∧
    (∀ o, r.insert l s = .error (.labelTaken l o) ↔ r.seedOf l = some o ∧ o ≠ s) ∧
    (∀ e, r.insert l s = .error (.seedAlreadyLabelled s e) ↔
      r.seedOf l = none ∧ r.labelOf s = some e) ∧
    (∀ e, r.insert l s = .error (.seedAlreadyLabelled s e) → e ≠ l) ∧
    (r.seedOf l = none → r.labelOf s = none →
      r.insert l s = .ok (r.place l s) ∧
      (r.place l s).seedOf = Function.update r.seedOf l (some s) ∧
      (r.place l s).labelOf = Function.update r.labelOf s (some l)) ∧
    (r.isFreeFor l s = true ↔ ∀ o, r.insert l s ≠ .error (.labelTaken l o)) := by
  refine ⟨insert_eq_ok_self_iff, fun _ => insert_eq_labelTaken_iff,
    fun _ => insert_eq_seedAlreadyLabelled_iff, fun e h => ?_, fun hl hs => ?_,
    isFreeFor_iff_not_labelTaken⟩
  · obtain ⟨hl, he⟩ := insert_eq_seedAlreadyLabelled_iff.mp h
    exact hr.ne_of_labelOf hl he
  · exact ⟨insert_of_free hl hs, seedOf_place hl, labelOf_place hs⟩

/-- `Orange Peafowl` held by seed `a`, and `Teal Otter` offered to `a`. -/
theorem insert_outcome_seed_labelled :
    (Registry.mk [(⟨"Orange", "Peafowl"⟩, "a")]).Inverse ∧
    ((Registry.mk [(⟨"Orange", "Peafowl"⟩, "a")]).insert ⟨"Teal", "Otter"⟩ "a" =
        .ok (Registry.mk [(⟨"Orange", "Peafowl"⟩, "a")]) ↔
      (Registry.mk [(⟨"Orange", "Peafowl"⟩, "a")]).seedOf ⟨"Teal", "Otter"⟩ = some "a") ∧
    (∀ o, (Registry.mk [(⟨"Orange", "Peafowl"⟩, "a")]).insert ⟨"Teal", "Otter"⟩ "a" =
        .error (.labelTaken ⟨"Teal", "Otter"⟩ o) ↔
      (Registry.mk [(⟨"Orange", "Peafowl"⟩, "a")]).seedOf ⟨"Teal", "Otter"⟩ = some o ∧
        o ≠ "a") ∧
    (∀ e, (Registry.mk [(⟨"Orange", "Peafowl"⟩, "a")]).insert ⟨"Teal", "Otter"⟩ "a" =
        .error (.seedAlreadyLabelled "a" e) ↔
      (Registry.mk [(⟨"Orange", "Peafowl"⟩, "a")]).seedOf ⟨"Teal", "Otter"⟩ = none ∧
        (Registry.mk [(⟨"Orange", "Peafowl"⟩, "a")]).labelOf "a" = some e) ∧
    (∀ e, (Registry.mk [(⟨"Orange", "Peafowl"⟩, "a")]).insert ⟨"Teal", "Otter"⟩ "a" =
        .error (.seedAlreadyLabelled "a" e) → e ≠ ⟨"Teal", "Otter"⟩) ∧
    ((Registry.mk [(⟨"Orange", "Peafowl"⟩, "a")]).seedOf ⟨"Teal", "Otter"⟩ = none →
      (Registry.mk [(⟨"Orange", "Peafowl"⟩, "a")]).labelOf "a" = none →
      (Registry.mk [(⟨"Orange", "Peafowl"⟩, "a")]).insert ⟨"Teal", "Otter"⟩ "a" =
          .ok ((Registry.mk [(⟨"Orange", "Peafowl"⟩, "a")]).place ⟨"Teal", "Otter"⟩ "a") ∧
        ((Registry.mk [(⟨"Orange", "Peafowl"⟩, "a")]).place ⟨"Teal", "Otter"⟩ "a").seedOf =
          Function.update (Registry.mk [(⟨"Orange", "Peafowl"⟩, "a")]).seedOf
            ⟨"Teal", "Otter"⟩ (some "a") ∧
        ((Registry.mk [(⟨"Orange", "Peafowl"⟩, "a")]).place ⟨"Teal", "Otter"⟩ "a").labelOf =
          Function.update (Registry.mk [(⟨"Orange", "Peafowl"⟩, "a")]).labelOf "a"
            (some ⟨"Teal", "Otter"⟩)) ∧
    ((Registry.mk [(⟨"Orange", "Peafowl"⟩, "a")]).isFreeFor ⟨"Teal", "Otter"⟩ "a" = true ↔
      ∀ o, (Registry.mk [(⟨"Orange", "Peafowl"⟩, "a")]).insert ⟨"Teal", "Otter"⟩ "a" ≠
        .error (.labelTaken ⟨"Teal", "Otter"⟩ o)) :=
  have hr : (Registry.mk [(⟨"Orange", "Peafowl"⟩, "a")]).Inverse :=
    WellFormed.inverse ⟨List.pairwise_singleton _ _, List.nodup_singleton _, fun e he => by
      rw [List.mem_singleton.mp he]
      exact Label.parse?_text (by decide) (by decide)⟩
  ⟨hr, insert_outcome hr ⟨"Teal", "Otter"⟩ "a"⟩

end PlotLabels.Registry
