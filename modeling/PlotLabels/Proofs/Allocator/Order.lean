import PlotLabels.Proofs.Allocator.Run
/-!
# Resolution order

The label a seed gets depends on which seeds were resolved before it, but only through
collisions. Call the candidate of attempt zero a seed's natural label. Every label an allocator
records is one of its seed's own candidates within the limit of attempts. So a seed `s` of a set
`S` whose natural label is no candidate of another seed of `S` within that limit (`Isolated`)
finds its natural label free whenever it is resolved, in a run over `S` in any order, and gets
it, each time. That the natural labels of `S` are pairwise distinct is not enough: another seed
can reach `s`'s natural label on a retry.

* `Allocator.KeepsNatural`: what a run over `S` keeps, for an isolated seed `s`;
  `KeepsNatural.after`, `KeepsNatural.afterAll`: each step and so each run keeps it.
* `Allocator.KeepsNatural.resolve`: under it, resolving `s` gives its natural label.
* `Allocator.resolve_natural_in_any_order`: two runs over `S`, in any orders and with any
  repetitions, give `s` its natural label at every resolve of it.
-/

namespace PlotLabels.Allocator

variable {a a₀ : Allocator} {c : Config} {S : List Seed} {s : Seed}

/-- When the natural label is free, the search returns it. -/
theorem firstFree_eq_natural {r : Registry} {t : Style} {n : Nat} {l : Label}
    (h : firstFree r s t 0 n = some l) (h₀ : r.isFreeFor (candidate s 0 t) s = true) :
    l = candidate s 0 t := by
  obtain ⟨k, -, rfl, -, hbefore⟩ := firstFree_eq_some h
  cases k with
  | zero => rfl
  | succ k =>
    have hheld : r.isFreeFor (candidate s 0 t) s = false := hbefore 0 (by omega)
    rw [hheld] at h₀
    cases h₀

/-- A seed of `S` whose natural label is no candidate, within the limit of attempts, of another
seed of `S`. -/
def Isolated (c : Config) (S : List Seed) (s : Seed) : Prop :=
  ∀ s' ∈ S, s' ≠ s → ∀ k : UInt32, k < c.maxAttempts →
    candidate s' k c.style ≠ candidate s 0 c.style

/-- What a run over the seeds of `S` keeps, for a seed `s`. -/
structure KeepsNatural (c : Config) (S : List Seed) (s : Seed) (a : Allocator) : Prop where
  config : a.config = c
  reachable : a.registry.Reachable
  /-- Every recorded seed is a seed of `S`, holding one of its own candidates within the limit. -/
  own : ∀ e ∈ a.registry.entries, e.2 ∈ S ∧
    ∃ k : UInt32, k < c.maxAttempts ∧ candidate e.2 k c.style = e.1
  /-- `s`, once recorded, holds its natural label. -/
  natural : ∀ l, (l, s) ∈ a.registry.entries → l = candidate s 0 c.style

theorem keepsNatural_new (hnew : Allocator.new c = .ok a₀) : KeepsNatural c S s a₀ := by
  obtain ⟨rfl, -⟩ := eq_of_new_eq_ok hnew
  exact ⟨rfl, .empty, fun e he => absurd he List.not_mem_nil,
    fun l he => absurd he List.not_mem_nil⟩

/-- **The natural label of an isolated seed is free for it**: whoever holds it holds one of
their own candidates, so it is the seed itself. -/
theorem KeepsNatural.isFreeFor (hk : KeepsNatural c S s a) (hiso : Isolated c S s) :
    a.registry.isFreeFor (candidate s 0 c.style) s = true := by
  rw [Registry.isFreeFor_eq_true_iff]
  cases ho : a.registry.seedOf (candidate s 0 c.style) with
  | none => exact .inl rfl
  | some o =>
    obtain ⟨hoS, k, hk', hko⟩ := hk.own _ (Registry.mem_of_seedOf_eq_some ho)
    by_cases hos : o = s
    · exact .inr (hos ▸ rfl)
    · exact absurd hko (hiso o hoS hos k hk')

/-- **One step of a run over `S` keeps what the run keeps.** -/
theorem KeepsNatural.after (hk : KeepsNatural c S s a) (hiso : Isolated c S s) {seed : Seed}
    (hseed : seed ∈ S) : KeepsNatural c S s (a.after seed) := by
  have hr := hk.reachable.wellFormed
  rcases after_eq hr seed with he | ⟨l, -, -, hf, he⟩
  · rw [he]
    exact hk
  · rw [hk.config] at hf
    refine ⟨by rw [he, ← hk.config], he ▸ reachable_after hk.reachable seed, ?_, ?_⟩
    · -- the new pair holds a candidate of its own seed, of an attempt below the limit
      intro e hm
      rw [he] at hm
      rcases Registry.mem_place.mp hm with rfl | hm
      · obtain ⟨k, hk', hl, -⟩ := firstFree_eq_some hf
        exact ⟨hseed, k.toUInt32, toUInt32_lt hk', by rw [← hl, Nat.zero_add]⟩
      · exact hk.own e hm
    · -- a new pair for `s` holds its natural label, which was free
      intro l' hm
      rw [he] at hm
      rcases Registry.mem_place.mp hm with he' | hm
      · obtain ⟨rfl, rfl⟩ := Prod.mk.inj he'
        exact firstFree_eq_natural hf (hk.config ▸ hk.isFreeFor hiso)
      · exact hk.natural l' hm

/-- **A run over `S` keeps it.** -/
theorem KeepsNatural.afterAll (hk : KeepsNatural c S s a) (hiso : Isolated c S s)
    {seeds : List Seed} (hseeds : ∀ x ∈ seeds, x ∈ S) :
    KeepsNatural c S s (a.afterAll seeds) := by
  induction seeds generalizing a with
  | nil => exact hk
  | cons seed seeds ih =>
    exact ih (hk.after hiso (hseeds seed List.mem_cons_self))
      (fun x hx => hseeds x (List.mem_cons_of_mem seed hx))

/-- **An isolated seed is given its natural label**, whether it held it already or not. -/
theorem KeepsNatural.resolve (hk : KeepsNatural c S s a) (hiso : Isolated c S s)
    (hm : c.maxAttempts ≠ 0) : a.resolve s = .ok (candidate s 0 c.style, a.after s) := by
  have hr := hk.reachable.wellFormed
  have hfree := hk.isFreeFor hiso
  rw [← hk.config] at hfree hm ⊢
  cases hs : a.registry.labelOf s with
  | some l =>
    have hl := hk.natural l (hr.labelOf_eq_some_iff.mp hs)
    rw [← hk.config] at hl
    have h := resolve_of_labelOf_eq_some hs
    rw [after_of_resolve_eq_ok h, h, hl]
  | none =>
    cases hf : firstFree a.registry s a.config.style 0 a.config.maxAttempts.toNat with
    | none =>
      -- attempt zero is below the limit, and its label is free
      have hpos : 0 < a.config.maxAttempts.toNat := by
        have := UInt32.toNat_inj.not.mpr hm
        simp only [UInt32.toNat_zero] at this
        omega
      have hheld : a.registry.isFreeFor (candidate s 0 a.config.style) s = false :=
        firstFree_eq_none_iff.mp hf 0 hpos
      rw [hheld] at hfree
      cases hfree
    | some l =>
      have h := (resolve_of_firstFree_eq_some hr.inverse hs hf).2
      rw [after_of_resolve_eq_ok h, h, firstFree_eq_natural hf hfree]

theorem afterAll_append (xs ys : List Seed) :
    a.afterAll (xs ++ ys) = (a.afterAll xs).afterAll ys :=
  List.foldl_append

/-- In one run over `S` from a fresh allocator, every resolve of an isolated seed gives its
natural label, which it holds at the end. -/
theorem resolve_natural_of_run (hnew : Allocator.new c = .ok a₀) (hiso : Isolated c S s)
    {order : List Seed} (horder : ∀ x ∈ order, x ∈ S) :
    (∀ pre post, order = pre ++ s :: post →
      (a₀.afterAll pre).resolve s = .ok (candidate s 0 c.style, (a₀.afterAll pre).after s)) ∧
    (s ∈ order → (a₀.afterAll order).registry.labelOf s = some (candidate s 0 c.style)) := by
  have hm := (eq_of_new_eq_ok hnew).2
  have hk₀ : KeepsNatural c S s a₀ := keepsNatural_new hnew
  have hpre : ∀ pre post, order = pre ++ s :: post →
      KeepsNatural c S s (a₀.afterAll pre) := by
    rintro pre post rfl
    exact hk₀.afterAll hiso fun x hx => horder x (List.mem_append_left _ hx)
  refine ⟨fun pre post e => (hpre pre post e).resolve hiso hm, fun hs => ?_⟩
  obtain ⟨pre, post, e⟩ := List.append_of_mem hs
  have hres := (hpre pre post e).resolve hiso hm
  -- the rest of the run starts from that resolve, and the pair it recorded stays recorded
  have hrest : ((a₀.afterAll pre).after s).Reaches (a₀.afterAll order) := by
    rw [e, afterAll_append, afterAll_cons]
    exact reaches_afterAll post
  have hrec := mem_of_resolve_eq_ok hk₀.reachable (reaches_afterAll pre) hres hrest
  exact ((reaches_afterAll order).wellFormed hk₀.reachable).labelOf_eq_some_iff.mpr hrec

/-- **Resolution order matters only through collisions**: resolving the seeds of `S` from a
fresh allocator in two orders, each seed any number of times and each resolve succeeding or
failing, gives an isolated seed its natural label at every resolve of it in both runs. -/
theorem resolve_natural_in_any_order (hnew : Allocator.new c = .ok a₀) (hiso : Isolated c S s)
    {order₁ order₂ : List Seed} (h₁ : ∀ x ∈ order₁, x ∈ S) (h₂ : ∀ x ∈ order₂, x ∈ S) :
    (∀ pre post, order₁ = pre ++ s :: post →
      (a₀.afterAll pre).resolve s = .ok (candidate s 0 c.style, (a₀.afterAll pre).after s)) ∧
    (∀ pre post, order₂ = pre ++ s :: post →
      (a₀.afterAll pre).resolve s = .ok (candidate s 0 c.style, (a₀.afterAll pre).after s)) ∧
    (s ∈ order₁ → s ∈ order₂ →
      (a₀.afterAll order₁).registry.labelOf s = some (candidate s 0 c.style) ∧
      (a₀.afterAll order₂).registry.labelOf s = some (candidate s 0 c.style)) :=
  ⟨(resolve_natural_of_run hnew hiso h₁).1, (resolve_natural_of_run hnew hiso h₂).1,
    fun hs₁ hs₂ => ⟨(resolve_natural_of_run hnew hiso h₁).2 hs₁,
      (resolve_natural_of_run hnew hiso h₂).2 hs₂⟩⟩

/-- Two seeds with one attempt each, resolved as `a, b, a` in one run and as `b, a` in the
other: `b`'s only candidate is not `a`'s natural label, so `a` gets it in both runs. -/
theorem resolve_natural_two_seeds :
    Allocator.new { maxAttempts := 1 } = .ok ⟨{ maxAttempts := 1 }, .empty⟩ ∧
      Isolated { maxAttempts := 1 } ["a", "b"] "a" ∧
      (∀ x ∈ ["a", "b", "a"], x ∈ ["a", "b"]) ∧ (∀ x ∈ ["b", "a"], x ∈ ["a", "b"]) ∧
      ((∀ pre post, ["a", "b", "a"] = pre ++ "a" :: post →
          ((Allocator.mk { maxAttempts := 1 } .empty).afterAll pre).resolve "a" =
            .ok (candidate "a" 0 .colorAnimal,
              ((Allocator.mk { maxAttempts := 1 } .empty).afterAll pre).after "a")) ∧
        (∀ pre post, ["b", "a"] = pre ++ "a" :: post →
          ((Allocator.mk { maxAttempts := 1 } .empty).afterAll pre).resolve "a" =
            .ok (candidate "a" 0 .colorAnimal,
              ((Allocator.mk { maxAttempts := 1 } .empty).afterAll pre).after "a")) ∧
        ("a" ∈ ["a", "b", "a"] → "a" ∈ ["b", "a"] →
          ((Allocator.mk { maxAttempts := 1 } .empty).afterAll ["a", "b", "a"]).registry.labelOf
              "a" = some (candidate "a" 0 .colorAnimal) ∧
            ((Allocator.mk { maxAttempts := 1 } .empty).afterAll ["b", "a"]).registry.labelOf
              "a" = some (candidate "a" 0 .colorAnimal))) := by
  have hiso : Isolated { maxAttempts := 1 } ["a", "b"] "a" := by
    intro s' hs' hne k hk
    -- the only other seed is `b`, and the only attempt below one is zero
    have hb : s' = "b" := by
      simp only [List.mem_cons, List.not_mem_nil, or_false] at hs'
      exact hs'.resolve_left hne
    have hk₀ : k = 0 := UInt32.toNat_inj.mp (by simpa [UInt32.lt_iff_toNat_lt] using hk)
    subst hb hk₀
    decide +kernel
  have h₁ : ∀ x ∈ ["a", "b", "a"], x ∈ ["a", "b"] := by simp
  have h₂ : ∀ x ∈ ["b", "a"], x ∈ ["a", "b"] := by simp
  exact ⟨rfl, hiso, h₁, h₂,
    resolve_natural_in_any_order (c := { maxAttempts := 1 }) rfl hiso h₁ h₂⟩

end PlotLabels.Allocator
