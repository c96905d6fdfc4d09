import PlotLabels.Proofs.Registry.Reachable
/-!
# Runs of resolves

A run resolves one seed after another on the same allocator; a call that fails returns no
allocator, and the next call goes to the one before it. Over every run from an allocator built
on a reachable registry, labels behave as the allocator promises (`Allocator.RunGuarantees`):

* stability: a seed that got a label gets it back at every later resolve, which changes nothing;
* uniqueness: two seeds never get the same label, nor a label the starting registry gave to
  another seed;
* monotonicity: a pair once recorded stays recorded, a failed resolve changes nothing, and a
  successful one records one new pair exactly when the seed had none.

The proofs follow one pattern: `Allocator.after_eq` says once what a step can do,
`Allocator.Reaches.preserves` carries a property kept by every step along a run, and the facts
about runs (`Reaches.reachable`, `Reaches.mem`, `Reaches.config`) come from it, through
`Reaches.preserves_of_wellFormed` where a step needs the registry's invariant.

An allocator shared between threads runs the same resolves. Its lock lets one call in at a
time, no call poisons it, and each call answers as the allocator behind the lock
(`SharedAllocator.Reaches.eq_ofAllocator`), so its runs keep the same guarantees.
-/

namespace PlotLabels.Allocator

variable {a a₀ a₁ b b₁ : Allocator} {s s₁ s₂ : Seed} {l l₁ l₂ : Label}

/-! ## 1. Steps and runs -/

/-- The allocator after a resolve of `seed`: the one the call returns when it succeeds, the same
one when it fails. -/
def after (a : Allocator) (seed : Seed) : Allocator :=
  match a.resolve seed with
  | .ok (_, a') => a'
  | .error _ => a

/-- The allocators a run of resolves reaches from `a`, each resolve succeeding or failing. -/
inductive Reaches (a : Allocator) : Allocator → Prop where
  | start : Reaches a a
  | resolve {b : Allocator} (h : Reaches a b) (seed : Seed) : Reaches a (b.after seed)

/-- The allocator after resolving `seeds` in order. -/
def afterAll (a : Allocator) (seeds : List Seed) : Allocator :=
  seeds.foldl after a

/-- A built allocator holds the configuration it was given, which allows an attempt, and the
registry. -/
theorem eq_of_new_eq_ok {c : Config} {r : Registry} (h : Allocator.new c r = .ok a) :
    a = ⟨c, r⟩ ∧ c.maxAttempts ≠ 0 := by
  by_cases hm : c.maxAttempts = 0
  · simp [Allocator.new, Config.validate, hm] at h
  · simp only [Allocator.new, Config.validate, hm, if_false] at h
    exact ⟨(Except.ok.inj h).symm, hm⟩

theorem after_of_resolve_eq_ok (h : a.resolve s = .ok (l, a₁)) : a.after s = a₁ := by
  unfold after
  rw [h]

theorem after_of_resolve_eq_error {e : NamingError} (h : a.resolve s = .error e) :
    a.after s = a := by
  unfold after
  rw [h]

@[simp] theorem afterAll_nil : a.afterAll [] = a := rfl

@[simp] theorem afterAll_cons (seeds : List Seed) :
    a.afterAll (s :: seeds) = (a.after s).afterAll seeds := rfl

theorem Reaches.trans (hab : a.Reaches b) (hbc : b.Reaches b₁) : a.Reaches b₁ := by
  induction hbc with
  | start => exact hab
  | resolve _ seed ih => exact .resolve ih seed

/-- A successful resolve is a step of a run. -/
theorem Reaches.resolve_ok (h : a₀.Reaches a) (hres : a.resolve s = .ok (l, a₁)) :
    a₀.Reaches a₁ :=
  after_of_resolve_eq_ok hres ▸ .resolve h s

theorem reaches_afterAll (seeds : List Seed) : a.Reaches (a.afterAll seeds) := by
  induction seeds generalizing a with
  | nil => exact .start
  | cons seed seeds ih => exact (Reaches.resolve .start seed).trans ih

/-- **A property that every resolve keeps holds all along a run.** -/
theorem Reaches.preserves (P : Allocator → Prop) (hstep : ∀ a seed, P a → P (a.after seed))
    (h : a.Reaches b) (ha : P a) : P b := by
  induction h with
  | start => exact ha
  | resolve _ seed ih => exact hstep _ seed ih

/-! ## 2. What one step does -/

/-- **What a step can do**: leave the allocator as it was (a seed that held a label, or a failed
resolve), or place a new pair for an unlabelled seed and a label nobody held. -/
theorem after_eq (hr : a.registry.WellFormed) (seed : Seed) :
    a.after seed = a ∨
      ∃ l, a.registry.labelOf seed = none ∧ a.registry.seedOf l = none ∧
        firstFree a.registry seed a.config.style 0 a.config.maxAttempts.toNat = some l ∧
        a.after seed = { a with registry := a.registry.place l seed } := by
  cases h : a.resolve seed with
  | error e => exact .inl (after_of_resolve_eq_error h)
  | ok p =>
    obtain ⟨l, a'⟩ := p
    rw [after_of_resolve_eq_ok h]
    rcases resolve_eq_ok hr h with ⟨-, rfl⟩ | ⟨hs, hl, hf, rfl⟩
    · exact .inl rfl
    · exact .inr ⟨l, hs, hl, hf, rfl⟩

/-- A step keeps the registry reachable. -/
theorem reachable_after (hr : a.registry.Reachable) (seed : Seed) :
    (a.after seed).registry.Reachable := by
  cases h : a.resolve seed with
  | error e => rw [after_of_resolve_eq_error h]; exact hr
  | ok p =>
    obtain ⟨l, a'⟩ := p
    rw [after_of_resolve_eq_ok h]
    exact .resolve (c := a.config) hr h

theorem config_after (hr : a.registry.WellFormed) (seed : Seed) :
    (a.after seed).config = a.config := by
  rcases after_eq hr seed with h | ⟨l, -, -, -, h⟩ <;> rw [h]

theorem mem_after (hr : a.registry.WellFormed) (seed : Seed) {e : Label × Seed}
    (he : e ∈ a.registry.entries) : e ∈ (a.after seed).registry.entries := by
  rcases after_eq hr seed with h | ⟨l, -, -, -, h⟩ <;> rw [h]
  · exact he
  · exact Registry.mem_place.mpr (.inr he)

/-! ## 3. What a run keeps -/

/-- **Every registry along a run is reachable**, so the registry's invariant holds on it. -/
theorem Reaches.reachable (hr : a.registry.Reachable) (h : a.Reaches b) :
    b.registry.Reachable :=
  Reaches.preserves (fun x => x.registry.Reachable) (fun _ seed hx => reachable_after hx seed)
    h hr

theorem Reaches.wellFormed (hr : a.registry.Reachable) (h : a.Reaches b) :
    b.registry.WellFormed :=
  (h.reachable hr).wellFormed

/-- A property that every resolve on a well-formed registry keeps holds along a run from a
reachable registry: reachability goes along with it, and gives the invariant at each step. -/
theorem Reaches.preserves_of_wellFormed (P : Allocator → Prop)
    (hstep : ∀ a seed, a.registry.WellFormed → P a → P (a.after seed))
    (hr : a.registry.Reachable) (h : a.Reaches b) (ha : P a) : P b :=
  (Reaches.preserves (fun x => x.registry.Reachable ∧ P x)
    (fun x seed ⟨hx, hp⟩ => ⟨reachable_after hx seed, hstep x seed hx.wellFormed hp⟩)
    h ⟨hr, ha⟩).2

theorem Reaches.config (hr : a.registry.Reachable) (h : a.Reaches b) : b.config = a.config :=
  Reaches.preserves_of_wellFormed (fun x => x.config = a.config)
    (fun _ seed hx hc => (config_after hx seed).trans hc) hr h rfl

/-- **A recorded pair stays recorded along a run.** -/
theorem Reaches.mem (hr : a.registry.Reachable) (h : a.Reaches b) {e : Label × Seed}
    (he : e ∈ a.registry.entries) : e ∈ b.registry.entries :=
  Reaches.preserves_of_wellFormed (fun x => e ∈ x.registry.entries)
    (fun _ seed hx hm => mem_after hx seed hm) hr h he

/-! ## 4. The guarantees of a run -/

/-- What every run of resolves from `a₀` guarantees. -/
structure RunGuarantees (a₀ : Allocator) : Prop where
  /-- A seed that got a label gets it back at every later resolve, which changes nothing, and
  both lookups show the pair. -/
  stable : ∀ {a a₁ b s l}, a₀.Reaches a → a.resolve s = .ok (l, a₁) → a₁.Reaches b →
    b.resolve s = .ok (l, b) ∧ b.registry.labelOf s = some l ∧
      b.registry.seedOf l = some s
  /-- Two different seeds never get the same label. -/
  unique : ∀ {a a₁ b b₁ s₁ s₂ l₁ l₂}, a₀.Reaches a → a.resolve s₁ = .ok (l₁, a₁) →
    a₁.Reaches b → b.resolve s₂ = .ok (l₂, b₁) → s₁ ≠ s₂ → l₁ ≠ l₂
  /-- No seed gets a label the starting registry gave to another seed. -/
  keeps_initial : ∀ {a a₁ s l o}, a₀.Reaches a → a.resolve s = .ok (l, a₁) →
    a₀.registry.seedOf l = some o → o = s
  /-- A pair once recorded is recorded, both ways, in every later state. -/
  monotone : ∀ {a b l s}, a₀.Reaches a → a.Reaches b → a.registry.seedOf l = some s →
    b.registry.seedOf l = some s ∧ b.registry.labelOf s = some l
  /-- A failed resolve changes nothing. -/
  failed_unchanged : ∀ {a s e}, a₀.Reaches a → a.resolve s = .error e → a.after s = a
  /-- A successful resolve records nothing when the seed held its label, and exactly the one
  new pair when it held none. -/
  adds_at_most_one : ∀ {a a₁ s l}, a₀.Reaches a → a.resolve s = .ok (l, a₁) →
    (a.registry.labelOf s = some l ∧ a₁ = a) ∨
      (a.registry.labelOf s = none ∧ a₁.registry.size = a.registry.size + 1 ∧
        ∀ e, e ∈ a₁.registry.entries ↔ e = (l, s) ∨ e ∈ a.registry.entries)

section Guarantees

variable (hr₀ : a₀.registry.Reachable)
include hr₀

/-- The pair a successful resolve returns is recorded from then on. -/
theorem mem_of_resolve_eq_ok (ha : a₀.Reaches a) (h : a.resolve s = .ok (l, a₁))
    (hb : a₁.Reaches b) : (l, s) ∈ b.registry.entries :=
  hb.mem ((ha.resolve_ok h).reachable hr₀) (mem_registry_of_resolve_eq_ok (ha.wellFormed hr₀) h)

theorem resolve_stable (ha : a₀.Reaches a) (h : a.resolve s = .ok (l, a₁))
    (hb : a₁.Reaches b) :
    b.resolve s = .ok (l, b) ∧ b.registry.labelOf s = some l ∧
      b.registry.seedOf l = some s := by
  have hrb : b.registry.WellFormed := ((ha.resolve_ok h).trans hb).wellFormed hr₀
  have hm := mem_of_resolve_eq_ok hr₀ ha h hb
  have hl : b.registry.labelOf s = some l := hrb.labelOf_eq_some_iff.mpr hm
  exact ⟨resolve_of_labelOf_eq_some hl, hl, hrb.seedOf_eq_some_iff.mpr hm⟩

theorem resolve_label_ne (ha : a₀.Reaches a) (h₁ : a.resolve s₁ = .ok (l₁, a₁))
    (hb : a₁.Reaches b) (h₂ : b.resolve s₂ = .ok (l₂, b₁)) (hne : s₁ ≠ s₂) : l₁ ≠ l₂ := by
  rintro rfl
  -- after the second resolve both pairs are recorded, and a label sits in one entry
  have hab : a₀.Reaches b := (ha.resolve_ok h₁).trans hb
  have hm₁ := mem_of_resolve_eq_ok hr₀ ha h₁ (hb.resolve_ok h₂)
  have hm₂ := mem_of_resolve_eq_ok hr₀ hab h₂ .start
  exact hne (((hab.resolve_ok h₂).wellFormed hr₀).seed_eq_of_mem hm₁ hm₂)

theorem resolve_owner_eq {o : Seed} (ha : a₀.Reaches a) (h : a.resolve s = .ok (l, a₁))
    (ho : a₀.registry.seedOf l = some o) : o = s := by
  -- the starting pair is still recorded beside the new one, and a label sits in one entry
  have ha₁ : a₀.Reaches a₁ := ha.resolve_ok h
  have hmo : (l, o) ∈ a₁.registry.entries := ha₁.mem hr₀ (Registry.mem_of_seedOf_eq_some ho)
  have hms := mem_of_resolve_eq_ok hr₀ ha h .start
  exact (ha₁.wellFormed hr₀).seed_eq_of_mem hmo hms

theorem seedOf_of_reaches (ha : a₀.Reaches a) (hb : a.Reaches b)
    (h : a.registry.seedOf l = some s) :
    b.registry.seedOf l = some s ∧ b.registry.labelOf s = some l := by
  have hr : b.registry.WellFormed := (ha.trans hb).wellFormed hr₀
  have hm := hb.mem (ha.reachable hr₀) (Registry.mem_of_seedOf_eq_some h)
  exact ⟨hr.seedOf_eq_some_iff.mpr hm, hr.labelOf_eq_some_iff.mpr hm⟩

theorem resolve_adds_at_most_one (ha : a₀.Reaches a) (h : a.resolve s = .ok (l, a₁)) :
    (a.registry.labelOf s = some l ∧ a₁ = a) ∨
      (a.registry.labelOf s = none ∧ a₁.registry.size = a.registry.size + 1 ∧
        ∀ e, e ∈ a₁.registry.entries ↔ e = (l, s) ∨ e ∈ a.registry.entries) := by
  rcases resolve_eq_ok (ha.wellFormed hr₀) h with h' | ⟨hs, -, -, rfl⟩
  · exact .inl h'
  · exact .inr ⟨hs, Registry.size_place, fun _ => Registry.mem_place⟩

end Guarantees

end PlotLabels.Allocator

/-! ## 5. Shared allocators -/

namespace PlotLabels.SharedAllocator

variable {sb : SharedAllocator}

/-- The shared allocator after a call to `resolve`: the one the call returns when it succeeds,
the same one when it fails. -/
def after (sa : SharedAllocator) (seed : Seed) : SharedAllocator :=
  match sa.resolve seed with
  | .ok (_, sa') => sa'
  | .error _ => sa

/-- The shared allocators that calls to `resolve` reach from `sa`, each call succeeding or
failing. The lock lets one call in at a time, so the calls of all threads, however they
interleave, make one such sequence. -/
inductive Reaches (sa : SharedAllocator) : SharedAllocator → Prop where
  | start : Reaches sa sa
  | resolve {sb : SharedAllocator} (h : Reaches sa sb) (seed : Seed) : Reaches sa (sb.after seed)

/-- Under a lock that is not poisoned, a call answers as the allocator behind the lock. -/
theorem resolve_ofAllocator (a : Allocator) (seed : Seed) :
    (ofAllocator a).resolve seed = (a.resolve seed).map fun r => (r.1, ofAllocator r.2) :=
  rfl

/-- A call leaves the lock unpoisoned, over the allocator a resolve leaves. -/
theorem after_ofAllocator (a : Allocator) (seed : Seed) :
    (ofAllocator a).after seed = ofAllocator (a.after seed) := by
  unfold after Allocator.after
  rw [resolve_ofAllocator]
  cases a.resolve seed <;> rfl

/-- **A run of the shared allocator is a run of the allocator behind its lock**, and the lock is
never poisoned along it. -/
theorem Reaches.eq_ofAllocator {a : Allocator} (h : (ofAllocator a).Reaches sb) :
    ∃ b, a.Reaches b ∧ sb = ofAllocator b := by
  induction h with
  | start => exact ⟨a, .start, rfl⟩
  | resolve _ seed ih =>
    obtain ⟨b, hb, rfl⟩ := ih
    exact ⟨b.after seed, .resolve hb seed, after_ofAllocator b seed⟩

end PlotLabels.SharedAllocator

namespace PlotLabels.Allocator

variable {a₀ : Allocator}

/-- **Every run of resolves on an allocator over a reachable registry keeps its labels stable,
unique and recorded for good. Shared between threads, the allocator runs the same resolves:
each call answers as the allocator behind the lock, and that allocator is one a run reaches.** -/
theorem runGuarantees_of_new {r₀ : Registry} (h₀ : r₀.Reachable) {c : Config}
    (hnew : Allocator.new c r₀ = .ok a₀) :
    a₀.RunGuarantees ∧
      ∀ {sb : SharedAllocator}, (SharedAllocator.ofAllocator a₀).Reaches sb →
        ∃ b, a₀.Reaches b ∧ sb = .ofAllocator b ∧
          ∀ s, sb.resolve s = (b.resolve s).map fun r => (r.1, .ofAllocator r.2) := by
  have hr₀ : a₀.registry.Reachable := by
    rw [(eq_of_new_eq_ok hnew).1]
    exact h₀
  refine ⟨{
    stable := resolve_stable hr₀
    unique := resolve_label_ne hr₀
    keeps_initial := resolve_owner_eq hr₀
    monotone := seedOf_of_reaches hr₀
    failed_unchanged := fun _ h => after_of_resolve_eq_error h
    adds_at_most_one := resolve_adds_at_most_one hr₀ }, fun hsb => ?_⟩
  obtain ⟨b, hb, rfl⟩ := hsb.eq_ofAllocator
  exact ⟨b, hb, rfl, SharedAllocator.resolve_ofAllocator b⟩

/-- An allocator over the registry where seed `a` holds `Teal Otter` and seed `b` holds
`Amber Walrus`, plain and shared. -/
theorem runGuarantees_two_labels_held :
    (Registry.mk [(⟨"Amber", "Walrus"⟩, "b"), (⟨"Teal", "Otter"⟩, "a")]).Reachable ∧
      Allocator.new {}
          (Registry.mk [(⟨"Amber", "Walrus"⟩, "b"), (⟨"Teal", "Otter"⟩, "a")]) =
        .ok ⟨{}, Registry.mk [(⟨"Amber", "Walrus"⟩, "b"), (⟨"Teal", "Otter"⟩, "a")]⟩ ∧
      (RunGuarantees
          ⟨{}, Registry.mk [(⟨"Amber", "Walrus"⟩, "b"), (⟨"Teal", "Otter"⟩, "a")]⟩ ∧
        ∀ {sb : SharedAllocator}, (SharedAllocator.ofAllocator
            ⟨{}, Registry.mk [(⟨"Amber", "Walrus"⟩, "b"), (⟨"Teal", "Otter"⟩, "a")]⟩
              ).Reaches sb →
          ∃ b, (Allocator.mk {}
              (Registry.mk [(⟨"Amber", "Walrus"⟩, "b"), (⟨"Teal", "Otter"⟩, "a")])).Reaches
                b ∧
            sb = .ofAllocator b ∧
            ∀ s, sb.resolve s = (b.resolve s).map fun r => (r.1, .ofAllocator r.2)) :=
  -- `Teal Otter` is given to `a`, then `Amber Walrus` to `b`
  have h : (Registry.mk [(⟨"Amber", "Walrus"⟩, "b"), (⟨"Teal", "Otter"⟩, "a")]).Reachable :=
    .insert (l := ⟨"Amber", "Walrus"⟩) (s := "b")
      (.insert (l := ⟨"Teal", "Otter"⟩) (s := "a") .empty
        (Label.parse?_text (by decide) (by decide)) rfl)
      (Label.parse?_text (by decide) (by decide)) rfl
  ⟨h, rfl, runGuarantees_of_new (c := {}) h rfl⟩

end PlotLabels.Allocator
