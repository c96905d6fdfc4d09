import PlotLabels.Candidate
import PlotLabels.Registry
import PlotLabels.Config
/-!
# Allocators

An allocator gives every seed a label of its own and remembers it. A seed seen before gets
its label back. A new seed gets the candidate of the first attempt, from zero up to the
configured limit, whose label no other seed holds; if every attempt's label is held, naming
fails and nothing is recorded.

* `Allocator.new`: an allocator over a registry, for a valid configuration.
* `firstFree`: the first free candidate among a range of attempts.
* `Allocator.resolve`: the label of a seed, and the allocator after it.
* `resolve_of_labelOf_eq_some`: a seed that holds a label gets it back and changes nothing.
* `SharedAllocator`: an allocator behind a lock, shared between threads;
  `SharedAllocator.resolve` resolves under the lock, and fails once the lock is poisoned.
-/

namespace PlotLabels

/-- A configuration and the labels given so far. -/
structure Allocator where
  config : Config
  registry : Registry

/-- The candidate of the first attempt among `count` attempts from `attempt` on whose label
is free for the seed, and that attempt. -/
def firstFree (r : Registry) (seed : Seed) (style : Style) (attempt : Nat) : Nat → Option Label
  | 0 => none
  | count + 1 =>
    let l := candidate seed attempt.toUInt32 style
    if r.isFreeFor l seed then some l else firstFree r seed style (attempt + 1) count

namespace Allocator

/-- An allocator over `registry`, if the configuration is valid. -/
def new (config : Config) (registry : Registry := .empty) : Except NamingError Allocator := do
  config.validate
  pure ⟨config, registry⟩

/-- The label of a seed: the one it holds, or the first free candidate, which is then
recorded. -/
def resolve (a : Allocator) (seed : Seed) : Except NamingError (Label × Allocator) :=
  match a.registry.labelOf seed with
  | some l => .ok (l, a)
  | none =>
    match firstFree a.registry seed a.config.style 0 a.config.maxAttempts.toNat with
    | some l => do
      let registry ← a.registry.insert l seed
      pure (l, { a with registry })
    | none => .error (.labelSpaceExhausted seed a.config.maxAttempts)

/-- A seed that holds a label gets it back, and the allocator stays as it is. -/
theorem resolve_of_labelOf_eq_some {a : Allocator} {seed : Seed} {l : Label}
    (h : a.registry.labelOf seed = some l) : a.resolve seed = .ok (l, a) := by
  simp [resolve, h]

/-- A seed without a label gets the first free candidate, or exhaustion. -/
theorem resolve_of_labelOf_eq_none {a : Allocator} {seed : Seed}
    (h : a.registry.labelOf seed = none) :
    a.resolve seed =
      match firstFree a.registry seed a.config.style 0 a.config.maxAttempts.toNat with
      | some l => (a.registry.insert l seed).map fun registry => (l, { a with registry })
      | none => .error (.labelSpaceExhausted seed a.config.maxAttempts) := by
  unfold resolve
  rw [h]
  cases firstFree a.registry seed a.config.style 0 a.config.maxAttempts.toNat with
  | none => rfl
  | some l =>
    cases a.registry.insert l seed <;> rfl

/-- The number of labels the allocator's style can show. -/
def labelSpace (a : Allocator) : Nat :=
  a.config.style.labelSpace

end Allocator

/-! ## Shared allocators -/

/-- An allocator behind a lock, shared between threads. Every call holds the lock for its whole
length, so the calls of all threads take effect one after another, each on the allocator the
one before left. A thread that panics while it holds the lock poisons it, and every later call
fails. -/
structure SharedAllocator where
  /-- The allocator behind the lock. -/
  allocator : Allocator
  /-- Whether a thread panicked while it held the lock. -/
  poisoned : Bool

namespace SharedAllocator

/-- A shared allocator over an allocator, its lock not poisoned. -/
def ofAllocator (a : Allocator) : SharedAllocator :=
  ⟨a, false⟩

/-- A shared allocator over the empty registry, if the configuration is valid. -/
def new (config : Config) : Except NamingError SharedAllocator :=
  (Allocator.new config).map ofAllocator

/-- The label of a seed, resolved under the lock; a poisoned lock fails the call. -/
def resolve (sa : SharedAllocator) (seed : Seed) : Except NamingError (Label × SharedAllocator) :=
  if sa.poisoned then .error .registryLockPoisoned
  else (sa.allocator.resolve seed).map fun r => (r.1, { sa with allocator := r.2 })

/-- The label a seed holds, read under the lock. -/
def labelOf (sa : SharedAllocator) (seed : Seed) : Except NamingError (Option Label) :=
  if sa.poisoned then .error .registryLockPoisoned else .ok (sa.allocator.registry.labelOf seed)

/-- The number of labels given, read under the lock. -/
def size (sa : SharedAllocator) : Except NamingError Nat :=
  if sa.poisoned then .error .registryLockPoisoned else .ok sa.allocator.registry.size

/-- A copy of the registry, taken under the lock. -/
def snapshot (sa : SharedAllocator) : Except NamingError Registry :=
  if sa.poisoned then .error .registryLockPoisoned else .ok sa.allocator.registry

end SharedAllocator

end PlotLabels
