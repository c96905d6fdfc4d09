import PlotLabels.Proofs.Allocator.Resolve
/-!
# Reachable registries

The registries a program can build: from the empty one, by inserts of labels it can hold and by
resolves of allocators over the registry, each call succeeding or failing. On every one of them
the registry keeps what it promises its readers (`Registry.Consistent`): its two lookups are
inverse, each is one-to-one, both count the entries, and the entries come in strictly increasing
label order with distinct seeds.

* `Registry.Reachable`: the registries built by such calls.
* `Registry.Reachable.wellFormed`: the invariant of `WellFormed` holds on every one, since each
  insert and each resolve keeps it.
* `Registry.Reachable.consistent`: hence every reachable registry is consistent.
-/

namespace PlotLabels.Registry

variable {r : Registry}

/-- The registries a program can build from the empty one, one successful call at a time: an
insert of a label it can hold (the parser and `compose` give only valid labels), or a resolve by
an allocator over the registry, with any configuration. A call that fails returns no registry,
and the caller keeps the one it had. -/
inductive Reachable : Registry → Prop where
  | empty : Reachable .empty
  | insert {r r' : Registry} {l : Label} {s : Seed} (hr : Reachable r) (hl : l.Valid)
      (h : r.insert l s = .ok r') : Reachable r'
  | resolve {r : Registry} {c : Config} {s : Seed} {l : Label} {a : Allocator}
      (hr : Reachable r) (h : (Allocator.mk c r).resolve s = .ok (l, a)) : Reachable a.registry

/-- **The invariant on every reachable registry.** -/
theorem Reachable.wellFormed (h : r.Reachable) : r.WellFormed := by
  induction h with
  | empty => exact wellFormed_empty
  | insert _ hl h ih => exact ih.insert hl h
  | resolve _ h ih => exact Allocator.wellFormed_of_resolve_eq_ok ih h

/-- What a registry promises its readers. -/
structure Consistent (r : Registry) : Prop where
  /-- A label is held by a seed exactly when the seed holds the label. -/
  inverse : ∀ l s, r.seedOf l = some s ↔ r.labelOf s = some l
  /-- The entries are exactly the pairs the label lookup answers. -/
  mem_entries : ∀ l s, (l, s) ∈ r.entries ↔ r.seedOf l = some s
  /-- No seed holds two labels. -/
  one_label_per_seed :
    ∀ l₁ l₂ s, r.seedOf l₁ = some s → r.seedOf l₂ = some s → l₁ = l₂
  /-- No label is held by two seeds. -/
  one_seed_per_label :
    ∀ s₁ s₂ l, r.labelOf s₁ = some l → r.labelOf s₂ = some l → s₁ = s₂
  /-- As many labels are held as there are entries. -/
  held_count : {l | (r.seedOf l).isSome}.encard = r.size
  /-- As many seeds hold a label as there are entries. -/
  labelled_count : {s | (r.labelOf s).isSome}.encard = r.size
  /-- Entries come in strictly increasing label order, with distinct seeds. -/
  ordered : r.entries.Pairwise fun e f => e.1 < f.1 ∧ e.2 ≠ f.2

theorem WellFormed.toConsistent (hr : r.WellFormed) : r.Consistent where
  inverse _ _ := hr.seedOf_eq_some_iff_labelOf
  mem_entries _ _ := hr.seedOf_eq_some_iff.symm
  one_label_per_seed _ _ _ h₁ h₂ :=
    hr.label_eq_of_mem (mem_of_seedOf_eq_some h₁) (mem_of_seedOf_eq_some h₂)
  one_seed_per_label _ _ _ h₁ h₂ :=
    hr.seed_eq_of_mem (mem_of_labelOf_eq_some h₁) (mem_of_labelOf_eq_some h₂)
  held_count := hr.encard_held
  labelled_count := hr.encard_labelled
  ordered := hr.sorted.and (List.pairwise_map.mp hr.seeds_nodup)

/-- **Every reachable registry is consistent**: whatever inserts and resolves built it, in any
order and with any outcomes, its label index and its seed index are mutual inverses. -/
theorem Reachable.consistent (h : r.Reachable) : r.Consistent :=
  h.wellFormed.toConsistent

/-- `Teal Otter` given to seed `a`, then `Amber Walrus` to seed `b`: a reachable registry, listed
in label order, and consistent. -/
theorem reachable_two_inserts_consistent :
    (Registry.mk [(⟨"Amber", "Walrus"⟩, "b"), (⟨"Teal", "Otter"⟩, "a")]).Reachable ∧
      (Registry.mk [(⟨"Amber", "Walrus"⟩, "b"), (⟨"Teal", "Otter"⟩, "a")]).Consistent :=
  have h : (Registry.mk [(⟨"Amber", "Walrus"⟩, "b"), (⟨"Teal", "Otter"⟩, "a")]).Reachable :=
    .insert (l := ⟨"Amber", "Walrus"⟩) (s := "b")
      (.insert (l := ⟨"Teal", "Otter"⟩) (s := "a") .empty
        (Label.parse?_text (by decide) (by decide)) rfl)
      (Label.parse?_text (by decide) (by decide)) rfl
  ⟨h, Reachable.consistent h⟩

end PlotLabels.Registry
