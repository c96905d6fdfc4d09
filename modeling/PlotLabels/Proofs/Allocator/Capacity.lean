import PlotLabels.Proofs.Allocator.Run
/-!
# The capacity of an allocator

A fresh allocator records only candidates of its style, and a style has `labelSpace` labels
(`Style.card_labels`), so the registry never holds more pairs than that. Once it holds that many
it holds every label of the style: a seed without a label then finds every candidate taken by
another seed, at every attempt, and naming it fails with nothing recorded, whatever the limit of
attempts.

* `Registry.size_le_card`: a registry whose labels lie in a finite set has at most its size.
* `Allocator.Reaches.labelsOfStyle`: along a run from a fresh allocator every recorded label is a
  label of the style.
* `Allocator.resolve_of_full`: a full registry exhausts every unlabelled seed.
* `Allocator.labelSpace_bounds_run`: both, for every run of every fresh allocator.
-/

namespace PlotLabels

namespace Registry

variable {r : Registry} {L : Finset Label}

/-- The labels a registry holds, as a finite set. -/
def heldLabels (r : Registry) : Finset Label :=
  (r.entries.map (·.1)).toFinset

theorem WellFormed.card_heldLabels (hr : r.WellFormed) : r.heldLabels.card = r.size := by
  rw [heldLabels, List.toFinset_card_of_nodup hr.labels_nodup, List.length_map]
  rfl

theorem heldLabels_subset (hin : ∀ e ∈ r.entries, e.1 ∈ L) : r.heldLabels ⊆ L := by
  intro l hl
  obtain ⟨e, he, rfl⟩ := List.mem_map.mp (List.mem_toFinset.mp hl)
  exact hin e he

/-- **A registry whose labels lie in `L` holds at most as many pairs as `L` has labels.** -/
theorem size_le_card (hr : r.WellFormed) (hin : ∀ e ∈ r.entries, e.1 ∈ L) :
    r.size ≤ L.card := by
  rw [← hr.card_heldLabels]
  exact Finset.card_le_card (heldLabels_subset hin)

/-- A registry whose labels lie in `L`, holding as many pairs as `L` has labels, holds every label
of `L` (the pigeonhole principle). -/
theorem seedOf_isSome_of_size_eq (hr : r.WellFormed) (hin : ∀ e ∈ r.entries, e.1 ∈ L)
    (hfull : r.size = L.card) {l : Label} (hl : l ∈ L) : ∃ o, r.seedOf l = some o := by
  have heq : r.heldLabels = L :=
    Finset.eq_of_subset_of_card_le (heldLabels_subset hin) (by rw [hr.card_heldLabels, hfull])
  rw [← heq] at hl
  obtain ⟨e, he, rfl⟩ := List.mem_map.mp (List.mem_toFinset.mp hl)
  exact ⟨e.2, hr.seedOf_eq_some_iff.mpr he⟩

end Registry

namespace Allocator

variable {a a₀ b : Allocator} {c : Config} {s : Seed}

/-- Every recorded label is a label of the allocator's style. -/
def LabelsOfStyle (a : Allocator) : Prop :=
  ∀ e ∈ a.registry.entries, e.1 ∈ a.config.style.labels

/-- A resolve records only a label of the style. -/
theorem labelsOfStyle_after (hr : a.registry.WellFormed) (h : a.LabelsOfStyle) (seed : Seed) :
    (a.after seed).LabelsOfStyle := by
  rcases after_eq hr seed with he | ⟨l, -, -, hf, he⟩ <;> rw [he]
  · exact h
  · intro e hm
    rcases Registry.mem_place.mp hm with rfl | hm
    · exact mem_labels_of_firstFree_eq_some hf
    · exact h e hm

/-- **Along a run every recorded label is a label of the style.** -/
theorem Reaches.labelsOfStyle (hr : a.registry.Reachable) (hin : a.LabelsOfStyle)
    (h : a.Reaches b) : b.LabelsOfStyle :=
  Reaches.preserves_of_wellFormed LabelsOfStyle
    (fun _ seed hx hl => labelsOfStyle_after hx hl seed) hr h hin

/-- **A full registry exhausts every unlabelled seed**: each candidate is a label of the style,
held, and held by another seed. -/
theorem resolve_of_full (hr : a.registry.WellFormed) (hin : a.LabelsOfStyle)
    (hfull : a.registry.size = a.labelSpace) (hs : a.registry.labelOf s = none) :
    a.resolve s = .error (.labelSpaceExhausted s a.config.maxAttempts) := by
  refine resolve_of_firstFree_eq_none hs (firstFree_eq_none_iff.mpr fun k _ => ?_)
  have hfull' : a.registry.size = a.config.style.labels.card := by
    rw [hfull, labelSpace, Style.card_labels]
  obtain ⟨o, ho⟩ := Registry.seedOf_isSome_of_size_eq hr hin hfull'
    (candidate_mem_labels s (0 + k).toUInt32 a.config.style)
  have hos : o ≠ s := by
    rintro rfl
    rw [hr.seedOf_eq_some_iff_labelOf, hs] at ho
    cases ho
  rw [Bool.eq_false_iff, ne_eq, Registry.isFreeFor_eq_true_iff, ho]
  simp [hos]

/-- **A fresh allocator never holds more pairs than its style has labels, and once it holds that
many, every seed without a label exhausts the label space**, whatever the limit of attempts. -/
theorem labelSpace_bounds_run (hnew : Allocator.new c = .ok a₀) (h : a₀.Reaches a) :
    (∀ t : Style, Set.InjOn (fun p : String × String => Label.compose p.1 p.2)
        {p | p.1 ∈ t.vocabularies.1 ∧ p.2 ∈ t.vocabularies.2} ∧
      t.labels.card = t.labelSpace ∧
      (Set.range fun p : Seed × UInt32 => candidate p.1 p.2 t).encard ≤ t.labelSpace) ∧
    a.registry.size ≤ a.labelSpace ∧
    (a.registry.size = a.labelSpace → ∀ s, a.registry.labelOf s = none →
      a.resolve s = .error (.labelSpaceExhausted s c.maxAttempts) ∧ a.after s = a) := by
  obtain ⟨rfl, -⟩ := eq_of_new_eq_ok hnew
  have hr₀ : Registry.empty.Reachable := .empty
  -- the fresh allocator holds nothing, so its labels are trivially of its style
  have hin₀ : LabelsOfStyle ⟨c, .empty⟩ := fun e he => absurd he List.not_mem_nil
  have hra : a.registry.WellFormed := h.wellFormed hr₀
  have hin : a.LabelsOfStyle := h.labelsOfStyle hr₀ hin₀
  have hc : a.config = c := h.config hr₀
  refine ⟨fun t => ⟨t.compose_injOn, t.card_labels, encard_range_candidate_le t⟩, ?_, ?_⟩
  · calc a.registry.size ≤ a.config.style.labels.card := Registry.size_le_card hra hin
      _ = a.labelSpace := Style.card_labels _
  · intro hfull s hs
    have he := resolve_of_full hra hin hfull hs
    rw [hc] at he
    exact ⟨he, after_of_resolve_eq_error he⟩

/-- The default allocator after resolving the seeds `a` and `b`. -/
theorem labelSpace_bounds_two_resolves :
    Allocator.new {} = .ok ⟨{}, .empty⟩ ∧
      (Allocator.mk {} .empty).Reaches ((Allocator.mk {} .empty).afterAll ["a", "b"]) ∧
      ((∀ t : Style, Set.InjOn (fun p : String × String => Label.compose p.1 p.2)
          {p | p.1 ∈ t.vocabularies.1 ∧ p.2 ∈ t.vocabularies.2} ∧
        t.labels.card = t.labelSpace ∧
        (Set.range fun p : Seed × UInt32 => candidate p.1 p.2 t).encard ≤ t.labelSpace) ∧
      ((Allocator.mk {} .empty).afterAll ["a", "b"]).registry.size ≤
        ((Allocator.mk {} .empty).afterAll ["a", "b"]).labelSpace ∧
      (((Allocator.mk {} .empty).afterAll ["a", "b"]).registry.size =
          ((Allocator.mk {} .empty).afterAll ["a", "b"]).labelSpace → ∀ s,
        ((Allocator.mk {} .empty).afterAll ["a", "b"]).registry.labelOf s = none →
        ((Allocator.mk {} .empty).afterAll ["a", "b"]).resolve s =
            .error (.labelSpaceExhausted s (1000 : UInt32)) ∧
          ((Allocator.mk {} .empty).afterAll ["a", "b"]).after s =
            (Allocator.mk {} .empty).afterAll ["a", "b"])) :=
  have hnew : Allocator.new {} = .ok ⟨{}, .empty⟩ := rfl
  have hrun : (Allocator.mk {} .empty).Reaches ((Allocator.mk {} .empty).afterAll ["a", "b"]) :=
    reaches_afterAll ["a", "b"]
  ⟨hnew, hrun, labelSpace_bounds_run (c := {}) hnew hrun⟩

end Allocator

end PlotLabels
