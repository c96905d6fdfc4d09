import Mathlib.Data.Finset.Prod
import Mathlib.Data.Set.Card
import PlotLabels.Candidate
import PlotLabels.Proofs.Label.Compose
/-!
# The labels of a style

A style shows a word of its first list and a word of its second list, capitalised. Every
vocabulary word is a lower-case ASCII word and every list is in strictly increasing order, so
composing is one-to-one on a style's pair of lists and the style can show exactly
`Style.labelSpace` labels, the product of the two lists' sizes.

* `Vocabulary.WellFormed`, `Vocabulary.wellFormed_of_mem_lists`: the three lists hold lower-case
  words without repeats.
* `Style.labels`: the composable labels of a style, as a finite set.
* `Style.compose_injOn`, `Style.card_labels`: composing is one-to-one on the pair of lists, so
  the style has `labelSpace` labels.
* `candidate_mem_labels`: every candidate is one of them; hence `encard_range_candidate_le`.
-/

namespace PlotLabels

open Vocabulary

namespace Vocabulary

/-- A vocabulary list as the naming rule needs it: lower-case words, in strictly increasing
order, so that no word is listed twice. -/
def WellFormed (v : Array String) : Prop :=
  (∀ w ∈ v.toList, Label.IsLowerWord w) ∧ v.toList.IsChain (· < ·)

instance (v : Array String) : Decidable (WellFormed v) :=
  @instDecidableAnd _ _ (List.decidableBAll _ _) inferInstance

/-- The three lists, checked word by word. -/
theorem wellFormed_of_mem_lists : ∀ v ∈ [colours, animals, adjectives], WellFormed v := by
  decide +kernel

theorem WellFormed.isLowerWord {v : Array String} (hv : WellFormed v) {w : String} (hw : w ∈ v) :
    Label.IsLowerWord w :=
  hv.1 w (Array.mem_def.mp hw)

theorem WellFormed.nodup {v : Array String} (hv : WellFormed v) : v.toList.Nodup :=
  (List.isChain_iff_pairwise.mp hv.2).nodup

end Vocabulary

namespace Style

/-- Both lists of every style are well formed. -/
theorem vocabularies_wellFormed (t : Style) :
    WellFormed t.vocabularies.1 ∧ WellFormed t.vocabularies.2 := by
  have h := wellFormed_of_mem_lists
  cases t <;> exact ⟨h _ (by simp [vocabularies]), h _ (by simp [vocabularies])⟩

/-- The style shows words of its own two lists, whatever was drawn for the third. -/
theorem select_mem {p : Picks} (hc : p.colour ∈ colours) (ha : p.animal ∈ animals)
    (hj : p.adjective ∈ adjectives) (t : Style) :
    (t.select p).1 ∈ t.vocabularies.1 ∧ (t.select p).2 ∈ t.vocabularies.2 := by
  cases t
  · exact ⟨hc, ha⟩
  · exact ⟨hj, ha⟩
  · exact ⟨hj, hc⟩

/-- The labels a style can show: each word of its first list composed with each word of its
second list. -/
def labels (t : Style) : Finset Label :=
  (t.vocabularies.1.toList.toFinset ×ˢ t.vocabularies.2.toList.toFinset).image
    fun p => Label.compose p.1 p.2

theorem mem_labels {t : Style} {l : Label} :
    l ∈ t.labels ↔ ∃ a ∈ t.vocabularies.1, ∃ b ∈ t.vocabularies.2, Label.compose a b = l := by
  simp [labels, and_assoc]

/-- **Composing is one-to-one on the style's pair of lists.** -/
theorem compose_injOn (t : Style) :
    Set.InjOn (fun p : String × String => Label.compose p.1 p.2)
      {p | p.1 ∈ t.vocabularies.1 ∧ p.2 ∈ t.vocabularies.2} := by
  rintro ⟨a, b⟩ ⟨ha, hb⟩ ⟨a', b'⟩ ⟨ha', hb'⟩ h
  obtain ⟨h₁, h₂⟩ := vocabularies_wellFormed t
  obtain ⟨rfl, rfl⟩ := (Label.compose_inj (h₁.isLowerWord ha) (h₂.isLowerWord hb)
    (h₁.isLowerWord ha') (h₂.isLowerWord hb')).mp h
  rfl

/-- **A style has exactly `labelSpace` labels.** -/
theorem card_labels (t : Style) : t.labels.card = t.labelSpace := by
  obtain ⟨h₁, h₂⟩ := vocabularies_wellFormed t
  unfold labels labelSpace
  rw [Finset.card_image_of_injOn, Finset.card_product, List.toFinset_card_of_nodup h₁.nodup,
    List.toFinset_card_of_nodup h₂.nodup, Array.length_toList, Array.length_toList]
  intro p hp q hq h
  simp only [Finset.coe_product, Set.mem_prod, Finset.mem_coe, List.mem_toFinset,
    Array.mem_toList_iff] at hp hq
  exact compose_injOn t hp hq h

theorem valid_of_mem_labels {t : Style} {l : Label} (hl : l ∈ t.labels) : l.Valid := by
  obtain ⟨a, ha, b, hb, rfl⟩ := mem_labels.mp hl
  obtain ⟨h₁, h₂⟩ := vocabularies_wellFormed t
  exact Label.compose_valid (h₁.isLowerWord ha) (h₂.isLowerWord hb)

end Style

/-- The words drawn for a salt are words of their lists. -/
theorem Candidate.picks_mem (salt : String) :
    (picks salt).colour ∈ colours ∧ (picks salt).animal ∈ animals ∧
      (picks salt).adjective ∈ adjectives :=
  ⟨Array.getElem_mem _, Array.getElem_mem _, Array.getElem_mem _⟩

/-- **Every candidate is one of the style's labels.** -/
theorem candidate_mem_labels (seed : Seed) (attempt : UInt32) (t : Style) :
    candidate seed attempt t ∈ t.labels := by
  obtain ⟨hc, ha, hj⟩ := Candidate.picks_mem (seed.salted attempt)
  obtain ⟨h₁, h₂⟩ := Style.select_mem hc ha hj t
  exact Style.mem_labels.mpr ⟨_, h₁, _, h₂, rfl⟩

theorem candidate_valid (seed : Seed) (attempt : UInt32) (t : Style) :
    (candidate seed attempt t).Valid :=
  Style.valid_of_mem_labels (candidate_mem_labels seed attempt t)

/-- **The candidates of a style, over all seeds and attempts, are at most `labelSpace` labels.** -/
theorem encard_range_candidate_le (t : Style) :
    (Set.range fun p : Seed × UInt32 => candidate p.1 p.2 t).encard ≤ t.labelSpace := by
  have hsub : (Set.range fun p : Seed × UInt32 => candidate p.1 p.2 t) ⊆ ↑t.labels := by
    rintro _ ⟨p, rfl⟩
    exact candidate_mem_labels p.1 p.2 t
  calc (Set.range fun p : Seed × UInt32 => candidate p.1 p.2 t).encard
      ≤ (↑t.labels : Set Label).encard := Set.encard_le_encard hsub
    _ = t.labelSpace := by rw [Set.encard_coe_eq_coe_finsetCard, Style.card_labels]

end PlotLabels
