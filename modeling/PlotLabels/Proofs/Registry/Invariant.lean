import Mathlib.Data.Set.Card
import PlotLabels.Registry
import PlotLabels.Proofs.Label.Compose
/-!
# The registry's invariant

A registry is one list of entries, read two ways: `seedOf` by label and `labelOf` by seed. The
two readings are inverse exactly when no label and no seed sits in two entries. `WellFormed`
says so, in the form `insert` keeps: entries in strictly increasing label order (which rules out
a repeated label), seeds without repeats, and labels that the parser reads back (which makes the
order strict on distinct labels).

* `WellFormed.seedOf_eq_some_iff`, `WellFormed.labelOf_eq_some_iff`: both lookups answer by
  membership of the pair, so they are inverse (`WellFormed.seedOf_eq_some_iff_labelOf`).
* `insert_eq_ok`: a successful insert changed nothing, or placed a pair whose label was free and
  whose seed held none (`Registry.place`); `WellFormed.insert`: either way the invariant holds
  after it.
* `WellFormed.encard_held`, `WellFormed.encard_labelled`: as many labels are held, and as many
  seeds labelled, as there are entries.
-/

namespace PlotLabels

/-! ## 1. The order of labels -/

namespace Label

theorem lt_irrefl (l : Label) : ¬ l < l :=
  String.lt_irrefl l.text

theorem lt_of_lt_of_lt {a b c : Label} (hab : a < b) (hbc : b < c) : a < c :=
  String.lt_trans hab hbc

/-- Labels with different texts are ordered one way or the other. -/
theorem lt_of_not_lt {a b : Label} (h : ¬ a < b) (hne : a.text ≠ b.text) : b < a := by
  by_contra h'
  exact hne (String.le_antisymm (String.not_lt.mp h') (String.not_lt.mp h))

end Label

namespace Registry

/-- The representation invariant of a registry. -/
structure WellFormed (r : Registry) : Prop where
  /-- Entries come in strictly increasing label order. -/
  sorted : r.entries.Pairwise fun e f => e.1 < f.1
  /-- No seed holds two entries. -/
  seeds_nodup : (r.entries.map (·.2)).Nodup
  /-- Every label is one the parser reads back. -/
  valid : ∀ e ∈ r.entries, e.1.Valid

theorem wellFormed_empty : Registry.empty.WellFormed :=
  ⟨.nil, .nil, fun _ h => absurd h List.not_mem_nil⟩

variable {r : Registry} {l l' : Label} {s s' : Seed}

theorem WellFormed.labels_nodup (hr : r.WellFormed) : (r.entries.map (·.1)).Nodup := by
  refine List.pairwise_map.mpr (hr.sorted.imp ?_)
  intro e f h he
  rw [he] at h
  exact Label.lt_irrefl _ h

/-! ## 2. Lookups as membership -/

theorem mem_of_seedOf_eq_some (h : r.seedOf l = some s) : (l, s) ∈ r.entries := by
  obtain ⟨xs, ys, he, -⟩ := List.lookup_eq_some_iff.mp h
  rw [he]
  exact List.mem_append_right xs List.mem_cons_self

theorem mem_of_labelOf_eq_some (h : r.labelOf s = some l) : (l, s) ∈ r.entries := by
  obtain ⟨e, he, rfl⟩ := Option.map_eq_some_iff.mp h
  have hs : e.2 = s := by simpa using List.find?_some he
  rw [← hs]
  exact List.mem_of_find?_eq_some he

theorem seedOf_eq_none_iff : r.seedOf l = none ↔ ∀ s, (l, s) ∉ r.entries := by
  simp only [seedOf, List.lookup_eq_none_iff, bne_iff_ne, ne_eq]
  exact ⟨fun h s hm => h _ hm rfl, fun h e he hl => h e.2 (hl ▸ he)⟩

theorem labelOf_eq_none_iff : r.labelOf s = none ↔ ∀ l, (l, s) ∉ r.entries := by
  simp only [labelOf, Option.map_eq_none_iff, List.find?_eq_none, beq_iff_eq]
  exact ⟨fun h l hm => h _ hm rfl, fun h e he hs => h e.1 (hs ▸ he)⟩

/-- Under the invariant a label sits in one entry. -/
theorem WellFormed.seed_eq_of_mem (hr : r.WellFormed) (h : (l, s) ∈ r.entries)
    (h' : (l, s') ∈ r.entries) : s = s' :=
  (Prod.mk.inj (List.inj_on_of_nodup_map hr.labels_nodup h h' rfl)).2

/-- Under the invariant a seed sits in one entry. -/
theorem WellFormed.label_eq_of_mem (hr : r.WellFormed) (h : (l, s) ∈ r.entries)
    (h' : (l', s) ∈ r.entries) : l = l' :=
  (Prod.mk.inj (List.inj_on_of_nodup_map hr.seeds_nodup h h' rfl)).1

/-- Under the invariant a label is held by the seed of its entry. -/
theorem WellFormed.seedOf_eq_some_iff (hr : r.WellFormed) :
    r.seedOf l = some s ↔ (l, s) ∈ r.entries := by
  refine ⟨mem_of_seedOf_eq_some, fun hm => ?_⟩
  cases h : r.seedOf l with
  | none => exact absurd hm (seedOf_eq_none_iff.mp h s)
  | some s' => rw [hr.seed_eq_of_mem (mem_of_seedOf_eq_some h) hm]

/-- Under the invariant a seed holds the label of its entry. -/
theorem WellFormed.labelOf_eq_some_iff (hr : r.WellFormed) :
    r.labelOf s = some l ↔ (l, s) ∈ r.entries := by
  refine ⟨mem_of_labelOf_eq_some, fun hm => ?_⟩
  cases h : r.labelOf s with
  | none => exact absurd hm (labelOf_eq_none_iff.mp h l)
  | some l' => rw [hr.label_eq_of_mem (mem_of_labelOf_eq_some h) hm]

/-- **The two lookups are inverse.** -/
theorem WellFormed.seedOf_eq_some_iff_labelOf (hr : r.WellFormed) :
    r.seedOf l = some s ↔ r.labelOf s = some l :=
  hr.seedOf_eq_some_iff.trans hr.labelOf_eq_some_iff.symm

/-! ## 3. Inserting -/

theorem mem_insertSorted {e x : Label × Seed} {xs : List (Label × Seed)} :
    e ∈ insertSorted x xs ↔ e = x ∨ e ∈ xs :=
  (insertSorted_perm x xs).mem_iff.trans List.mem_cons

/-- Placing an entry whose label text is new keeps the entries strictly ordered. -/
theorem pairwise_insertSorted {x : Label × Seed} {xs : List (Label × Seed)}
    (hxs : xs.Pairwise fun e f => e.1 < f.1) (hx : ∀ e ∈ xs, x.1.text ≠ e.1.text) :
    (insertSorted x xs).Pairwise fun e f => e.1 < f.1 := by
  induction xs with
  | nil => exact List.pairwise_singleton _ x
  | cons y ys ih =>
    rw [List.pairwise_cons] at hxs
    unfold insertSorted
    split
    · -- `x` goes first: it is below `y`, which is below the rest
      rename_i hxy
      refine List.Pairwise.cons (fun e he => ?_) (List.Pairwise.cons hxs.1 hxs.2)
      rcases List.mem_cons.mp he with rfl | he
      · exact hxy
      · exact Label.lt_of_lt_of_lt hxy (hxs.1 e he)
    · -- `x` goes further in, above `y`
      rename_i hxy
      have hyx : y.1 < x.1 := Label.lt_of_not_lt hxy (hx y List.mem_cons_self)
      refine List.Pairwise.cons (fun e he => ?_)
        (ih hxs.2 fun e he => hx e (List.mem_cons_of_mem y he))
      rcases mem_insertSorted.mp he with rfl | he
      · exact hyx
      · exact hxs.1 e he

/-- The registry with one more pair, placed in label order: what an insert of a new pair
leaves. -/
def place (r : Registry) (l : Label) (s : Seed) : Registry :=
  ⟨insertSorted (l, s) r.entries⟩

theorem mem_place {e : Label × Seed} :
    e ∈ (r.place l s).entries ↔ e = (l, s) ∨ e ∈ r.entries :=
  mem_insertSorted

@[simp] theorem size_place : (r.place l s).size = r.size + 1 :=
  length_insertSorted (l, s) r.entries

/-- **A new pair for a free label and an unlabelled seed keeps the invariant.** -/
theorem WellFormed.place (hr : r.WellFormed) (hl : r.seedOf l = none)
    (hs : r.labelOf s = none) (hv : l.Valid) : (r.place l s).WellFormed := by
  refine ⟨pairwise_insertSorted hr.sorted fun e he ht => ?_, ?_, fun e he => ?_⟩
  · -- a label with the same text is the same label, and `l` is held by nobody
    have e1 : l = e.1 := Label.text_inj hv (hr.valid e he) ht
    exact seedOf_eq_none_iff.mp hl e.2 (e1 ▸ he)
  · have hp := ((insertSorted_perm (l, s) r.entries).map (·.2)).nodup_iff
    rw [Registry.place, hp, List.map_cons, List.nodup_cons]
    refine ⟨fun hm => ?_, hr.seeds_nodup⟩
    obtain ⟨⟨l', s'⟩, he, hes⟩ := List.mem_map.mp hm
    have hs' : s' = s := hes
    exact labelOf_eq_none_iff.mp hs l' (hs' ▸ he)
  · rcases mem_place.mp he with rfl | he
    · exact hv
    · exact hr.valid e he

/-- **What a successful insert did**: nothing, when the pair was already there, or placed the
pair, when the label was free and the seed held no label. -/
theorem insert_eq_ok {r' : Registry} (h : r.insert l s = .ok r') :
    (r.seedOf l = some s ∧ r' = r) ∨
      (r.seedOf l = none ∧ r.labelOf s = none ∧ r' = r.place l s) := by
  cases hl : r.seedOf l with
  | some owner =>
    rw [insert_of_seedOf_eq_some s hl] at h
    by_cases ho : owner = s
    · rw [if_pos ho] at h
      exact .inl ⟨by rw [ho], (Except.ok.inj h).symm⟩
    · rw [if_neg ho] at h
      cases h
  | none =>
    rw [insert_of_seedOf_eq_none s hl] at h
    cases hs : r.labelOf s with
    | some existing => rw [hs] at h; cases h
    | none =>
      rw [hs] at h
      exact .inr ⟨rfl, rfl, (Except.ok.inj h).symm⟩

/-- **A successful insert of a valid label keeps the invariant.** -/
theorem WellFormed.insert {r' : Registry} (hr : r.WellFormed) (hv : l.Valid)
    (h : r.insert l s = .ok r') : r'.WellFormed := by
  rcases insert_eq_ok h with ⟨-, rfl⟩ | ⟨hl, hs, rfl⟩
  · exact hr
  · exact hr.place hl hs hv

/-! ## 4. Sizes -/

/-- A set with the members of a list without repeats has as many members as the list. -/
theorem encard_eq_length {α : Type} [DecidableEq α] {X : Set α} {xs : List α} (hxs : xs.Nodup)
    (hX : ∀ x, x ∈ X ↔ x ∈ xs) : X.encard = xs.length := by
  have hset : X = ↑xs.toFinset := Set.ext fun x => by simp [hX]
  rw [hset, Set.encard_coe_eq_coe_finsetCard, List.toFinset_card_of_nodup hxs]

/-- **As many labels are held as there are entries.** -/
theorem WellFormed.encard_held (hr : r.WellFormed) :
    {l | (r.seedOf l).isSome}.encard = r.size := by
  have hX : ∀ l, l ∈ {l | (r.seedOf l).isSome} ↔ l ∈ r.entries.map (·.1) := by
    intro l
    simp only [Set.mem_ofPred_eq, Option.isSome_iff_exists, hr.seedOf_eq_some_iff, List.mem_map]
    exact ⟨fun ⟨s, hm⟩ => ⟨(l, s), hm, rfl⟩, fun ⟨e, he, hl⟩ => ⟨e.2, hl ▸ he⟩⟩
  rw [encard_eq_length hr.labels_nodup hX, List.length_map]
  rfl

/-- **As many seeds are labelled as there are entries.** -/
theorem WellFormed.encard_labelled (hr : r.WellFormed) :
    {s | (r.labelOf s).isSome}.encard = r.size := by
  have hX : ∀ s, s ∈ {s | (r.labelOf s).isSome} ↔ s ∈ r.entries.map (·.2) := by
    intro s
    simp only [Set.mem_ofPred_eq, Option.isSome_iff_exists, hr.labelOf_eq_some_iff, List.mem_map]
    exact ⟨fun ⟨l, hm⟩ => ⟨(l, s), hm, rfl⟩, fun ⟨e, he, hs⟩ => ⟨e.1, hs ▸ he⟩⟩
  rw [encard_eq_length hr.seeds_nodup hX, List.length_map]
  rfl

end Registry

end PlotLabels
