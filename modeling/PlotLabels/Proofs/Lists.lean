import Mathlib.Data.List.Sort
import Mathlib.Data.List.TakeWhile
import Mathlib.Data.String.Basic
/-!
# Keyed lists and cut texts

Two kinds of list recur in this development. Maps from names are lists of pairs sorted strictly
by name (the members of an object, the targets of a logging setting): a lookup in them finds
exactly their members, and their members fix them. Texts are cut at the first separator (a
label at its space, a logging field at its `=`): what follows the part before the first
separator starts with it, and splitting at the separator gives that part first.

* `lookup_eq_some_iff_of_nodup`, `lookup_eq_some_iff_of_pairwise`: lookups find the members.
* `lookup_reverse_of_pairwise`: in a sorted list, the last entry for a name is the only one.
* `eq_of_pairwise_of_mem_iff`: sorted lists with the same members are equal.
* `dropWhile_ne_eq_cons`, `splitOn_eq_takeWhile_cons`: cutting at the first separator.
-/

namespace PlotLabels

/-! ## 1. Lists sorted strictly by name -/

section Keyed

variable {β : Type} {L M : List (String × β)} {k : String} {b : β}

/-- In a list of distinct names, a lookup finds exactly the members. -/
theorem lookup_eq_some_iff_of_nodup (hnd : (L.map Prod.fst).Nodup) :
    L.lookup k = some b ↔ (k, b) ∈ L := by
  induction L with
  | nil => simp
  | cons q rest ih =>
    rw [List.map_cons, List.nodup_cons] at hnd
    obtain ⟨m, w⟩ := q
    rw [List.lookup_cons, List.mem_cons]
    by_cases e : k = m
    · subst e
      have hnot : (k, b) ∉ rest := fun hm =>
        hnd.1 (show k ∈ rest.map Prod.fst from List.mem_map_of_mem hm)
      simp [hnot, eq_comm]
    · rw [beq_eq_false_iff_ne.mpr e, ih hnd.2]
      simp [e]

theorem nodup_of_pairwise (hL : L.Pairwise (·.1 < ·.1)) : (L.map Prod.fst).Nodup :=
  List.pairwise_map.mpr (hL.imp ne_of_lt)

/-- In a list sorted strictly by name, a lookup finds exactly the members. -/
theorem lookup_eq_some_iff_of_pairwise (hL : L.Pairwise (·.1 < ·.1)) :
    L.lookup k = some b ↔ (k, b) ∈ L :=
  lookup_eq_some_iff_of_nodup (nodup_of_pairwise hL)

theorem lookup_reverse_of_pairwise (hL : L.Pairwise (·.1 < ·.1)) (k : String) :
    L.reverse.lookup k = L.lookup k := by
  have hrev : (L.reverse.map Prod.fst).Nodup := by
    rw [List.map_reverse, List.nodup_reverse]
    exact nodup_of_pairwise hL
  apply Option.ext
  intro b
  rw [lookup_eq_some_iff_of_nodup hrev, lookup_eq_some_iff_of_pairwise hL, List.mem_reverse]

/-- **A list sorted strictly by name is fixed by its members.** -/
theorem eq_of_pairwise_of_mem_iff (hL : L.Pairwise (·.1 < ·.1)) (hM : M.Pairwise (·.1 < ·.1))
    (h : ∀ p, p ∈ L ↔ p ∈ M) : L = M := by
  -- comparing names is irreflexive, and no two pairs compare both ways
  have : Std.Irrefl fun p q : String × β => p.1 < q.1 := ⟨fun p => lt_irrefl p.1⟩
  have : Std.Antisymm fun p q : String × β => p.1 < q.1 :=
    ⟨fun p q hpq hqp => absurd (hpq.trans hqp) (lt_irrefl _)⟩
  exact hL.eq_of_mem_iff hM h

end Keyed

/-! ## 2. Cutting at the first separator -/

section Cut

variable {cs rest : List Char} {c d : Char}

theorem dropWhile_ne_eq_nil : cs.dropWhile (· ≠ c) = [] ↔ c ∉ cs := by
  simp [List.dropWhile_eq_nil_iff, List.forall_mem_ne']

theorem takeWhile_ne_eq_self (h : c ∉ cs) : cs.takeWhile (· ≠ c) = cs :=
  List.takeWhile_eq_self_iff.mpr fun x hx => by simpa using fun e : x = c => h (e ▸ hx)

theorem not_mem_takeWhile_ne (cs : List Char) (c : Char) : c ∉ cs.takeWhile (· ≠ c) := by
  intro hm
  simpa using List.mem_takeWhile_imp hm

/-- **What is left after the part before the first separator starts with the separator.** -/
theorem dropWhile_ne_eq_cons (h : cs.dropWhile (· ≠ c) = d :: rest) :
    d = c ∧ cs = cs.takeWhile (· ≠ c) ++ c :: rest := by
  have hd : d = c := by
    have hnot := List.head?_dropWhile_not (fun x => decide (x ≠ c)) cs
    rw [h] at hnot
    simpa using hnot
  subst hd
  refine ⟨rfl, ?_⟩
  conv_lhs => rw [← List.takeWhile_append_dropWhile (p := fun x => decide (x ≠ d)) (l := cs)]
  rw [h]

theorem splitOn_of_dropWhile_eq_cons (h : cs.dropWhile (· ≠ c) = c :: rest) :
    cs.splitOn c = cs.takeWhile (· ≠ c) :: rest.splitOn c := by
  conv_lhs => rw [(dropWhile_ne_eq_cons h).2]
  exact List.splitOn_append_cons_self_of_not_mem (not_mem_takeWhile_ne cs c) rest

/-- **A text splits first at its first separator.** -/
theorem splitOn_eq_takeWhile_cons (cs : List Char) (c : Char) :
    ∃ parts, cs.splitOn c = cs.takeWhile (· ≠ c) :: parts := by
  cases h : cs.dropWhile (· ≠ c) with
  | nil =>
    have hc := dropWhile_ne_eq_nil.mp h
    exact ⟨[], by rw [List.splitOn_eq_singleton hc, takeWhile_ne_eq_self hc]⟩
  | cons d rest =>
    obtain ⟨rfl, -⟩ := dropWhile_ne_eq_cons h
    exact ⟨_, splitOn_of_dropWhile_eq_cons h⟩

end Cut

end PlotLabels
