import PlotLabels.Error
/-!
# Registries

A registry records which seed each label was given to. Its entries are kept sorted by label
text, and no label and no seed appears in two entries, so the registry is a one-to-one
correspondence: `seedOf` and `labelOf` are inverse lookups.

* `Registry.seedOf`, `Registry.labelOf`: the two lookups.
* `Registry.isFreeFor`: a label may be given to a seed when no other seed holds it.
* `Registry.insert`: records a pair; a label held by another seed is `labelTaken`, the same
  pair again changes nothing, and a seed holding another label is `seedAlreadyLabelled`.
* `insert_of_seedOf_eq_some`, `insert_of_seedOf_eq_none`: the outcome of `insert` read off the
  two lookups; `insertSorted_perm`: placing an entry keeps every other entry.
-/

namespace PlotLabels

/-- Labels and the seeds they were given to, sorted by label. -/
structure Registry where
  entries : List (Label × Seed) := []

namespace Registry

/-- The registry with no entries. -/
def empty : Registry := {}

/-- The seed that holds a label. -/
def seedOf (r : Registry) (l : Label) : Option Seed :=
  r.entries.lookup l

/-- The label a seed holds. -/
def labelOf (r : Registry) (s : Seed) : Option Label :=
  (r.entries.find? (·.2 == s)).map (·.1)

/-- Whether `l` may be given to `s`: nobody holds it, or `s` does. -/
def isFreeFor (r : Registry) (l : Label) (s : Seed) : Bool :=
  match r.seedOf l with
  | some owner => owner == s
  | none => true

/-- The number of entries. -/
def size (r : Registry) : Nat :=
  r.entries.length

/-- Whether there are no entries. -/
def isEmpty (r : Registry) : Bool :=
  r.entries.isEmpty

/-- An entry placed in a label-sorted list before the first entry with a greater label. -/
def insertSorted (e : Label × Seed) : List (Label × Seed) → List (Label × Seed)
  | [] => [e]
  | x :: xs => if e.1 < x.1 then e :: x :: xs else x :: insertSorted e xs

/-- Record that `l` is given to `s`. -/
def insert (r : Registry) (l : Label) (s : Seed) : Except NamingError Registry :=
  match r.seedOf l with
  | some owner => if owner == s then .ok r else .error (.labelTaken l owner)
  | none =>
    match r.labelOf s with
    | some existing => .error (.seedAlreadyLabelled s existing)
    | none => .ok ⟨insertSorted (l, s) r.entries⟩

@[simp] theorem seedOf_empty (l : Label) : Registry.empty.seedOf l = none := rfl

@[simp] theorem labelOf_empty (s : Seed) : Registry.empty.labelOf s = none := rfl

@[simp] theorem size_empty : Registry.empty.size = 0 := rfl

/-- A label is free for a seed when nobody holds it or the seed itself does. -/
theorem isFreeFor_eq_true_iff (r : Registry) (l : Label) (s : Seed) :
    r.isFreeFor l s = true ↔ r.seedOf l = none ∨ r.seedOf l = some s := by
  unfold isFreeFor
  cases r.seedOf l with
  | none => simp
  | some owner => simp only [beq_iff_eq, reduceCtorEq, false_or, Option.some.injEq]

/-- A held label: the same pair again changes nothing, another seed's label is taken. -/
theorem insert_of_seedOf_eq_some {r : Registry} {l : Label} {owner : Seed} (s : Seed)
    (h : r.seedOf l = some owner) :
    r.insert l s = if owner = s then .ok r else .error (.labelTaken l owner) := by
  unfold insert
  rw [h]
  by_cases hs : owner = s
  · simp only [hs, beq_self_eq_true, if_true]
  · simp only [hs, if_false, beq_eq_false_iff_ne.mpr hs, Bool.false_eq_true]

/-- A free label: it is recorded unless the seed already holds a label. -/
theorem insert_of_seedOf_eq_none {r : Registry} {l : Label} (s : Seed) (h : r.seedOf l = none) :
    r.insert l s = match r.labelOf s with
      | some existing => .error (.seedAlreadyLabelled s existing)
      | none => .ok ⟨insertSorted (l, s) r.entries⟩ := by
  unfold insert
  rw [h]

/-- Placing an entry in order adds it and keeps the others. -/
theorem insertSorted_perm (e : Label × Seed) (xs : List (Label × Seed)) :
    (insertSorted e xs).Perm (e :: xs) := by
  induction xs with
  | nil => exact List.Perm.refl _
  | cons x xs ih =>
    unfold insertSorted
    split
    · exact List.Perm.refl _
    · exact (List.Perm.cons x ih).trans (List.Perm.swap e x xs)

@[simp] theorem length_insertSorted (e : Label × Seed) (xs : List (Label × Seed)) :
    (insertSorted e xs).length = xs.length + 1 :=
  (insertSorted_perm e xs).length_eq

end Registry

end PlotLabels
