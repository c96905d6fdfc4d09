import Mathlib.Data.List.Nodup
import Mathlib.Data.String.Basic
import PlotLabels.Json.Decode
import PlotLabels.Proofs.Lists
/-!
# Objects as sorted members

An object keeps its members sorted by key, each key once: `Value.insertField` places a member
before the first greater key and replaces the member with the same key. Built from a list of
members with distinct keys, an object therefore holds exactly the list's members, whatever
their order, and answers a lookup as the list does.

* `mem_insertField`, `keysSorted_insertField`: what one insertion does.
* `mem_insertAll`, `ofFields_eq_of_mem_iff`: an object of distinct keys depends only on which
  members its list holds.
* `rekey_object`, `rekey_ofFields`: renaming keys rebuilds each object from its renamed
  members, so a renaming that is one-to-one on an object's keys renames each member in place.
* `Record.ofValue_ofFields`: a record opened on an object checks every member it knows; with
  `lookup_insertAll` it then reads each field from the list's member.
-/

namespace PlotLabels.Json

/-- Members in strictly increasing key order. -/
def KeysSorted (fs : List (String × Value)) : Prop :=
  fs.Pairwise fun a b => a.1 < b.1

/-- The keys of a list of members. -/
def keys (fs : List (String × Value)) : List String :=
  fs.map (·.1)

/-- The members `fs` inserted in turn into the sorted members `acc`, as an object is built. -/
def insertAll (fs acc : List (String × Value)) : List (String × Value) :=
  fs.foldl (fun acc p => Value.insertField p.1 p.2 acc) acc

theorem ofFields_eq (fs : List (String × Value)) :
    Value.ofFields fs = .object (insertAll fs []) :=
  rfl

variable {fs acc : List (String × Value)} {k : String} {v : Value} {p : String × Value}

/-! ## 1. One insertion -/

theorem mem_insertField_of_mem (h : p ∈ Value.insertField k v fs) : p = (k, v) ∨ p ∈ fs := by
  induction fs with
  | nil => exact .inl (List.mem_singleton.mp h)
  | cons q rest ih =>
    unfold Value.insertField at h
    split at h
    · exact (List.mem_cons.mp h).imp id id
    · split at h
      · rcases List.mem_cons.mp h with h | h
        · exact .inl h
        · exact .inr (List.mem_cons_of_mem q h)
      · rcases List.mem_cons.mp h with h | h
        · exact .inr (h ▸ List.mem_cons_self)
        · exact (ih h).imp id (List.mem_cons_of_mem q)

/-- **Inserting keeps the keys strictly increasing.** -/
theorem keysSorted_insertField (h : KeysSorted fs) : KeysSorted (Value.insertField k v fs) := by
  induction fs with
  | nil => exact List.pairwise_singleton _ _
  | cons q rest ih =>
    rw [KeysSorted, List.pairwise_cons] at h
    unfold Value.insertField
    split
    · -- the new member goes first, below `q` and so below the rest
      rename_i hlt
      refine List.Pairwise.cons (fun e he => ?_) (List.Pairwise.cons h.1 h.2)
      rcases List.mem_cons.mp he with rfl | he
      · exact hlt
      · exact String.lt_trans hlt (h.1 e he)
    · split
      · -- the new member replaces `q`, whose key it has
        rename_i heq
        subst heq
        exact List.Pairwise.cons h.1 h.2
      · -- the new member goes further in, above `q`
        rename_i hlt hne
        have hq : q.1 < k := (lt_or_gt_of_ne hne).resolve_left hlt
        refine List.Pairwise.cons (fun e he => ?_) (ih h.2)
        rcases mem_insertField_of_mem he with rfl | he
        · exact hq
        · exact h.1 e he

theorem mem_insertField_self : (k, v) ∈ Value.insertField k v fs := by
  induction fs with
  | nil => exact List.mem_singleton_self _
  | cons q rest ih =>
    unfold Value.insertField
    split
    · exact List.mem_cons_self
    · split
      · exact List.mem_cons_self
      · exact List.mem_cons_of_mem _ ih

/-- A member under another key survives the insertion. -/
theorem mem_insertField_of_ne (hp : p ∈ fs) (hk : p.1 ≠ k) : p ∈ Value.insertField k v fs := by
  induction fs with
  | nil => exact absurd hp List.not_mem_nil
  | cons q rest ih =>
    unfold Value.insertField
    split
    · exact List.mem_cons_of_mem _ hp
    · split
      · -- `q` is replaced, and `p` is not `q`, whose key is `k`
        rename_i heq
        rcases List.mem_cons.mp hp with rfl | hp
        · exact absurd heq.symm hk
        · exact List.mem_cons_of_mem _ hp
      · rcases List.mem_cons.mp hp with rfl | hp
        · exact List.mem_cons_self
        · exact List.mem_cons_of_mem _ (ih hp)

theorem KeysSorted.keys_nodup (h : KeysSorted fs) : (keys fs).Nodup :=
  nodup_of_pairwise h

/-- **Inserting into sorted members adds the member and drops the one with its key.** -/
theorem mem_insertField (h : KeysSorted fs) :
    p ∈ Value.insertField k v fs ↔ p = (k, v) ∨ (p ∈ fs ∧ p.1 ≠ k) := by
  constructor
  · intro hp
    by_cases hk : p.1 = k
    · -- the result is sorted, so the new member is the only one under `k`
      exact .inl (List.inj_on_of_nodup_map (keysSorted_insertField h).keys_nodup hp
        mem_insertField_self hk)
    · exact (mem_insertField_of_mem hp).imp id fun hp => ⟨hp, hk⟩
  · rintro (rfl | ⟨hp, hk⟩)
    · exact mem_insertField_self
    · exact mem_insertField_of_ne hp hk

/-! ## 2. Objects of distinct keys -/

theorem keysSorted_insertAll (h : KeysSorted acc) : KeysSorted (insertAll fs acc) := by
  induction fs generalizing acc with
  | nil => exact h
  | cons q rest ih => exact ih (keysSorted_insertField h)

/-- Inserting members of distinct keys: the members inserted, and those of `acc` under keys not
inserted. -/
theorem mem_insertAll (hacc : KeysSorted acc) (hnd : (keys fs).Nodup) :
    p ∈ insertAll fs acc ↔ p ∈ fs ∨ (p ∈ acc ∧ p.1 ∉ keys fs) := by
  induction fs generalizing acc with
  | nil => simp [insertAll, keys]
  | cons q rest ih =>
    rw [keys, List.map_cons, List.nodup_cons] at hnd
    change p ∈ insertAll rest (Value.insertField q.1 q.2 acc) ↔ _
    rw [ih (keysSorted_insertField hacc) hnd.2, mem_insertField hacc]
    simp only [keys, List.map_cons, List.mem_cons, not_or]
    constructor
    · rintro (he | ⟨rfl | ⟨he, hk⟩, hk'⟩)
      · exact .inl (.inr he)
      · exact .inl (.inl rfl)
      · exact .inr ⟨he, hk, hk'⟩
    · rintro ((rfl | he) | ⟨he, hk, hk'⟩)
      · exact .inr ⟨.inl rfl, hnd.1⟩
      · exact .inl he
      · exact .inr ⟨.inr ⟨he, hk⟩, hk'⟩

/-- Every member of the result comes from the members inserted or from `acc`. -/
theorem mem_of_mem_insertAll (h : p ∈ insertAll fs acc) : p ∈ fs ∨ p ∈ acc := by
  induction fs generalizing acc with
  | nil => exact .inr h
  | cons q rest ih =>
    rcases ih h with hp | hp
    · exact .inl (List.mem_cons_of_mem q hp)
    · rcases mem_insertField_of_mem hp with rfl | hp
      · exact .inl List.mem_cons_self
      · exact .inr hp

/-- An object of members with distinct keys holds exactly those members. -/
theorem mem_insertAll_nil (hnd : (keys fs).Nodup) : p ∈ insertAll fs [] ↔ p ∈ fs := by
  rw [mem_insertAll List.Pairwise.nil hnd]
  simp

/-- **An object of distinct keys depends only on which members its list holds.** -/
theorem ofFields_eq_of_mem_iff {xs ys : List (String × Value)} (hx : (keys xs).Nodup)
    (hy : (keys ys).Nodup) (h : ∀ p, p ∈ xs ↔ p ∈ ys) : Value.ofFields xs = Value.ofFields ys := by
  have hmem : ∀ p, p ∈ insertAll xs [] ↔ p ∈ insertAll ys [] := fun p => by
    rw [mem_insertAll_nil hx, mem_insertAll_nil hy]
    exact h p
  rw [ofFields_eq, ofFields_eq,
    eq_of_pairwise_of_mem_iff (keysSorted_insertAll .nil) (keysSorted_insertAll .nil) hmem]

/-- **An object of distinct keys answers a lookup as its list does.** -/
theorem lookup_insertAll (hnd : (keys fs).Nodup) : (insertAll fs []).lookup k = fs.lookup k := by
  have hsorted : KeysSorted (insertAll fs []) := keysSorted_insertAll .nil
  have hnd' := hsorted.keys_nodup
  apply Option.ext
  intro v
  rw [lookup_eq_some_iff_of_nodup hnd', lookup_eq_some_iff_of_nodup hnd, mem_insertAll_nil hnd]

/-! ## 3. Renaming keys -/

/-- Renaming inserts the renamed members one after another. -/
theorem rekeyMembers_eq (f : String → String) (fs acc : List (String × Value)) :
    Value.rekeyMembers f fs acc = insertAll (fs.map fun p => (f p.1, p.2.rekey f)) acc := by
  induction fs generalizing acc with
  | nil => rfl
  | cons p fs ih =>
    obtain ⟨k, v⟩ := p
    rw [Value.rekeyMembers, ih]
    rfl

/-- **Renaming rebuilds an object from its renamed members.** -/
theorem rekey_object (f : String → String) (fs : List (String × Value)) :
    (Value.object fs).rekey f = Value.ofFields (fs.map fun p => (f p.1, p.2.rekey f)) := by
  rw [Value.rekey, rekeyMembers_eq]
  rfl

theorem keys_map_rename (f : String → String) (fs : List (String × Value)) :
    keys (fs.map fun p => (f p.1, p.2.rekey f)) = (keys fs).map f := by
  simp [keys]

/-- **A renaming one-to-one on an object's keys renames each member in place.** -/
theorem rekey_ofFields {f : String → String} (hnd : (keys fs).Nodup)
    (hinj : ∀ a ∈ keys fs, ∀ b ∈ keys fs, f a = f b → a = b) :
    (Value.ofFields fs).rekey f = Value.ofFields (fs.map fun p => (f p.1, p.2.rekey f)) := by
  have hsorted : KeysSorted (insertAll fs []) := keysSorted_insertAll .nil
  -- the object's keys are the list's keys, so the renaming is one-to-one on them too
  have hsub : ∀ a ∈ keys (insertAll fs []), a ∈ keys fs := fun a ha => by
    obtain ⟨q, hq, rfl⟩ := List.mem_map.mp ha
    exact List.mem_map_of_mem ((mem_insertAll_nil hnd).mp hq)
  rw [ofFields_eq, rekey_object]
  refine ofFields_eq_of_mem_iff ?_ ?_ fun q => ?_
  · rw [keys_map_rename]
    exact hsorted.keys_nodup.map_on fun a ha b hb => hinj a (hsub a ha) b (hsub b hb)
  · rw [keys_map_rename]
    exact hnd.map_on hinj
  · simp only [List.mem_map]
    exact ⟨fun ⟨p, hp, e⟩ => ⟨p, (mem_insertAll_nil hnd).mp hp, e⟩,
      fun ⟨p, hp, e⟩ => ⟨p, (mem_insertAll_nil hnd).mpr hp, e⟩⟩

/-! ## 4. Records read from objects -/

/-- Members whose every known key passes its check pass the visit. -/
theorem Record.visitMembers_eq_ok {checks : List (String × Decoder Unit)}
    (h : ∀ p ∈ fs, ∀ c, checks.lookup p.1 = some c → c p.2 = .ok ()) :
    Record.visitMembers checks fs = .ok () := by
  induction fs with
  | nil => rfl
  | cons q rest ih =>
    obtain ⟨k', v'⟩ := q
    have hrest := ih fun p hp => h p (List.mem_cons_of_mem _ hp)
    unfold Record.visitMembers
    split
    · rename_i c hc
      rw [h (k', v') List.mem_cons_self c hc]
      exact hrest
    · exact hrest

/-- **A record opened on an object checks every member it knows.** -/
theorem Record.ofValue_ofFields {name : String} {checks : List (String × Decoder Unit)}
    (h : ∀ p ∈ fs, ∀ c, checks.lookup p.1 = some c → c p.2 = .ok ()) :
    Record.ofValue name checks (Value.ofFields fs) =
      .ok ⟨name, checks.length, .inl (insertAll fs [])⟩ := by
  rw [ofFields_eq, Record.ofValue, Record.visitMembers_eq_ok fun p hp =>
    h p ((mem_of_mem_insertAll hp).resolve_right List.not_mem_nil)]
  rfl

end PlotLabels.Json
