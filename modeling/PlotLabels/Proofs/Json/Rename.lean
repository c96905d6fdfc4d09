import Mathlib.Data.List.Dedup
import Mathlib.Data.List.Induction
import PlotLabels.Proofs.Json.Object
import PlotLabels.Text.WordCase
/-!
# Renaming keys against its reference

A map sorted by key lists the members of each object in strictly increasing key order
(`Value.Ordered`). On such values renaming keys has a description that does not mention the
order of insertions: `Value.renamed` keeps scalars, renames the items of an array one by one,
and sends an object to the object whose keys are the new names of its keys, each new name
holding the renamed value of the greatest old key given that name. The renaming that runs
inserts the renamed members in key order, so the last member given a name wins; in a sorted
object the last one is the greatest.

* `lookup_insertAll_nil`: an object built by insertions holds, under each key, the value
  inserted last under it.
* `lookup_reverse_rename_eq_some`: in a sorted object, the last member renamed to a name is
  the one with the greatest key.
* `insertAll_rename`: rebuilding a sorted object under new names gives `renameMembers`.
* `Value.Ordered.rekey_eq_renamed`: the two renamings agree on every ordered value;
  `length_renameMembers_eq_iff`: an object keeps all its members exactly when no two of its
  keys get one name.
-/

namespace PlotLabels.Json

/-! ## 1. Values with sorted objects -/

/-- Values whose objects, at every depth, list their members in strictly increasing key
order, each key once: the values a map sorted by key can hold. -/
inductive Value.Ordered : Value → Prop
  | null : Value.Ordered .null
  | bool (b : Bool) : Value.Ordered (.bool b)
  | number (n : Number) : Value.Ordered (.number n)
  | string (s : String) : Value.Ordered (.string s)
  | array {items : List Value} : (∀ v ∈ items, Value.Ordered v) → Value.Ordered (.array items)
  | object {m : List (String × Value)} : KeysSorted m → (∀ p ∈ m, Value.Ordered p.2) →
      Value.Ordered (.object m)

/-! ## 2. The reference -/

/-- The new names of an object's keys, each once, in increasing order. -/
def renamedKeys (f : String → String) (m : List (String × Value)) : List String :=
  ((keys m).map f).dedup.mergeSort

/-- The greatest key of `m` that `f` renames to `k'`. -/
def greatestKeyNamed (f : String → String) (m : List (String × Value)) (k' : String) :
    Option String :=
  ((keys m).filter (f · = k')).max?

/-- The members of an object under their new names: each new name holds the value of the
greatest key given that name. -/
def renameMembers (f : String → String) (m : List (String × Value)) : List (String × Value) :=
  (renamedKeys f m).filterMap fun k' =>
    ((greatestKeyNamed f m k').bind (List.lookup · m)).map (k', ·)

mutual

/-- Every key renamed by `f`, described without insertions: scalars are kept, the items of an
array renamed in place, and an object rebuilt by `renameMembers` from its renamed values. -/
def Value.renamed (f : String → String) : Value → Value
  | .array items => .array (Value.renamedItems f items)
  | .object m => .object (renameMembers f (Value.renamedValues f m))
  | v => v

/-- The items of an array, each renamed. -/
def Value.renamedItems (f : String → String) : List Value → List Value
  | [] => []
  | v :: vs => v.renamed f :: Value.renamedItems f vs

/-- The members of an object with their values renamed and their keys kept. -/
def Value.renamedValues (f : String → String) : List (String × Value) → List (String × Value)
  | [] => []
  | (k, v) :: rest => (k, v.renamed f) :: Value.renamedValues f rest

end

theorem renamedItems_eq_map (f : String → String) (items : List Value) :
    Value.renamedItems f items = items.map (Value.renamed f) := by
  induction items with
  | nil => rfl
  | cons v vs ih => rw [Value.renamedItems, ih, List.map_cons]

theorem renamedValues_eq_map (f : String → String) (m : List (String × Value)) :
    Value.renamedValues f m = m.map fun p => (p.1, p.2.renamed f) := by
  induction m with
  | nil => rfl
  | cons p rest ih =>
    obtain ⟨k, v⟩ := p
    rw [Value.renamedValues, ih, List.map_cons]

theorem rekeyItems_eq_map (f : String → String) (items : List Value) :
    Value.rekeyItems f items = items.map (Value.rekey f) := by
  induction items with
  | nil => rfl
  | cons v vs ih => rw [Value.rekeyItems, ih, List.map_cons]

variable {f : String → String} {m fs : List (String × Value)} {k k' j : String} {w : Value}

/-- `k` is the greatest key of `m` that `f` renames to `k'`. -/
def GreatestNamed (f : String → String) (m : List (String × Value)) (k' k : String) : Prop :=
  k ∈ keys m ∧ f k = k' ∧ ∀ j ∈ keys m, f j = k' → j ≤ k

theorem greatestKeyNamed_eq_some : greatestKeyNamed f m k' = some k ↔ GreatestNamed f m k' k := by
  simp [greatestKeyNamed, GreatestNamed, List.max?_eq_some_iff, List.mem_filter, and_assoc]

/-! ## 3. Objects built by insertions -/

/-- Inserting into sorted members answers a lookup under the new key with the new value. -/
theorem lookup_insertField (h : KeysSorted fs) (k : String) (v : Value) (j : String) :
    (Value.insertField k v fs).lookup j = if j = k then some v else fs.lookup j := by
  apply Option.ext
  intro w
  rw [lookup_eq_some_iff_of_pairwise (keysSorted_insertField h), mem_insertField h]
  split
  · rename_i hj
    subst hj
    simp [eq_comm]
  · rename_i hj
    rw [lookup_eq_some_iff_of_pairwise h]
    simp [hj]

/-- **An object built by insertions holds, under each key, the value inserted last under
it.** -/
theorem lookup_insertAll_nil (fs : List (String × Value)) (j : String) :
    (insertAll fs []).lookup j = fs.reverse.lookup j := by
  induction fs using List.reverseRecOn with
  | nil => rfl
  | append_singleton fs q ih =>
    have hlast : insertAll (fs ++ [q]) [] = Value.insertField q.1 q.2 (insertAll fs []) := by
      simp [insertAll, List.foldl_append]
    rw [hlast, lookup_insertField (keysSorted_insertAll .nil), ih, List.reverse_append]
    obtain ⟨k, v⟩ := q
    by_cases hj : j = k
    · simp [hj]
    · simp [hj, List.lookup_cons, beq_eq_false_iff_ne.mpr hj]

/-! ## 4. The last member given a name is the greatest -/

/-- A member appended above every key, under the name `k'`, is the greatest of that name. -/
theorem greatestNamed_append_of_eq (q : String × Value) (hq : ∀ p ∈ m, p.1 < q.1)
    (h : f q.1 = k') : GreatestNamed f (m ++ [q]) k' k ↔ k = q.1 := by
  simp only [GreatestNamed, keys, List.map_append, List.map_cons, List.map_nil, List.mem_append,
    List.mem_singleton, List.mem_map]
  constructor
  · rintro ⟨hk, -, hmax⟩
    have hle : q.1 ≤ k := hmax q.1 (.inr rfl) h
    rcases hk with ⟨p, hp, rfl⟩ | rfl
    · exact absurd hle (not_le.mpr (hq p hp))
    · rfl
  · rintro rfl
    refine ⟨.inr rfl, h, fun j hj _ => ?_⟩
    rcases hj with ⟨p, hp, rfl⟩ | rfl
    · exact (hq p hp).le
    · exact le_rfl

/-- A member appended under another name leaves the greatest key of the name `k'`. -/
theorem greatestNamed_append_of_ne (q : String × Value) (h : f q.1 ≠ k') :
    GreatestNamed f (m ++ [q]) k' k ↔ GreatestNamed f m k' k := by
  simp only [GreatestNamed, keys, List.map_append, List.map_cons, List.map_nil, List.mem_append,
    List.mem_singleton]
  constructor
  · rintro ⟨hk | rfl, hfk, hmax⟩
    · exact ⟨hk, hfk, fun j hj => hmax j (.inl hj)⟩
    · exact absurd hfk h
  · rintro ⟨hk, hfk, hmax⟩
    refine ⟨.inl hk, hfk, fun j hj hfj => ?_⟩
    rcases hj with hj | rfl
    · exact hmax j hj hfj
    · exact absurd hfj h

/-- **In a sorted object, the last member renamed to `k'` is the one with the greatest key of
that name.** -/
theorem lookup_reverse_rename_eq_some (hm : KeysSorted m) :
    (m.map fun p => (f p.1, p.2)).reverse.lookup k' = some w ↔
      ∃ k, GreatestNamed f m k' k ∧ (k, w) ∈ m := by
  induction m using List.reverseRecOn with
  | nil => simp
  | append_singleton m q ih =>
    rw [KeysSorted, List.pairwise_append] at hm
    obtain ⟨hm, -, hq⟩ := hm
    have hq : ∀ p ∈ m, p.1 < q.1 := fun p hp => hq p hp q (List.mem_singleton_self q)
    simp only [List.map_append, List.map_cons, List.map_nil, List.reverse_append,
      List.reverse_cons, List.reverse_nil, List.nil_append, List.singleton_append,
      List.mem_append, List.mem_singleton]
    obtain ⟨kq, vq⟩ := q
    by_cases hname : f kq = k'
    · -- the appended member is the last of its name, and its key the greatest
      subst hname
      have hfresh : (kq, w) ∉ m := fun hw => lt_irrefl kq (hq _ hw)
      simp only [List.lookup_cons_self, Option.some.injEq,
        greatestNamed_append_of_eq (kq, vq) hq rfl, exists_eq_left, hfresh, false_or,
        Prod.mk.injEq, true_and]
      exact eq_comm
    · -- the appended member has another name, so the lookup and the greatest key pass it over
      rw [List.lookup_cons, beq_eq_false_iff_ne.mpr (Ne.symm hname), ih hm]
      simp only [greatestNamed_append_of_ne (kq, vq) hname]
      constructor
      · rintro ⟨k, hg, hk⟩
        exact ⟨k, hg, .inl hk⟩
      · rintro ⟨k, hg, hk | hk⟩
        · exact ⟨k, hg, hk⟩
        · cases hk
          exact absurd hg.2.1 hname

/-! ## 5. The reference's members -/

theorem mem_renamedKeys : k' ∈ renamedKeys f m ↔ ∃ k ∈ keys m, f k = k' := by
  simp [renamedKeys]

/-- The new names come in strictly increasing order. -/
theorem renamedKeys_sorted : (renamedKeys f m).Pairwise (· < ·) := by
  have hle : (renamedKeys f m).Pairwise fun a b => decide (a ≤ b) = true :=
    List.pairwise_mergeSort
      (fun a b c hab hbc => by simpa using le_trans (by simpa using hab) (by simpa using hbc))
      (fun a b => by simpa using le_total a b) _
  have hnd : (renamedKeys f m).Nodup :=
    (List.mergeSort_perm _ _).nodup_iff.mpr (List.nodup_dedup _)
  exact (hle.and hnd).imp fun ⟨h1, h2⟩ => lt_of_le_of_ne (by simpa using h1) h2

theorem keysSorted_renameMembers : KeysSorted (renameMembers f m) := by
  refine List.pairwise_filterMap.mpr (renamedKeys_sorted.imp fun hab p hp q hq => ?_)
  obtain ⟨v, -, rfl⟩ := Option.map_eq_some_iff.mp hp
  obtain ⟨u, -, rfl⟩ := Option.map_eq_some_iff.mp hq
  exact hab

/-- A member of the reference object is a new name with the value of the greatest key of that
name. -/
theorem mem_renameMembers (hm : (keys m).Nodup) :
    (k', w) ∈ renameMembers f m ↔ ∃ k, GreatestNamed f m k' k ∧ (k, w) ∈ m := by
  simp only [renameMembers, List.mem_filterMap, Option.map_eq_some_iff, Option.bind_eq_some_iff,
    Prod.mk.injEq]
  constructor
  · rintro ⟨a, -, v, ⟨k, hk, hlook⟩, rfl, rfl⟩
    exact ⟨k, greatestKeyNamed_eq_some.mp hk, (lookup_eq_some_iff_of_nodup hm).mp hlook⟩
  · rintro ⟨k, hg, hkw⟩
    have hlook : m.lookup k = some w := (lookup_eq_some_iff_of_nodup hm).mpr hkw
    exact ⟨k', mem_renamedKeys.mpr ⟨k, hg.1, hg.2.1⟩, w,
      ⟨k, greatestKeyNamed_eq_some.mpr hg, hlook⟩, rfl, rfl⟩

/-! ## 6. The two renamings agree -/

/-- **Rebuilding a sorted object by inserting its members under their new names gives the
reference's members.** -/
theorem insertAll_rename (hm : KeysSorted m) :
    insertAll (m.map fun p => (f p.1, p.2)) [] = renameMembers f m := by
  have hins : KeysSorted (insertAll (m.map fun p => (f p.1, p.2)) []) := keysSorted_insertAll .nil
  refine eq_of_pairwise_of_mem_iff hins keysSorted_renameMembers fun ⟨k', w⟩ => ?_
  rw [← lookup_eq_some_iff_of_pairwise hins, lookup_insertAll_nil,
    lookup_reverse_rename_eq_some hm, mem_renameMembers hm.keys_nodup]

/-- **Renaming keys agrees with the reference on every ordered value.** -/
theorem Value.Ordered.rekey_eq_renamed {v : Value} (hv : v.Ordered) :
    v.rekey f = v.renamed f := by
  induction hv with
  | null | bool | number | string => rfl
  | array _ ih =>
    rw [Value.rekey, Value.renamed, rekeyItems_eq_map, renamedItems_eq_map, List.map_congr_left ih]
  | @object m hm _ ih =>
    -- the values are renamed first, under the old keys, which stay sorted
    have hm' : KeysSorted (m.map fun p => (p.1, p.2.renamed f)) := List.pairwise_map.mpr hm
    rw [rekey_object, Value.renamed, renamedValues_eq_map, ← insertAll_rename hm', List.map_map,
      ofFields_eq]
    exact congrArg (fun l => Value.object (insertAll l []))
      (List.map_congr_left fun p hp => by simp [ih p hp])

-- two keys given one name: the greater one's value stays
example : (Value.object [("a", .bool false), ("b", .bool true)]).rekey (fun _ => "k") =
    .object [("k", .bool true)] := by
  cbv

/-! ## 7. Members lost -/

/-- Each new name of a key holds a member of the reference object. -/
theorem renameMembers_isSome (hm : (keys m).Nodup) (hk' : k' ∈ renamedKeys f m) :
    (((greatestKeyNamed f m k').bind (List.lookup · m)).map (k', ·)).isSome := by
  obtain ⟨k, hk, rfl⟩ := mem_renamedKeys.mp hk'
  -- the keys named `f k` include `k`, so they have a greatest
  obtain ⟨k₀, hk₀⟩ : ∃ k₀, greatestKeyNamed f m (f k) = some k₀ := by
    refine Option.ne_none_iff_exists'.mp fun hnone => ?_
    rw [greatestKeyNamed, List.max?_eq_none_iff, List.filter_eq_nil_iff] at hnone
    exact hnone k hk (by simp)
  obtain ⟨p, hp, rfl⟩ := List.mem_map.mp (greatestKeyNamed_eq_some.mp hk₀).1
  simp [hk₀, (lookup_eq_some_iff_of_nodup hm).mpr hp]

theorem length_renameMembers (hm : (keys m).Nodup) :
    (renameMembers f m).length = ((keys m).map f).dedup.length := by
  rw [renameMembers, List.filterMap_length_eq_length.mpr fun k' hk' => renameMembers_isSome hm hk',
    renamedKeys, List.length_mergeSort]

/-- **An object keeps all its members exactly when no two of its keys get one name.** -/
theorem length_renameMembers_eq_iff (hm : (keys m).Nodup) :
    (renameMembers f m).length = m.length ↔
      ∀ a ∈ keys m, ∀ b ∈ keys m, f a = f b → a = b := by
  have hlen : m.length = ((keys m).map f).length := by simp [keys]
  rw [length_renameMembers hm, hlen, ← List.nodup_map_iff_inj_on hm]
  constructor
  · intro h
    rw [← (List.dedup_sublist _).eq_of_length h]
    exact List.nodup_dedup _
  · intro h
    rw [List.dedup_eq_self.mpr h]

/-! ## 8. Renaming keys, whole -/

/-- **Renaming keys is the reference renaming on every value a sorted map holds, and it drops
members of an object only where two of its keys get one name.** -/
theorem rekey_eq_reference (f : String → String) {v : Value} (hv : v.Ordered) :
    v.rekey f = v.renamed f ∧
      ∀ m, v = .object m → ∃ m', v.rekey f = .object m' ∧
        (m'.length = m.length ↔ ∀ a ∈ keys m, ∀ b ∈ keys m, f a = f b → a = b) := by
  refine ⟨hv.rekey_eq_renamed, ?_⟩
  rintro m rfl
  have hm : KeysSorted m := by
    cases hv with
    | object hm _ => exact hm
  -- renaming the values first keeps the keys, and so their number
  have hkeys : keys (Value.renamedValues f m) = keys m := by
    simp [renamedValues_eq_map, keys]
  have hlen : (Value.renamedValues f m).length = m.length := by
    simp [renamedValues_eq_map]
  refine ⟨renameMembers f (Value.renamedValues f m), hv.rekey_eq_renamed.trans ?_, ?_⟩
  · rw [Value.renamed]
  · rw [← hlen, length_renameMembers_eq_iff (hkeys ▸ hm.keys_nodup), hkeys]

/-- Snake case gives two keys of an object one name. -/
theorem rekey_eq_reference_snake_collision :
    (Value.object [("launcherId", .string "keepThisValue"), ("launcher_id", .null)]).Ordered ∧
      ((Value.object [("launcherId", .string "keepThisValue"), ("launcher_id", .null)]).rekey
          Text.toSnakeCase =
        (Value.object [("launcherId", .string "keepThisValue"), ("launcher_id", .null)]).renamed
          Text.toSnakeCase ∧
      ∀ m, Value.object [("launcherId", .string "keepThisValue"), ("launcher_id", .null)] =
          .object m → ∃ m', (Value.object [("launcherId", .string "keepThisValue"),
            ("launcher_id", .null)]).rekey Text.toSnakeCase = .object m' ∧
          (m'.length = m.length ↔ ∀ a ∈ keys m, ∀ b ∈ keys m,
            Text.toSnakeCase a = Text.toSnakeCase b → a = b)) := by
  have hv : (Value.object [("launcherId", .string "keepThisValue"),
      ("launcher_id", .null)]).Ordered := by
    refine .object (List.pairwise_pair.mpr (by decide)) fun p hp => ?_
    simp only [List.mem_cons, List.not_mem_nil, or_false] at hp
    rcases hp with rfl | rfl
    · exact .string _
    · exact .null
  exact ⟨hv, rekey_eq_reference Text.toSnakeCase hv⟩

end PlotLabels.Json
