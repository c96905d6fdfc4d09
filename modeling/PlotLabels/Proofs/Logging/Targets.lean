import Mathlib
import PlotLabels.Logging.Targets
import PlotLabels.Proofs.Lists
import PlotLabels.Proofs.Text.LowerCase
/-!
# The targets a logging setting names

A setting is read item by item, each item changing a keyword level and a name-sorted list of
named targets. Read as a whole, a setting says the following. Its fields are its items,
trimmed, with the empty ones dropped. The keyword level is TRACE if a field is `all`, else
DEBUG if one is `v`. Every other field names a target by its text before the first `=` and a
level by its text between the first and the second `=` (TRACE when it has no `=`), in any
ASCII case. The first field whose level is no level name is reported; otherwise this
program's components get the keyword level, every named target gets the level of its last
field, which overrides the keyword, and the list is sorted strictly by name. So neither the
place of the keywords among the fields nor empty fields matter, and no field lacks a name.

* `settingFields`, `keywordLevel`, `fieldName`, `fieldLevel`, `levelNamed?`, `firstBadField`,
  `namedLevels`, `targetLevel`: what a setting says.
* `Level.read_eq`: a level is read by the ASCII lower case of its name.
* `add_named`: one named field, cut at its `=`.
* `foldlM_add`: reading the items one by one is `addAll`, all fields at once.
* `lookup_setTarget`, `pairwise_setTarget`, `lookup_foldl_setTarget`: the name-sorted list.
* `lookup_result`: the level the result gives a name.
* `targets_eq_ok_iff`, `targets_eq_error_iff`, `targets_outcomes`: what a setting gives.
-/

namespace PlotLabels.Logging

/-! ## 1. What a setting says -/

/-- The fields of a setting: its comma-separated items, trimmed, without the empty ones. -/
def settingFields (setting : String) : List String :=
  ((setting.toList.splitOn ',').map fun cs => Text.trimBlank (String.ofList cs)).filter (· ≠ "")

/-- The level the keywords among the fields set: TRACE for `all`, else DEBUG for `v`. -/
def keywordLevel (fs : List String) : Option Level :=
  if "all" ∈ fs then some .trace else if "v" ∈ fs then some .debug else none

/-- The fields that name a target. -/
def namedFields (fs : List String) : List String :=
  fs.filter fun f => f ≠ "all" ∧ f ≠ "v"

/-- The target a field names: its text before the first `=`. -/
def fieldName (f : String) : String :=
  String.ofList (f.toList.takeWhile (· ≠ '='))

/-- The level a field names: its text between the first and the second `=`, TRACE without
`=`. -/
def fieldLevel (f : String) : String :=
  match f.toList.dropWhile (· ≠ '=') with
  | [] => "trace"
  | _ :: rest => String.ofList (rest.takeWhile (· ≠ '='))

/-- The level names, in lower case. -/
def levelNames : List (String × Level) :=
  [("info", .info), ("debug", .debug), ("trace", .trace), ("warn", .warn), ("error", .error)]

/-- The level a text names in any ASCII case. -/
def levelNamed? (raw : String) : Option Level :=
  levelNames.lookup raw.toLower

/-- The first named field whose level is no level name. -/
def firstBadField (fs : List String) : Option String :=
  (namedFields fs).find? fun f => (levelNamed? (fieldLevel f)).isNone

/-- The targets and levels the named fields give, in the order of the fields. -/
def namedLevels (fs : List String) : List (String × Level) :=
  (namedFields fs).filterMap fun f => (levelNamed? (fieldLevel f)).map (fieldName f, ·)

/-- The level the fields give a target: that of its last named field, else the keyword level
if it is one of this program's components. -/
def targetLevel (fs : List String) (name : String) : Option Level :=
  ((namedLevels fs).reverse.lookup name).or (if name ∈ ownTargets then keywordLevel fs else none)

/-! ## 2. Level names -/

/-- **A level is read by the ASCII lower case of its name.** The full lower case of a text
spells a level name exactly when its ASCII lower case does. -/
theorem Level.read_eq (raw : String) :
    Level.read raw = (levelNamed? raw).elim (.error (.unsupportedLevel raw)) .ok := by
  -- no level name has a `k`, the one small letter a non-ASCII character lowers to alone
  have hlow (w : String) (hw : ∀ d ∈ w.toList, d.isLower = true ∧ d ≠ 'k') :
      Text.toLowerText raw = w ↔ raw.toLower = w := Text.toLowerText_eq_iff hw
  simp only [Level.read, hlow "info" (by simp), hlow "debug" (by simp),
    hlow "trace" (by simp), hlow "warn" (by simp), hlow "error" (by simp)]
  unfold levelNamed? levelNames
  clear hlow
  split_ifs <;> simp_all [List.lookup, Bool.beq_eq_decide_eq]

/-! ## 3. One item -/

theorem add_empty (t : TargetList) : t.add "" = .ok t := rfl

theorem add_all (t : TargetList) : t.add "all" = .ok { t with keyword := some .trace } := rfl

theorem add_v (t : TargetList) :
    t.add "v" = .ok { t with keyword := t.keyword.orElse fun _ => some .debug } := rfl

/-- **A named field sets its target to its level, or is refused for its level.** -/
theorem add_named (t : TargetList) {f : String} (h₁ : f ≠ "") (h₂ : f ≠ "all") (h₃ : f ≠ "v") :
    t.add f = (levelNamed? (fieldLevel f)).elim (.error (.unsupportedLevel (fieldLevel f)))
      fun l => .ok { t with named := setTarget (fieldName f) l t.named } := by
  have hne : f.isEmpty = false := String.isEmpty_eq_false_iff.mpr h₁
  unfold TargetList.add
  simp only [hne, h₂, h₃, if_false, Bool.false_eq_true]
  cases hd : f.toList.dropWhile (· ≠ '=') with
  | nil =>
    -- without `=` the whole field names the target, at TRACE
    have hsplit : f.toList.splitOn '=' = [f.toList] :=
      List.splitOn_eq_singleton (dropWhile_ne_eq_nil.mp hd)
    have hname : fieldName f = String.ofList f.toList := by
      rw [fieldName, takeWhile_ne_eq_self (dropWhile_ne_eq_nil.mp hd)]
    have hlevel : fieldLevel f = "trace" := by rw [fieldLevel, hd]
    have htrace : levelNamed? "trace" = some .trace := by decide +kernel
    simp only [hsplit, hname, hlevel, htrace]
    rfl
  | cons d rest =>
    obtain ⟨rfl, -⟩ := dropWhile_ne_eq_cons hd
    obtain ⟨parts, hparts⟩ := splitOn_eq_takeWhile_cons rest '='
    have hlevel : fieldLevel f = String.ofList (rest.takeWhile (· ≠ '=')) := by
      rw [fieldLevel, hd]
    rw [splitOn_of_dropWhile_eq_cons hd, hparts]
    simp only [Level.read_eq, ← hlevel, fieldName]
    cases levelNamed? (fieldLevel f) <;> rfl

/-! ## 4. All the fields at once -/

/-- The keyword level after the fields, from the level `k` read before them. -/
def keywordAfter (k : Option Level) (fs : List String) : Option Level :=
  if "all" ∈ fs then some .trace else if "v" ∈ fs then k.orElse fun _ => some .debug else k

/-- What the fields do to the targets read before them: the first bad level, or the keyword
level after them with the named targets set one after another. -/
def addAll (t : TargetList) (fs : List String) : Except LoggingError TargetList :=
  match firstBadField fs with
  | some f => .error (.unsupportedLevel (fieldLevel f))
  | none => .ok ⟨keywordAfter t.keyword fs,
      (namedLevels fs).foldl (fun acc e => setTarget e.1 e.2 acc) t.named⟩

section Fields

variable {f : String} {fs : List String}

theorem namedFields_cons_of_keyword (h : f = "all" ∨ f = "v") :
    namedFields (f :: fs) = namedFields fs := by
  rcases h with rfl | rfl <;> simp [namedFields]

theorem namedFields_cons (h₂ : f ≠ "all") (h₃ : f ≠ "v") :
    namedFields (f :: fs) = f :: namedFields fs := by
  simp [namedFields, h₂, h₃]

theorem keywordAfter_cons (k : Option Level) (h₂ : f ≠ "all") (h₃ : f ≠ "v") :
    keywordAfter k (f :: fs) = keywordAfter k fs := by
  simp [keywordAfter, Ne.symm h₂, Ne.symm h₃]

theorem addAll_all (t : TargetList) :
    addAll t ("all" :: fs) = addAll { t with keyword := some .trace } fs := by
  have hk : keywordAfter t.keyword ("all" :: fs) = keywordAfter (some .trace) fs := by
    simp [keywordAfter]
  simp only [addAll, firstBadField, namedLevels, namedFields_cons_of_keyword (.inl rfl), hk]

theorem addAll_v (t : TargetList) :
    addAll t ("v" :: fs) = addAll { t with keyword := t.keyword.orElse fun _ => some .debug } fs := by
  -- a second `v` leaves the level the first one set
  have hk : keywordAfter t.keyword ("v" :: fs) =
      keywordAfter (t.keyword.orElse fun _ => some .debug) fs := by
    cases t.keyword <;> simp [keywordAfter]
  simp only [addAll, firstBadField, namedLevels, namedFields_cons_of_keyword (.inr rfl), hk]

theorem addAll_named (t : TargetList) (h₂ : f ≠ "all") (h₃ : f ≠ "v") :
    addAll t (f :: fs) = (levelNamed? (fieldLevel f)).elim (.error (.unsupportedLevel (fieldLevel f)))
      fun l => addAll { t with named := setTarget (fieldName f) l t.named } fs := by
  unfold addAll firstBadField namedLevels
  rw [namedFields_cons h₂ h₃, keywordAfter_cons _ h₂ h₃, List.find?_cons, List.filterMap_cons]
  cases levelNamed? (fieldLevel f) <;> simp

/-- **A non-empty field does what reading its item does, then the rest do theirs.** -/
theorem addAll_cons (t : TargetList) (h₁ : f ≠ "") :
    addAll t (f :: fs) = t.add f >>= fun t' => addAll t' fs := by
  by_cases h₂ : f = "all"
  · subst h₂
    rw [add_all, addAll_all]
    rfl
  by_cases h₃ : f = "v"
  · subst h₃
    rw [add_v, addAll_v]
    rfl
  rw [add_named t h₁ h₂ h₃, addAll_named t h₂ h₃]
  cases levelNamed? (fieldLevel f) <;> rfl

end Fields

/-- **Reading the items one by one applies all the non-empty ones at once.** -/
theorem foldlM_add (items : List String) (t : TargetList) :
    items.foldlM TargetList.add t = addAll t (items.filter (· ≠ "")) := by
  induction items generalizing t with
  | nil =>
    simp only [List.foldlM_nil, List.filter_nil, addAll, firstBadField, namedLevels, namedFields,
      keywordAfter, List.not_mem_nil, if_false, List.find?_nil, List.filterMap_nil, List.foldl_nil]
    rfl
  | cons i items ih =>
    rw [List.foldlM_cons]
    by_cases hi : i = ""
    · subst hi
      rw [add_empty, List.filter_cons_of_neg (by simp)]
      exact ih t
    · rw [List.filter_cons_of_pos (by simpa using hi), addAll_cons t hi]
      simp only [ih]

theorem targets_eq (setting : String) :
    targets setting = addAll {} (settingFields setting) >>= fun t => pure t.result := by
  simp only [targets, foldlM_add]
  rfl

/-! ## 5. Name-sorted lists -/

section Sorted

variable {n k : String} {l : Level} {L : List (String × Level)} {p : String × Level}

theorem mem_of_mem_setTarget (h : p ∈ setTarget n l L) : p = (n, l) ∨ p ∈ L := by
  induction L with
  | nil => simpa [setTarget] using h
  | cons q rest ih =>
    unfold setTarget at h
    split_ifs at h
    · simpa using h
    · rcases List.mem_cons.mp h with e | hp
      · exact .inl e
      · exact .inr (List.mem_cons_of_mem _ hp)
    · rcases List.mem_cons.mp h with e | hp
      · exact .inr (e ▸ List.mem_cons_self)
      · exact (ih hp).imp_right (List.mem_cons_of_mem _)

/-- **Setting a target keeps the list sorted strictly by name.** -/
theorem pairwise_setTarget (hL : L.Pairwise (·.1 < ·.1)) :
    (setTarget n l L).Pairwise (·.1 < ·.1) := by
  induction L with
  | nil => simp [setTarget]
  | cons q rest ih =>
    obtain ⟨m, w⟩ := q
    rw [List.pairwise_cons] at hL
    unfold setTarget
    split_ifs with hlt heq
    · -- in front of a larger name
      refine List.Pairwise.cons (fun r hr => ?_) (List.Pairwise.cons hL.1 hL.2)
      rcases List.mem_cons.mp hr with rfl | hr
      · exact hlt
      · exact hlt.trans (hL.1 r hr)
    · -- in place of the same name
      subst heq
      exact List.Pairwise.cons hL.1 hL.2
    · -- after a smaller name
      have hgt : m < n := lt_of_le_of_ne (not_lt.mp hlt) (Ne.symm heq)
      refine List.Pairwise.cons (fun r hr => ?_) (ih hL.2)
      rcases mem_of_mem_setTarget hr with rfl | hr
      · exact hgt
      · exact hL.1 r hr

/-- **A lookup after setting a target finds the new level for its name, and the old ones for
the others.** -/
theorem lookup_setTarget (L : List (String × Level)) :
    (setTarget n l L).lookup k = if k = n then some l else L.lookup k := by
  induction L with
  | nil => by_cases h : k = n <;> simp [setTarget, List.lookup_cons, Bool.beq_eq_decide_eq, h]
  | cons q rest ih =>
    obtain ⟨m, w⟩ := q
    unfold setTarget
    by_cases hlt : n < m
    · rw [if_pos hlt]
      by_cases h : k = n <;> simp [List.lookup_cons, Bool.beq_eq_decide_eq, h]
    by_cases heq : n = m
    · subst heq
      rw [if_neg hlt, if_pos rfl]
      by_cases h : k = n <;> simp [List.lookup_cons, Bool.beq_eq_decide_eq, h]
    · rw [if_neg hlt, if_neg heq, List.lookup_cons, List.lookup_cons, ih]
      by_cases h : k = n
      · -- the name set is not the smaller name passed over
        subst h
        simp [Bool.beq_eq_decide_eq, heq]
      · simp [h]

theorem pairwise_foldl_setTarget (es : List (String × Level)) (hL : L.Pairwise (·.1 < ·.1)) :
    (es.foldl (fun acc e => setTarget e.1 e.2 acc) L).Pairwise (·.1 < ·.1) := by
  induction es generalizing L with
  | nil => exact hL
  | cons e es ih => exact ih (pairwise_setTarget hL)

/-- **Among targets set one after another, the last one set for a name wins.** -/
theorem lookup_foldl_setTarget (es L : List (String × Level)) (k : String) :
    (es.foldl (fun acc e => setTarget e.1 e.2 acc) L).lookup k = (es.reverse.lookup k).or (L.lookup k) := by
  induction es generalizing L with
  | nil => simp
  | cons e es ih =>
    obtain ⟨m, w⟩ := e
    rw [List.foldl_cons, ih, lookup_setTarget, List.reverse_cons, List.lookup_append,
      Option.or_assoc]
    by_cases h : k = m <;> simp [List.lookup_cons, Bool.beq_eq_decide_eq, h]

end Sorted

/-! ## 6. The result -/

theorem lookup_map_pair (ns : List String) (l : Level) (k : String) :
    (ns.map (·, l)).lookup k = if k ∈ ns then some l else none := by
  induction ns with
  | nil => simp
  | cons n ns ih => by_cases h : k = n <;> simp [List.lookup_cons, Bool.beq_eq_decide_eq, h, ih]

/-- The keyword's level for this program's components, as targets set one after another. -/
theorem ownTargets_foldl (l : Level) :
    ownTargets.foldl (fun acc n => setTarget n l acc) [] =
      (ownTargets.map (·, l)).foldl (fun acc e => setTarget e.1 e.2 acc) [] := by
  rw [List.foldl_map]

theorem pairwise_result (t : TargetList) : t.result.Pairwise (·.1 < ·.1) := by
  unfold TargetList.result
  apply pairwise_foldl_setTarget _
  cases t.keyword with
  | none => exact .nil
  | some l =>
    dsimp only
    rw [ownTargets_foldl]
    exact pairwise_foldl_setTarget _ .nil

/-- **The result gives a name the level of its last named target, else the keyword level if it
is one of this program's components.** -/
theorem lookup_result (t : TargetList) (k : String) :
    t.result.lookup k = (t.named.reverse.lookup k).or (if k ∈ ownTargets then t.keyword else none) := by
  unfold TargetList.result
  rw [lookup_foldl_setTarget]
  congr 1
  cases t.keyword with
  | none => simp
  | some l =>
    dsimp only
    rw [ownTargets_foldl, lookup_foldl_setTarget, ← List.map_reverse, lookup_map_pair]
    simp

/-! ## 7. What a setting gives -/

theorem keywordAfter_none (fs : List String) : keywordAfter none fs = keywordLevel fs := by
  simp [keywordAfter, keywordLevel]

/-- The targets of a setting without a bad level: the named targets set one after another over
the keyword's level for this program's components. -/
theorem lookup_result_addAll (fs : List String) (k : String) :
    (TargetList.result ⟨keywordAfter none fs,
      (namedLevels fs).foldl (fun acc e => setTarget e.1 e.2 acc) []⟩).lookup k =
        targetLevel fs k := by
  have hN := pairwise_foldl_setTarget (namedLevels fs) (L := []) .nil
  rw [lookup_result, lookup_reverse_of_pairwise hN, lookup_foldl_setTarget, keywordAfter_none]
  simp [targetLevel]

/-- **A setting is read exactly when no field has a bad level**, into the list sorted strictly
by name that gives each target its level. -/
theorem targets_eq_ok_iff (setting : String) (L : List (String × Level)) :
    targets setting = .ok L ↔ firstBadField (settingFields setting) = none ∧
      L.Pairwise (·.1 < ·.1) ∧
      ∀ n lv, (n, lv) ∈ L ↔ targetLevel (settingFields setting) n = some lv := by
  rw [targets_eq]
  unfold addAll
  cases hb : firstBadField (settingFields setting) with
  | some f => simp [bind, Except.bind]
  | none =>
    set R := TargetList.result ⟨keywordAfter none (settingFields setting),
      (namedLevels (settingFields setting)).foldl (fun acc e => setTarget e.1 e.2 acc) []⟩
    have hR : R.Pairwise (·.1 < ·.1) := pairwise_result _
    have hmem (n : String) (lv : Level) : (n, lv) ∈ R ↔ targetLevel (settingFields setting) n = some lv := by
      rw [← lookup_eq_some_iff_of_pairwise hR, lookup_result_addAll]
    simp only [bind, Except.bind, pure, Except.pure, Except.ok.injEq, true_and]
    constructor
    · rintro rfl
      exact ⟨hR, hmem⟩
    · rintro ⟨hL, hLmem⟩
      refine eq_of_pairwise_of_mem_iff hR hL fun p => ?_
      rw [hmem, hLmem]

/-- **A setting is refused exactly for the level of its first field with a bad level.** -/
theorem targets_eq_error_iff (setting : String) (e : LoggingError) :
    targets setting = .error e ↔ ∃ f, firstBadField (settingFields setting) = some f ∧
      e = .unsupportedLevel (fieldLevel f) := by
  rw [targets_eq]
  unfold addAll
  cases hb : firstBadField (settingFields setting) with
  | some f => simp [bind, Except.bind, eq_comm]
  | none => simp [bind, Except.bind, pure, Except.pure]

/-- **What a setting gives, field by field.** A setting is read exactly when none of its fields
has a bad level, into the list sorted strictly by name that gives this program's components
the keyword level and every named target the level of its last field, overriding the keyword;
otherwise it is refused for the first field with a bad level, never for a missing name. -/
theorem targets_outcomes :
    (∀ (setting : String) (L : List (String × Level)),
      targets setting = .ok L ↔ firstBadField (settingFields setting) = none ∧
        L.Pairwise (·.1 < ·.1) ∧
        ∀ n lv, (n, lv) ∈ L ↔ targetLevel (settingFields setting) n = some lv) ∧
    (∀ (setting : String) (e : LoggingError),
      targets setting = .error e ↔ ∃ f, firstBadField (settingFields setting) = some f ∧
        e = .unsupportedLevel (fieldLevel f)) ∧
    (∀ setting : String, targets setting ≠ .error .noTargetName) := by
  refine ⟨targets_eq_ok_iff, targets_eq_error_iff, fun setting h => ?_⟩
  obtain ⟨f, -, e⟩ := (targets_eq_error_iff setting _).mp h
  cases e

-- `all` wins over an earlier `v`, and text after a second `=` is ignored
example : (targets "v, plotnft=WARN=x, all").toOption =
    some [("plotnft", .warn), ("plotnft_logging", .trace), ("plotnft_names", .trace)] := by
  decide +kernel

end PlotLabels.Logging
