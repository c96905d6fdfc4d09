import Mathlib
import PlotLabels.Proofs.Text.WordCase
/-!
# Lower case of ASCII letters

On ASCII letters the full lower-case mapping is the ASCII one: a capital becomes its small
letter, 32 code points up, whose capital is the capital again, and a small letter stays.
Conversely, the only characters whose full lower case is made of small ASCII letters are
ASCII letters and the Kelvin sign, which lowers to `k`: every other run of the table lands
outside `a` to `z`, and `İ` lowers to `i` followed by a combining dot. So a text lowers to a
word of small letters without `k` exactly when its ASCII lower case is that word.

* `lower_of_isUpper`: an ASCII capital lowers to its small letter and back.
* `flatMap_toLowerList_of_isLower`: small letters are their own lower case.
* `CaseMap.searchRuns_eq_some`, `CaseRun.target?_eq_some`: what a run lookup finds.
* `toLowerList_of_small`: a character lowering into small letters other than `k` is an ASCII
  letter.
* `toLowerText_eq_iff`: on such words, full and ASCII lower case agree.
-/

namespace PlotLabels.Text

/-! ## 1. ASCII letters -/

private theorem capital_codes : ∀ i < 26,
    toLowerList (Char.ofNat (65 + i)) = [Char.ofNat (97 + i)] ∧
      (Char.ofNat (97 + i)).isLower = true ∧
      toUpperList (Char.ofNat (97 + i)) = [Char.ofNat (65 + i)] := by
  decide +kernel

theorem isUpper_of_code {c : Char} (h : 65 ≤ c.toNat ∧ c.toNat ≤ 90) : c.isUpper = true := by
  simpa [Char.isUpper, UInt32.le_iff_toNat_le] using h

/-- **An ASCII capital lowers to its small letter**, whose capital is the capital again. -/
theorem lower_of_isUpper {u : Char} (h : u.isUpper = true) :
    toLowerList u = [u.toLower] ∧ u.toLower.isLower = true ∧ toUpperList u.toLower = [u] := by
  have hc : 65 ≤ u.toNat ∧ u.toNat ≤ 90 := by
    have h' : (u.val ≥ 65 && u.val ≤ 90) = true := by simpa [Char.isUpper] using h
    simpa [UInt32.le_iff_toNat_le] using h'
  have e : 65 + (u.toNat - 65) = u.toNat := by omega
  have hl : Char.ofNat (97 + (u.toNat - 65)) = u.toLower := by
    rw [Char.toLower_eq_of_isUpper h]
    congr 1
    omega
  have hcode := capital_codes (u.toNat - 65) (by omega)
  rwa [e, Char.ofNat_toNat, hl] at hcode

/-- Small ASCII letters are their own lower case. -/
theorem flatMap_toLowerList_of_isLower {cs : List Char} (h : ∀ c ∈ cs, c.isLower = true) :
    cs.flatMap toLowerList = cs := by
  induction cs with
  | nil => rfl
  | cons c cs ih =>
    rw [List.flatMap_cons, (classes_of_isLower (h c List.mem_cons_self)).2.2.2,
      ih fun d hd => h d (List.mem_cons_of_mem c hd)]
    rfl

/-- A character whose ASCII lower case is a small letter lowers to it alone. -/
theorem toLowerList_of_isLower_toLower {c : Char} (h : c.toLower.isLower = true) :
    toLowerList c = [c.toLower] := by
  by_cases hu : c.isUpper = true
  · exact (lower_of_isUpper hu).1
  · rw [Char.toLower_eq_of_not_isUpper hu] at h ⊢
    exact (classes_of_isLower h).2.2.2

/-! ## 2. The runs of the table -/

/-- **A run lookup finds the image under one of the runs.** -/
theorem CaseMap.searchRuns_eq_some {m : CaseMap} {n lo hi t : Nat}
    (h : m.searchRuns n lo hi = some t) : ∃ r ∈ m.runs.toList, r.target? n = some t := by
  fun_induction m.searchRuns n lo hi with
  | case1 lo hi hlt mid r hr hn ih => exact ih h
  | case2 lo hi hlt mid r hr hn hl ih => exact ih h
  | case3 lo hi hlt mid r hr hn hl =>
    exact ⟨r, Array.mem_toList_iff.mpr (Array.mem_of_getElem? hr), h⟩
  | case4 => cases h
  | case5 => cases h

theorem CaseRun.target?_eq_some {r : CaseRun} {n t : Nat} (h : r.target? n = some t) :
    r.start ≤ n ∧ n ≤ r.last ∧ t = (n + r.delta).toNat := by
  unfold CaseRun.target? at h
  split at h
  · rename_i hspan
    cases h
    exact ⟨hspan.1, hspan.2.1, rfl⟩
  · cases h

/-- Every run of the lower-case table is the ASCII capitals, lands above `z` or below `a`, or is
the Kelvin sign, landing on `k`. -/
private theorem lowerRuns_shape : ∀ r ∈ lowerMap.runs.toList,
    (r.start = 0x41 ∧ r.count = 26 ∧ r.stride = 1 ∧ r.delta = 32) ∨ 122 < r.start + r.delta ∨
      r.last + r.delta < 97 ∨ (r.last = r.start ∧ r.start + r.delta = 107) := by
  decide +kernel

private theorem lowerMap_special : lowerMap.special = [(0x130, [0x69, 0x307])] := rfl

theorem code_of_isLower {t : Nat} (h : (Char.ofNat t).isLower = true) : 97 ≤ t ∧ t ≤ 122 := by
  have h' : ((Char.ofNat t).val ≥ 97 && (Char.ofNat t).val ≤ 122) = true := h
  have hc : 97 ≤ (Char.ofNat t).toNat ∧ (Char.ofNat t).toNat ≤ 122 := by
    simpa [UInt32.le_iff_toNat_le] using h'
  rw [Char.toNat_ofNat] at hc
  split at hc <;> omega

/-! ## 3. Characters lowering into small letters -/

/-- **Only ASCII letters lower into small letters other than `k`**, and they lower as in
ASCII. -/
theorem toLowerList_of_small {c : Char} (h : ∀ d ∈ toLowerList c, d.isLower = true ∧ d ≠ 'k') :
    toLowerList c = [c.toLower] := by
  have himage : toLowerList c = (lowerMap.image c.toNat).map Char.ofNat := rfl
  rw [himage] at h
  by_cases hdot : c.toNat = 0x130
  · -- `İ` lowers to `i` followed by a combining dot, which is no letter
    have hd := (h (Char.ofNat 0x307) (by simp [CaseMap.image, lowerMap_special, hdot])).1
    exact absurd hd (by decide)
  have hlook : lowerMap.special.lookup c.toNat = none := by
    have hne : (c.toNat == 0x130) = false := beq_eq_false_iff_ne.mpr hdot
    simp [lowerMap_special, List.lookup, hne]
  simp only [CaseMap.image, hlook] at h
  cases hs : lowerMap.searchRuns c.toNat 0 lowerMap.runs.size with
  | none =>
    -- a character outside every run is its own lower case, so it is a small letter
    have hc : c.isLower = true := (h c (by simp [hs])).1
    rw [Char.toLower_eq_of_not_isUpper (Char.not_isUpper_of_isLower hc)]
    exact (classes_of_isLower hc).2.2.2
  | some t =>
    obtain ⟨r, hr, ht⟩ := CaseMap.searchRuns_eq_some hs
    obtain ⟨hlo, hhi, rfl⟩ := CaseRun.target?_eq_some ht
    have ht' : (Char.ofNat (c.toNat + r.delta).toNat).isLower = true ∧
        Char.ofNat (c.toNat + r.delta).toNat ≠ 'k' := by simpa [hs] using h
    have hcode := code_of_isLower ht'.1
    rcases lowerRuns_shape r hr with ⟨hstart, hcount, hstride, -⟩ | hbig | hsmall | ⟨hone, hk⟩
    · -- the capitals `A` to `Z`
      have hlast : r.last = 90 := by simp [CaseRun.last, hstart, hcount, hstride]
      exact (lower_of_isUpper (isUpper_of_code (by omega))).1
    · omega
    · omega
    · -- the Kelvin sign, whose lower case is `k`
      have hn : (c.toNat + r.delta).toNat = 107 := by omega
      rw [hn] at ht'
      exact absurd rfl ht'.2

theorem flatMap_toLowerList_eq_map {cs : List Char} (h : ∀ c ∈ cs, toLowerList c = [c.toLower]) :
    cs.flatMap toLowerList = cs.map Char.toLower := by
  rw [List.flatMap_congr h, List.map_eq_flatMap]

/-- **A text lowers to a word of small letters other than `k` exactly when its ASCII lower case
is that word.** -/
theorem toLowerText_eq_iff {raw w : String} (hw : ∀ d ∈ w.toList, d.isLower = true ∧ d ≠ 'k') :
    toLowerText raw = w ↔ raw.toLower = w := by
  rw [← String.toList_inj, ← String.toList_inj, toLowerText, String.toList_ofList,
    String.toLower, String.toList_map]
  constructor
  · intro h
    have hsmall : ∀ c ∈ raw.toList, toLowerList c = [c.toLower] := fun c hc =>
      toLowerList_of_small fun d hd => hw d (h ▸ List.mem_flatMap.mpr ⟨c, hc, hd⟩)
    rwa [← flatMap_toLowerList_eq_map hsmall]
  · intro h
    have hsmall : ∀ c ∈ raw.toList, toLowerList c = [c.toLower] := fun c hc =>
      toLowerList_of_isLower_toLower (hw _ (h ▸ List.mem_map_of_mem hc)).1
    rwa [flatMap_toLowerList_eq_map hsmall]

end PlotLabels.Text
