import Mathlib.Tactic.IntervalCases
import PlotLabels.Label
/-!
# Composed labels

`Label.compose` capitalises each word by the full Unicode upper-case mapping. On a word of
lower-case ASCII letters, such as every vocabulary word, that mapping sends the first letter to
its one capital, 32 code points below it, and the rest of the word is kept. So:

* `toUpperList_of_isLower`: a lower-case ASCII letter becomes its capital, and nothing else;
* `capitalise_inj`: two lower-case words with the same capitalised form are equal, and
  `compose_inj`: two labels composed of such words are equal only if their words are;
* `parse?_text`: a label of two capitalised words reads back from its text, so every label
  composed of lower-case words is `Label.Valid` (`compose_valid`);
* `text_inj`: a valid label is determined by its text, so labels ordered by their texts are
  ordered strictly as soon as they are distinct.
-/

namespace PlotLabels.Label

/-- A word of lower-case ASCII letters, such as every vocabulary word. -/
def IsLowerWord (w : String) : Prop :=
  w.toList ≠ [] ∧ ∀ c ∈ w.toList, c.isLower = true

-- The letters are checked one by one along the word: left to instance search, the quantifier
-- over them can be decided by running through every character instead.
instance (w : String) : Decidable (IsLowerWord w) :=
  @instDecidableAnd _ _ inferInstance (List.decidableBAll _ _)

/-- A label the parser reads back from its text. The program holds no other labels: the parser
gives only these, and `compose` gives them for lower-case words (`compose_valid`). -/
def Valid (l : Label) : Prop :=
  parse? l.text = some l

/-! ## 1. Capitals of lower-case letters -/

/-- The 26 lower-case letters, by their code points. -/
private theorem toUpperList_code (n : Nat) (h₁ : 97 ≤ n) (h₂ : n ≤ 122) :
    Text.toUpperList (Char.ofNat n) = [Char.ofNat (n - 32)] ∧
      (Char.ofNat (n - 32)).isUpper = true ∧ (Char.ofNat (n - 32)).toNat + 32 = n := by
  interval_cases n <;> decide +kernel

/-- **A lower-case ASCII letter becomes one upper-case letter**, 32 code points below it. -/
theorem toUpperList_of_isLower {c : Char} (h : c.isLower = true) :
    ∃ u, Text.toUpperList c = [u] ∧ u.isUpper = true ∧ u.toNat + 32 = c.toNat := by
  have hc : 97 ≤ c.toNat ∧ c.toNat ≤ 122 := by
    have h' : (c.val ≥ 97 && c.val ≤ 122) = true := h
    simpa [UInt32.le_iff_toNat_le] using h'
  obtain ⟨hu, hup, hnat⟩ := toUpperList_code c.toNat hc.1 hc.2
  rw [Char.ofNat_toNat] at hu
  exact ⟨_, hu, hup, hnat⟩

theorem space_not_isUpper : ' '.isUpper = false := by decide

theorem space_not_isLower : ' '.isLower = false := by decide

/-! ## 2. Capitalised words -/

/-- The characters of a capitalised lower-case word: the capital, then the rest unchanged. -/
theorem toList_capitalise {w : String} {c : Char} {cs : List Char} (hw : w.toList = c :: cs)
    (hc : c.isLower = true) :
    ∃ u, (capitalise w).toList = u :: cs ∧ u.isUpper = true ∧ u.toNat + 32 = c.toNat := by
  obtain ⟨u, hu, hup, hnat⟩ := toUpperList_of_isLower hc
  refine ⟨u, ?_, hup, hnat⟩
  unfold capitalise
  rw [hw]
  dsimp only
  rw [hu, String.toList_ofList]
  rfl

theorem isCapitalised_capitalise {w : String} (hw : IsLowerWord w) :
    IsCapitalised (capitalise w).toList = true := by
  obtain ⟨hne, hall⟩ := hw
  obtain ⟨c, cs, hcs⟩ := List.exists_cons_of_ne_nil hne
  rw [hcs] at hall
  obtain ⟨u, hu, hup, -⟩ := toList_capitalise hcs (hall c List.mem_cons_self)
  rw [hu]
  simp only [IsCapitalised, hup, Bool.true_and, List.all_eq_true]
  exact fun d hd => hall d (List.mem_cons_of_mem c hd)

/-- **Capitalising is one-to-one on lower-case words.** -/
theorem capitalise_inj {a b : String} (ha : IsLowerWord a) (hb : IsLowerWord b)
    (h : capitalise a = capitalise b) : a = b := by
  obtain ⟨c, cs, hca⟩ := List.exists_cons_of_ne_nil ha.1
  obtain ⟨d, ds, hdb⟩ := List.exists_cons_of_ne_nil hb.1
  obtain ⟨u, hu, -, hun⟩ := toList_capitalise hca (ha.2 c (by rw [hca]; exact List.mem_cons_self))
  obtain ⟨v, hv, -, hvn⟩ := toList_capitalise hdb (hb.2 d (by rw [hdb]; exact List.mem_cons_self))
  have hl : u :: cs = v :: ds := by rw [← hu, ← hv, h]
  obtain ⟨rfl, rfl⟩ := List.cons_eq_cons.mp hl
  have hcd : c = d := Char.toNat_inj.mp (by omega)
  rw [← String.toList_inj, hca, hdb, hcd]

/-! ## 3. Reading a label back -/

theorem not_mem_of_isCapitalised {cs : List Char} (h : IsCapitalised cs = true) : ' ' ∉ cs := by
  cases cs with
  | nil => simp [IsCapitalised] at h
  | cons c cs =>
    simp only [IsCapitalised, Bool.and_eq_true, List.all_eq_true] at h
    rintro (_ | ⟨_, hm⟩)
    · exact absurd h.1 (by rw [space_not_isUpper]; decide)
    · exact absurd (h.2 ' ' hm) (by rw [space_not_isLower]; decide)

/-- Text with no space before a space splits there. -/
theorem splitAtSpace_append {xs ys : List Char} (h : ' ' ∉ xs) :
    splitAtSpace (xs ++ ' ' :: ys) = some (xs, ys) := by
  have hne : ∀ c ∈ xs, (decide (c ≠ ' ')) = true := by
    intro c hc
    have hne : c ≠ ' ' := fun e => h (e ▸ hc)
    simpa using hne
  unfold splitAtSpace
  rw [List.dropWhile_append_of_pos hne, List.takeWhile_append_of_pos hne]
  simp

@[simp] theorem toList_text (l : Label) :
    l.text.toList = l.first.toList ++ ' ' :: l.second.toList := by
  simp [text, String.toList_append]

/-- **A label of two capitalised words reads back from its text.** -/
theorem parse?_text {l : Label} (h₁ : IsCapitalised l.first.toList = true)
    (h₂ : IsCapitalised l.second.toList = true) : parse? l.text = some l := by
  unfold parse?
  rw [toList_text, splitAtSpace_append (not_mem_of_isCapitalised h₁)]
  simp [h₁, h₂, String.ofList_toList]

/-- **A valid label is determined by its text.** -/
theorem text_inj {l m : Label} (hl : l.Valid) (hm : m.Valid) (h : l.text = m.text) : l = m := by
  have e : some l = some m := by rw [← hl, ← hm, h]
  exact Option.some.inj e

/-! ## 4. Composed labels -/

/-- **A label composed of lower-case words is valid.** -/
theorem compose_valid {a b : String} (ha : IsLowerWord a) (hb : IsLowerWord b) :
    (compose a b).Valid :=
  parse?_text (isCapitalised_capitalise ha) (isCapitalised_capitalise hb)

/-- **Composing is one-to-one on lower-case words.** -/
theorem compose_inj {a b a' b' : String} (ha : IsLowerWord a) (hb : IsLowerWord b)
    (ha' : IsLowerWord a') (hb' : IsLowerWord b') :
    compose a b = compose a' b' ↔ a = a' ∧ b = b' := by
  constructor
  · intro h
    obtain ⟨h₁, h₂⟩ := Label.mk.inj h
    exact ⟨capitalise_inj ha ha' h₁, capitalise_inj hb hb' h₂⟩
  · rintro ⟨rfl, rfl⟩
    rfl

end PlotLabels.Label
