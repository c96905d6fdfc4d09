import PlotLabels.Error
import PlotLabels.Proofs.Label.Compose
import PlotLabels.Proofs.Text.LowerCase
import PlotLabels.Proofs.Lists
/-!
# The label grammar

The texts of labels are `[A-Z][a-z]* [A-Z][a-z]*`: a capital ASCII letter followed by small
ones, one space, and again a capital followed by small letters. Reading splits a text at its
first space and checks both parts, which together accept exactly this grammar: a second space
lands in the second part, an empty or non-ASCII word fails its check. JSON goes through the
same reader, so a label is read from a JSON value exactly when the value is a string the
reader accepts, and the JSON form of a label reads back to it.

* `LabelText`: the grammar.
* `splitAtSpace_eq_some_iff`: where a text is split.
* `parse?_eq_some_iff`: the parser gives `l` exactly for the text of `l`, when both its words
  are capitalised; `labelText_iff`: the grammar's texts are exactly these.
* `read_of_not_labelText`: every other text is refused, with the text in the error.
* `capitalise_toLowerText`: a capitalised word is the capital of its lower case, so a label
  read is composed of its words in lower case (`read_eq_ok_spec`).
* `decode_eq_ok_iff`, `decode_toJson`: JSON agrees with the reader.
* `label_grammar`: all of it together.
-/

namespace PlotLabels.Label

/-- The texts of labels: `[A-Z][a-z]* [A-Z][a-z]*`, in ASCII letters. -/
def LabelText (x : String) : Prop :=
  ∃ u us v vs, x.toList = u :: us ++ ' ' :: v :: vs ∧ u.isUpper = true ∧
    (∀ c ∈ us, c.isLower = true) ∧ v.isUpper = true ∧ ∀ c ∈ vs, c.isLower = true

/-! ## 1. Splitting and checking -/

theorem isCapitalised_iff {w : List Char} :
    IsCapitalised w = true ↔ ∃ c cs, w = c :: cs ∧ c.isUpper = true ∧ ∀ d ∈ cs, d.isLower = true := by
  cases w with
  | nil => simp [IsCapitalised]
  | cons c cs => simp [IsCapitalised]

/-- **A text splits at its first space**, into the part before it and the rest. -/
theorem splitAtSpace_eq_some_iff {cs a b : List Char} :
    splitAtSpace cs = some (a, b) ↔ cs = a ++ ' ' :: b ∧ ' ' ∉ a := by
  constructor
  · intro h
    unfold splitAtSpace at h
    split at h
    · contradiction
    · rename_i d rest hdrop
      obtain ⟨rfl, rfl⟩ : cs.takeWhile (· ≠ ' ') = a ∧ rest = b := by simpa using h
      -- the text left after the first part starts at the space
      obtain ⟨-, hcs⟩ := dropWhile_ne_eq_cons hdrop
      exact ⟨hcs, not_mem_takeWhile_ne cs ' '⟩
  · rintro ⟨rfl, ha⟩
    exact splitAtSpace_append ha

/-- **The parser gives `l` exactly for the text of `l`, when both its words are
capitalised.** -/
theorem parse?_eq_some_iff {x : String} {l : Label} :
    parse? x = some l ↔
      IsCapitalised l.first.toList = true ∧ IsCapitalised l.second.toList = true ∧ l.text = x := by
  constructor
  · intro h
    unfold parse? at h
    split at h
    · rename_i a b hsplit
      obtain ⟨hx, -⟩ := splitAtSpace_eq_some_iff.mp hsplit
      split at h
      · rename_i hcap
        cases h
        obtain ⟨ha, hb⟩ := Bool.and_eq_true_iff.mp hcap
        refine ⟨by simpa using ha, by simpa using hb, ?_⟩
        apply String.toList_inj.mp
        simp [hx]
      · contradiction
    · contradiction
  · rintro ⟨h₁, h₂, rfl⟩
    exact parse?_text h₁ h₂

/-- **The grammar's texts are the texts of labels of two capitalised words.** -/
theorem labelText_iff {x : String} :
    LabelText x ↔ ∃ l : Label, IsCapitalised l.first.toList = true ∧
      IsCapitalised l.second.toList = true ∧ l.text = x := by
  constructor
  · rintro ⟨u, us, v, vs, hx, hu, hus, hv, hvs⟩
    refine ⟨⟨String.ofList (u :: us), String.ofList (v :: vs)⟩, ?_, ?_, ?_⟩
    · simpa [IsCapitalised, hu] using hus
    · simpa [IsCapitalised, hv] using hvs
    · apply String.toList_inj.mp
      simp [hx]
  · rintro ⟨l, h₁, h₂, rfl⟩
    obtain ⟨u, us, hu, hu', hus⟩ := isCapitalised_iff.mp h₁
    obtain ⟨v, vs, hv, hv', hvs⟩ := isCapitalised_iff.mp h₂
    exact ⟨u, us, v, vs, by rw [toList_text, hu, hv], hu', hus, hv', hvs⟩

theorem exists_parse?_iff {x : String} : (∃ l, parse? x = some l) ↔ LabelText x := by
  simp only [parse?_eq_some_iff, labelText_iff]

/-! ## 2. Reading -/

theorem read_eq_ok_iff {x : String} {l : Label} : read x = .ok l ↔ parse? x = some l := by
  unfold read
  split <;> simp_all

/-- **A text outside the grammar is refused, with the text in the error.** -/
theorem read_of_not_labelText {x : String} (h : ¬ LabelText x) :
    read x = .error (.invalidLabel x) := by
  have hnone : parse? x = none := by
    cases hp : parse? x with
    | none => rfl
    | some l => exact absurd (exists_parse?_iff.mp ⟨l, hp⟩) h
  simp [read, hnone]

/-- **A capitalised word is the capital of its lower case.** -/
theorem capitalise_toLowerText {w : String} (h : IsCapitalised w.toList = true) :
    capitalise (Text.toLowerText w) = w := by
  obtain ⟨u, us, hw, hu, hus⟩ := isCapitalised_iff.mp h
  obtain ⟨hl, -, hlu⟩ := Text.lower_of_isUpper hu
  have hlower : (Text.toLowerText w).toList = u.toLower :: us := by
    simp [Text.toLowerText, hw, hl, Text.flatMap_toLowerList_of_isLower hus]
  unfold capitalise
  rw [hlower]
  apply String.toList_inj.mp
  simp [hlu, hw]

/-- **A label read spells the text**, split into two words without spaces, is composed of its
words in lower case, and reads back from its text. -/
theorem read_eq_ok_spec {x : String} {l : Label} (h : read x = .ok l) :
    l.text = x ∧ l.words.1 ++ " " ++ l.words.2 = x ∧ ' ' ∉ l.words.1.toList ∧
      ' ' ∉ l.words.2.toList ∧
      compose (Text.toLowerText l.words.1) (Text.toLowerText l.words.2) = l ∧ l.Valid := by
  obtain ⟨h₁, h₂, rfl⟩ := parse?_eq_some_iff.mp (read_eq_ok_iff.mp h)
  refine ⟨rfl, rfl, not_mem_of_isCapitalised h₁, not_mem_of_isCapitalised h₂, ?_,
    parse?_text h₁ h₂⟩
  simp [compose, words, capitalise_toLowerText h₁, capitalise_toLowerText h₂]

/-! ## 3. JSON -/

/-- **A label is read from a JSON value exactly when it is a string the reader accepts.** -/
theorem decode_eq_ok_iff {v : Json.Value} {l : Label} :
    decode v = .ok l ↔ ∃ s, v = .string s ∧ read s = .ok l := by
  cases v with
  | string s =>
    cases hr : read s <;>
      simp [decode, Json.Decode.string, hr, bind, Except.bind, pure, Except.pure]
  | _ => simp [decode, Json.Decode.string, bind, Except.bind]

/-- **The JSON form of a label reads back to it.** -/
theorem decode_toJson {l : Label} (hl : l.Valid) : decode (toJson l) = .ok l :=
  decode_eq_ok_iff.mpr ⟨l.text, rfl, read_eq_ok_iff.mpr hl⟩

/-- **Reading accepts exactly the label grammar.** A text is read exactly when it is two
capitalised ASCII words around one space; the label read spells it, split into its two
words, and is composed of them in lower case; every other text is refused with itself in the
error. JSON reads through the same reader, and the JSON form of a label reads back to it. -/
theorem label_grammar :
    (∀ x : String, (∃ l, read x = .ok l) ↔ LabelText x) ∧
    (∀ (x : String) (l : Label), read x = .ok l →
      l.text = x ∧ l.words.1 ++ " " ++ l.words.2 = x ∧ ' ' ∉ l.words.1.toList ∧
        ' ' ∉ l.words.2.toList ∧
        compose (Text.toLowerText l.words.1) (Text.toLowerText l.words.2) = l ∧ l.Valid) ∧
    (∀ x : String, ¬ LabelText x → read x = .error (.invalidLabel x)) ∧
    (∀ (v : Json.Value) (l : Label), decode v = .ok l ↔ ∃ s, v = .string s ∧ read s = .ok l) ∧
    (∀ l : Label, l.Valid → decode (toJson l) = .ok l) := by
  refine ⟨fun x => ?_, fun x l h => read_eq_ok_spec h, fun x h => read_of_not_labelText h,
    fun v l => decode_eq_ok_iff, fun l hl => decode_toJson hl⟩
  simp only [read_eq_ok_iff, exists_parse?_iff]


/-- `Teal Otter` is read as the label composed of `teal` and `otter`, `teal otter` is refused,
and the JSON form of `Teal Otter` reads back to it. -/
theorem label_grammar_teal_otter :
    compose (Text.toLowerText "Teal") (Text.toLowerText "Otter") = ⟨"Teal", "Otter"⟩ ∧
      read "teal otter" = .error (.invalidLabel "teal otter") ∧
      decode (toJson ⟨"Teal", "Otter"⟩) = .ok ⟨"Teal", "Otter"⟩ := by
  have hparse : parse? "Teal Otter" = some ⟨"Teal", "Otter"⟩ := by decide +kernel
  have hrefused : parse? "teal otter" = none := by decide +kernel
  have hread : read "Teal Otter" = .ok ⟨"Teal", "Otter"⟩ := read_eq_ok_iff.mpr hparse
  have hnot : ¬ LabelText "teal otter" := fun h => by
    obtain ⟨l, hl⟩ := (label_grammar.1 "teal otter").mpr h
    rw [read_eq_ok_iff, hrefused] at hl
    cases hl
  exact ⟨(label_grammar.2.1 _ _ hread).2.2.2.2.1, label_grammar.2.2.1 _ hnot,
    label_grammar.2.2.2.2 _ hparse⟩

end PlotLabels.Label
