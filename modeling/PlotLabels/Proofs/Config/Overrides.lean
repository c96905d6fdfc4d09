import PlotLabels.Config
/-!
# Environment overrides

Applying the environment to a configuration makes three checks, in this order. The attempts
value, trimmed of blanks at both ends, must be an optional `+` and a run of ASCII digits whose
value is at most `4294967295`: leading zeros are fine, `-0` and `4294967296` are not. The style
value, trimmed the same way, must name one of the three styles. Last, the configuration must
allow at least one attempt, whether the number came from the environment or was already
there. The first failed check gives the error, and the attempts value is reported as it was
given, untrimmed. Nothing but the two variables is looked up.

* `Numeral`: the attempts values accepted; `readAttempts_eq_some_iff`,
  `readAttempts_eq_none_iff`: exactly these are read.
* `Style.read_eq_ok_iff`, `Style.read_eq_error_iff`: a style is read from its name only.
* `AttemptsSet`, `StyleSet`: what the environment leaves for each field.
* `withOverrides_attempts_error`, `withOverrides_style_error`, `withOverrides_no_attempts`,
  `withOverrides_ok`: the four outcomes, one of which always happens (`withOverrides_cases`);
  `withOverrides_ok_valid`, `withOverrides_congr`.
* `overrides_outcomes`: all of it together.
-/

namespace PlotLabels

theorem Style.ofName?_eq_some_iff {s : String} {st : Style} : Style.ofName? s = some st ↔ st.name = s := by
  constructor
  · intro h
    have hmatch := List.find?_some h
    simpa using hmatch
  · rintro rfl
    exact Style.ofName?_name st

/-- **A style is read from its name.** -/
theorem Style.read_eq_ok_iff {s : String} {st : Style} : Style.read s = .ok st ↔ st.name = s := by
  rw [← Style.ofName?_eq_some_iff]
  unfold Style.read
  split <;> simp_all

/-- **A text that names no style is refused, with the text in the error.** -/
theorem Style.read_eq_error_iff {s : String} {e : NamingError} :
    Style.read s = .error e ↔ (∀ st : Style, st.name ≠ s) ∧ e = .invalidConfig (.unknownStyle s) := by
  unfold Style.read
  split
  · rename_i st hst
    simp only [reduceCtorEq, false_iff, not_and]
    exact fun hne => absurd (Style.ofName?_eq_some_iff.mp hst) (hne st)
  · rename_i hnone
    have hne : ∀ st : Style, st.name ≠ s := fun st hst => by
      rw [← hst, Style.ofName?_name] at hnone
      cases hnone
    simp [hne, eq_comm]

namespace Config

/-- An optional `+` and a non-empty run of ASCII digits, of decimal value `n`. -/
def Numeral (s : String) (n : Nat) : Prop :=
  ∃ ds : List Char, (s.toList = ds ∨ s.toList = '+' :: ds) ∧ ds ≠ [] ∧
    (∀ c ∈ ds, c.isDigit = true) ∧ Nat.ofDigitChars 10 ds 0 = n

/-! ## 1. Reading the attempts -/

theorem digitValue_eq_some_iff {cs : List Char} {n : Nat} :
    digitValue cs = some n ↔
      cs ≠ [] ∧ (∀ c ∈ cs, c.isDigit = true) ∧ Nat.ofDigitChars 10 cs 0 = n := by
  unfold digitValue
  split
  · rename_i hbad
    simp only [reduceCtorEq, false_iff, not_and]
    intro hne hdigits
    have hall : cs.all Char.isDigit = true := List.all_eq_true.mpr hdigits
    simp [hall, List.isEmpty_iff, hne] at hbad
  · rename_i hgood
    have hne : cs ≠ [] := fun h => by simp [h] at hgood
    have hall : cs.all Char.isDigit = true := by simpa [List.isEmpty_iff, hne] using hgood
    simp only [Option.some.injEq]
    exact ⟨fun h => ⟨hne, List.all_eq_true.mp hall, h⟩, fun h => h.2.2⟩

/-- With a leading `+`, the numeral is the digits after it. -/
theorem numeral_of_plus {s : String} {rest : List Char} (hs : s.toList = '+' :: rest) {n : Nat} :
    Numeral s n ↔ digitValue rest = some n := by
  have hplus : ('+').isDigit = false := by decide
  unfold Numeral
  rw [hs, digitValue_eq_some_iff]
  constructor
  · rintro ⟨ds, rfl | ⟨-, rfl⟩, hne, hdigits, hval⟩
    · -- the `+` is no digit
      exact absurd (hdigits '+' List.mem_cons_self) (by rw [hplus]; decide)
    · exact ⟨hne, hdigits, hval⟩
  · exact fun h => ⟨rest, Or.inr rfl, h⟩

/-- Without a leading `+`, the numeral is the whole text. -/
theorem numeral_of_not_plus {s : String} (hs : ∀ rest, s.toList = '+' :: rest → False)
    {n : Nat} : Numeral s n ↔ digitValue s.toList = some n := by
  unfold Numeral
  rw [digitValue_eq_some_iff]
  constructor
  · rintro ⟨ds, h | h, hne, hdigits, hval⟩
    · subst h
      exact ⟨hne, hdigits, hval⟩
    · exact absurd h (hs ds)
  · exact fun h => ⟨s.toList, Or.inl rfl, h⟩

/-- A value below `2^32` names the 32-bit word of that value, and a larger one none. -/
theorem bounded_eq_some_iff {n : Nat} {m : UInt32} :
    (if n < UInt32.size then some n.toUInt32 else none) = some m ↔ n = m.toNat := by
  by_cases hn : n < UInt32.size
  · have hback : n.toUInt32.toNat = n := by
      simp only [Nat.toUInt32, UInt32.toNat_ofNat']
      exact Nat.mod_eq_of_lt hn
    simp only [hn, if_true, Option.some.injEq]
    constructor
    · rintro rfl
      exact hback.symm
    · rintro rfl
      exact UInt32.toNat_inj.mp hback
  · simp only [hn, if_false, reduceCtorEq, false_iff]
    intro h
    exact hn (h ▸ m.toNat_lt)

/-- **The attempts values read are exactly the numerals**, with their value. -/
theorem readAttempts_eq_some_iff {s : String} {m : UInt32} :
    readAttempts s = some m ↔ Numeral s m.toNat := by
  unfold readAttempts
  dsimp only
  -- the digits after a leading `+` are read; their value must then fit in 32 bits
  split
  · rename_i n hdv
    have hnum : ∀ k, Numeral s k ↔ n = k := by
      intro k
      split at hdv
      · rename_i rest hs
        rw [numeral_of_plus hs, hdv, Option.some.injEq]
      · rename_i hs
        rw [numeral_of_not_plus hs, hdv, Option.some.injEq]
    rw [hnum, bounded_eq_some_iff]
  · rename_i hdv
    have hnum : ∀ k, ¬ Numeral s k := by
      intro k
      split at hdv
      · rename_i rest hs
        rw [numeral_of_plus hs, hdv]
        exact Option.some_ne_none k ∘ Eq.symm
      · rename_i hs
        rw [numeral_of_not_plus hs, hdv]
        exact Option.some_ne_none k ∘ Eq.symm
    simp [hnum]

/-- **Every other value is refused**: no numeral of value at most `4294967295`. -/
theorem readAttempts_eq_none_iff {s : String} :
    readAttempts s = none ↔ ∀ n ≤ 4294967295, ¬ Numeral s n := by
  constructor
  · intro hnone n hn hnum
    have hsize : n < UInt32.size := by
      show n < 4294967296
      omega
    have hback : n.toUInt32.toNat = n := by
      simp only [Nat.toUInt32, UInt32.toNat_ofNat']
      exact Nat.mod_eq_of_lt hsize
    rw [← hback, ← readAttempts_eq_some_iff, hnone] at hnum
    cases hnum
  · intro hnot
    cases hread : readAttempts s with
    | none => rfl
    | some m =>
      have hm : m.toNat ≤ 4294967295 := by
        have := m.toNat_lt
        change m.toNat < 4294967296 at this
        omega
      exact absurd (readAttempts_eq_some_iff.mp hread) (hnot _ hm)

/-! ## 2. The outcomes -/

/-- The number of attempts the configuration ends with, if the checks pass: the value of the
environment's numeral, or the configuration's own number when the variable is unset. -/
def AttemptsSet (c : Config) (lookup : String → Option String) (m : UInt32) : Prop :=
  match lookup attemptsVariable with
  | some v => Numeral (Text.trimBlank v) m.toNat
  | none => m = c.maxAttempts

/-- The style the configuration ends with, if the checks pass: the style the environment
names, or the configuration's own style when the variable is unset. -/
def StyleSet (c : Config) (lookup : String → Option String) (st : Style) : Prop :=
  match lookup styleVariable with
  | some w => st.name = Text.trimBlank w
  | none => st = c.style

section Outcomes

variable {c : Config} {lookup : String → Option String}

theorem AttemptsSet.cases {m : UInt32} (hm : AttemptsSet c lookup m) :
    (∃ v, lookup attemptsVariable = some v ∧ readAttempts (Text.trimBlank v) = some m) ∨
      (lookup attemptsVariable = none ∧ m = c.maxAttempts) := by
  unfold AttemptsSet at hm
  split at hm
  · rename_i v hv
    exact .inl ⟨v, hv, readAttempts_eq_some_iff.mpr hm⟩
  · rename_i hv
    exact .inr ⟨hv, hm⟩

theorem StyleSet.cases {st : Style} (hst : StyleSet c lookup st) :
    (∃ w, lookup styleVariable = some w ∧ Style.read (Text.trimBlank w) = .ok st) ∨
      (lookup styleVariable = none ∧ st = c.style) := by
  unfold StyleSet at hst
  split at hst
  · rename_i w hw
    exact .inl ⟨w, hw, Style.read_eq_ok_iff.mpr hst⟩
  · rename_i hw
    exact .inr ⟨hw, hst⟩

/-- **An attempts value that is no numeral of at most `4294967295` is refused first**, as it
was given. -/
theorem withOverrides_attempts_error {v : String} (hv : lookup attemptsVariable = some v)
    (hbad : ∀ n ≤ 4294967295, ¬ Numeral (Text.trimBlank v) n) :
    c.withOverrides lookup = .error (.invalidConfig (.attemptsNotANumber v)) := by
  have hnone := readAttempts_eq_none_iff.mpr hbad
  simp [withOverrides, hv, hnone, throw, throwThe, MonadExceptOf.throw, bind, Except.bind]

/-- **Then a style value that names no style is refused**, trimmed. -/
theorem withOverrides_style_error {m : UInt32} {w : String} (hm : AttemptsSet c lookup m)
    (hw : lookup styleVariable = some w) (hbad : ∀ st : Style, st.name ≠ Text.trimBlank w) :
    c.withOverrides lookup = .error (.invalidConfig (.unknownStyle (Text.trimBlank w))) := by
  have herr := Style.read_eq_error_iff.mpr ⟨hbad, rfl⟩
  rcases hm.cases with ⟨v, hv, hread⟩ | ⟨hv, -⟩ <;>
    simp [withOverrides, *, pure, Except.pure, bind, Except.bind]

/-- **Then no attempts at all is refused**, from whichever side the zero came. -/
theorem withOverrides_no_attempts {st : Style} (hm : AttemptsSet c lookup 0)
    (hst : StyleSet c lookup st) :
    c.withOverrides lookup = .error (.invalidConfig .noAttempts) := by
  rcases hm.cases with ⟨v, hv, hread⟩ | ⟨hv, hzero⟩ <;>
    rcases hst.cases with ⟨w, hw, hstyle⟩ | ⟨hw, -⟩ <;>
    simp [withOverrides, validate, *, pure, Except.pure, bind, Except.bind]

/-- **Otherwise the configuration takes the environment's values.** -/
theorem withOverrides_ok {m : UInt32} {st : Style} (hm : AttemptsSet c lookup m)
    (hst : StyleSet c lookup st) (hpos : m ≠ 0) :
    c.withOverrides lookup = .ok ⟨m, st⟩ := by
  rcases hm.cases with ⟨v, hv, hread⟩ | ⟨hv, rfl⟩ <;>
    rcases hst.cases with ⟨w, hw, hstyle⟩ | ⟨hw, rfl⟩ <;>
    simp [withOverrides, validate, *, pure, Except.pure, bind, Except.bind]

/-- The environment leaves a number of attempts, or its attempts value is no numeral. -/
theorem attemptsSet_or_bad (c : Config) (lookup : String → Option String) :
    (∃ m, AttemptsSet c lookup m) ∨
      ∃ v, lookup attemptsVariable = some v ∧ ∀ n ≤ 4294967295, ¬ Numeral (Text.trimBlank v) n := by
  unfold AttemptsSet
  cases hv : lookup attemptsVariable with
  | none => exact .inl ⟨c.maxAttempts, rfl⟩
  | some v =>
    cases hread : readAttempts (Text.trimBlank v) with
    | some m => exact .inl ⟨m, readAttempts_eq_some_iff.mp hread⟩
    | none => exact .inr ⟨v, rfl, readAttempts_eq_none_iff.mp hread⟩

/-- The environment leaves a style, or its style value names none. -/
theorem styleSet_or_bad (c : Config) (lookup : String → Option String) :
    (∃ st, StyleSet c lookup st) ∨
      ∃ w, lookup styleVariable = some w ∧ ∀ st : Style, st.name ≠ Text.trimBlank w := by
  unfold StyleSet
  cases hw : lookup styleVariable with
  | none => exact .inl ⟨c.style, rfl⟩
  | some w =>
    cases hst : Style.ofName? (Text.trimBlank w) with
    | some st => exact .inl ⟨st, Style.ofName?_eq_some_iff.mp hst⟩
    | none =>
      refine .inr ⟨w, rfl, fun st hname => ?_⟩
      rw [← hname, Style.ofName?_name] at hst
      cases hst

/-- **The four outcomes**, by the check that decides: a bad attempts value, a bad style value,
no attempts, or the environment's values. -/
theorem withOverrides_cases (c : Config) (lookup : String → Option String) :
    (∃ v, lookup attemptsVariable = some v ∧ (∀ n ≤ 4294967295, ¬ Numeral (Text.trimBlank v) n) ∧
      c.withOverrides lookup = .error (.invalidConfig (.attemptsNotANumber v))) ∨
    (∃ m w, AttemptsSet c lookup m ∧ lookup styleVariable = some w ∧
      (∀ st : Style, st.name ≠ Text.trimBlank w) ∧
      c.withOverrides lookup = .error (.invalidConfig (.unknownStyle (Text.trimBlank w)))) ∨
    (∃ st, AttemptsSet c lookup 0 ∧ StyleSet c lookup st ∧
      c.withOverrides lookup = .error (.invalidConfig .noAttempts)) ∨
    (∃ m st, AttemptsSet c lookup m ∧ StyleSet c lookup st ∧ m ≠ 0 ∧
      c.withOverrides lookup = .ok ⟨m, st⟩) := by
  rcases attemptsSet_or_bad c lookup with ⟨m, hm⟩ | ⟨v, hv, hbad⟩
  · rcases styleSet_or_bad c lookup with ⟨st, hst⟩ | ⟨w, hw, hbad⟩
    · by_cases hz : m = 0
      · subst hz
        exact .inr (.inr (.inl ⟨st, hm, hst, withOverrides_no_attempts hm hst⟩))
      · exact .inr (.inr (.inr ⟨m, st, hm, hst, hz, withOverrides_ok hm hst hz⟩))
    · exact .inr (.inl ⟨m, w, hm, hw, hbad, withOverrides_style_error hm hw hbad⟩)
  · exact .inl ⟨v, hv, hbad, withOverrides_attempts_error hv hbad⟩

/-- **The configurations given**: exactly the environment's values, when they allow at least
one attempt. -/
theorem withOverrides_eq_ok_iff {c' : Config} :
    c.withOverrides lookup = .ok c' ↔
      AttemptsSet c lookup c'.maxAttempts ∧ StyleSet c lookup c'.style ∧ c'.maxAttempts ≠ 0 := by
  constructor
  · intro h
    rcases withOverrides_cases c lookup with ⟨_, -, -, he⟩ | ⟨_, _, -, -, -, he⟩ | ⟨_, -, -, he⟩ |
        ⟨m, st, hm, hst, hz, he⟩ <;> rw [he] at h <;> cases h
    exact ⟨hm, hst, hz⟩
  · rintro ⟨hm, hst, hpos⟩
    exact withOverrides_ok hm hst hpos

/-- **The errors given**, in the order the checks are made: a bad attempts value, then a bad
style value, then no attempts. -/
theorem withOverrides_eq_error_iff {e : NamingError} :
    c.withOverrides lookup = .error e ↔
      (∃ v, lookup attemptsVariable = some v ∧
        (∀ n ≤ 4294967295, ¬ Numeral (Text.trimBlank v) n) ∧
        e = .invalidConfig (.attemptsNotANumber v)) ∨
      ((∃ m, AttemptsSet c lookup m) ∧ ∃ w, lookup styleVariable = some w ∧
        (∀ st : Style, st.name ≠ Text.trimBlank w) ∧
        e = .invalidConfig (.unknownStyle (Text.trimBlank w))) ∨
      (AttemptsSet c lookup 0 ∧ (∃ st, StyleSet c lookup st) ∧ e = .invalidConfig .noAttempts) := by
  constructor
  · intro h
    rcases withOverrides_cases c lookup with ⟨v, hv, hbad, he⟩ | ⟨m, w, hm, hw, hbad, he⟩ |
        ⟨st, hm, hst, he⟩ | ⟨_, _, -, -, -, he⟩ <;> rw [he] at h <;> cases h
    · exact .inl ⟨v, hv, hbad, rfl⟩
    · exact .inr (.inl ⟨⟨m, hm⟩, w, hw, hbad, rfl⟩)
    · exact .inr (.inr ⟨hm, ⟨st, hst⟩, rfl⟩)
  · rintro (⟨v, hv, hbad, rfl⟩ | ⟨⟨m, hm⟩, w, hw, hbad, rfl⟩ | ⟨hm, ⟨st, hst⟩, rfl⟩)
    · exact withOverrides_attempts_error hv hbad
    · exact withOverrides_style_error hm hw hbad
    · exact withOverrides_no_attempts hm hst

/-- **A configuration given passes validation.** -/
theorem withOverrides_ok_valid {c' : Config} (h : c.withOverrides lookup = .ok c') :
    c'.validate = .ok () := by
  have hpos := (withOverrides_eq_ok_iff.mp h).2.2
  simp [validate, hpos]

/-- **Only the two variables are looked up.** -/
theorem withOverrides_congr {lookup' : String → Option String}
    (hA : lookup' attemptsVariable = lookup attemptsVariable)
    (hS : lookup' styleVariable = lookup styleVariable) :
    c.withOverrides lookup' = c.withOverrides lookup := by
  simp only [withOverrides, hA, hS]

end Outcomes

/-- **Environment overrides.** Applied to any configuration and any lookup, the overrides give
exactly the environment's values when its attempts value is a numeral of at most
`4294967295` (or unset), its style value a style's name (or unset), and the resulting number
of attempts is not zero; otherwise the error of the first of these checks to fail. What they
give passes validation, and no other variable matters. -/
theorem overrides_outcomes (c : Config) (lookup : String → Option String) :
    (∀ c' : Config, c.withOverrides lookup = .ok c' ↔
      AttemptsSet c lookup c'.maxAttempts ∧ StyleSet c lookup c'.style ∧ c'.maxAttempts ≠ 0) ∧
    (∀ e : NamingError, c.withOverrides lookup = .error e ↔
      (∃ v, lookup attemptsVariable = some v ∧
        (∀ n ≤ 4294967295, ¬ Numeral (Text.trimBlank v) n) ∧
        e = .invalidConfig (.attemptsNotANumber v)) ∨
      ((∃ m, AttemptsSet c lookup m) ∧ ∃ w, lookup styleVariable = some w ∧
        (∀ st : Style, st.name ≠ Text.trimBlank w) ∧
        e = .invalidConfig (.unknownStyle (Text.trimBlank w))) ∨
      (AttemptsSet c lookup 0 ∧ (∃ st, StyleSet c lookup st) ∧ e = .invalidConfig .noAttempts)) ∧
    (∀ c' : Config, c.withOverrides lookup = .ok c' → c'.validate = .ok ()) ∧
    (∀ lookup' : String → Option String,
      lookup' attemptsVariable = lookup attemptsVariable →
      lookup' styleVariable = lookup styleVariable →
      c.withOverrides lookup' = c.withOverrides lookup) :=
  ⟨fun _ => withOverrides_eq_ok_iff, fun _ => withOverrides_eq_error_iff,
    fun _ h => withOverrides_ok_valid h, fun _ hA hS => withOverrides_congr hA hS⟩

/-- A padded numeral with a sign and leading zeros sets the attempts, and a third variable
changes nothing. -/
theorem overrides_padded_numeral :
    let env : String → Option String := fun k =>
      if k = attemptsVariable then some " +0016 "
      else if k = styleVariable then some "adjective-animal" else none
    ({} : Config).withOverrides env = .ok ⟨16, .adjectiveAnimal⟩ ∧
      ({} : Config).withOverrides (fun k => if k = "HOME" then some "/root" else env k) =
        ({} : Config).withOverrides env := by
  intro env
  have hA : env attemptsVariable = some " +0016 " := by simp [env]
  have hS : env styleVariable = some "adjective-animal" := by
    simp [env, attemptsVariable, styleVariable]
  have hm : AttemptsSet {} env 16 := by
    unfold AttemptsSet
    rw [hA]
    exact ⟨['0', '0', '1', '6'], Or.inr (by decide +kernel), by simp, by simp, by decide⟩
  have hst : StyleSet {} env .adjectiveAnimal := by
    unfold StyleSet
    rw [hS]
    decide +kernel
  refine ⟨((overrides_outcomes _ _).1 _).mpr ⟨hm, hst, by decide⟩,
    (overrides_outcomes _ _).2.2.2 _ ?_ ?_⟩
  · simp [env, attemptsVariable]
  · simp [env, styleVariable]

end Config

end PlotLabels
