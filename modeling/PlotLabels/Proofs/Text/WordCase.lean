import Mathlib.Data.List.Basic
import PlotLabels.Proofs.Label.Compose
import PlotLabels.Text.WordCase
/-!
# Snake identifiers under the word cases

A snake identifier is words of lower-case ASCII letters and digits joined by `_`, the first
starting with a lower-case letter and every later one with two (`p2_singleton_puzzle_hash`,
`wallet_id`). On such identifiers the two word cases undo each other:

* `toSnakeCase_of_isSnakeIdentifier`: snake case leaves a snake identifier as it is;
* `toSnakeCase_toLowerCamelCase`: snake case brings its lower camel case back to it.

Both rest on the cut into words (`splitWords_of_snake`, `splitWords_camel`). Cutting the camel
case ends a word before every capital; a capital stands for one later word only when a
lower-case letter follows it, which is why later words start with two letters: the camel
case of `a_b_c` is `aBC`, cut into `a` and `BC`.

The Unicode classes and case maps enter through ASCII letters and digits alone
(`classes_of_isLower`, `classes_of_isDigit`, `capital_of_isLower`).
-/

namespace PlotLabels.Text

/-! ## 1. ASCII letters and digits in the Unicode classes -/

private theorem lowerLetter_codes : ∀ i < 26,
    isAlphanumeric (Char.ofNat (97 + i)) = true ∧ isLowercase (Char.ofNat (97 + i)) = true ∧
      isUppercase (Char.ofNat (97 + i)) = false ∧
      toLowerList (Char.ofNat (97 + i)) = [Char.ofNat (97 + i)] := by
  decide +kernel

private theorem digit_codes : ∀ i < 10,
    isAlphanumeric (Char.ofNat (48 + i)) = true ∧ isLowercase (Char.ofNat (48 + i)) = false ∧
      isUppercase (Char.ofNat (48 + i)) = false ∧
      toLowerList (Char.ofNat (48 + i)) = [Char.ofNat (48 + i)] := by
  decide +kernel

private theorem upperLetter_codes : ∀ i < 26,
    isAlphanumeric (Char.ofNat (65 + i)) = true ∧ isLowercase (Char.ofNat (65 + i)) = false ∧
      isUppercase (Char.ofNat (65 + i)) = true ∧
      toLowerList (Char.ofNat (65 + i)) = [Char.ofNat (97 + i)] := by
  decide +kernel

/-- A lower-case ASCII letter is a lower-case letter, not upper case, and its own lower case. -/
theorem classes_of_isLower {c : Char} (h : c.isLower = true) :
    isAlphanumeric c = true ∧ isLowercase c = true ∧ isUppercase c = false ∧
      toLowerList c = [c] := by
  have hc : 97 ≤ c.toNat ∧ c.toNat ≤ 122 := by
    have h' : (c.val ≥ 97 && c.val ≤ 122) = true := h
    simpa [UInt32.le_iff_toNat_le] using h'
  have e : 97 + (c.toNat - 97) = c.toNat := by omega
  have := lowerLetter_codes (c.toNat - 97) (by omega)
  rwa [e, Char.ofNat_toNat] at this

/-- An ASCII digit is a number, of neither case, and its own lower case. -/
theorem classes_of_isDigit {c : Char} (h : c.isDigit = true) :
    isAlphanumeric c = true ∧ isLowercase c = false ∧ isUppercase c = false ∧
      toLowerList c = [c] := by
  have hc : 48 ≤ c.toNat ∧ c.toNat ≤ 57 := by
    have h' : (c.val ≥ 48 && c.val ≤ 57) = true := h
    simpa [UInt32.le_iff_toNat_le] using h'
  have e : 48 + (c.toNat - 48) = c.toNat := by omega
  have := digit_codes (c.toNat - 48) (by omega)
  rwa [e, Char.ofNat_toNat] at this

/-- The capital of a lower-case ASCII letter is one upper-case letter, whose lower case is the
letter again. -/
theorem capital_of_isLower {c : Char} (h : c.isLower = true) :
    ∃ u, toUpperList c = [u] ∧ isAlphanumeric u = true ∧ isLowercase u = false ∧
      isUppercase u = true ∧ toLowerList u = [c] := by
  obtain ⟨u, hu, hup, hnat⟩ := Label.toUpperList_of_isLower h
  have hc : 65 ≤ u.toNat ∧ u.toNat ≤ 90 := by
    have h' : u.val ≥ 65 ∧ u.val ≤ 90 := of_decide_eq_true hup
    simpa [UInt32.le_iff_toNat_le] using h'
  have e₁ : 65 + (u.toNat - 65) = u.toNat := by omega
  have e₂ : 97 + (u.toNat - 65) = c.toNat := by omega
  have := upperLetter_codes (u.toNat - 65) (by omega)
  rw [e₁, e₂, Char.ofNat_toNat, Char.ofNat_toNat] at this
  exact ⟨u, hu, this⟩

/-- The characters of snake words: lower-case ASCII letters and digits. -/
def isSnakeChar (c : Char) : Bool :=
  c.isLower || c.isDigit

theorem classes_of_isSnakeChar {c : Char} (h : isSnakeChar c = true) :
    isAlphanumeric c = true ∧ isUppercase c = false ∧ toLowerList c = [c] := by
  rcases Bool.or_eq_true_iff.mp h with h | h
  · obtain ⟨ha, -, hu, hl⟩ := classes_of_isLower h
    exact ⟨ha, hu, hl⟩
  · obtain ⟨ha, -, hu, hl⟩ := classes_of_isDigit h
    exact ⟨ha, hu, hl⟩

/-! ## 2. Pieces, words and their cases -/

/-- Letters and numbers in front of the rest join its first piece. -/
theorem pieces_append {w rest p : List Char} {ps : List (List Char)}
    (hw : ∀ c ∈ w, isAlphanumeric c = true) (h : pieces rest = p :: ps) :
    pieces (w ++ rest) = (w ++ p) :: ps := by
  induction w with
  | nil => exact h
  | cons c w ih =>
    rw [List.cons_append, pieces.eq_2, if_pos (hw c List.mem_cons_self),
      ih fun d hd => hw d (List.mem_cons_of_mem c hd)]
    rfl

/-- A run of letters and numbers is one piece. -/
theorem pieces_of_alnum {w : List Char} (hw : ∀ c ∈ w, isAlphanumeric c = true) :
    pieces w = [w] := by
  have h : pieces [] = [[]] := rfl
  simpa using pieces_append hw h

/-- Runs of letters and numbers joined by `_` are cut at every `_`. -/
theorem pieces_underscore (w : List Char) (ws : List (List Char))
    (hw : ∀ c ∈ w, isAlphanumeric c = true)
    (hws : ∀ v ∈ ws, ∀ c ∈ v, isAlphanumeric c = true) :
    pieces (w ++ ws.flatMap ('_' :: ·)) = w :: ws := by
  induction ws generalizing w with
  | nil => simpa using pieces_of_alnum hw
  | cons v vs ih =>
    have hrest : pieces ('_' :: (v ++ vs.flatMap ('_' :: ·))) = [] :: v :: vs := by
      have hu : isAlphanumeric '_' = false := by decide +kernel
      rw [pieces.eq_2, if_neg (by rw [hu]; decide),
        ih v (hws v List.mem_cons_self) fun v' hv' => hws v' (List.mem_cons_of_mem v hv')]
    simpa using pieces_append hw hrest

/-- A run without upper-case characters is one word. -/
theorem pieceWords_of_not_upper {v : List Char} (hv : v ≠ [])
    (h : ∀ c ∈ v, isUppercase c = false) (cur : List Char) (mode : WordMode) :
    pieceWords v cur mode = [cur ++ v] := by
  induction v generalizing cur mode with
  | nil => exact absurd rfl hv
  | cons c t ih =>
    cases t with
    | nil => rw [pieceWords.eq_2]
    | cons next t =>
      have hnext := h next (List.mem_cons_of_mem c List.mem_cons_self)
      rw [pieceWords.eq_3, if_neg (by simp [hnext]), if_neg (by simp [h c List.mem_cons_self]),
        ih (List.cons_ne_nil _ _) (fun d hd => h d (List.mem_cons_of_mem c hd))]
      simp

/-- After a character of neither case, or a lower-case one, in a lower-case stretch, the
stretch goes on lower case. -/
theorem nextMode_eq_lower {c : Char} {mode : WordMode} (hu : isUppercase c = false)
    (h : isLowercase c = true ∨ mode = .lower) :
    (if isLowercase c = true then WordMode.lower
      else if isUppercase c = true then WordMode.upper else mode) = .lower := by
  rcases h with h | rfl
  · rw [if_pos h]
  · split <;> simp_all

/-- A run of letters and digits in a lower-case stretch ends its word before a capital. -/
theorem pieceWords_append_capital {v t : List Char} {u c : Char} {cur : List Char}
    {mode : WordMode} (hv : ∀ d ∈ c :: v, isSnakeChar d = true)
    (hstart : isLowercase c = true ∨ mode = .lower) (hu : isUppercase u = true) :
    pieceWords (c :: (v ++ u :: t)) cur mode =
      (cur ++ c :: v) :: pieceWords (u :: t) [] .boundary := by
  induction v generalizing c cur mode with
  | nil =>
    have hc := (classes_of_isSnakeChar (hv c List.mem_cons_self)).2.1
    rw [List.nil_append, pieceWords.eq_3, nextMode_eq_lower hc hstart, if_pos ⟨rfl, hu⟩]
  | cons c' v ih =>
    have hc := (classes_of_isSnakeChar (hv c List.mem_cons_self)).2.1
    have hc' := (classes_of_isSnakeChar (hv c' (List.mem_cons_of_mem c List.mem_cons_self))).2.1
    rw [List.cons_append, pieceWords.eq_3, nextMode_eq_lower hc hstart,
      if_neg (by simp [hc']), if_neg (by simp [hc]),
      ih (fun d hd => hv d (List.mem_cons_of_mem c hd)) (.inr rfl)]
    simp

/-- A capital followed by a lower-case letter starts a word that goes on in upper case. -/
theorem pieceWords_capital {u b : Char} {t : List Char} (hl : isLowercase u = false)
    (hu : isUppercase u = true) :
    pieceWords (u :: b :: t) [] .boundary = pieceWords (b :: t) [u] .upper := by
  rw [pieceWords.eq_3, if_neg (by simp [hl, hu]), if_neg (by simp)]
  simp [hl, hu]

/-- Lower-case letters and digits are their own lower case. -/
theorem lowerWord_of_snake {w : List Char} (h : ∀ c ∈ w, isSnakeChar c = true) :
    lowerWord w = w := by
  induction w with
  | nil => rfl
  | cons c t ih =>
    have hl := (classes_of_isSnakeChar (h c List.mem_cons_self)).2.2
    cases t with
    | nil =>
      -- no letter of ASCII is the capital sigma, whose lower case depends on its place
      have hne : c ≠ 'Σ' := fun e => by
        rw [e] at hl
        revert hl
        decide +kernel
      rw [lowerWord.eq_2, if_neg hne, hl]
    | cons d t =>
      rw [lowerWord.eq_3 c (d :: t) (List.cons_ne_nil d t), hl,
        ih fun e he => h e (List.mem_cons_of_mem c he)]
      rfl

/-! ## 3. Snake identifiers -/

/-- The first word of a snake identifier: a lower-case letter, then lower-case letters and
digits. -/
def isFirstWord : List Char → Bool
  | c :: cs => c.isLower && cs.all isSnakeChar
  | [] => false

/-- A later word of a snake identifier: two lower-case letters, then lower-case letters and
digits. -/
def isLaterWord : List Char → Bool
  | c :: d :: cs => c.isLower && d.isLower && cs.all isSnakeChar
  | _ => false

/-- Whether a text is a snake identifier: its pieces between underscores are a first word and
later words. -/
def isSnakeIdentifier (s : String) : Bool :=
  match s.toList.splitOn '_' with
  | w :: ws => isFirstWord w && ws.all isLaterWord
  | [] => false

theorem snake_of_isFirstWord {w : List Char} (h : isFirstWord w = true) :
    ∃ c cs, w = c :: cs ∧ c.isLower = true ∧ ∀ d ∈ w, isSnakeChar d = true := by
  match w, h with
  | c :: cs, h =>
    simp only [isFirstWord, Bool.and_eq_true, List.all_eq_true] at h
    refine ⟨c, cs, rfl, h.1, fun d hd => ?_⟩
    rcases List.mem_cons.mp hd with rfl | hd
    · simp [isSnakeChar, h.1]
    · exact h.2 d hd

theorem snake_of_isLaterWord {w : List Char} (h : isLaterWord w = true) :
    ∃ c d cs, w = c :: d :: cs ∧ c.isLower = true ∧ d.isLower = true ∧
      ∀ e ∈ w, isSnakeChar e = true := by
  match w, h with
  | c :: d :: cs, h =>
    simp only [isLaterWord, Bool.and_eq_true, List.all_eq_true] at h
    refine ⟨c, d, cs, rfl, h.1.1, h.1.2, fun e he => ?_⟩
    rcases List.mem_cons.mp he with rfl | he
    · simp [isSnakeChar, h.1.1]
    rcases List.mem_cons.mp he with rfl | he
    · simp [isSnakeChar, h.1.2]
    · exact h.2 e he

theorem intercalate_eq_append_flatMap (sep : Char) (w : List Char) (ws : List (List Char)) :
    [sep].intercalate (w :: ws) = w ++ ws.flatMap (sep :: ·) := by
  induction ws generalizing w with
  | nil => simp
  | cons v vs ih => rw [List.intercalate_cons_cons, ih]; simp

/-- The characters of a snake identifier: its first word, then `_` and each later word. -/
theorem toList_of_isSnakeIdentifier {s : String} (h : isSnakeIdentifier s = true) :
    ∃ (w : List Char) (ws : List (List Char)), s.toList = w ++ ws.flatMap ('_' :: ·) ∧
      isFirstWord w = true ∧
      ∀ v ∈ ws, isLaterWord v = true := by
  unfold isSnakeIdentifier at h
  split at h
  · rename_i w ws hsplit
    simp only [Bool.and_eq_true, List.all_eq_true] at h
    refine ⟨w, ws, ?_, h.1, h.2⟩
    rw [← intercalate_eq_append_flatMap, ← hsplit, List.intercalate_splitOn]
  · cases h

/-- The words of a snake identifier are its pieces between underscores. -/
theorem splitWords_of_snake {s : String} {w : List Char} {ws : List (List Char)}
    (hs : s.toList = w ++ ws.flatMap ('_' :: ·)) (hw : isFirstWord w = true)
    (hws : ∀ v ∈ ws, isLaterWord v = true) : splitWords s = w :: ws := by
  obtain ⟨c, cs, rfl, -, hw⟩ := snake_of_isFirstWord hw
  have hws' : ∀ v ∈ ws, v ≠ [] ∧ ∀ e ∈ v, isSnakeChar e = true := fun v hv => by
    obtain ⟨c, d, cs, rfl, -, -, hv⟩ := snake_of_isLaterWord (hws v hv)
    exact ⟨List.cons_ne_nil _ _, hv⟩
  have hone : ∀ v, v ≠ [] → (∀ e ∈ v, isSnakeChar e = true) →
      pieceWords v [] .boundary = [v] := fun v hne hv => by
    simpa using pieceWords_of_not_upper hne (fun e he => (classes_of_isSnakeChar (hv e he)).2.1)
      [] .boundary
  unfold splitWords
  rw [hs, pieces_underscore _ _ (fun d hd => (classes_of_isSnakeChar (hw d hd)).1)
    fun v hv e he => (classes_of_isSnakeChar ((hws' v hv).2 e he)).1]
  rw [List.flatMap_cons, hone _ (List.cons_ne_nil _ _) hw, List.singleton_append]
  -- every later word is one word
  rw [List.flatMap_congr fun v hv => hone v (hws' v hv).1 (hws' v hv).2]
  simp

/-- A snake identifier's words, in lower case, are the words themselves. -/
theorem map_lowerWord_of_snake {w : List Char} {ws : List (List Char)}
    (hw : isFirstWord w = true) (hws : ∀ v ∈ ws, isLaterWord v = true) :
    (w :: ws).map lowerWord = w :: ws := by
  rw [List.map_cons, List.map_congr_left fun v hv => lowerWord_of_snake ?_, List.map_id']
  · obtain ⟨c, cs, rfl, -, hw⟩ := snake_of_isFirstWord hw
    rw [lowerWord_of_snake hw]
  · obtain ⟨c, d, cs, rfl, -, -, hv⟩ := snake_of_isLaterWord (hws v hv)
    exact hv

/-- Snake case is the lower case of a text's words, joined by `_`. -/
theorem toList_toSnakeCase (s : String) :
    (toSnakeCase s).toList = ['_'].intercalate ((splitWords s).map lowerWord) := by
  have e : (String.toList ∘ fun w => String.ofList (lowerWord w)) = lowerWord := by
    funext v
    simp
  rw [toSnakeCase, String.toList_intercalate, List.map_map, e]
  rfl

/-- **Snake case leaves a snake identifier as it is.** -/
theorem toSnakeCase_of_isSnakeIdentifier {s : String} (h : isSnakeIdentifier s = true) :
    toSnakeCase s = s := by
  obtain ⟨w, ws, hs, hw, hws⟩ := toList_of_isSnakeIdentifier h
  apply String.ext
  rw [toList_toSnakeCase, splitWords_of_snake hs hw hws, map_lowerWord_of_snake hw hws, hs]
  exact intercalate_eq_append_flatMap '_' w ws

/-! ## 4. The camel case of a snake identifier -/

/-- A later word in camel case: a capital, which is no lower-case letter, then the word's
second letter and the rest as they were. -/
theorem capitalWord_of_isLaterWord {v : List Char} (h : isLaterWord v = true) :
    ∃ u d cs, capitalWord v = u :: d :: cs ∧ isAlphanumeric u = true ∧
      isLowercase u = false ∧ isUppercase u = true ∧ d.isLower = true ∧
      ∀ e ∈ d :: cs, isSnakeChar e = true := by
  obtain ⟨c, d, cs, rfl, hc, hd, hchars⟩ := snake_of_isLaterWord h
  obtain ⟨u, hu, hua, hul, huu, -⟩ := capital_of_isLower hc
  have hrest : ∀ e ∈ d :: cs, isSnakeChar e = true := fun e he =>
    hchars e (List.mem_cons_of_mem c he)
  refine ⟨u, d, cs, ?_, hua, hul, huu, hd, hrest⟩
  rw [capitalWord, hu, lowerWord_of_snake hrest]
  rfl

/-- Lower case brings a capitalised later word back. -/
theorem lowerWord_capitalWord {v : List Char} (h : isLaterWord v = true) :
    lowerWord (capitalWord v) = v := by
  obtain ⟨c, d, cs, rfl, hc, -, hchars⟩ := snake_of_isLaterWord h
  obtain ⟨u, hu, -, -, -, hlow⟩ := capital_of_isLower hc
  have hrest : ∀ e ∈ d :: cs, isSnakeChar e = true := fun e he =>
    hchars e (List.mem_cons_of_mem c he)
  rw [capitalWord, hu, lowerWord_of_snake hrest, List.singleton_append,
    lowerWord.eq_3 u (d :: cs) (List.cons_ne_nil d cs), hlow, lowerWord_of_snake hrest]
  rfl

/-- A run of letters and digits in a lower-case stretch ends its word before a capitalised
later word. -/
theorem pieceWords_append_capitalWord {c : Char} {v v' t cur : List Char} {mode : WordMode}
    (hv : ∀ d ∈ c :: v, isSnakeChar d = true) (hstart : isLowercase c = true ∨ mode = .lower)
    (hv' : isLaterWord v' = true) :
    pieceWords (c :: (v ++ (capitalWord v' ++ t))) cur mode =
      (cur ++ c :: v) :: pieceWords (capitalWord v' ++ t) [] .boundary := by
  obtain ⟨u, d, ds, hcap, -, -, huu, -, -⟩ := capitalWord_of_isLaterWord hv'
  rw [hcap, List.cons_append]
  exact pieceWords_append_capital hv hstart huu

/-- Capitalised later words, run together, are cut back into those words. -/
theorem pieceWords_capitalWords (v : List Char) (vs : List (List Char))
    (hv : isLaterWord v = true) (hvs : ∀ v' ∈ vs, isLaterWord v' = true) :
    pieceWords (capitalWord v ++ vs.flatMap capitalWord) [] .boundary =
      capitalWord v :: vs.map capitalWord := by
  induction vs generalizing v with
  | nil =>
    obtain ⟨u, d, cs, hcap, -, hul, huu, -, hrest⟩ := capitalWord_of_isLaterWord hv
    rw [List.flatMap_nil, List.append_nil, hcap, pieceWords_capital hul huu,
      pieceWords_of_not_upper (List.cons_ne_nil d cs)
        (fun e he => (classes_of_isSnakeChar (hrest e he)).2.1)]
    rfl
  | cons v' vs ih =>
    obtain ⟨u, d, cs, hcap, -, hul, huu, hd, hrest⟩ := capitalWord_of_isLaterWord hv
    have hnext := ih v' (hvs v' List.mem_cons_self) fun w hw => hvs w (List.mem_cons_of_mem v' hw)
    -- the second letter of `v` is lower case, so its word ends before the capital of `v'`
    rw [List.flatMap_cons, hcap, List.cons_append, List.cons_append, pieceWords_capital hul huu,
      pieceWords_append_capitalWord hrest (.inl (classes_of_isLower hd).2.1)
        (hvs v' List.mem_cons_self), hnext, List.map_cons]
    rfl

/-- The camel case of a snake identifier is cut into its first word and its capitalised later
words. -/
theorem pieceWords_camel {w : List Char} {ws : List (List Char)} (hw : isFirstWord w = true)
    (hws : ∀ v ∈ ws, isLaterWord v = true) :
    pieceWords (w ++ ws.flatMap capitalWord) [] .boundary = w :: ws.map capitalWord := by
  obtain ⟨c, cs, rfl, hc, hchars⟩ := snake_of_isFirstWord hw
  cases ws with
  | nil =>
    rw [List.flatMap_nil, List.append_nil, pieceWords_of_not_upper (List.cons_ne_nil c cs)
      (fun e he => (classes_of_isSnakeChar (hchars e he)).2.1)]
    rfl
  | cons v vs =>
    rw [List.flatMap_cons, List.cons_append,
      pieceWords_append_capitalWord hchars (.inl (classes_of_isLower hc).2.1)
        (hws v List.mem_cons_self),
      pieceWords_capitalWords v vs (hws v List.mem_cons_self)
        fun v' hv' => hws v' (List.mem_cons_of_mem v hv'), List.map_cons]
    rfl

/-- The camel case of a snake identifier: its first word, then its later words capitalised. -/
theorem toLowerCamelCase_of_snake {s : String} {w : List Char} {ws : List (List Char)}
    (hs : s.toList = w ++ ws.flatMap ('_' :: ·)) (hw : isFirstWord w = true)
    (hws : ∀ v ∈ ws, isLaterWord v = true) :
    toLowerCamelCase s = String.ofList (w ++ ws.flatMap capitalWord) := by
  obtain ⟨c, cs, rfl, -, hchars⟩ := snake_of_isFirstWord hw
  unfold toLowerCamelCase
  rw [splitWords_of_snake hs hw hws]
  dsimp only
  rw [lowerWord_of_snake hchars]

/-- The camel case of a snake identifier is cut into its first word and its capitalised later
words. -/
theorem splitWords_camel {s : String} {w : List Char} {ws : List (List Char)}
    (hs : s.toList = w ++ ws.flatMap ('_' :: ·)) (hw : isFirstWord w = true)
    (hws : ∀ v ∈ ws, isLaterWord v = true) :
    splitWords (toLowerCamelCase s) = w :: ws.map capitalWord := by
  obtain ⟨c, cs, rfl, -, hchars⟩ := snake_of_isFirstWord hw
  -- the camel case is one run of letters and numbers
  have halnum : ∀ e ∈ c :: cs ++ ws.flatMap capitalWord, isAlphanumeric e = true := by
    intro e he
    rcases List.mem_append.mp he with he | he
    · exact (classes_of_isSnakeChar (hchars e he)).1
    · obtain ⟨v, hv, he⟩ := List.mem_flatMap.mp he
      obtain ⟨u, d, ds, hcap, hua, -, -, -, hrest⟩ := capitalWord_of_isLaterWord (hws v hv)
      rw [hcap] at he
      rcases List.mem_cons.mp he with rfl | he
      · exact hua
      · exact (classes_of_isSnakeChar (hrest e he)).1
  rw [toLowerCamelCase_of_snake hs hw hws, splitWords, String.toList_ofList,
    pieces_of_alnum halnum, List.flatMap_singleton, pieceWords_camel hw hws]

/-- The words of a camel case, in lower case, are the snake identifier's words. -/
theorem map_lowerWord_camel {w : List Char} {ws : List (List Char)}
    (hw : isFirstWord w = true) (hws : ∀ v ∈ ws, isLaterWord v = true) :
    (w :: ws.map capitalWord).map lowerWord = w :: ws := by
  obtain ⟨c, cs, rfl, -, hchars⟩ := snake_of_isFirstWord hw
  rw [List.map_cons, lowerWord_of_snake hchars, List.map_map,
    List.map_congr_left (f := lowerWord ∘ capitalWord) (g := id)
      fun v hv => lowerWord_capitalWord (hws v hv), List.map_id]

/-- **Snake case brings the lower camel case of a snake identifier back to it.** -/
theorem toSnakeCase_toLowerCamelCase {s : String} (h : isSnakeIdentifier s = true) :
    toSnakeCase (toLowerCamelCase s) = s := by
  obtain ⟨w, ws, hs, hw, hws⟩ := toList_of_isSnakeIdentifier h
  apply String.ext
  rw [toList_toSnakeCase, splitWords_camel hs hw hws, map_lowerWord_camel hw hws, hs]
  exact intercalate_eq_append_flatMap '_' w ws

end PlotLabels.Text
