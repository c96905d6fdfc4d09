import PlotLabels.Error
import PlotLabels.Proofs.Style.LabelSpace
/-!
# The words of a candidate

A candidate is made in two stages. The salt alone fixes three positions, one in each
vocabulary list (the draws are made in the same order for every style, and each lands below
its list's size); the style then only chooses which two of the three words the label shows.
So every candidate is two capitalised vocabulary words, and the three styles of one salt show
the same words.

* `Label.read_text_of_valid`: a label the parser reads back is read back by `Label.read`.
* `words_candidate`: the words of a candidate are the capitals of the style's two picked words;
  `candidate_styles_agree`: so the styles of one salt show the same words.
* `candidate_words`: every candidate is the label of the style's two words among three drawn
  from the salt alone; it reads back from its text; its words are capitalised vocabulary words;
  and the styles agree word for word.
-/

namespace PlotLabels

open Vocabulary

theorem Label.read_text_of_valid {l : Label} (h : l.Valid) : Label.read l.text = .ok l := by
  unfold Label.read
  rw [h]

/-- The words a candidate shows: the style's two picked words, capitalised. -/
theorem words_candidate (seed : Seed) (attempt : UInt32) (t : Style) :
    (candidate seed attempt t).words =
      (Label.capitalise (t.select (Candidate.picks (seed.salted attempt))).1,
        Label.capitalise (t.select (Candidate.picks (seed.salted attempt))).2) :=
  rfl

/-- The three styles of one salt show the same animal, adjective and colour. -/
theorem candidate_styles_agree (seed : Seed) (attempt : UInt32) :
    (candidate seed attempt .colorAnimal).words.2 =
        (candidate seed attempt .adjectiveAnimal).words.2 ∧
      (candidate seed attempt .adjectiveAnimal).words.1 =
        (candidate seed attempt .adjectiveColor).words.1 ∧
      (candidate seed attempt .colorAnimal).words.1 =
        (candidate seed attempt .adjectiveColor).words.2 := by
  simp only [words_candidate, Style.select, and_self]

/-- **The words of a candidate.** There are three positions, one below the size of each
vocabulary list and fixed by the salt alone, such that every style's candidate is the label of
the style's two words among the three at those positions. That label reads back from its text,
and its words are those two vocabulary words, capitalised. The three styles show the same
animal (colour-animal and adjective-animal), adjective (adjective-animal and adjective-colour)
and colour (colour-animal and adjective-colour). -/
theorem candidate_words :
    (∃ draw : String → Candidate.Indices, ∀ (seed : Seed) (attempt : UInt32) (t : Style),
      let p : Style.Picks := ⟨colours[(draw (seed.salted attempt)).colour],
        animals[(draw (seed.salted attempt)).animal],
        adjectives[(draw (seed.salted attempt)).adjective]⟩
      candidate seed attempt t = Label.compose (t.select p).1 (t.select p).2 ∧
      (t.select p).1 ∈ t.vocabularies.1 ∧ (t.select p).2 ∈ t.vocabularies.2 ∧
      Label.read (candidate seed attempt t).text = .ok (candidate seed attempt t) ∧
      (candidate seed attempt t).words =
        (Label.capitalise (t.select p).1, Label.capitalise (t.select p).2) ∧
      Label.IsCapitalised (candidate seed attempt t).words.1.toList = true ∧
      Label.IsCapitalised (candidate seed attempt t).words.2.toList = true) ∧
    ∀ (seed : Seed) (attempt : UInt32),
      (candidate seed attempt .colorAnimal).words.2 =
        (candidate seed attempt .adjectiveAnimal).words.2 ∧
      (candidate seed attempt .adjectiveAnimal).words.1 =
        (candidate seed attempt .adjectiveColor).words.1 ∧
      (candidate seed attempt .colorAnimal).words.1 =
        (candidate seed attempt .adjectiveColor).words.2 := by
  refine ⟨⟨Candidate.indices, fun seed attempt t => ?_⟩, candidate_styles_agree⟩
  -- the positions drawn for the salt give exactly the words `candidate` composes
  have hmem := Style.select_mem (Candidate.picks_mem (seed.salted attempt)).1
    (Candidate.picks_mem (seed.salted attempt)).2.1
    (Candidate.picks_mem (seed.salted attempt)).2.2 t
  obtain ⟨h₁, h₂⟩ := Style.vocabularies_wellFormed t
  refine ⟨rfl, hmem.1, hmem.2,
    Label.read_text_of_valid (candidate_valid seed attempt t), words_candidate seed attempt t,
    ?_, ?_⟩
  · exact Label.isCapitalised_capitalise (h₁.isLowerWord hmem.1)
  · exact Label.isCapitalised_capitalise (h₂.isLowerWord hmem.2)

end PlotLabels
