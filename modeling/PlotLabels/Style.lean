import PlotLabels.Vocabulary
/-!
# Label styles

A style says which two of the three drawn words a label shows: a colour and an animal, an
adjective and an animal, or an adjective and a colour. Its name is written in kebab case.

* `Style.name`, `Style.ofName?`: the names `color-animal`, `adjective-animal` and
  `adjective-color`, and back.
* `Style.labelSpace`: how many labels the style can show, the product of its two lists'
  sizes: 7852, 14043 and 4836.
* `Style.ofName?_name`: every style reads back from its name.
-/

namespace PlotLabels

open Vocabulary

/-- Which two drawn words a label shows. -/
inductive Style where
  | colorAnimal
  | adjectiveAnimal
  | adjectiveColor
  deriving DecidableEq, Repr, Inhabited

namespace Style

/-- The styles, in the order their names are listed in messages. -/
def all : List Style := [colorAnimal, adjectiveAnimal, adjectiveColor]

/-- The name of a style. -/
def name : Style → String
  | colorAnimal => "color-animal"
  | adjectiveAnimal => "adjective-animal"
  | adjectiveColor => "adjective-color"

/-- The style with exactly this name. -/
def ofName? (s : String) : Option Style :=
  all.find? (·.name == s)

/-- The lists the first and second word come from. -/
def vocabularies : Style → Array String × Array String
  | colorAnimal => (colours, animals)
  | adjectiveAnimal => (adjectives, animals)
  | adjectiveColor => (adjectives, colours)

/-- The number of distinct labels of the style. -/
def labelSpace (s : Style) : Nat :=
  s.vocabularies.1.size * s.vocabularies.2.size

/-- The three words drawn for one salt. -/
structure Picks where
  colour : String
  animal : String
  adjective : String
  deriving DecidableEq, Repr

/-- The two picked words the style shows, first word first. -/
def select : Style → Picks → String × String
  | colorAnimal, p => (p.colour, p.animal)
  | adjectiveAnimal, p => (p.adjective, p.animal)
  | adjectiveColor, p => (p.adjective, p.colour)

theorem ofName?_name (s : Style) : ofName? s.name = some s := by
  cases s <;> rfl

@[simp] theorem labelSpace_colorAnimal : colorAnimal.labelSpace = 7852 := by
  simp [labelSpace, vocabularies]

@[simp] theorem labelSpace_adjectiveAnimal : adjectiveAnimal.labelSpace = 14043 := by
  simp [labelSpace, vocabularies]

@[simp] theorem labelSpace_adjectiveColor : adjectiveColor.labelSpace = 4836 := by
  simp [labelSpace, vocabularies]

end Style

end PlotLabels
