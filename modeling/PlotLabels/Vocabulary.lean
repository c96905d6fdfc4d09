/-!
# Vocabularies

The three word lists labels are made of: colours, animals and adjectives. Every word is a
non-empty run of lower-case ASCII letters, no word appears twice in its list, and the order
of each list is part of the naming rule, since a draw picks a word by its position.

* `colours`, `animals`, `adjectives`: the lists, of 52, 151 and 93 words.
-/

namespace PlotLabels.Vocabulary

/-- The colours, in drawing order. -/
def colours : Array String :=
  #["amaranth", "amber", "amethyst", "apricot", "aqua", "aquamarine", "azure", "beige", "black",
    "blue", "blush", "bronze", "brown", "chocolate", "coffee", "copper", "coral", "crimson",
    "cyan", "emerald", "fuchsia", "gold", "gray", "green", "harlequin", "indigo", "ivory",
    "jade", "lavender", "lime", "magenta", "maroon", "moccasin", "olive", "orange", "peach",
    "pink", "plum", "purple", "red", "rose", "salmon", "sapphire", "scarlet", "silver", "tan",
    "teal", "tomato", "turquoise", "violet", "white", "yellow"]

/-- The animals, in drawing order. -/
def animals : Array String :=
  #["aardvark", "albatross", "alligator", "alpaca", "anaconda", "anteater", "antelope",
    "armadillo", "baboon", "badger", "barracuda", "bat", "beaver", "bee", "bison", "bobcat",
    "buffalo", "butterfly", "camel", "capybara", "caribou", "cat", "chameleon", "cheetah",
    "chimpanzee", "chinchilla", "cobra", "condor", "cougar", "coyote", "crab", "crane", "crow",
    "deer", "dingo", "dolphin", "donkey", "dove", "dragonfly", "duck", "eagle", "eel",
    "elephant", "elk", "emu", "falcon", "ferret", "finch", "flamingo", "fox", "frog", "gazelle",
    "gecko", "gerbil", "gibbon", "giraffe", "gnu", "goat", "goose", "gorilla", "grasshopper",
    "grouse", "hamster", "hare", "hawk", "hedgehog", "heron", "hippopotamus", "hornet", "horse",
    "hummingbird", "hyena", "ibis", "iguana", "impala", "jackal", "jaguar", "jellyfish",
    "kangaroo", "kingfisher", "kiwi", "koala", "lemur", "leopard", "lion", "lizard", "llama",
    "lobster", "lynx", "macaw", "magpie", "manatee", "meerkat", "mink", "mole", "mongoose",
    "moose", "narwhal", "newt", "ocelot", "octopus", "opossum", "orca", "ostrich", "otter",
    "owl", "panda", "panther", "parrot", "peacock", "peafowl", "pelican", "penguin", "pheasant",
    "porcupine", "puffin", "puma", "quail", "rabbit", "raccoon", "raven", "reindeer",
    "rhinoceros", "salamander", "seahorse", "seal", "shark", "sheep", "skunk", "sloth", "snail",
    "sparrow", "squid", "squirrel", "starling", "stingray", "stork", "swan", "tapir", "tiger",
    "toucan", "turtle", "vulture", "walrus", "weasel", "whale", "wolf", "wombat", "woodpecker",
    "yak", "zebra"]

/-- The adjectives, in drawing order. -/
def adjectives : Array String :=
  #["able", "absent", "active", "adorable", "agreeable", "amateur", "ancient", "angry",
    "anxious", "arctic", "artistic", "awkward", "bold", "brave", "bright", "busy", "calm",
    "careful", "cheerful", "clever", "cold", "colorful", "cosmic", "crazy", "curious", "dainty",
    "decent", "delightful", "distant", "dizzy", "eager", "early", "electric", "elegant",
    "enormous", "fancy", "fast", "fierce", "friendly", "funny", "gentle", "giant", "glad",
    "graceful", "grumpy", "happy", "hidden", "honest", "humble", "hungry", "icy", "jolly",
    "keen", "kind", "lazy", "little", "lively", "lucky", "magnificent", "mellow", "mighty",
    "modest", "noble", "odd", "patient", "polite", "proud", "quick", "quiet", "rapid", "rare",
    "roaring", "royal", "rustic", "shy", "silent", "sleepy", "smooth", "sneaky", "solar",
    "steady", "swift", "tender", "tiny", "tough", "tricky", "vast", "wandering", "wild", "wise",
    "witty", "young", "zealous"]

@[simp] theorem colours_size : colours.size = 52 := by simp [colours]

@[simp] theorem animals_size : animals.size = 151 := by simp [animals]

@[simp] theorem adjectives_size : adjectives.size = 93 := by simp [adjectives]

end PlotLabels.Vocabulary
