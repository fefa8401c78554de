/-
How words change between one and many. A word that has no plural of its own stays as it is; some
words change as a whole; for the others the rules are tried in order, special ones first, and the
first whose pattern is found decides. What lies before the match is dropped.
-/
import CrudGraph.Inflection.Pattern

namespace CrudGraph.Inflection

open Pattern

-- ================================================================= rules

/-- What follows the stem of a changed word. -/
inductive Ending where
  | fixed (text : String)
  /-- The ending that the match handed out. -/
  | kept

/-- A pattern to look for, and the ending to put behind its stem. -/
structure Rule where
  pattern : Pattern
  ending : Ending

/-- One of the characters of a text. -/
def among (chars : String) : Pattern :=
  oneOf chars.toList

/-- One character besides those of a text. -/
def besides (chars : String) : Pattern :=
  noneOf chars.toList

/-- Puts a new ending behind the stem of a match at the end of a word. -/
def replacing (pattern : Pattern) (ending : String) : Rule :=
  ⟨pattern ++ stop, .fixed ending⟩

/-- Keeps the ending that a match at the end of a word hands out. -/
def keeping (pattern : Pattern) : Rule :=
  ⟨pattern ++ stop, .kept⟩

/-- The word that a rule makes of a word, if its pattern is found. -/
def Rule.apply? (rule : Rule) (word : String) : Option String :=
  (rule.pattern.search word).map fun found =>
    match rule.ending with
    | .fixed ending => String.ofList found.stem ++ ending
    | .kept => String.ofList (found.stem ++ found.ending)

/-- Words that are the same for one and for many. -/
def uncountable : List String := [
  "accommodation", "adulthood", "advertising", "advice", "aggression", "aid", "air", "aircraft",
  "alcohol", "anger", "applause", "arithmetic", "assistance", "athletics", "bacon", "baggage",
  "beef", "biology", "blood", "botany", "bread", "butter", "carbon", "cardboard", "cash",
  "chalk", "chaos", "chess", "crossroads", "countryside", "dancing", "deer", "dignity", "dirt",
  "dust", "economics", "education", "electricity", "engineering", "enjoyment", "envy",
  "equipment", "ethics", "evidence", "evolution", "fame", "fiction", "flour", "flu", "food",
  "fuel", "fun", "furniture", "gallows", "garbage", "garlic", "genetics", "gold", "golf",
  "gossip", "grammar", "gratitude", "grief", "guilt", "gymnastics", "happiness", "hardware",
  "harm", "hate", "hatred", "health", "heat", "help", "homework", "honesty", "honey",
  "hospitality", "housework", "humour", "hunger", "hydrogen", "ice", "importance", "inflation",
  "information", "innocence", "iron", "irony", "jam", "jewelry", "judo", "karate", "knowledge",
  "lack", "laughter", "lava", "leather", "leisure", "lightning", "linguine", "linguini",
  "linguistics", "literature", "litter", "livestock", "logic", "loneliness", "luck", "luggage",
  "macaroni", "machinery", "magic", "management", "mankind", "marble", "mathematics",
  "mayonnaise", "measles", "methane", "milk", "money", "mud", "music", "mumps", "nature",
  "news", "nitrogen", "nonsense", "nurture", "nutrition", "obedience", "obesity", "oxygen",
  "pasta", "patience", "physics", "poetry", "pollution", "poverty", "pride", "psychology",
  "publicity", "punctuation", "quartz", "racism", "relaxation", "reliability", "research",
  "respect", "revenge", "rice", "rubbish", "rum", "safety", "scenery", "seafood", "seaside",
  "series", "shame", "sheep", "shopping", "sleep", "smoke", "smoking", "snow", "soap",
  "software", "soil", "spaghetti", "species", "steam", "stuff", "stupidity", "sunshine",
  "symmetry", "tennis", "thirst", "thunder", "timber", "traffic", "transportation", "trust",
  "underwear", "unemployment", "unity", "validity", "veal", "vegetation", "vegetarianism",
  "vengeance", "violence", "vitality", "warmth", "wealth", "weather", "welfare", "wheat",
  "wildlife", "wisdom", "yoga", "zinc", "zoology"]

-- ================================================================ singular

/-- Words whose singular follows no rule. -/
def singularOf : List (String × String) := [
  ("oxen", "ox"), ("boxes", "box"), ("men", "man"), ("women", "woman"), ("dice", "die"),
  ("yeses", "yes"), ("feet", "foot"), ("eaves", "eave"), ("geese", "goose"), ("teeth", "tooth"),
  ("quizzes", "quiz")]

/-- The rules that lead to a singular. -/
def singularRules : List Rule := [
  replacing (stem (text "database") ++ text "s") "",
  replacing (stem (text "quiz") ++ text "zes") "",
  replacing (stem (text "matr") ++ text "ices") "ix",
  replacing (stem (anyOf ["vert", "ind"]) ++ text "ices") "ex",
  ⟨start ++ stem (text "ox") ++ text "en", .fixed ""⟩,
  replacing (stem (anyOf ["alias", "status"]) ++ perhaps (text "es")) "",
  replacing (stem (anyOf ["octop", "vir"]) ++ anyOf ["us", "i"]) "us",
  replacing (start ++ stem (text "a") ++ text "x" ++ among "ie" ++ text "s") "xis",
  replacing (stem (anyOf ["cris", "test"]) ++ anyOf ["is", "es"]) "is",
  replacing (stem (text "shoe") ++ text "s") "",
  replacing (stem (text "bus") ++ perhaps (text "es")) "",
  replacing (stem (anyOf ["m", "l"]) ++ text "ice") "ouse",
  keeping (stem word ++ ending (anyOf ["x", "ch", "ss", "sh"]) ++ text "es"),
  replacing (stem (text "m") ++ text "ovies") "ovie",
  replacing (stem (text "s") ++ text "eries") "eries",
  replacing (stem (word ++ (besides "aeiouy" <|> text "qu")) ++ text "ies") "y",
  replacing (stem word ++ among "lr" ++ text "ves") "f",
  replacing (stem word ++ text "tives") "",
  replacing (stem word ++ text "hives") "",
  replacing (stem word ++ besides "f" ++ text "ves") "fe",
  replacing (stem (start ++ text "analy") ++ anyOf ["sis", "ses"]) "sis",
  replacing (stem (anyOf ["analy", "ba", "diagno", "parenthe", "progno", "synop", "the"]) ++
    anyOf ["sis", "ses"]) "sis",
  replacing (stem word ++ among "ti" ++ text "a") "um",
  replacing (stem word ++ text "oes") "",
  replacing (stem (text "n") ++ text "ews") "ews",
  keeping (stem word ++ ending (text "ss")),
  replacing (stem word ++ text "s") ""]
/-- The singular of a word; a word that no rule changes is its own. -/
def singular (word : String) : String :=
  if uncountable.contains word then word
  else
    match singularOf.lookup word with
    | some one => one
    | none => (singularRules.findSome? fun rule => rule.apply? word).getD word

-- ================================================================== plural

/-- Words whose plural follows no rule. -/
def pluralOf : List (String × String) := [
  ("ox", "oxen"), ("man", "men"), ("woman", "women"), ("die", "dice"), ("yes", "yeses"),
  ("foot", "feet"), ("eave", "eaves"), ("goose", "geese"), ("tooth", "teeth"), ("quiz", "quizzes")]

/-- The rules that lead to a plural. -/
def pluralRules : List Rule := [
  replacing (stem (word ++ text "eaux")) "",
  replacing (stem (word ++ text "child") ++ perhaps (text "ren")) "ren",
  replacing (stem (word ++ text "pe" ++ anyOf ["rson", "ople"])) "ople",
  replacing (stem (word ++ anyOf ["m", "l"] ++ anyOf ["ice", "ouse"])) "ice",
  replacing (stem (word ++ anyOf ["matr", "cod", "mur", "sil", "vert", "ind", "append"]) ++
    anyOf ["ix", "ex"]) "ices",
  replacing (stem (word ++ anyOf ["x", "ch", "ss", "sh", "zz"])) "es",
  replacing (stem (word ++ anyOf ["x", "ch", "ss", "sh", "zz"] ++ text "es")) "",
  replacing (stem (word ++ besides "ch" ++ among "ieo" ++ among "ln") ++ text "ey") "ies",
  replacing (stem (word ++ (besides "aeiouy" <|> text "qu")) ++ text "y") "ies",
  replacing (stem (word ++ anyOf ["ar", "l", "ea", "eo", "oa", "hoo"]) ++ text "f") "ves",
  replacing (stem (word ++ anyOf ["kni", "wi", "li"]) ++ text "fe") "ves",
  replacing (stem word ++ text "sis") "ses",
  replacing (stem (word ++ anyOf ["apheli", "hyperbat", "periheli", "asyndet", "noumen",
    "phenomen", "criteri", "organ", "prolegomen", "hedr", "automat"]) ++ anyOf ["a", "on"]) "a",
  replacing (stem (word ++ anyOf ["agend", "addend", "millenni", "dat", "extrem", "bacteri",
    "desiderat", "strat", "candelabr", "errat", "ov", "symposi", "curricul", "automat", "quor"])
    ++ anyOf ["a", "um"]) "a",
  replacing (stem (word ++ anyOf ["her", "at", "gr"]) ++ text "o") "oes",
  replacing (stem (word ++ anyOf ["seraph", "cherub"]) ++ perhaps (text "im")) "im",
  replacing (stem (word ++ anyOf ["alumn", "alg", "vertebr"]) ++ anyOf ["a", "ae"]) "ae",
  replacing (stem (word ++ anyOf ["alumn", "syllab", "octop", "vir", "radi", "nucle", "fung",
    "cact", "stimul", "termin", "bacill", "foc", "uter", "loc", "strat"]) ++ anyOf ["us", "i"])
    "i",
  replacing (stem (word ++ ((besides "l" ++ text "ias") <|> (among "aeiou" ++ text "las") <|>
    (among "emjzr" ++ text "as") <|> (among "iu" ++ text "am")))) "",
  replacing (stem (word ++ text "e" ++ among "mn" ++ text "u") ++ perhaps (text "s")) "s",
  replacing (stem (word ++ (text "alias" <|> (besides "aou" ++ text "us") <|> text "tlas" <|>
    text "gas" <|> text "ris"))) "es",
  replacing (stem (word ++ anyOf ["ax", "test"]) ++ text "is") "es",
  replacing (stem (word ++ besides "aeiou" ++ text "ese")) "",
  replacing (stem word ++ text "s") "s"]
/-- The plural of a word; a word that no rule changes gets an `s`. -/
def plural (word : String) : String :=
  if uncountable.contains word then word
  else
    match pluralOf.lookup word with
    | some many => many
    | none => (pluralRules.findSome? fun rule => rule.apply? word).getD (word ++ "s")

end CrudGraph.Inflection
