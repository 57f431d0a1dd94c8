import Bibliography.CiteKey.Clean
import Bibliography.Unicode.Lowercase

/-! # Title words

The words of a title a key is made of. The short form keeps ASCII letters only and passes over the
articles, prepositions and conjunctions of English, German, Spanish and French.
-/

namespace Bibliography.CiteKey
set_option autoImplicit false

/-- Words that say little about a title. -/
def stopWords : List Text := List.map String.toList [
  "a", "aboard", "about", "above", "across", "after", "against", "al", "along", "amid",
  "among", "an", "and", "anti", "around", "as", "at", "before", "behind", "below",
  "beneath", "beside", "besides", "between", "beyond", "but", "by", "d", "das", "de",
  "del", "der", "des", "despite", "die", "do", "down", "during", "ein", "eine", "einem",
  "einen", "einer", "eines", "el", "except", "for", "from", "in", "is", "inside", "into",
  "l", "la", "las", "le", "like", "los", "near", "nor", "of", "off", "on", "onto", "or",
  "over", "past", "per", "plus", "round", "save", "since", "so", "some", "than", "the",
  "through", "to", "toward", "towards", "un", "una", "unas", "under", "underneath", "une",
  "unlike", "uno", "unos", "until", "up", "upon", "versus", "via", "while", "with",
  "within", "without", "yet"
]

/-- The word is a stop word in some letter case. -/
def isStopWord (word : Text) : Bool := stopWords.contains (Unicode.lower word)

/-- The words of a title, cleaned. -/
def titleWords (title : Text) : List Text := cleanWords title

/-- The words of a title that say something, reduced to ASCII letters. -/
def shortTitleWords (title : Text) : List Text :=
  ((cleanWords title).map fun w => w.filter Char.isAlpha).filter fun w =>
    !w.isEmpty && !isStopWord w

end Bibliography.CiteKey
