import Bibliography.Unicode.Case.Cased
import Bibliography.Unicode.Case.Lower

/-! # Lower case of a text

Letter by letter, with one exception: a capital sigma that ends a word becomes the final sigma.
-/

namespace Bibliography.Unicode
set_option autoImplicit false

/-- The capital sigma, the only letter whose lower case hangs on its neighbours. -/
def capitalSigma : Char := '\u03a3'

/-- The lower case of a capital sigma between the text before it, nearest character first, and the
text after it. -/
def lowerSigma (before after : List Char) : Char :=
  if reachesCased before && !reachesCased after then '\u03c2' else '\u03c3'

/-- The lower case of a text whose characters before it are given nearest first. -/
def lowerAfter (before : List Char) : List Char → List Char
  | [] => []
  | c :: cs =>
    if c = capitalSigma then lowerSigma before cs :: lowerAfter (c :: before) cs
    else lowerChar c ++ lowerAfter (c :: before) cs

/-- A text in lower case. -/
def lower (s : List Char) : List Char := lowerAfter [] s

end Bibliography.Unicode
