import Bibliography.Text.Basic

/-! # LaTeX spellings

How single characters are spelled in LaTeX. Twelve ASCII characters have a meaning there and are
always spelled out. Output that must be ASCII spells letters, signs and mathematical symbols as
well; the last ones have to stand in math mode.
-/

namespace Bibliography.Latex
set_option autoImplicit false

/-- Which characters the output may hold. -/
inductive Mode
  /-- Any character; only those with a meaning in LaTeX are spelled out. -/
  | unicode
  /-- ASCII characters only. -/
  | ascii
deriving DecidableEq, Repr

/-- The spelling of a character. -/
structure Spelling where
  latex : Text
  /-- It has to stand in math mode. -/
  math : Bool
deriving DecidableEq, Repr

/-! ## The tables -/

/-- Characters with a meaning in LaTeX. -/
def specials : List (Char × String) := [
  ('\\', r"\textbackslash{}"), ('{', r"\{"), ('}', r"\}"), ('#', r"\#"), ('$', r"\$"),
  ('%', r"\%"), ('&', r"\&"), ('_', r"\_"), ('~', r"\textasciitilde{}"),
  ('^', r"\textasciicircum{}"), ('<', r"\textless{}"), ('>', r"\textgreater{}")
]

/-- Accented letters, and letters of their own. -/
def letters : List (Char × String) := [
  ('À', r"{\`A}"), ('Á', r"{\'A}"), ('Â', r"{\^A}"), ('Ã', r"{\~A}"), ('Ä', r#"{\"A}"#),
  ('Å', r"{\AA}"), ('Æ', r"{\AE}"), ('Ç', r"{\c C}"), ('È', r"{\`E}"), ('É', r"{\'E}"),
  ('Ê', r"{\^E}"), ('Ë', r#"{\"E}"#), ('Ì', r"{\`I}"), ('Í', r"{\'I}"), ('Î', r"{\^I}"),
  ('Ï', r#"{\"I}"#), ('Ñ', r"{\~N}"), ('Ò', r"{\`O}"), ('Ó', r"{\'O}"), ('Ô', r"{\^O}"),
  ('Õ', r"{\~O}"), ('Ö', r#"{\"O}"#), ('Ø', r"{\O}"), ('Ù', r"{\`U}"), ('Ú', r"{\'U}"),
  ('Û', r"{\^U}"), ('Ü', r#"{\"U}"#), ('Ý', r"{\'Y}"), ('ß', r"{\ss}"), ('à', r"{\`a}"),
  ('á', r"{\'a}"), ('â', r"{\^a}"), ('ã', r"{\~a}"), ('ä', r#"{\"a}"#), ('å', r"{\aa}"),
  ('æ', r"{\ae}"), ('ç', r"{\c c}"), ('è', r"{\`e}"), ('é', r"{\'e}"), ('ê', r"{\^e}"),
  ('ë', r#"{\"e}"#), ('ì', r"{\`\i}"), ('í', r"{\'\i}"), ('î', r"{\^\i}"), ('ï', r#"{\"\i}"#),
  ('ñ', r"{\~n}"), ('ò', r"{\`o}"), ('ó', r"{\'o}"), ('ô', r"{\^o}"), ('õ', r"{\~o}"),
  ('ö', r#"{\"o}"#), ('ø', r"{\o}"), ('ù', r"{\`u}"), ('ú', r"{\'u}"), ('û', r"{\^u}"),
  ('ü', r#"{\"u}"#), ('ý', r"{\'y}"), ('ÿ', r#"{\"y}"#), ('ą', r"{\k a}"), ('Ą', r"{\k A}"),
  ('ć', r"{\'c}"), ('Ć', r"{\'C}"), ('č', r"{\v c}"), ('Č', r"{\v C}"), ('ď', r"{\v d}"),
  ('ę', r"{\k e}"), ('Ę', r"{\k E}"), ('ě', r"{\v e}"), ('ğ', r"{\u g}"), ('ı', r"{\i}"),
  ('ł', r"{\l}"), ('Ł', r"{\L}"), ('ń', r"{\'n}"), ('ň', r"{\v n}"), ('ő', r"{\H o}"),
  ('Ő', r"{\H O}"), ('œ', r"{\oe}"), ('Œ', r"{\OE}"), ('ř', r"{\v r}"), ('Ř', r"{\v R}"),
  ('ś', r"{\'s}"), ('Ś', r"{\'S}"), ('š', r"{\v s}"), ('Š', r"{\v S}"), ('ş', r"{\c s}"),
  ('Ş', r"{\c S}"), ('ť', r"{\v t}"), ('ů', r"{\r u}"), ('ű', r"{\H u}"), ('Ű', r"{\H U}"),
  ('ź', r"{\'z}"), ('Ź', r"{\'Z}"), ('ż', r"{\.z}"), ('Ż', r"{\.Z}"), ('ž', r"{\v z}"),
  ('Ž', r"{\v Z}"), ('Đ', r"{\DJ}"), ('đ', r"{\dj}"), ('Ð', r"{\DH}"), ('ð', r"{\dh}"),
  ('Þ', r"{\TH}"), ('þ', r"{\th}"), ('Ŋ', r"{\NG}"), ('ŋ', r"{\ng}"), ('ȷ', r"{\j}")
]

/-- Punctuation and signs. -/
def signs : List (Char × String) := [
  ('\u2013', "--"), ('\u2014', "---"), ('\u2018', "`"), ('\u2019', "'"), ('\u201c', "``"),
  ('\u201d', "''"), ('\u2026', r"\ldots{}"), ('\u00a0', "~"), ('§', r"{\S}"), ('¶', r"{\P}"),
  ('©', r"\textcopyright{}"), ('®', r"\textregistered{}"), ('™', r"\texttrademark{}"),
  ('£', r"{\pounds}"), ('€', r"\texteuro{}"), ('\u2020', r"\dag{}"), ('\u2021', r"\ddag{}"),
  ('\u2022', r"\textbullet{}"), ('«', r"\guillemotleft{}"), ('»', r"\guillemotright{}"),
  ('¿', "?`"), ('¡', "!`"), ('°', r"\textdegree{}")
]

/-- Greek letters that mathematics has a command for; the micro sign is spelled like the letter mu.
-/
def greekLetters : List (Char × String) := [
  ('α', r"\alpha"), ('β', r"\beta"), ('γ', r"\gamma"), ('δ', r"\delta"), ('ε', r"\epsilon"),
  ('ζ', r"\zeta"), ('η', r"\eta"), ('θ', r"\theta"), ('ι', r"\iota"), ('κ', r"\kappa"),
  ('λ', r"\lambda"), ('μ', r"\mu"), ('µ', r"\mu"), ('ν', r"\nu"), ('ξ', r"\xi"), ('π', r"\pi"),
  ('ρ', r"\rho"), ('σ', r"\sigma"), ('τ', r"\tau"), ('υ', r"\upsilon"), ('φ', r"\phi"),
  ('χ', r"\chi"), ('ψ', r"\psi"), ('ω', r"\omega"), ('Γ', r"\Gamma"), ('Δ', r"\Delta"),
  ('Θ', r"\Theta"), ('Λ', r"\Lambda"), ('Ξ', r"\Xi"), ('Π', r"\Pi"), ('Σ', r"\Sigma"),
  ('Υ', r"\Upsilon"), ('Φ', r"\Phi"), ('Ψ', r"\Psi"), ('Ω', r"\Omega")
]

/-- Mathematical symbols. -/
def symbols : List (Char × String) := [
  ('×', r"\times"), ('÷', r"\div"), ('±', r"\pm"), ('∓', r"\mp"), ('·', r"\cdot"),
  ('≤', r"\leq"), ('≥', r"\geq"), ('≠', r"\neq"), ('≈', r"\approx"), ('≡', r"\equiv"),
  ('∼', r"\sim"), ('∝', r"\propto"), ('≪', r"\ll"), ('≫', r"\gg"), ('∈', r"\in"),
  ('∉', r"\notin"), ('⊂', r"\subset"), ('⊃', r"\supset"), ('⊆', r"\subseteq"),
  ('⊇', r"\supseteq"), ('∪', r"\cup"), ('∩', r"\cap"), ('∅', r"\emptyset"), ('∀', r"\forall"),
  ('∃', r"\exists"), ('¬', r"\neg"), ('∧', r"\wedge"), ('∨', r"\vee"), ('→', r"\rightarrow"),
  ('←', r"\leftarrow"), ('↔', r"\leftrightarrow"), ('⇒', r"\Rightarrow"), ('⇐', r"\Leftarrow"),
  ('⇔', r"\Leftrightarrow"), ('∞', r"\infty"), ('∂', r"\partial"), ('∇', r"\nabla"),
  ('∑', r"\sum"), ('∏', r"\prod"), ('∫', r"\int"), ('√', r"\surd"), ('\u2032', r"\prime")
]

/-- A table whose spellings are all text, or all mathematics. -/
def spelled (math : Bool) (table : List (Char × String)) : List (Char × Spelling) :=
  table.map fun p => (p.1, ⟨p.2.toList, math⟩)

/-- The spellings that are used always. -/
def alwaysSpelled : List (Char × Spelling) := spelled false specials

/-- The spellings that are used where the output must be ASCII. -/
def asciiSpelled : List (Char × Spelling) :=
  alwaysSpelled ++ spelled false (letters ++ signs) ++ spelled true (greekLetters ++ symbols)

/-- The spelling of a character, if it needs one. -/
def spelling? (mode : Mode) (c : Char) : Option Spelling :=
  match mode with
  | .unicode => alwaysSpelled.lookup c
  | .ascii => asciiSpelled.lookup c

end Bibliography.Latex
