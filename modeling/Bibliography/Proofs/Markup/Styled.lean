import Bibliography.Proofs.Latex.MathRuns
import Bibliography.Proofs.Markup.Kept

/-! # Styled text

Text in styles that LaTeX has a command for. As markup it is a forest, once texts that are
neighbours are joined; so its conversion is read off it element by element.
-/

namespace Bibliography.Markup
set_option autoImplicit false
open Text Unicode

/-! ## Styles -/

inductive Style
  | italic
  | bold
  | smallCaps
  | superscript
  | subscript
deriving DecidableEq, Repr

namespace Style

def tag : Style → Tag
  | italic => .italic
  | bold => .bold
  | smallCaps => .span
  | superscript => .superscript
  | subscript => .subscript

def attributes : Style → Text
  | smallCaps => " style=\"font-variant:small-caps;\""
  | _ => []

def start (style : Style) : StartTag where
  tag := style.tag
  name := style.tag.name
  attributes := style.attributes
  spelled := by cases style <;> decide
  apart := by cases style <;> decide
  inside := by cases style <;> decide
  unslashed := by cases style <;> decide

/-- The text between the tags of the style. -/
def wrap (style : Style) (s : Text) : Text :=
  style.start.markup false ++ (s ++ closingMarkup style.start.name)

example : smallCaps.wrap "Nasa" =
    "<span style=\"font-variant:small-caps;\">Nasa</span>".toList := by decide

/-- What begins the command of the style. -/
def opening : Style → Text
  | italic => r"\emph{"
  | bold => r"\textbf{"
  | smallCaps => r"\textsc{"
  | superscript => r"\ensuremath{^{"
  | subscript => r"\ensuremath{_{"

def closing : Style → Text
  | superscript | subscript => r"}}"
  | _ => r"}"

theorem delimiters_start (style : Style) :
    style.start.delimiters = (style.opening, style.closing) := by
  cases style <;> decide

theorem isVoid_start (style : Style) : style.start.tag.isVoid = false := by
  cases style <;> rfl

end Style

/-! ## Styled text -/

/-- Text with elements in it, each in one style. -/
inductive Styled
  | nil
  | text (s : Text) (rest : Styled)
  | element (style : Style) (children rest : Styled)
deriving DecidableEq, Repr

namespace Styled

def markup : Styled → Text
  | nil => []
  | text s rest => s ++ rest.markup
  | element style children rest => style.wrap children.markup ++ rest.markup

/-- The text as it is between commands. -/
def latex : Styled → Text
  | nil => []
  | text s rest => s ++ rest.latex
  | element style children rest =>
    style.opening ++ (children.latex ++ (style.closing ++ rest.latex))

/-- How deep elements are nested. -/
def depth : Styled → Nat
  | nil => 0
  | text _ rest => rest.depth
  | element _ children rest => max (children.depth + 1) rest.depth

/-- The characters outside the tags. -/
def chars : Styled → Text
  | nil => []
  | text s rest => s ++ rest.chars
  | element _ children rest => children.chars ++ rest.chars

/-- No character has a meaning in LaTeX. -/
def Plain (t : Styled) : Prop := ∀ c ∈ t.chars, c ∉ Latex.specials.map Prod.fst

end Styled

/-! ## Styled text in LaTeX -/

theorem escape_append_of_plain {s : Text} (hs : ∀ c ∈ s, c ∉ Latex.specials.map Prod.fst)
    (t : Text) : Latex.escape .unicode (s ++ t) = s ++ Latex.escape .unicode t := by
  have hself : Latex.escape .unicode s = s :=
    Latex.escape_eq_self fun c hc => Latex.kept_of_notMem (hs c hc)
  have happend : Latex.escape .unicode (s ++ t) =
      Latex.escape .unicode s ++ Latex.escape .unicode t :=
    Latex.escape_append_of_apart fun h => by cases h.1
  rw [happend, hself]

theorem escapeRun_append_of_plain {s : Text} (hs : ∀ c ∈ s, c ∉ Latex.specials.map Prod.fst)
    (t : Text) : escapeRun .unicode (s ++ t) = s ++ escapeRun .unicode t := by
  have hbrace : '{' ∉ s := fun hmem => hs '{' hmem (by decide)
  rw [escapeRun, escapeRun, escape_append_of_plain hs, collapseGroups_append_of_notMem hbrace]

theorem escapeRun_nil : escapeRun .unicode [] = [] := collapseGroups_nil

namespace Styled

/-- Styled text is well-formed markup, once texts that are neighbours are joined. -/
theorem exists_forest {t : Styled} (ht : t.Plain) :
    ∃ f : Forest, f.separated = true ∧ f.markup = t.markup ∧ f.depth = t.depth ∧
      f.render .unicode = t.latex := by
  induction t with
  | nil => exact ⟨.nil, rfl, rfl, rfl, rfl⟩
  | text s rest ih =>
    rw [Plain, chars, List.forall_mem_append] at ht
    obtain ⟨f, hseparated, hmarkup, hdepth, hrender⟩ := ih ht.2
    have hangle : '<' ∉ s := fun hmem => ht.1 _ hmem (by decide)
    rw [markup, depth, latex, ← hmarkup, ← hdepth, ← hrender]
    cases f with
    | text u plain rest =>
      have hjoined : '<' ∉ s ++ u := by
        rw [List.mem_append]
        exact fun hmem => hmem.elim hangle plain
      refine ⟨.text (s ++ u) hjoined rest, hseparated, ?_, rfl, ?_⟩
      · rw [Forest.markup, Forest.markup, List.append_assoc]
      · rw [Forest.render, Forest.render, escapeRun_append_of_plain ht.1, List.append_assoc]
    | _ =>
      refine ⟨.text s hangle _, ?_, rfl, rfl, ?_⟩
      · rw [Forest.separated, hseparated]
        rfl
      · have hrun := escapeRun_append_of_plain ht.1 []
        rw [List.append_nil] at hrun
        rw [Forest.render.eq_def]
        simp only [hrun, escapeRun_nil, List.append_nil]
  | element style children rest ihchildren ihrest =>
    rw [Plain, chars, List.forall_mem_append] at ht
    obtain ⟨f, hseparated, hmarkup, hdepth, hrender⟩ := ihchildren ht.1
    obtain ⟨g, hseparated', hmarkup', hdepth', hrender'⟩ := ihrest ht.2
    refine ⟨.element style.start style.isVoid_start style.start.name style.start.spelled f g,
      ?_, ?_, ?_, ?_⟩
    · rw [Forest.separated, hseparated, hseparated']
      rfl
    · rw [Forest.markup, markup, Style.wrap, hmarkup, hmarkup', List.append_assoc,
        List.append_assoc]
    · rw [Forest.depth, depth, hdepth, hdepth']
    · rw [Forest.render, latex, style.delimiters_start, hrender, hrender', List.append_assoc,
        List.append_assoc]

theorem toLatex_markup {t : Styled} (ht : t.Plain) (hdepth : t.depth ≤ maxDepth) :
    toLatex .unicode t.markup = t.latex := by
  obtain ⟨f, hseparated, hmarkup, hdepth', hrender⟩ := exists_forest ht
  rw [toLatex, ← hmarkup, convert_markup .unicode hseparated (hdepth' ▸ hdepth), hrender]

end Styled

end Bibliography.Markup
