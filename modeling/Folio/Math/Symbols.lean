/-!
# The symbols of formula commands

A command is a backslash with a name or with a single character. The tables give the text each
known command stands for. Layout commands (sizes, fonts, styles) stand for nothing: they shape what
follows and have no text of their own.
-/

namespace Folio.Math.Symbols

/-- The lower-case Greek letters and their variants. -/
def greekLower : List (String × String) := [
  ("\\alpha", "α"), ("\\beta", "β"), ("\\gamma", "γ"), ("\\delta", "δ"), ("\\epsilon", "ϵ"),
  ("\\varepsilon", "ε"), ("\\zeta", "ζ"), ("\\eta", "η"), ("\\theta", "θ"), ("\\vartheta", "ϑ"),
  ("\\iota", "ι"), ("\\kappa", "κ"), ("\\lambda", "λ"), ("\\mu", "μ"), ("\\nu", "ν"),
  ("\\xi", "ξ"), ("\\omicron", "ο"), ("\\pi", "π"), ("\\varpi", "ϖ"), ("\\rho", "ρ"),
  ("\\varrho", "ϱ"), ("\\sigma", "σ"), ("\\varsigma", "ς"), ("\\tau", "τ"), ("\\upsilon", "υ"),
  ("\\phi", "ϕ"), ("\\varphi", "φ"), ("\\chi", "χ"), ("\\psi", "ψ"), ("\\omega", "ω")]

/-- The upper-case Greek letters that differ from Latin ones. -/
def greekUpper : List (String × String) := [
  ("\\Gamma", "Γ"), ("\\Delta", "Δ"), ("\\Theta", "Θ"), ("\\Lambda", "Λ"), ("\\Xi", "Ξ"),
  ("\\Pi", "Π"), ("\\Sigma", "Σ"), ("\\Upsilon", "Υ"), ("\\Phi", "Φ"), ("\\Psi", "Ψ"),
  ("\\Omega", "Ω")]

/-- Binary operators. -/
def operators : List (String × String) := [
  ("\\pm", "±"), ("\\mp", "∓"), ("\\times", "×"), ("\\div", "÷"), ("\\cdot", "·"), ("\\ast", "∗"),
  ("\\star", "⋆"), ("\\circ", "∘"), ("\\bullet", "•"), ("\\oplus", "⊕"), ("\\ominus", "⊖"),
  ("\\otimes", "⊗"), ("\\oslash", "⊘"), ("\\odot", "⊙"), ("\\cup", "∪"), ("\\cap", "∩"),
  ("\\setminus", "∖"), ("\\wedge", "∧"), ("\\land", "∧"), ("\\vee", "∨"), ("\\lor", "∨"),
  ("\\neg", "¬"), ("\\lnot", "¬")]

/-- Relations. -/
def relations : List (String × String) := [
  ("\\leq", "≤"), ("\\le", "≤"), ("\\geq", "≥"), ("\\ge", "≥"), ("\\neq", "≠"), ("\\ne", "≠"),
  ("\\approx", "≈"), ("\\equiv", "≡"), ("\\sim", "∼"), ("\\simeq", "≃"), ("\\cong", "≅"),
  ("\\propto", "∝"), ("\\ll", "≪"), ("\\gg", "≫"), ("\\in", "∈"), ("\\notin", "∉"), ("\\ni", "∋"),
  ("\\subset", "⊂"), ("\\supset", "⊃"), ("\\subseteq", "⊆"), ("\\supseteq", "⊇"), ("\\perp", "⊥"),
  ("\\parallel", "∥"), ("\\mid", "∣"), ("\\vdash", "⊢"), ("\\models", "⊨")]

/-- Arrows. -/
def arrows : List (String × String) := [
  ("\\to", "→"), ("\\rightarrow", "→"), ("\\leftarrow", "←"), ("\\gets", "←"),
  ("\\leftrightarrow", "↔"), ("\\Rightarrow", "⇒"), ("\\Leftarrow", "⇐"),
  ("\\Leftrightarrow", "⇔"), ("\\implies", "⟹"), ("\\iff", "⟺"), ("\\mapsto", "↦"),
  ("\\uparrow", "↑"), ("\\downarrow", "↓"), ("\\longrightarrow", "⟶"), ("\\longleftarrow", "⟵")]

/-- Operators that take limits. -/
def bigOperators : List (String × String) := [
  ("\\sum", "∑"), ("\\prod", "∏"), ("\\coprod", "∐"), ("\\int", "∫"), ("\\iint", "∬"),
  ("\\iiint", "∭"), ("\\oint", "∮"), ("\\bigcup", "⋃"), ("\\bigcap", "⋂"), ("\\bigoplus", "⨁"),
  ("\\bigotimes", "⨂")]

/-- Ordinary symbols. -/
def ordinary : List (String × String) := [
  ("\\infty", "∞"), ("\\partial", "∂"), ("\\nabla", "∇"), ("\\forall", "∀"), ("\\exists", "∃"),
  ("\\nexists", "∄"), ("\\emptyset", "∅"), ("\\varnothing", "∅"), ("\\angle", "∠"),
  ("\\triangle", "△"), ("\\hbar", "ℏ"), ("\\ell", "ℓ"), ("\\Re", "ℜ"), ("\\Im", "ℑ"),
  ("\\aleph", "ℵ"), ("\\prime", "′"), ("\\degree", "°"), ("\\therefore", "∴"), ("\\because", "∵")]

/-- Functions that are set by their name. -/
def functions : List (String × String) := [
  ("\\sin", "sin"), ("\\cos", "cos"), ("\\tan", "tan"), ("\\cot", "cot"), ("\\sec", "sec"),
  ("\\csc", "csc"), ("\\arcsin", "arcsin"), ("\\arccos", "arccos"), ("\\arctan", "arctan"),
  ("\\sinh", "sinh"), ("\\cosh", "cosh"), ("\\tanh", "tanh"), ("\\log", "log"), ("\\ln", "ln"),
  ("\\lg", "lg"), ("\\exp", "exp"), ("\\lim", "lim"), ("\\sup", "sup"), ("\\inf", "inf"),
  ("\\max", "max"), ("\\min", "min"), ("\\det", "det"), ("\\dim", "dim"), ("\\ker", "ker"),
  ("\\deg", "deg"), ("\\gcd", "gcd"), ("\\arg", "arg"), ("\\Pr", "Pr")]

/-- Delimiters, the escaped braces among them. -/
def delimiters : List (String × String) := [
  ("\\langle", "⟨"), ("\\rangle", "⟩"), ("\\lceil", "⌈"), ("\\rceil", "⌉"), ("\\lfloor", "⌊"),
  ("\\rfloor", "⌋"), ("\\lvert", "|"), ("\\rvert", "|"), ("\\lVert", "‖"), ("\\rVert", "‖"),
  ("\\|", "‖"), ("\\\x7b", "\x7b"), ("\\\x7d", "\x7d")]

/-- Ellipses. -/
def ellipses : List (String × String) := [
  ("\\ldots", "…"), ("\\dots", "…"), ("\\cdots", "⋯"), ("\\vdots", "⋮"), ("\\ddots", "⋱")]

/-- Spaces of several widths; the negative space vanishes. -/
def spacing : List (String × String) := [
  ("\\,", "\u2009"), ("\\:", "\u205f"), ("\\;", "\u2004"), ("\\!", ""), ("\\ ", " "),
  ("\\quad", "\u2003"), ("\\qquad", "\u2003\u2003")]

/-- Characters that need an escape in a formula's source. -/
def specials : List (String × String) := [
  ("\\%", "%"), ("\\$", "$"), ("\\&", "&"), ("\\#", "#"), ("\\_", "_")]

/-- Commands that only affect layout. -/
def layout : List String := [
  "\\left", "\\right", "\\big", "\\Big", "\\bigg", "\\Bigg", "\\bigl", "\\bigr", "\\Bigl",
  "\\Bigr", "\\displaystyle", "\\textstyle", "\\scriptstyle", "\\limits", "\\nolimits",
  "\\mathrm", "\\mathit", "\\mathbf", "\\mathsf", "\\mathtt", "\\mathcal", "\\mathbb",
  "\\mathfrak", "\\text", "\\textrm", "\\textit", "\\textbf", "\\operatorname", "\\boldsymbol"]

/-- Every known command with the text it stands for. -/
def all : List (String × String) :=
  greekLower ++ greekUpper ++ operators ++ relations ++ arrows ++ bigOperators ++ ordinary ++
    functions ++ delimiters ++ ellipses ++ spacing ++ specials ++ layout.map (·, "")

end Folio.Math.Symbols
