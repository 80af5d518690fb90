import Folio.Math.Markup
import Folio.Math.Reading

/-!
# Formulas and their markup, read out

Structured markup is read out on one line by the rules that hold for formulas: a fraction as its two parts in
parentheses around a slash, a root as a radical sign behind its raised degree, scripts by raised and lowered characters.
Rows of markup are flat where formulas have groups, and a row has one run where a formula may have several texts, but
both are read out alike.

* `Markup.readingChars`, `rowText` : what an element and a row are read out as;
* `rowText_consText` : a text merged into a row is read in front of it;
* `rowText_markupOnto` : so is a formula;
* `reading_toMarkup` : a formula and its markup have the same plain text.
-/

namespace Folio.Math

mutual

/-- The characters of an element's plain text. -/
def Markup.readingChars : Markup → List Char
  | .math row => rowText row
  | .run text => text.toList
  | .fraction num den => '(' :: rowText num ++ [')', '/', '('] ++ rowText den ++ [')']
  | .sqrt radicand => '√' :: '(' :: rowText radicand ++ [')']
  | .root degree radicand => toSuperscript (rowText degree) ++ '√' :: '(' :: rowText radicand ++ [')']
  | .sup base exponent => rowText base ++ toSuperscript (rowText exponent)
  | .sub base subscript => rowText base ++ toSubscript (rowText subscript)
  | .subsup base subscript exponent =>
    rowText base ++ toSubscript (rowText subscript) ++ toSuperscript (rowText exponent)

/-- The plain texts of the elements of a row. -/
def rowText : List Markup → List Char
  | [] => []
  | element :: row => element.readingChars ++ rowText row

end

/-- The plain text of an element. -/
def Markup.reading (markup : Markup) : String := String.ofList markup.readingChars

/-- A text is read in front of the row, whether it is a run of its own, is merged with the first run or leaves none. -/
theorem rowText_consText (text : List Char) (row : List Markup) :
    rowText (consText text row) = text ++ rowText row := by
  unfold consText
  split
  next hempty => rw [List.isEmpty_iff.mp hempty, List.nil_append]
  next =>
    split
    next => rw [rowText, rowText, Markup.readingChars, Markup.readingChars, String.toList_append, String.toList_ofList,
        List.append_assoc]
    next => rw [rowText, Markup.readingChars, String.toList_ofList]

/-- The base of a script is read as the character that it is. -/
theorem rowText_base (base : Char) : rowText [.run base.toString] = [base] := by
  simp only [rowText, Markup.readingChars, List.append_nil]
  exact String.toList_singleton base

/-- Markup that is read in front of every row is read alone as well. -/
theorem rowText_alone {formula : Formula}
    (h : ∀ row, rowText (markupOnto formula row) = readingChars formula ++ rowText row) :
    rowText (markupOnto formula []) = readingChars formula := by
  rw [h, rowText, List.append_nil]

mutual

/-- A formula is read in front of the row that its markup is put before. -/
theorem rowText_markupOnto :
    ∀ (formula : Formula) (row : List Markup), rowText (markupOnto formula row) = readingChars formula ++ rowText row
  | .run text, row => by
    rw [markupOnto, readingChars]
    exact rowText_consText _ row
  | .group parts, row => by
    rw [markupOnto, readingChars]
    exact rowText_markupAllOnto parts row
  | .frac num den, row => by
    have hnum := rowText_alone (rowText_markupOnto num)
    have hden := rowText_alone (rowText_markupOnto den)
    rw [markupOnto, readingChars, rowText, Markup.readingChars, hnum, hden]
  | .sqrt radicand, row => by
    have hradicand := rowText_alone (rowText_markupOnto radicand)
    rw [markupOnto, readingChars, rowText, Markup.readingChars, hradicand]
  | .root degree radicand, row => by
    have hdegree := rowText_alone (rowText_markupOnto degree)
    have hradicand := rowText_alone (rowText_markupOnto radicand)
    rw [markupOnto, readingChars, rowText, Markup.readingChars, hdegree, hradicand]
  | .sup base exponent, row => by
    have hexponent := rowText_alone (rowText_markupOnto exponent)
    rw [markupOnto, readingChars, rowText, Markup.readingChars, rowText_base, hexponent, List.singleton_append]
  | .sub base subscript, row => by
    have hsubscript := rowText_alone (rowText_markupOnto subscript)
    rw [markupOnto, readingChars, rowText, Markup.readingChars, rowText_base, hsubscript, List.singleton_append]
  | .subsup base subscript exponent, row => by
    have hsubscript := rowText_alone (rowText_markupOnto subscript)
    have hexponent := rowText_alone (rowText_markupOnto exponent)
    rw [markupOnto, readingChars, rowText, Markup.readingChars, rowText_base, hsubscript, hexponent,
      List.singleton_append]

theorem rowText_markupAllOnto : ∀ (parts : List Formula) (row : List Markup),
    rowText (markupAllOnto parts row) = readingAll parts ++ rowText row
  | [], row => by rw [markupAllOnto, readingAll, List.nil_append]
  | part :: parts, row => by
    rw [markupAllOnto, readingAll, rowText_markupOnto part, rowText_markupAllOnto parts, List.append_assoc]

end

/-- **A formula and its markup are read out alike.** -/
theorem reading_toMarkup (formula : Formula) : formula.toMarkup.reading = formula.reading := by
  have hrow := rowText_alone (rowText_markupOnto formula)
  rw [Formula.toMarkup, Markup.reading, Formula.reading, Markup.readingChars, hrow]

end Folio.Math
