/-!
# Character classes as code point ranges

A property of the Unicode character database is a list of inclusive code point ranges; a character
has the property when some range covers it. The tables of the neighbouring modules are such lists.
-/

namespace Folio.Unicode

/-- A list of inclusive code point ranges. -/
abbrev Ranges := List (Nat × Nat)

/-- Some range covers the character. -/
def Ranges.covers (ranges : Ranges) (c : Char) : Bool :=
  ranges.any fun r => decide (r.1 ≤ c.toNat) && decide (c.toNat ≤ r.2)

theorem Ranges.covers_iff {ranges : Ranges} {c : Char} :
    ranges.covers c = true ↔ ∃ r ∈ ranges, r.1 ≤ c.toNat ∧ c.toNat ≤ r.2 := by
  simp [Ranges.covers, List.any_eq_true]

end Folio.Unicode
