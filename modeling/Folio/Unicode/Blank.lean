import Folio.Unicode.Ranges

/-!
# White space

The characters with the Unicode property `White_Space`: the ASCII controls from tab to carriage
return, the space, the next-line control, and the spaces and separators of the higher planes.
-/

namespace Folio.Unicode

/-- The characters that count as white space. -/
def blankRanges : Ranges := [
  (0x9, 0xD), (0x20, 0x20), (0x85, 0x85), (0xA0, 0xA0), (0x1680, 0x1680), (0x2000, 0x200A),
  (0x2028, 0x2029), (0x202F, 0x202F), (0x205F, 0x205F), (0x3000, 0x3000)]

/-- White space in any script. -/
def isBlank (c : Char) : Bool := blankRanges.covers c

/-- White space of ASCII. -/
def isAsciiBlank (c : Char) : Bool := c = ' ' || (decide (9 ≤ c.toNat) && decide (c.toNat ≤ 13))

/-- Every blank of the ASCII classes is one here. -/
theorem isBlank_of_isWhitespace {c : Char} (h : c.isWhitespace = true) : isBlank c = true := by
  simp only [Char.isWhitespace, Bool.or_eq_true, decide_eq_true_eq] at h
  rcases h with ((rfl | rfl) | rfl) | rfl <;> decide

/-- No graphic character of ASCII is white space. -/
theorem isBlank_of_graphic {c : Char} (hlow : 32 < c.toNat) (hhigh : c.toNat < 127) : isBlank c = false := by
  rw [← Bool.not_eq_true, isBlank, Ranges.covers_iff]
  rintro ⟨range, hrange, hstart, hend⟩
  simp only [blankRanges, List.mem_cons, List.not_mem_nil, or_false] at hrange
  rcases hrange with rfl | rfl | rfl | rfl | rfl | rfl | rfl | rfl | rfl | rfl <;> simp only at hstart hend <;> omega

end Folio.Unicode
