-- SUMMARY: Sets of code points as closed ranges, with the two small ones: control characters and white space.

/-!
# Ranges of code points

A character property of the Unicode standard is a set of code points. A
`CodeRanges` lists such a set as closed ranges, the first and the last code
point of each. Membership is decided by comparing the code point with each
range in turn.

Two of the properties are small and fixed.

* The general category Cc, the control characters, holds the two blocks of control
  codes, U+0000 to U+001F and U+007F to U+009F.
* The property White_Space holds tab to carriage return, the space, next line,
  no-break space, and the spaces and separators of the general punctuation and
  ideographic blocks. The information separators U+001C to U+001F, the Mongolian
  vowel separator and the zero-width spaces are not in it.
-/

namespace FrontEnd.Unicode

/-- A set of code points as closed ranges `(first, last)`. -/
abbrev CodeRanges := List (Nat × Nat)

/-- Whether some range of the list holds the code point of `c`. -/
def CodeRanges.contains (ranges : CodeRanges) (c : Char) : Bool :=
  ranges.any fun (first, last) => first ≤ c.toNat && c.toNat ≤ last

theorem CodeRanges.contains_iff {ranges : CodeRanges} {c : Char} :
    ranges.contains c = true ↔ ∃ r ∈ ranges, r.1 ≤ c.toNat ∧ c.toNat ≤ r.2 := by
  simp [CodeRanges.contains]

theorem CodeRanges.contains_of_mem {ranges : CodeRanges} {c : Char} {r : Nat × Nat}
    (hr : r ∈ ranges) (first : r.1 ≤ c.toNat) (last : c.toNat ≤ r.2) :
    ranges.contains c = true :=
  contains_iff.2 ⟨r, hr, first, last⟩

def controlRanges : CodeRanges :=
  [(0x0000, 0x001F), (0x007F, 0x009F)]

/-- Whether `c` is a control character. -/
def isControl (c : Char) : Bool :=
  controlRanges.contains c

theorem isControl_iff {c : Char} :
    isControl c = true ↔ c.toNat ≤ 0x1F ∨ 0x7F ≤ c.toNat ∧ c.toNat ≤ 0x9F := by
  simp [isControl, controlRanges, CodeRanges.contains]

def whiteSpaceRanges : CodeRanges :=
  [(0x0009, 0x000D), (0x0020, 0x0020), (0x0085, 0x0085), (0x00A0, 0x00A0), (0x1680, 0x1680),
   (0x2000, 0x200A), (0x2028, 0x2029), (0x202F, 0x202F), (0x205F, 0x205F), (0x3000, 0x3000)]

/-- Whether `c` has the property White_Space. -/
def isWhiteSpace (c : Char) : Bool :=
  whiteSpaceRanges.contains c

end FrontEnd.Unicode
