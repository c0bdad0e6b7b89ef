/-!
# White space

The characters with the White_Space property, and the two ways a text is cut at
them: trimming both ends, and taking the words in between.
-/

namespace Blueprint.Text

/-- The White_Space property. -/
def isBlank (c : Char) : Bool :=
  let code := c.toNat
  (9 ≤ code && code ≤ 13) || code == 0x20 || code == 0x85 || code == 0xA0 ||
    code == 0x1680 || (0x2000 ≤ code && code ≤ 0x200A) || code == 0x2028 ||
    code == 0x2029 || code == 0x202F || code == 0x205F || code == 0x3000

theorem isBlank_of_isWhitespace {c : Char} (h : c.isWhitespace = true) :
    isBlank c = true := by
  simp only [Char.isWhitespace, Bool.or_eq_true, decide_eq_true_eq] at h
  rcases h with ((rfl | rfl) | rfl) | rfl <;> decide

/-- Drops a suffix of characters that satisfy `p`. -/
def dropEndWhile (p : Char → Bool) (cs : List Char) : List Char :=
  (cs.reverse.dropWhile p).reverse

def trimChars (cs : List Char) : List Char :=
  dropEndWhile isBlank (cs.dropWhile isBlank)

def trim (s : String) : String := String.ofList (trimChars s.toList)

/-- The non-empty pieces between characters that satisfy `separates`. -/
def pieces (separates : Char → Bool) (cs : List Char) : List (List Char) :=
  (cs.splitOnP separates).filter (!·.isEmpty)

/-- The words of a text: its non-empty pieces between white space. -/
def words (s : String) : List String :=
  (pieces isBlank s.toList).map String.ofList

end Blueprint.Text
