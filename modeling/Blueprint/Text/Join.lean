/-!
# Putting texts together

Joining with a separator, and the fixed beginnings and endings a text may carry.
-/

namespace Blueprint.Text

/-- The texts in order with `separator` between neighbours. -/
def join (separator : String) : List String → String
  | [] => ""
  | [text] => text
  | text :: rest => text ++ separator ++ join separator rest

/-- The texts in order, nothing between them. -/
def concat : List String → String
  | [] => ""
  | text :: rest => text ++ concat rest

/-- `count` spaces. -/
def spaces (count : Nat) : String := String.ofList (List.replicate count ' ')

/-- What follows `start`, if the characters begin with it. -/
def afterStart : (start cs : List Char) → Option (List Char)
  | [], cs => some cs
  | _ :: _, [] => none
  | s :: start, c :: cs => if s = c then afterStart start cs else none

/-- What precedes `ending`, if the characters end with it. -/
def beforeEnding (ending cs : List Char) : Option (List Char) :=
  (afterStart ending.reverse cs.reverse).map List.reverse

theorem afterStart_eq_some_iff {start cs rest : List Char} :
    afterStart start cs = some rest ↔ cs = start ++ rest := by
  induction start generalizing cs with
  | nil => simp [afterStart, eq_comm]
  | cons s start ih =>
      cases cs with
      | nil => simp [afterStart]
      | cons c cs =>
          by_cases h : s = c
          · simp [afterStart, h, ih]
          · simp [afterStart, h, Ne.symm h]

theorem beforeEnding_eq_some_iff {ending cs rest : List Char} :
    beforeEnding ending cs = some rest ↔ cs = rest ++ ending := by
  simp only [beforeEnding, Option.map_eq_some_iff, afterStart_eq_some_iff]
  constructor
  · rintro ⟨r, h, rfl⟩
    have := congrArg List.reverse h
    simpa using this
  · rintro rfl
    exact ⟨rest.reverse, by simp, by simp⟩

end Blueprint.Text
