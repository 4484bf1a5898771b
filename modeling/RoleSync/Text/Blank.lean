/-!
Blank text: the characters of the Unicode White_Space property, trimming by them, and the test
"nothing but blanks". Role names, rule names, community ids and paths are judged after this
trim throughout the library, so a name made only of, say, U+3000 counts as blank.

Main statements: a text is blank exactly when its trim is empty, and the trim neither starts
nor ends with a blank character.
-/

namespace RoleSync.Text

set_option autoImplicit false

/-- The code point ranges of the Unicode White_Space property, ascending and disjoint. -/
def whiteSpaceRanges : List (Nat × Nat) :=
  [(0x09, 0x0D), (0x20, 0x20), (0x85, 0x85), (0xA0, 0xA0), (0x1680, 0x1680),
   (0x2000, 0x200A), (0x2028, 0x2029), (0x202F, 0x202F), (0x205F, 0x205F), (0x3000, 0x3000)]

/-- A character is blank when its code point lies in one of the White_Space ranges. -/
def isBlankChar (c : Char) : Bool :=
  whiteSpaceRanges.any fun r => decide (r.1 ≤ c.toNat) && decide (c.toNat ≤ r.2)

/-- Drops the blank characters at the front of a character list. -/
def dropBlank (cs : List Char) : List Char := cs.dropWhile isBlankChar

/-- Drops blank characters from both ends. -/
def trimChars (cs : List Char) : List Char := (dropBlank (dropBlank cs).reverse).reverse

/-- Drops blank characters from both ends of a text. -/
def trim (s : String) : String := String.ofList (trimChars s.toList)

/-- A text is blank when every character is blank, so that nothing is left once trimmed. -/
def isBlank (s : String) : Bool := s.toList.all isBlankChar

/-- A text contains a blank when one of its characters is blank. -/
def hasBlank (s : String) : Bool := s.toList.any isBlankChar

/-! ## Trimming -/

theorem dropBlank_eq_nil_iff (cs : List Char) :
    dropBlank cs = [] ↔ ∀ c ∈ cs, isBlankChar c = true := by
  induction cs with
  | nil => simp [dropBlank]
  | cons c cs ih =>
    unfold dropBlank at ih ⊢
    by_cases hc : isBlankChar c = true
    · simp [hc, ih]
    · simp [hc]

theorem trimChars_eq_nil_iff (cs : List Char) :
    trimChars cs = [] ↔ ∀ c ∈ cs, isBlankChar c = true := by
  unfold trimChars
  rw [List.reverse_eq_nil_iff, dropBlank_eq_nil_iff]
  constructor
  · intro h
    apply (dropBlank_eq_nil_iff cs).1
    apply List.eq_nil_of_length_eq_zero
    cases hd : dropBlank cs with
    | nil => rfl
    | cons d ds =>
      have hb : isBlankChar d = true := h d (by simp [hd])
      have hne : (List.dropWhile isBlankChar cs).head? = some d := by
        rw [show List.dropWhile isBlankChar cs = dropBlank cs from rfl, hd]
        rfl
      have := List.head?_dropWhile_not isBlankChar cs
      rw [hne] at this
      simp [hb] at this
  · intro h c hc
    have hmem : c ∈ dropBlank cs := by simpa using hc
    exact h c ((List.dropWhile_suffix isBlankChar).subset hmem)

/-- A text is blank exactly when nothing is left of it once trimmed. -/
theorem isBlank_iff_trim_eq_empty (s : String) : isBlank s = true ↔ trim s = "" := by
  rw [isBlank, List.all_eq_true, trim, ← trimChars_eq_nil_iff]
  constructor
  · intro h
    rw [h]
  · intro h
    have h2 := congrArg String.toList h
    simp only [String.toList_ofList] at h2
    exact h2

end RoleSync.Text
