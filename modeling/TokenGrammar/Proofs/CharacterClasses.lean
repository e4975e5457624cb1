import TokenGrammar.Token.Lexeme

set_option autoImplicit false

/-! Classes of characters: blanks, decimal digits, letters and quotes have no character in
common, so the first character of a lexeme decides its kind. For the two large tables this is
checked in one pass over both of them. -/

namespace TokenGrammar

namespace Text.RangeTable

/-- Whether two tables share no number, found in one pass over both: ranges of the second table
that end below a range of the first one are passed over for good. -/
def apart : RangeTable → RangeTable → Bool
  | [], _ => true
  | (low, high) :: later, others =>
      let ahead := others.dropWhile (fun range => Nat.blt range.2 low)
      (match ahead with
        | [] => true
        | next :: _ => Nat.blt high next.1) && apart later ahead

private theorem contains_dropWhile (table : RangeTable) (low number : Nat) (notBelow : low ≤ number)
    (contained : table.contains number = true) :
    contains (table.dropWhile (fun range => Nat.blt range.2 low)) number = true := by
  induction table with
  | nil => cases contained
  | cons range later inductionHypothesis =>
      rw [List.dropWhile_cons]
      split
      · rename_i passed
        have endsBelow : range.2 < low := Nat.blt_eq.mp passed
        rw [contains] at contained
        split at contained
        · cases contained
        · rw [if_neg (by omega)] at contained
          exact inductionHypothesis contained
      · exact contained

private theorem low_le_of_contains (low high number : Nat) (later : RangeTable)
    (contained : contains ((low, high) :: later) number = true) : low ≤ number := by
  rw [contains] at contained
  split at contained
  · cases contained
  · rename_i notBelow
    exact Nat.le_of_not_lt notBelow

theorem not_contains_of_apart (left right : RangeTable) (separate : apart left right = true)
    (number : Nat) (inLeft : left.contains number = true) : ¬ right.contains number = true := by
  intro inRight
  induction left generalizing right with
  | nil => cases inLeft
  | cons range later inductionHypothesis =>
      obtain ⟨low, high⟩ := range
      have notBelow := low_le_of_contains low high number later inLeft
      have inAhead := contains_dropWhile right low number notBelow inRight
      rw [apart, Bool.and_eq_true] at separate
      rw [contains, if_neg (Nat.not_lt.mpr notBelow)] at inLeft
      split at inLeft
      · rename_i within
        -- the number lies in the first range, so the table ahead starts above it
        cases ahead : right.dropWhile (fun range => Nat.blt range.2 low) with
        | nil =>
            rw [ahead] at inAhead
            cases inAhead
        | cons next others =>
            rw [ahead] at inAhead separate
            have above : high < next.1 := Nat.blt_eq.mp separate.1
            have reached := low_le_of_contains next.1 next.2 number others inAhead
            omega
      · exact inductionHypothesis _ separate.2 inLeft inAhead

end Text.RangeTable

namespace Lexeme

def opensOperator (character : Char) : Bool :=
  !isBlank character && !Text.isDecimalDigit character && !Text.isLetter character &&
    !isQuote character

theorem not_digit_of_letter (character : Char) (letter : Text.isLetter character = true) :
    Text.isDecimalDigit character = false := by
  have separate : Text.letterRanges.apart Text.decimalDigitRanges = true := by decide +kernel
  exact Bool.eq_false_iff.mpr
    (Text.RangeTable.not_contains_of_apart _ _ separate character.toNat letter)

theorem classes_of_blank (character : Char) (blank : isBlank character = true) :
    Text.isDecimalDigit character = false ∧ Text.isLetter character = false ∧
      isQuote character = false := by
  simp only [isBlank, Bool.or_eq_true, beq_iff_eq] at blank
  rcases blank with ((rfl | rfl) | rfl) | rfl <;> decide

theorem classes_of_quote (character : Char) (quote : isQuote character = true) :
    isBlank character = false ∧ Text.isDecimalDigit character = false ∧
      Text.isLetter character = false ∧ character ≠ '\\' := by
  simp only [isQuote, Bool.or_eq_true, beq_iff_eq] at quote
  rcases quote with rfl | rfl <;> decide

theorem not_blank_of_digit (character : Char) (digit : Text.isDecimalDigit character = true) :
    isBlank character = false := by
  cases blank : isBlank character with
  | false => rfl
  | true =>
      rw [(classes_of_blank character blank).1] at digit
      cases digit

theorem not_blank_of_letter (character : Char) (letter : Text.isLetter character = true) :
    isBlank character = false := by
  cases blank : isBlank character with
  | false => rfl
  | true =>
      rw [(classes_of_blank character blank).2.1] at letter
      cases letter

theorem opensOperator_of_pair (first second : Char) (pair : isOperatorPair first second = true) :
    opensOperator first = true := by
  have every : operatorPairs.all (fun pair => opensOperator pair.1) = true := by decide
  exact List.all_eq_true.mp every (first, second) (List.contains_iff_mem.mp pair)

theorem opensOperator_iff (character : Char) :
    opensOperator character = true ↔ isBlank character = false ∧
      Text.isDecimalDigit character = false ∧ Text.isLetter character = false ∧
        isQuote character = false := by
  simp [opensOperator, and_assoc]

end Lexeme

end TokenGrammar
