set_option autoImplicit false

/-! Cutting a text at every occurrence of a separator, and joining texts around one. -/

namespace TokenGrammar.Text

/-- The pieces of a text between separators. A text without separators is one piece, and so is the
empty text. -/
def pieces (separator : Char) : List Char → List (List Char)
  | [] => [[]]
  | character :: later =>
      match pieces separator later with
      | [] => [[character]]
      | piece :: others =>
          if character = separator then [] :: piece :: others else (character :: piece) :: others

def joined (separator : List Char) : List (List Char) → List Char
  | [] => []
  | [text] => text
  | text :: later => text ++ separator ++ joined separator later

/-! ### Lemmas -/

theorem pieces_ne_nil (separator : Char) (text : List Char) : pieces separator text ≠ [] := by
  cases text with
  | nil => simp [pieces]
  | cons character later =>
      rw [pieces]
      split
      · simp
      · split <;> simp

theorem joined_cons (separator text : List Char) (later : List (List Char)) :
    joined separator (text :: later) = text ++ later.flatMap (fun next => separator ++ next) := by
  induction later generalizing text with
  | nil => simp [joined]
  | cons next others inductionHypothesis =>
      rw [joined, inductionHypothesis, List.flatMap_cons, List.append_assoc, List.append_assoc]
      simp

end TokenGrammar.Text
