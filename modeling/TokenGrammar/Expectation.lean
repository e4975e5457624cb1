import TokenGrammar.Output
import TokenGrammar.Text.Pieces

set_option autoImplicit false

/-! Expectations: checks of token sequences and of values that either pass or explain what they
found instead. -/

namespace TokenGrammar

namespace Expectation

def bracketed (items : List (List Char)) : List Char :=
  '[' :: (Text.joined ", ".toList items ++ [']'])

/-- The explanation of two things that ought to be equal: what is expected of them if there is
something to say, what was found, and what was wanted. -/
def unequal (explanation : Option (List Char)) (found wanted : List Char) : Fault :=
  .unmet (String.ofList ("assertion `left == right` failed".toList ++
    (explanation.map (fun text => ": ".toList ++ text)).getD [] ++
    "\n  left: ".toList ++ found ++ "\n right: ".toList ++ wanted))

def equal {α : Type} [DecidableEq α] (shown : α → List Char) (explanation : Option (List Char))
    (found wanted : α) : Except Fault Unit :=
  if found = wanted then .ok () else .error (unequal explanation (shown found) (shown wanted))

def shownText (text : String) : List Char := Text.quoted text.toList

def shownTexts (texts : List String) : List Char := bracketed (texts.map shownText)

def shownKinds (kinds : List TokenKind) : List Char :=
  bracketed (kinds.map (fun kind => kind.title.toList))

def shownBounds (bounds : Nat × Nat) : List Char :=
  '(' :: (Text.decimalDigits bounds.1 ++ ", ".toList ++ Text.decimalDigits bounds.2 ++ [')'])

end Expectation

end TokenGrammar
