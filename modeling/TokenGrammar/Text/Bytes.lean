set_option autoImplicit false

/-! Byte offsets. Texts are lists of characters; positions reported to the outside count bytes of
their UTF-8 encoding. Cutting a text at a byte offset succeeds exactly when the offset falls between
two characters or at an end. -/

namespace TokenGrammar.Text

def byteLength : List Char → Nat
  | [] => 0
  | character :: rest => character.utf8Size + byteLength rest

/-- The parts before and after a byte offset, or nothing if the offset lies inside a character or
past the end. -/
def splitAtByte? : Nat → List Char → Option (List Char × List Char)
  | 0, text => some ([], text)
  | _ + 1, [] => none
  | offset + 1, character :: rest =>
      if character.utf8Size ≤ offset + 1 then
        (splitAtByte? (offset + 1 - character.utf8Size) rest).map
          (fun (before, after) => (character :: before, after))
      else none

/-- The characters between two byte offsets, or nothing if one of them is no character boundary of
the text or if they are in the wrong order. -/
def slice? (start stop : Nat) (text : List Char) : Option (List Char) :=
  if start ≤ stop then do
    let (_, after) ← splitAtByte? start text
    let (middle, _) ← splitAtByte? (stop - start) after
    return middle
  else none

def offsets : Nat → List Char → List Nat
  | _, [] => []
  | offset, character :: rest => offset :: offsets (offset + character.utf8Size) rest

/-! ### Lemmas -/

@[simp]
theorem byteLength_nil : byteLength [] = 0 := rfl

@[simp]
theorem byteLength_cons (character : Char) (rest : List Char) :
    byteLength (character :: rest) = character.utf8Size + byteLength rest := rfl

@[simp]
theorem byteLength_append (left right : List Char) :
    byteLength (left ++ right) = byteLength left + byteLength right := by
  induction left with
  | nil => simp
  | cons character rest inductionHypothesis => simp [inductionHypothesis, Nat.add_assoc]

end TokenGrammar.Text
