import TokenGrammar.Text.Letter
import TokenGrammar.Text.Numeric
import TokenGrammar.Token

set_option autoImplicit false

/-! Lexemes: the pieces that a source text falls into. Every character opens exactly one kind of
lexeme, a lexeme takes as many characters as its kind allows, and the only text that opens no lexeme
is a quote whose string is never closed. This file cuts; it knows nothing of offsets and files. -/

namespace TokenGrammar

structure Lexeme where
  kind : TokenKind
  raw : List Char
  text : List Char
  deriving DecidableEq

namespace Lexeme

/-! ### Classes of characters -/

def isBlank (character : Char) : Bool :=
  character == ' ' || character == '\t' || character == '\r' || character == '\n'

def isQuote (character : Char) : Bool :=
  character == '\'' || character == '"'

def continuesIdentifier (character : Char) : Bool :=
  Text.isLetter character || Text.isNumeric character || character == '_'

def operatorPairs : List (Char × Char) :=
  [('+', '+'), ('-', '-'), ('*', '*'), ('-', '>'), ('/', '/'), ('+', '='), ('-', '='), ('/', '='),
   ('*', '='), ('%', '='), ('>', '>'), ('<', '<'), ('&', '&'), ('|', '|')]

def operatorTexts : List String :=
  operatorPairs.map (fun (first, second) => String.ofList [first, second])

def isOperatorPair (first second : Char) : Bool :=
  operatorPairs.contains (first, second)

/-! ### One lexeme -/

/-- What an escaped character stands for: `n` a line feed, `t` a tab, `r` nothing at all, and any
other character itself. -/
def unescaped (escaped : Char) : List Char :=
  if escaped = 'n' then ['\n']
  else if escaped = 't' then ['\t']
  else if escaped = 'r' then []
  else [escaped]

structure StringTail where
  raw : List Char
  content : List Char
  after : List Char

/-- Reads up to the closing quote. A backslash takes the next character with it, whatever that is; a
string that ends before its quote, a lone final backslash included, is not closed. -/
def closeString (quote : Char) : List Char → Option StringTail
  | [] => none
  | character :: rest =>
      if character = '\\' then
        match rest with
        | [] => none
        | escaped :: later =>
            (closeString quote later).map (fun tail =>
              { tail with
                raw := character :: escaped :: tail.raw
                content := unescaped escaped ++ tail.content })
      else if character = quote then some { raw := [character], content := [], after := rest }
      else
        (closeString quote rest).map (fun tail =>
          { tail with raw := character :: tail.raw, content := character :: tail.content })

def verbatim (kind : TokenKind) (raw : List Char) : Lexeme :=
  { kind, raw, text := raw }

def number (source : List Char) : Lexeme × List Char :=
  let whole := source.takeWhile Text.isDecimalDigit
  match source.dropWhile Text.isDecimalDigit with
  | '.' :: fraction =>
      (verbatim .number (whole ++ '.' :: fraction.takeWhile Text.isDecimalDigit),
        fraction.dropWhile Text.isDecimalDigit)
  | rest => (verbatim .number whole, rest)

def operator (character : Char) : List Char → Lexeme × List Char
  | [] => (verbatim .operator [character], [])
  | second :: later =>
      if isOperatorPair character second then (verbatim .operator [character, second], later)
      else (verbatim .operator [character], second :: later)

/-- The lexeme that a text opens with, and the rest of the text. Nothing is left to read in an empty
text, and nothing can be read from a quote whose string is never closed. -/
def first? : List Char → Option (Lexeme × List Char)
  | [] => none
  | character :: rest =>
      if isBlank character then
        some (verbatim .space (character :: rest.takeWhile isBlank), rest.dropWhile isBlank)
      else if Text.isDecimalDigit character then
        some (number (character :: rest))
      else if Text.isLetter character then
        some (verbatim .identifier (character :: rest.takeWhile continuesIdentifier),
          rest.dropWhile continuesIdentifier)
      else if isQuote character then
        (closeString character rest).map (fun tail =>
          ({ kind := .string, raw := character :: tail.raw, text := tail.content }, tail.after))
      else some (operator character rest)

/-! ### A lexeme and the rest make up the text -/

theorem raw_append_after_of_closeString (quote : Char) (source : List Char) (tail : StringTail)
    (closed : closeString quote source = some tail) : tail.raw ++ tail.after = source := by
  fun_induction closeString quote source generalizing tail with
  | case1 => simp at closed
  | case2 => simp at closed
  | case3 escaped later inductionHypothesis =>
      obtain ⟨inner, innerClosed, rfl⟩ := Option.map_eq_some_iff.1 closed
      simpa using inductionHypothesis inner innerClosed
  | case4 rest notBackslash =>
      cases closed
      rfl
  | case5 character rest notBackslash notQuote inductionHypothesis =>
      obtain ⟨inner, innerClosed, rfl⟩ := Option.map_eq_some_iff.1 closed
      simpa using inductionHypothesis inner innerClosed

private theorem raw_append_of_number (source : List Char) :
    (number source).1.raw ++ (number source).2 = source := by
  unfold number
  have whole := List.takeWhile_append_dropWhile (p := Text.isDecimalDigit) (l := source)
  split
  · rename_i fraction opened
    have part := List.takeWhile_append_dropWhile (p := Text.isDecimalDigit) (l := fraction)
    simp only [verbatim, List.append_assoc, List.cons_append, part]
    rw [← opened]
    exact whole
  · exact whole

private theorem raw_append_of_operator (character : Char) (rest : List Char) :
    (operator character rest).1.raw ++ (operator character rest).2 = character :: rest := by
  cases rest with
  | nil => rfl
  | cons second later =>
      rw [operator]
      split <;> rfl

private theorem raw_ne_nil_of_operator (character : Char) (rest : List Char) :
    (operator character rest).1.raw ≠ [] := by
  cases rest with
  | nil => simp [operator, verbatim]
  | cons second later =>
      rw [operator]
      split <;> simp [verbatim]

theorem raw_append_of_first? (source : List Char) (lexeme : Lexeme) (rest : List Char)
    (read : first? source = some (lexeme, rest)) : lexeme.raw ++ rest = source := by
  cases source with
  | nil => simp [first?] at read
  | cons character later =>
      rw [first?] at read
      split at read
      · cases read
        simp [verbatim, List.takeWhile_append_dropWhile]
      · split at read
        · have joined := raw_append_of_number (character :: later)
          rw [Option.some.inj read] at joined
          exact joined
        · split at read
          · cases read
            simp [verbatim, List.takeWhile_append_dropWhile]
          · split at read
            · obtain ⟨tail, closed, same⟩ := Option.map_eq_some_iff.1 read
              cases same
              simp [raw_append_after_of_closeString character later tail closed]
            · have joined := raw_append_of_operator character later
              rw [Option.some.inj read] at joined
              exact joined

theorem raw_ne_nil_of_first? (source : List Char) (lexeme : Lexeme) (rest : List Char)
    (read : first? source = some (lexeme, rest)) : lexeme.raw ≠ [] := by
  cases source with
  | nil => simp [first?] at read
  | cons character later =>
      rw [first?] at read
      split at read
      · cases read
        simp [verbatim]
      · split at read
        · rename_i digit
          have opened := Option.some.inj read
          simp only [number] at opened
          simp only [List.takeWhile_cons, digit, if_true] at opened
          split at opened
          · cases opened
            simp [verbatim]
          · cases opened
            simp [verbatim]
        · split at read
          · cases read
            simp [verbatim]
          · split at read
            · obtain ⟨tail, closed, same⟩ := Option.map_eq_some_iff.1 read
              cases same
              simp
            · have opened := raw_ne_nil_of_operator character later
              rw [Option.some.inj read] at opened
              exact opened

theorem rest_length_lt (source : List Char) (lexeme : Lexeme) (rest : List Char)
    (read : first? source = some (lexeme, rest)) : rest.length < source.length := by
  have joined := raw_append_of_first? source lexeme rest read
  have some_raw := raw_ne_nil_of_first? source lexeme rest read
  have raw_length : 0 < lexeme.raw.length := List.length_pos_iff.2 some_raw
  rw [← joined, List.length_append]
  omega

/-! ### All lexemes -/

/-- A source text cut into lexemes, with what could not be read. -/
structure Cut where
  lexemes : List Lexeme
  unread : List Char
  deriving DecidableEq

def cut (source : List Char) : Cut :=
  match _read : first? source with
  | none => { lexemes := [], unread := source }
  | some (lexeme, rest) =>
      let later := cut rest
      { later with lexemes := lexeme :: later.lexemes }
termination_by source.length
decreasing_by exact rest_length_lt source lexeme rest _read

end Lexeme

end TokenGrammar
