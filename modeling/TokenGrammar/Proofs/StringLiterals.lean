import TokenGrammar.Proofs.OpenStrings

set_option autoImplicit false

/-! String literals. A text is written between quotes with a backslash in front of every quote of
that sort and of every backslash; tokenizing gives the text back, wherever the literal stands. Other
escapes are never needed, and a letter behind an escaped backslash is not escaped by it. -/

namespace TokenGrammar

namespace Lexeme

/-! ### Writing a literal -/

def guarded (quote character : Char) : List Char :=
  if character = '\\' ∨ character = quote then ['\\', character] else [character]

/-- The text as a literal: between quotes, with its quotes and backslashes guarded. -/
def literal (quote : Char) (text : List Char) : List Char :=
  quote :: (text.flatMap (guarded quote) ++ [quote])

def guardedUnit (quote character : Char) : StringUnit :=
  if character = '\\' ∨ character = quote then .escaped character else .plain character

private theorem raw_guardedUnit (quote character : Char) :
    (guardedUnit quote character).raw = guarded quote character := by
  unfold guardedUnit guarded
  split
  · rfl
  · rfl

private theorem fits_guardedUnit (quote character : Char) :
    (guardedUnit quote character).Fits quote := by
  unfold guardedUnit
  split
  · trivial
  · rename_i free
    constructor
    · intro isQuote
      exact free (Or.inr isQuote)
    · intro isBackslash
      exact free (Or.inl isBackslash)

private theorem decoded_guardedUnit (quote : Char) (quoted : isQuote quote = true)
    (character : Char) :
    (guardedUnit quote character).decoded = [character] := by
  unfold guardedUnit
  split
  · rename_i special
    rcases special with isBackslash | same
    · rw [isBackslash]
      rfl
    · rw [same]
      simp only [isQuote, Bool.or_eq_true, beq_iff_eq] at quoted
      rcases quoted with single | double
      · rw [single]
        rfl
      · rw [double]
        rfl
  · rfl

theorem obeys_literal (quote : Char) (quoted : isQuote quote = true) (text : List Char)
    (next : Option Char) :
    Obeys { kind := .string, raw := literal quote text, text } next := by
  have fit : ∀ unit ∈ text.map (guardedUnit quote), unit.Fits quote := by
    intro unit member
    obtain ⟨character, _, rfl⟩ := List.mem_map.mp member
    exact fits_guardedUnit quote character
  have written : quote :: (text.map (guardedUnit quote)).flatMap StringUnit.raw ++ [quote] =
      literal quote text := by
    simp only [List.flatMap_map, raw_guardedUnit, literal, List.cons_append]
  have decoded : (text.map (guardedUnit quote)).flatMap StringUnit.decoded = text := by
    simp only [List.flatMap_map, decoded_guardedUnit quote quoted, List.flatMap_singleton']
  have obeys : Obeys _ next := .string quoted fit
  rwa [written, decoded] at obeys

private theorem ObeyedBefore.before_quote {lexemes : List Lexeme} (alone : ObeyedBefore [] lexemes)
    (quote : Char) (after : List Char) (quoted : isQuote quote = true) :
    ObeyedBefore (quote :: after) lexemes :=
  (decomposition_of_obeyedBefore [] lexemes alone).obeyedBefore_quote quote after quoted

/-- A literal fits between any lexemes: the quote extends no lexeme in front of it, and nothing
extends a string. -/
theorem obeyedBefore_around_literal (quote : Char) (quoted : isQuote quote = true)
    (text : List Char) (before after : List Lexeme) (beforeObeyed : ObeyedBefore [] before)
    (afterObeyed : ObeyedBefore [] after) :
    ObeyedBefore []
      (before ++ { kind := .string, raw := literal quote text, text } :: after) := by
  rw [obeyedBefore_append_iff, obeyedBefore_cons_iff]
  constructor
  · exact beforeObeyed.before_quote quote _ quoted
  · exact ⟨obeys_literal quote quoted text _, afterObeyed⟩

end Lexeme

/-! ### Reading it back -/

/-- Between any two sources that tokenize, the literal of a text gives one string token with exactly
that text. The span of the token covers exactly the literal, the tokens in front of it are those of
the first source, and the tokens behind it those of the second source, moved. -/
theorem tokenize_around_literal (settings : TokenizerSettings) (quote : Char)
    (either : quote = '\'' ∨ quote = '"') (text : String) (before after : List Char)
    (beforeTokens afterTokens : List Token)
    (beforeSucceeded : tokenize settings before = .ok beforeTokens)
    (afterSucceeded : tokenize settings after = .ok afterTokens) :
    let written := Lexeme.literal quote text.toList
    let token : Token :=
      { kind := .string
        text
        span :=
          { start := Text.byteLength before
            stop := Text.byteLength before + Text.byteLength written
            file := settings.fileId } }
    tokenize settings (before ++ written ++ after) =
        .ok (beforeTokens ++
          token :: afterTokens.map (Token.movedBy (Text.byteLength (before ++ written)))) ∧
      token.span.slice (before ++ written ++ after) = .ok written := by
  intro written token
  have quoted : Lexeme.isQuote quote = true := by
    rcases either with rfl | rfl <;> decide
  obtain ⟨front, rfl, frontObeyed, rfl⟩ :=
    exists_lexemes_of_tokenize settings before beforeTokens beforeSucceeded
  obtain ⟨back, rfl, backObeyed, rfl⟩ :=
    exists_lexemes_of_tokenize settings after afterTokens afterSucceeded
  let lexeme : Lexeme := { kind := .string, raw := written, text := text.toList }
  have obeyed : Lexeme.ObeyedBefore [] (front ++ lexeme :: back) :=
    Lexeme.obeyedBefore_around_literal quote quoted text.toList front back frontObeyed backObeyed
  have joined : (front ++ lexeme :: back).flatMap Lexeme.raw =
      front.flatMap Lexeme.raw ++ written ++ back.flatMap Lexeme.raw := by
    rw [List.flatMap_append, List.flatMap_cons, List.append_assoc]
  have placed : lexeme.place settings.fileId (Text.byteLength (front.flatMap Lexeme.raw)) =
      token := by
    simp only [Lexeme.place, lexeme, token, String.ofList_toList]
  constructor
  · rw [← joined, (tokenize_flatMap_raw_iff settings _).mpr obeyed, placeAll_append, placeAll,
      Nat.zero_add, placed, movedBy_placeAll, Nat.zero_add, Text.byteLength_append]
  · rw [List.append_assoc, Span.slice, Text.slice?_append]

/-- A backslash in front of a letter, both quotes and a line feed, between an operator and an empty
string in the same quotes. -/
theorem backslash_letter_and_quotes_kept :
    let sum : Token := ⟨.operator, "+", ⟨0, 1, "."⟩⟩
    let kept : Token := ⟨.string, "\\n'\"é\n", ⟨1, 12, "."⟩⟩
    let empty : Token := ⟨.string, "", ⟨0, 2, "."⟩⟩
    let written := ['\'', '\\', '\\', 'n', '\\', '\'', '"', 'é', '\n', '\'']
    tokenize {} ['+'] = .ok [sum] ∧ tokenize {} ['\'', '\''] = .ok [empty] ∧
      Lexeme.literal '\'' "\\n'\"é\n".toList = written ∧
      tokenize {} (['+'] ++ written ++ ['\'', '\'']) = .ok [sum, kept, empty.movedBy 12] ∧
      kept.span.slice (['+'] ++ written ++ ['\'', '\'']) = .ok written := by
  intro sum kept empty written
  have sumRead : tokenize {} ['+'] = .ok [sum] := by decide +kernel
  have emptyRead : tokenize {} ['\'', '\''] = .ok [empty] := by decide +kernel
  have writing : Lexeme.literal '\'' "\\n'\"é\n".toList = written := by decide +kernel
  have around := tokenize_around_literal {} '\'' (Or.inl rfl) "\\n'\"é\n" ['+'] ['\'', '\''] [sum]
    [empty] sumRead emptyRead
  dsimp only at around
  rw [writing] at around
  exact ⟨sumRead, emptyRead, writing, around⟩

end TokenGrammar
