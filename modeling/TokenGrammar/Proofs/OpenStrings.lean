import Mathlib.Data.List.DropRight
import TokenGrammar.Proofs.Junctions
import TokenGrammar.Proofs.Snippets

set_option autoImplicit false

/-! When tokenizing fails. A text falls into lexemes up to a quote that nothing closes, and only
such a quote stops it. What lies in front of the quote can be tokenized by itself, because a quote
extends no lexeme; so there is one such quote at most, and the failure names it. -/

namespace TokenGrammar

namespace Lexeme

/-! ### Strings that are not closed -/

/-- The text closes a string: up to the quote it consists of whole units, so the quote is not
escaped and no earlier quote closes the string. -/
def Closes (quote : Char) (text : List Char) : Prop :=
  ∃ (units : List StringUnit) (after : List Char), (∀ unit ∈ units, unit.Fits quote) ∧
    text = units.flatMap StringUnit.raw ++ quote :: after

theorem closeString_isSome_iff (quote : Char) (notBackslash : quote ≠ '\\') (text : List Char) :
    (closeString quote text).isSome = true ↔ Closes quote text := by
  constructor
  · intro closed
    obtain ⟨tail, read⟩ := Option.isSome_iff_exists.mp closed
    obtain ⟨units, fit, written, _⟩ := exists_units_of_closeString quote text tail read
    have joined := raw_append_after_of_closeString quote text tail read
    refine ⟨units, tail.after, fit, ?_⟩
    rw [← joined, written, List.append_assoc, List.singleton_append]
  · intro closes
    rcases closes with ⟨units, after, fit, rfl⟩
    rw [closeString_of_units quote notBackslash units fit after]
    rfl

theorem first?_eq_none_iff (text : List Char) :
    first? text = none ↔ text = [] ∨ ∃ quote after, text = quote :: after ∧
      isQuote quote = true ∧ ¬ Closes quote after := by
  cases text with
  | nil => simp [first?]
  | cons character rest =>
      by_cases quoted : isQuote character = true
      · obtain ⟨notBlank, notDigit, notLetter, notBackslash⟩ := classes_of_quote character quoted
        have closes := closeString_isSome_iff character notBackslash rest
        rw [first?, if_neg (Bool.eq_false_iff.mp notBlank), if_neg (Bool.eq_false_iff.mp notDigit),
          if_neg (Bool.eq_false_iff.mp notLetter), if_pos quoted, Option.map_eq_none_iff,
          ← Option.not_isSome_iff_eq_none, closes]
        simp [quoted]
      · rw [first?]
        -- every other class of characters reads something
        constructor
        · intro nothing
          split at nothing
          · cases nothing
          · split at nothing
            · cases nothing
            · split at nothing
              · cases nothing
              · cases nothing
        · intro open_
          rcases open_ with impossible | ⟨quote, after, same, isQuote, _⟩
          · cases impossible
          · cases same
            exact absurd isQuote quoted

/-! ### Lexemes in front of other text -/

private theorem cut_of_first? (source : List Char) (lexeme : Lexeme) (rest : List Char)
    (read : first? source = some (lexeme, rest)) :
    cut source = { cut rest with lexemes := lexeme :: (cut rest).lexemes } := by
  rw [cut]
  split
  · rename_i nothing
    rw [read] at nothing
    cases nothing
  · rename_i other later otherRead
    rw [read] at otherRead
    cases otherRead
    rfl

private theorem cut_of_unreadable (source : List Char) (nothing : first? source = none) :
    cut source = { lexemes := [], unread := source } := by
  rw [cut]
  split
  · rfl
  · rename_i lexeme rest read
    rw [nothing] at read
    cases read

/-- Lexemes that obey their rules are cut off one by one, whatever becomes of the text behind
them. -/
theorem cut_append (lexemes : List Lexeme) (rest : List Char)
    (obeyed : ObeyedBefore rest lexemes) :
    cut (lexemes.flatMap Lexeme.raw ++ rest) =
      { cut rest with lexemes := lexemes ++ (cut rest).lexemes } := by
  induction lexemes with
  | nil => rfl
  | cons lexeme later inductionHypothesis =>
      obtain ⟨obeys, laterObeyed⟩ := (obeyedBefore_cons_iff rest lexeme later).mp obeyed
      have read := first?_of_obeys lexeme (later.flatMap Lexeme.raw ++ rest) obeys
      rw [List.flatMap_cons, List.append_assoc, cut_of_first? _ lexeme _ read,
        inductionHypothesis laterObeyed]
      rfl

private theorem obeyedBefore_unread (source : List Char) :
    ObeyedBefore (cut source).unread (cut source).lexemes := by
  fun_induction cut source with
  | case1 source nothing => exact obeyedBefore_nil source
  | case2 source first rest read later inductionHypothesis =>
      have joined : later.lexemes.flatMap Lexeme.raw ++ later.unread = rest := joined_cut rest
      refine (obeyedBefore_cons_iff _ first later.lexemes).mpr ⟨?_, inductionHypothesis⟩
      rw [joined]
      exact obeys_of_first? source first rest read

private theorem first?_unread (source : List Char) : first? (cut source).unread = none := by
  fun_induction cut source with
  | case1 source nothing => exact nothing
  | case2 source first rest read later inductionHypothesis => exact inductionHypothesis

private theorem not_pair_of_quote (first second : Char) (quoted : isQuote second = true) :
    (first, second) ∉ operatorPairs := by
  have every : operatorPairs.all (fun pair => !isQuote pair.2) = true := by decide
  intro paired
  have unquoted := List.all_eq_true.mp every (first, second) paired
  simp [quoted] at unquoted

private theorem not_extendedBy_quote (token : Token) (quote : Char)
    (quoted : isQuote quote = true) :
    ¬ token.ExtendedBy quote := by
  have notContinuing : Text.isNumeric quote = false ∧ quote ≠ '_' ∧ quote ≠ '.' := by
    simp only [isQuote, Bool.or_eq_true, beq_iff_eq] at quoted
    rcases quoted with rfl | rfl <;> decide
  obtain ⟨notBlank, notDigit, notLetter, _⟩ := classes_of_quote quote quoted
  intro extended
  unfold Token.ExtendedBy at extended
  split at extended
  · simp [notBlank] at extended
  · simp [notDigit, notContinuing] at extended
  · simp [notLetter, notContinuing] at extended
  · exact extended
  · obtain ⟨character, _, paired⟩ := extended
    exact not_pair_of_quote character quote quoted paired

theorem Decomposition.obeyedBefore_quote {source : List Char} {lexemes : List Lexeme}
    (decomposition : Decomposition source lexemes) (quote : Char) (after : List Char)
    (quoted : isQuote quote = true) : ObeyedBefore (quote :: after) lexemes := by
  obtain ⟨_, alone⟩ := (decomposition_iff_obeyedBefore source lexemes).mp decomposition
  rw [obeyedBefore_iff_last lexemes alone]
  intro last isLast
  have obeys := (obeyedBefore_iff_last lexemes alone []).mp alone last isLast
  exact obeys.before (not_extendedBy_quote (last.place "" 0) quote quoted)

end Lexeme

/-! ### Failures -/

/-- A string is left open at a byte offset: what lies in front of the offset can be tokenized, a
quote stands at the offset, and the text behind the quote does not close the string. -/
def StringLeftOpen (settings : TokenizerSettings) (source : List Char) (offset : Nat) : Prop :=
  ∃ before quote after, Text.splitAtByte? offset source = some (before, quote :: after) ∧
    (∃ tokens, tokenize settings before = .ok tokens) ∧
    Lexeme.isQuote quote = true ∧ ¬ Lexeme.Closes quote after

theorem stringLeftOpen_iff (settings : TokenizerSettings) (source : List Char) (offset : Nat) :
    StringLeftOpen settings source offset ↔
      (Lexeme.cut source).unread ≠ [] ∧
        offset = Text.byteLength source - Text.byteLength (Lexeme.cut source).unread := by
  constructor
  · intro opened
    rcases opened with ⟨before, quote, after, split, ⟨tokens, succeeded⟩, quoted, unclosed⟩
    obtain ⟨rfl, rfl⟩ := (Text.splitAtByte?_eq_some_iff offset source before _).mp split
    obtain ⟨lexemes, decomposition, _⟩ := (tokenize_eq_ok_iff settings before tokens).mp succeeded
    have unreadable : Lexeme.first? (quote :: after) = none :=
      (Lexeme.first?_eq_none_iff _).mpr (Or.inr ⟨quote, after, rfl, quoted, unclosed⟩)
    have obeyed := decomposition.obeyedBefore_quote quote after quoted
    have unread : (Lexeme.cut (before ++ quote :: after)).unread = quote :: after := by
      rw [← decomposition.joined, Lexeme.cut_append lexemes _ obeyed,
        Lexeme.cut_of_unreadable _ unreadable]
    rw [unread, Text.byteLength_append, Nat.add_sub_cancel]
    exact ⟨List.cons_ne_nil quote after, rfl⟩
  · intro stopped
    rcases stopped with ⟨someUnread, rfl⟩
    have joined := Lexeme.joined_cut source
    have obeyed := Lexeme.obeyedBefore_unread source
    rcases (Lexeme.first?_eq_none_iff _).mp (Lexeme.first?_unread source) with
      allRead | ⟨quote, after, unread, quoted, unclosed⟩
    · exact absurd allRead someUnread
    · refine ⟨(Lexeme.cut source).lexemes.flatMap Lexeme.raw, quote, after, ?_, ?_, quoted,
        unclosed⟩
      · rw [Text.splitAtByte?_eq_some_iff, ← unread]
        refine ⟨joined, ?_⟩
        have lengths := congrArg Text.byteLength joined
        rw [Text.byteLength_append] at lengths
        omega
      · exact ⟨_, (tokenize_eq_ok_iff settings _ _).mpr
          ⟨_, Lexeme.decomposition_of_obeyedBefore _ _ obeyed, rfl⟩⟩

theorem tokenize_eq_error_iff_cut (settings : TokenizerSettings) (source : List Char)
    (error : TokenizeError) :
    tokenize settings source = .error error ↔
      (Lexeme.cut source).unread ≠ [] ∧
        error = TokenizeError.unclosed settings source
          (Text.byteLength source - Text.byteLength (Lexeme.cut source).unread) := by
  unfold tokenize
  dsimp only
  split
  · rename_i allRead
    simp [allRead]
  · rename_i someUnread
    rw [Except.error.injEq, and_iff_right someUnread, eq_comm]

/-- What the failure of a string that is left open at an offset says: which quote it is, that the
source has ended, the last characters of the source, and the file. Cutting these characters out
of the source is no fault. -/
structure TokenizeError.Reports (settings : TokenizerSettings) (source : List Char)
    (openedAt : Nat) (error : TokenizeError) : Prop where
  detail : error.detail = "unterminated string literal opened at " ++ toString openedAt
  offset : error.offset = (String.ofList source).utf8ByteSize
  snippet : error.snippet.toList = source.rtake (min settings.snippetRadius source.length)
  file : error.file = settings.fileId
  around : TokenizeError.around error.detail source error.offset settings.snippetRadius
    settings.fileId = .ok error

private theorem snippetBetween_end (radius : Nat) (source : List Char) :
    snippetBetween radius source [] = source.rtake (min radius source.length) := by
  unfold snippetBetween lastCharacters List.rtake
  rw [List.take_nil, List.append_nil]
  congr 1
  omega

private theorem reports_iff (settings : TokenizerSettings) (source : List Char) (openedAt : Nat)
    (error : TokenizeError) :
    error.Reports settings source openedAt ↔
      error = TokenizeError.unclosed settings source openedAt := by
  constructor
  · intro reports
    have snippets : error.snippet =
        String.ofList (snippetBetween settings.snippetRadius source []) := by
      rw [snippetBetween_end, ← reports.snippet, String.ofList_toList]
    cases error
    exact (TokenizeError.mk.injEq ..).mpr ⟨reports.detail,
      reports.offset.trans (Text.byteLength_eq_utf8ByteSize source).symm, snippets, reports.file⟩
  · intro same
    subst same
    have context := snippetAround?_of_split source [] (Text.byteLength source)
      settings.snippetRadius (by rw [List.append_nil, Nat.min_self])
    rw [List.append_nil] at context
    refine ⟨rfl, Text.byteLength_eq_utf8ByteSize source, ?_, rfl, ?_⟩
    · rw [← snippetBetween_end]
      exact String.toList_ofList
    · unfold TokenizeError.around TokenizeError.unclosed
      rw [context]

/-- Tokenizing fails exactly if a string is left open at some byte offset. There is one such offset
at most, and the failure is the report about it. -/
theorem tokenize_fails_iff_string_left_open (settings : TokenizerSettings) (source : List Char) :
    ((∃ error, tokenize settings source = .error error) ↔
      ∃ offset, StringLeftOpen settings source offset) ∧
    {offset | StringLeftOpen settings source offset}.Subsingleton ∧
    ∀ error, tokenize settings source = .error error ↔
      ∃ offset, StringLeftOpen settings source offset ∧ error.Reports settings source offset := by
  simp only [tokenize_eq_error_iff_cut, stringLeftOpen_iff, reports_iff]
  refine ⟨?_, ?_, ?_⟩
  · constructor
    · rintro ⟨error, someUnread, _⟩
      exact ⟨_, someUnread, rfl⟩
    · rintro ⟨offset, someUnread, _⟩
      exact ⟨_, someUnread, rfl⟩
  · intro left leftOpen right rightOpen
    exact leftOpen.2.trans rightOpen.2.symm
  · intro error
    constructor
    · rintro ⟨someUnread, reported⟩
      exact ⟨_, ⟨someUnread, rfl⟩, reported⟩
    · rintro ⟨offset, ⟨someUnread, rfl⟩, reported⟩
      exact ⟨someUnread, reported⟩

-- a quote inside another string, an escaped quote and a lone backslash at the end close nothing
example : tokenize { snippetRadius := 3 } "é\"'\" 'a\\'\\".toList =
    .error
      { detail := "unterminated string literal opened at 6"
        offset := 11
        snippet := "\\'\\"
        file := "." } := by
  decide +kernel

end TokenGrammar
