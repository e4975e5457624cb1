import Mathlib.Data.List.Forall2
import Mathlib.Data.Set.Subsingleton
import TokenGrammar.Proofs.CharacterClasses
import TokenGrammar.Proofs.SpanTiling

set_option autoImplicit false

/-! The lexical grammar as a rule for each kind of lexeme. A rule looks at the characters of the
lexeme and at the one character behind it, and at nothing else. The main statement is that
cutting from left to right finds the only way to cut a source into lexemes that all obey their
rules, and fails exactly where there is none. -/

namespace TokenGrammar

inductive StringUnit where
  | plain (character : Char)
  | escaped (character : Char)

namespace StringUnit

def raw : StringUnit → List Char
  | plain character => [character]
  | escaped character => ['\\', character]

def decoded : StringUnit → List Char
  | plain character => [character]
  | escaped 'n' => ['\n']
  | escaped 't' => ['\t']
  | escaped 'r' => []
  | escaped character => [character]

/-- Any character may be escaped; the quote and the backslash must be. -/
def Fits (quote : Char) : StringUnit → Prop
  | plain character => character ≠ quote ∧ character ≠ '\\'
  | escaped _ => True

end StringUnit

namespace Lexeme

/-- The rule of each kind: which characters make a lexeme, what its text is, and which character
may not follow it. -/
inductive Obeys : Lexeme → Option Char → Prop
  | space {run : List Char} {next : Option Char} (nonempty : run ≠ [])
      (blanks : ∀ character ∈ run, isBlank character = true)
      (ends : ∀ following ∈ next, isBlank following = false) :
      Obeys { kind := .space, raw := run, text := run } next
  | whole {digits : List Char} {next : Option Char} (nonempty : digits ≠ [])
      (decimal : ∀ character ∈ digits, Text.isDecimalDigit character = true)
      (ends : ∀ following ∈ next, Text.isDecimalDigit following = false ∧ following ≠ '.') :
      Obeys { kind := .number, raw := digits, text := digits } next
  | fractional {digits fraction : List Char} {next : Option Char} (nonempty : digits ≠ [])
      (decimal : ∀ character ∈ digits, Text.isDecimalDigit character = true)
      (fractional : ∀ character ∈ fraction, Text.isDecimalDigit character = true)
      (ends : ∀ following ∈ next, Text.isDecimalDigit following = false) :
      Obeys { kind := .number, raw := digits ++ '.' :: fraction, text := digits ++ '.' :: fraction }
        next
  | identifier {letter : Char} {rest : List Char} {next : Option Char}
      (opens : Text.isLetter letter = true)
      (continues : ∀ character ∈ rest, Text.isLetter character = true ∨
        Text.isNumeric character = true ∨ character = '_')
      (ends : ∀ following ∈ next, Text.isLetter following = false ∧
        Text.isNumeric following = false ∧ following ≠ '_') :
      Obeys { kind := .identifier, raw := letter :: rest, text := letter :: rest } next
  | string {quote : Char} {units : List StringUnit} {next : Option Char}
      (quoted : isQuote quote = true) (fit : ∀ unit ∈ units, unit.Fits quote) :
      Obeys
        { kind := .string
          raw := quote :: units.flatMap StringUnit.raw ++ [quote]
          text := units.flatMap StringUnit.decoded } next
  | pair {first second : Char} {next : Option Char} (paired : (first, second) ∈ operatorPairs) :
      Obeys { kind := .operator, raw := [first, second], text := [first, second] } next
  | single {character : Char} {next : Option Char}
      (opens : isBlank character = false ∧ Text.isDecimalDigit character = false ∧
        Text.isLetter character = false ∧ isQuote character = false)
      (ends : ∀ following ∈ next, (character, following) ∉ operatorPairs) :
      Obeys { kind := .operator, raw := [character], text := [character] } next

/-- A way to cut a source: the lexemes make it up, and each of them obeys its rule with respect
to the character that follows it in the source. -/
structure Decomposition (source : List Char) (lexemes : List Lexeme) : Prop where
  joined : lexemes.flatMap Lexeme.raw = source
  obeyed : ∀ before lexeme after, lexemes = before ++ lexeme :: after →
    lexeme.Obeys (after.flatMap Lexeme.raw).head?

/-! ### Runs of one class -/

theorem takeWhile_run {holds : Char → Bool} (run rest : List Char)
    (inside : ∀ character ∈ run, holds character = true)
    (ends : ∀ following ∈ rest.head?, holds following = false) :
    (run ++ rest).takeWhile holds = run ∧ (run ++ rest).dropWhile holds = rest := by
  rw [List.takeWhile_append_of_pos inside, List.dropWhile_append_of_pos inside]
  cases rest with
  | nil => exact ⟨List.append_nil run, rfl⟩
  | cons following later =>
      have stopped := ends following rfl
      simp [stopped]

private theorem holds_of_mem_takeWhile {holds : Char → Bool} (text : List Char) (character : Char)
    (member : character ∈ text.takeWhile holds) : holds character = true :=
  List.all_eq_true.mp (List.all_takeWhile) character member

private theorem fails_of_mem_head?_dropWhile {holds : Char → Bool} (text : List Char)
    (following : Char)
    (first : following ∈ (text.dropWhile holds).head?) : holds following = false := by
  have stopped := List.head?_dropWhile_not holds text
  rw [Option.mem_def.mp first] at stopped
  exact stopped

/-! ### Strings -/

private theorem decoded_escaped (character : Char) :
    (StringUnit.escaped character).decoded = unescaped character := by
  unfold unescaped
  split
  · rename_i isN
    rw [isN]
    rfl
  · split
    · rename_i isT
      rw [isT]
      rfl
    · split
      · rename_i isR
        rw [isR]
        rfl
      · rename_i notN notT notR
        unfold StringUnit.decoded
        split <;> simp_all

theorem closeString_of_units (quote : Char) (notBackslash : quote ≠ '\\')
    (units : List StringUnit) (fit : ∀ unit ∈ units, unit.Fits quote) (after : List Char) :
    closeString quote (units.flatMap StringUnit.raw ++ quote :: after) =
      some
        { raw := units.flatMap StringUnit.raw ++ [quote]
          content := units.flatMap StringUnit.decoded
          after } := by
  induction units with
  | nil =>
      rw [List.flatMap_nil, List.nil_append, closeString.eq_def]
      simp only [if_neg notBackslash, if_true]
      rfl
  | cons unit later inductionHypothesis =>
      have closed := inductionHypothesis
        (fun other member => fit other (List.mem_cons_of_mem unit member))
      have fits := fit unit List.mem_cons_self
      cases unit with
      | plain character =>
          obtain ⟨notQuote, plain⟩ : character ≠ quote ∧ character ≠ '\\' := fits
          rw [List.flatMap_cons, List.append_assoc, StringUnit.raw, List.singleton_append,
            closeString.eq_def]
          simp only [if_neg plain, if_neg notQuote, closed, Option.map_some]
          rfl
      | escaped character =>
          simp [closeString, StringUnit.raw, decoded_escaped, closed]

theorem exists_units_of_closeString (quote : Char) (source : List Char) (tail : StringTail)
    (closed : closeString quote source = some tail) :
    ∃ units : List StringUnit, (∀ unit ∈ units, unit.Fits quote) ∧
      tail.raw = units.flatMap StringUnit.raw ++ [quote] ∧
      tail.content = units.flatMap StringUnit.decoded := by
  fun_induction closeString quote source generalizing tail with
  | case1 => cases closed
  | case2 => cases closed
  | case3 escaped later inductionHypothesis =>
      obtain ⟨inner, innerClosed, rfl⟩ := Option.map_eq_some_iff.mp closed
      obtain ⟨units, fit, written, decoded⟩ := inductionHypothesis inner innerClosed
      refine ⟨.escaped escaped :: units, ?_, ?_, ?_⟩
      · intro unit member
        rcases List.mem_cons.mp member with rfl | inLater
        · trivial
        · exact fit unit inLater
      · simp [written, StringUnit.raw]
      · simp [decoded, decoded_escaped]
  | case4 rest notBackslash =>
      cases closed
      exact ⟨[], by simp, rfl, rfl⟩
  | case5 character rest notBackslash notQuote inductionHypothesis =>
      obtain ⟨inner, innerClosed, rfl⟩ := Option.map_eq_some_iff.mp closed
      obtain ⟨units, fit, written, decoded⟩ := inductionHypothesis inner innerClosed
      refine ⟨.plain character :: units, ?_, ?_, ?_⟩
      · intro unit member
        rcases List.mem_cons.mp member with rfl | inLater
        · exact ⟨notQuote, notBackslash⟩
        · exact fit unit inLater
      · simp [written, StringUnit.raw]
      · simp [decoded, StringUnit.decoded]

/-! ### One lexeme -/

theorem continuesIdentifier_iff (character : Char) :
    continuesIdentifier character = true ↔ Text.isLetter character = true ∨
      Text.isNumeric character = true ∨ character = '_' := by
  simp [continuesIdentifier, or_assoc]

private theorem not_continuesIdentifier_iff (character : Char) :
    continuesIdentifier character = false ↔ Text.isLetter character = false ∧
      Text.isNumeric character = false ∧ character ≠ '_' := by
  simp [continuesIdentifier, and_assoc]

private theorem number_of_whole (digits rest : List Char)
    (decimal : ∀ character ∈ digits, Text.isDecimalDigit character = true)
    (ends : ∀ following ∈ rest.head?,
      Text.isDecimalDigit following = false ∧ following ≠ '.') :
    number (digits ++ rest) = (verbatim .number digits, rest) := by
  have run := takeWhile_run digits rest decimal (fun following first => (ends following first).1)
  unfold number
  rw [run.1, run.2]
  split
  · exact absurd rfl (ends '.' rfl).2
  · rfl

private theorem number_of_fractional (digits fraction rest : List Char)
    (decimal : ∀ character ∈ digits, Text.isDecimalDigit character = true)
    (fractional : ∀ character ∈ fraction, Text.isDecimalDigit character = true)
    (ends : ∀ following ∈ rest.head?, Text.isDecimalDigit following = false) :
    number (digits ++ '.' :: (fraction ++ rest)) =
      (verbatim .number (digits ++ '.' :: fraction), rest) := by
  have run := takeWhile_run digits ('.' :: (fraction ++ rest)) decimal (by
    intro following first
    cases first
    decide)
  have fractionRun := takeWhile_run fraction rest fractional ends
  unfold number
  rw [run.1, run.2]
  simp only [fractionRun.1, fractionRun.2]

theorem first?_of_operator (character : Char) (rest : List Char)
    (opens : opensOperator character = true) :
    first? (character :: rest) = some (operator character rest) := by
  obtain ⟨notBlank, notDigit, notLetter, notQuote⟩ := (opensOperator_iff character).mp opens
  rw [first?, if_neg (Bool.eq_false_iff.mp notBlank), if_neg (Bool.eq_false_iff.mp notDigit),
    if_neg (Bool.eq_false_iff.mp notLetter), if_neg (Bool.eq_false_iff.mp notQuote)]

/-- A lexeme that obeys its rule is what reading finds, whatever comes behind the next
character. -/
theorem first?_of_obeys (lexeme : Lexeme) (rest : List Char) (obeys : lexeme.Obeys rest.head?) :
    first? (lexeme.raw ++ rest) = some (lexeme, rest) := by
  -- the class of the first character picks the branch, the next character ends the run
  cases obeys with
  | @space run _ nonempty blanks ends =>
      obtain ⟨blank, later, rfl⟩ := List.exists_cons_of_ne_nil nonempty
      have opens := blanks blank List.mem_cons_self
      have inLater := takeWhile_run later rest
        (fun character member => blanks character (List.mem_cons_of_mem blank member)) ends
      rw [List.cons_append, first?, if_pos opens, inLater.1, inLater.2]
      rfl
  | @whole digits _ nonempty decimal ends =>
      obtain ⟨digit, later, rfl⟩ := List.exists_cons_of_ne_nil nonempty
      have opens := decimal digit List.mem_cons_self
      have notBlank := Bool.eq_false_iff.mp (not_blank_of_digit digit opens)
      have read := number_of_whole (digit :: later) rest decimal ends
      rw [List.cons_append] at read ⊢
      rw [first?, if_neg notBlank, if_pos opens, read]
      rfl
  | @fractional digits fraction _ nonempty decimal fractional ends =>
      obtain ⟨digit, later, rfl⟩ := List.exists_cons_of_ne_nil nonempty
      have opens := decimal digit List.mem_cons_self
      have notBlank := Bool.eq_false_iff.mp (not_blank_of_digit digit opens)
      have read := number_of_fractional (digit :: later) fraction rest decimal fractional ends
      rw [List.cons_append] at read
      rw [List.append_assoc, List.cons_append, List.cons_append, first?, if_neg notBlank,
        if_pos opens, read]
      rfl
  | @identifier letter later _ opens continues ends =>
      have notBlank := Bool.eq_false_iff.mp (not_blank_of_letter letter opens)
      have notDigit := Bool.eq_false_iff.mp (not_digit_of_letter letter opens)
      have inLater := takeWhile_run later rest
        (fun other member => (continuesIdentifier_iff other).mpr (continues other member))
        (fun following first => (not_continuesIdentifier_iff following).mpr (ends following first))
      rw [List.cons_append, first?, if_neg notBlank, if_neg notDigit, if_pos opens, inLater.1,
        inLater.2]
      rfl
  | @string quote units _ quoted fit =>
      obtain ⟨notBlank, notDigit, notLetter, notBackslash⟩ := classes_of_quote quote quoted
      have closed := closeString_of_units quote notBackslash units fit rest
      rw [List.append_assoc, List.cons_append, List.singleton_append, first?,
        if_neg (Bool.eq_false_iff.mp notBlank), if_neg (Bool.eq_false_iff.mp notDigit),
        if_neg (Bool.eq_false_iff.mp notLetter), if_pos quoted, closed]
      rfl
  | @pair first second _ paired =>
      have isPair : isOperatorPair first second = true := List.contains_iff_mem.mpr paired
      rw [List.cons_append, List.singleton_append,
        first?_of_operator first _ (opensOperator_of_pair first second isPair), operator,
        if_pos isPair]
      rfl
  | @single character _ opens ends =>
      rw [List.singleton_append,
        first?_of_operator character rest ((opensOperator_iff character).mpr opens)]
      cases rest with
      | nil => rfl
      | cons following later =>
          have notPair : ¬ isOperatorPair character following = true := fun isPair =>
            ends following rfl (List.contains_iff_mem.mp isPair)
          rw [operator, if_neg notPair]
          rfl

private theorem obeys_of_number (source : List Char)
    (nonempty : source.takeWhile Text.isDecimalDigit ≠ []) :
    (number source).1.Obeys (number source).2.head? := by
  have decimal : ∀ character ∈ source.takeWhile Text.isDecimalDigit,
      Text.isDecimalDigit character = true := holds_of_mem_takeWhile source
  unfold number
  split
  · rename_i fraction pointed
    exact Obeys.fractional nonempty decimal (holds_of_mem_takeWhile fraction)
      (fails_of_mem_head?_dropWhile fraction)
  · rename_i rest notPointed
    refine Obeys.whole nonempty decimal ?_
    intro following first
    refine ⟨fails_of_mem_head?_dropWhile source following first, ?_⟩
    intro isPoint
    subst isPoint
    obtain ⟨later, split⟩ := List.head?_eq_some_iff.mp first
    exact notPointed later split

private theorem obeys_of_operator (character : Char) (rest : List Char)
    (opens : opensOperator character = true) :
    (operator character rest).1.Obeys (operator character rest).2.head? := by
  have classes := (opensOperator_iff character).mp opens
  cases rest with
  | nil => exact Obeys.single classes (fun following nothing => by cases nothing)
  | cons second later =>
      rw [operator]
      split
      · rename_i isPair
        exact Obeys.pair (List.contains_iff_mem.mp isPair)
      · rename_i notPair
        refine Obeys.single classes ?_
        intro following first paired
        cases first
        exact notPair (List.contains_iff_mem.mpr paired)

theorem obeys_of_first? (source : List Char) (lexeme : Lexeme) (rest : List Char)
    (read : first? source = some (lexeme, rest)) : lexeme.Obeys rest.head? := by
  cases source with
  | nil => cases read
  | cons character later =>
      rw [first?] at read
      split at read
      · rename_i blank
        cases read
        refine Obeys.space (List.cons_ne_nil _ _) ?_ (fails_of_mem_head?_dropWhile later)
        intro other member
        rcases List.mem_cons.mp member with rfl | inLater
        · exact blank
        · exact holds_of_mem_takeWhile later other inLater
      · rename_i notBlank
        split at read
        · rename_i digit
          have obeys := obeys_of_number (character :: later) (by simp [digit])
          rw [Option.some.inj read] at obeys
          exact obeys
        · rename_i notDigit
          split at read
          · rename_i letter
            cases read
            refine Obeys.identifier letter ?_ ?_
            · intro other member
              exact (continuesIdentifier_iff other).mp (holds_of_mem_takeWhile later other member)
            · intro following first
              exact (not_continuesIdentifier_iff following).mp
                (fails_of_mem_head?_dropWhile later following first)
          · rename_i notLetter
            split at read
            · rename_i quoted
              obtain ⟨tail, closed, same⟩ := Option.map_eq_some_iff.mp read
              obtain ⟨units, fit, written, decoded⟩ :=
                exists_units_of_closeString character later tail closed
              cases same
              rw [written, decoded]
              exact Obeys.string quoted fit
            · rename_i notQuote
              have opens : opensOperator character = true := (opensOperator_iff character).mpr
                ⟨Bool.eq_false_iff.mpr notBlank, Bool.eq_false_iff.mpr notDigit,
                  Bool.eq_false_iff.mpr notLetter, Bool.eq_false_iff.mpr notQuote⟩
              have obeys := obeys_of_operator character later opens
              rw [Option.some.inj read] at obeys
              exact obeys

theorem first?_eq_some_iff (source : List Char) (lexeme : Lexeme) (rest : List Char) :
    first? source = some (lexeme, rest) ↔
      lexeme.raw ++ rest = source ∧ lexeme.Obeys rest.head? := by
  constructor
  · intro read
    exact ⟨raw_append_of_first? source lexeme rest read, obeys_of_first? source lexeme rest read⟩
  · intro formed
    rcases formed with ⟨rfl, obeys⟩
    exact first?_of_obeys lexeme rest obeys

/-! ### All lexemes -/

private theorem decomposition_nil_iff (source : List Char) :
    Decomposition source [] ↔ source = [] := by
  constructor
  · intro decomposition
    exact decomposition.joined.symm
  · intro empty
    subst empty
    exact ⟨rfl, fun before lexeme after split => by simp at split⟩

private theorem decomposition_cons_iff (source : List Char) (lexeme : Lexeme)
    (later : List Lexeme) :
    Decomposition source (lexeme :: later) ↔
      ∃ rest, first? source = some (lexeme, rest) ∧ Decomposition rest later := by
  constructor
  · intro decomposition
    rcases decomposition with ⟨rfl, obeyed⟩
    refine ⟨later.flatMap Lexeme.raw, ?_, rfl, ?_⟩
    · exact first?_of_obeys lexeme _ (obeyed [] lexeme later rfl)
    · intro before other after split
      exact obeyed (lexeme :: before) other after (by rw [split]; rfl)
  · intro continued
    rcases continued with ⟨rest, read, rfl, obeyed⟩
    obtain ⟨rfl, obeys⟩ := (first?_eq_some_iff source lexeme _).mp read
    refine ⟨rfl, ?_⟩
    intro before other after split
    cases before with
    | nil =>
        cases split
        exact obeys
    | cons first others =>
        obtain ⟨_, laterSplit⟩ := List.cons.inj split
        exact obeyed others other after laterSplit

/-- Cutting a source to its end finds the lexemes of every way to cut it by the rules. -/
theorem cut_eq_iff (source : List Char) (lexemes : List Lexeme) :
    cut source = { lexemes, unread := [] } ↔ Decomposition source lexemes := by
  -- over the lexemes and not over the cut, so that both sides lose one lexeme at a time
  induction lexemes generalizing source with
  | nil =>
      rw [decomposition_nil_iff, cut]
      split
      · simp
      · rename_i lexeme rest read
        constructor
        · intro impossible
          cases impossible
        · intro empty
          subst empty
          cases read
  | cons lexeme later inductionHypothesis =>
      rw [decomposition_cons_iff, cut]
      split
      · rename_i nothing
        rw [nothing]
        constructor
        · intro impossible
          cases impossible
        · intro continued
          rcases continued with ⟨_, impossible, _⟩
          cases impossible
      · rename_i first rest read
        rw [read]
        constructor
        · intro same
          obtain ⟨heads, allRead⟩ := Cut.mk.inj same
          obtain ⟨rfl, tails⟩ := List.cons.inj heads
          have cutRest : cut rest = { lexemes := later, unread := [] } := by
            rw [← tails, ← allRead]
          exact ⟨rest, rfl, (inductionHypothesis rest).mp cutRest⟩
        · intro continued
          rcases continued with ⟨_, same, decomposition⟩
          cases same
          rw [(inductionHypothesis rest).mpr decomposition]

theorem decomposition_subsingleton (source : List Char) :
    {lexemes | Decomposition source lexemes}.Subsingleton := by
  intro left isLeft right isRight
  have same := ((cut_eq_iff source left).mpr isLeft).symm.trans
    ((cut_eq_iff source right).mpr isRight)
  exact (Cut.mk.inj same).1

end Lexeme

/-- Tokenizing succeeds exactly if the source can be cut by the rules, and then it places the
lexemes of that cut. -/
theorem tokenize_eq_ok_iff (settings : TokenizerSettings) (source : List Char)
    (tokens : List Token) :
    tokenize settings source = .ok tokens ↔
      ∃ lexemes, Lexeme.Decomposition source lexemes ∧
        placeAll settings.fileId 0 lexemes = tokens := by
  rw [tokenize_eq_ok_iff_cut]
  constructor
  · intro cutAll
    rcases cutAll with ⟨allRead, placed⟩
    refine ⟨(Lexeme.cut source).lexemes, (Lexeme.cut_eq_iff source _).mp ?_, placed⟩
    rw [← allRead]
  · intro decomposed
    rcases decomposed with ⟨lexemes, decomposition, placed⟩
    rw [(Lexeme.cut_eq_iff source lexemes).mpr decomposition]
    exact ⟨rfl, placed⟩

theorem standsFor_rightUnique (source : List Char) :
    Relator.RightUnique (Token.StandsFor source) := by
  intro token left right isLeft isRight
  have kinds := isLeft.kind.symm.trans isRight.kind
  have texts := isLeft.text.symm.trans isRight.text
  have raws := Except.ok.inj (isLeft.slice.symm.trans isRight.slice)
  cases left
  cases right
  exact (Lexeme.mk.injEq ..).mpr ⟨kinds, raws, texts⟩

/-- Tokenizing succeeds with certain lexemes exactly if these make up the source and each of them
obeys the rule of its kind, and no source has two such decompositions. The rules also say what the
text of each token is. -/
theorem tokenize_finds_the_decomposition (settings : TokenizerSettings) (source : List Char) :
    (∀ lexemes : List Lexeme,
      (∃ tokens, tokenize settings source = .ok tokens ∧
          List.Forall₂ (Token.StandsFor source) tokens lexemes) ↔
        Lexeme.Decomposition source lexemes) ∧
      {lexemes | Lexeme.Decomposition source lexemes}.Subsingleton := by
  refine ⟨?_, Lexeme.decomposition_subsingleton source⟩
  intro lexemes
  constructor
  · intro found
    rcases found with ⟨tokens, succeeded, stand⟩
    obtain ⟨found, decomposition, rfl⟩ := (tokenize_eq_ok_iff settings source tokens).mp succeeded
    have placed := standsFor_placeAll settings.fileId [] found
    rw [List.nil_append, decomposition.joined] at placed
    rw [List.right_unique_forall₂' (standsFor_rightUnique source) stand placed]
    exact decomposition
  · intro decomposition
    refine ⟨placeAll settings.fileId 0 lexemes, ?_, ?_⟩
    · exact (tokenize_eq_ok_iff settings source _).mpr ⟨lexemes, decomposition, rfl⟩
    · have placed := standsFor_placeAll settings.fileId [] lexemes
      rwa [List.nil_append, decomposition.joined] at placed

end TokenGrammar
