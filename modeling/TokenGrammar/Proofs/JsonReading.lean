import Mathlib.Data.List.TakeWhile
import TokenGrammar.Proofs.JsonGrammar
import TokenGrammar.Proofs.LexicalGrammar

set_option autoImplicit false

/-! Reading JSON texts. The reader looks at one character to know what begins, and at the character
behind a number to know that it ends. The main statement is that it finds the tree that a text
denotes; so no text denotes two trees. -/

namespace TokenGrammar.Json

/-! ### The reader -/

def skipBlanks (text : List Char) : List Char :=
  text.dropWhile Char.isWhitespace

def isNumberCharacter (character : Char) : Bool :=
  character.isDigit || character == '-' || character == '+' || character == '.' ||
    character == 'e' || character == 'E'

def Numeral.ofUnsigned (negative : Bool) (source : List Char) : Numeral :=
  let whole := source.takeWhile Char.isDigit
  match source.dropWhile Char.isDigit with
  | '.' :: later =>
      { negative
        whole
        fraction := '.' :: later.takeWhile Char.isDigit
        exponent := later.dropWhile Char.isDigit }
  | afterWhole => { negative, whole, fraction := [], exponent := afterWhole }

def Numeral.ofText : List Char → Numeral
  | '-' :: source => ofUnsigned true source
  | source => ofUnsigned false source

def readNumber? (text : List Char) : Option (Json × List Char) :=
  let numeral := Numeral.ofText (text.takeWhile isNumberCharacter)
  if numeral.Fits then some (numeral.tree, text.dropWhile isNumberCharacter) else none

def readCode? (text : List Char) : Option (Nat × List Char) :=
  (codeUnit? (text.take 4)).map (fun unit => (unit, text.drop 4))

def readLowHalf? (high : Nat) : List Char → Option (Char × List Char)
  | '\\' :: 'u' :: source => do
      let (unit, rest) ← readCode? source
      if 0xDC00 ≤ unit ∧ unit < 0xE000 then
        some (Char.ofNat (0x10000 + 0x400 * high + (unit - 0xDC00)), rest)
      else none
  | _ => none

def readEscape? : List Char → Option (Char × List Char)
  | [] => none
  | letter :: source =>
      if letter = 'u' then do
        let (unit, rest) ← readCode? source
        if 0xD800 ≤ unit ∧ unit < 0xDC00 then readLowHalf? (unit - 0xD800) rest
        else if unit.isValidChar then some (Char.ofNat unit, rest)
        else none
      else (shortEscapes.lookup letter).map (fun character => (character, source))

def readCharacter? : List Char → Option (Char × List Char)
  | [] => none
  | character :: source =>
      if character = '\\' then readEscape? source
      else if character.toNat < 0x20 then none
      else some (character, source)

def readContent? : Nat → List Char → Option (List Char × List Char)
  | 0, _ => none
  | bound + 1, source =>
      if source.head? = some '"' then some ([], source.tail)
      else do
        let (character, rest) ← readCharacter? source
        let (content, after) ← readContent? bound rest
        return (character :: content, after)

/-- Elements between commas up to a closing character, at most `bound` of them. -/
def readElements? {Element : Type} (close : Char)
    (readElement? : List Char → Option (Element × List Char)) :
    Nat → List Char → Option (List Element × List Char)
  | 0, _ => none
  | bound + 1, source =>
      match readElement? source with
      | some (element, last :: rest) =>
          if last = ',' then do
            let (later, after) ← readElements? close readElement? bound rest
            return (element :: later, after)
          else if last = close then some ([element], rest)
          else none
      | _ => none

def readEnclosed? {Element : Type} (close : Char)
    (readElement? : List Char → Option (Element × List Char)) (text : List Char) :
    Option (List Element × List Char) :=
  match skipBlanks text with
  | [] => none
  | first :: later =>
      if first = close then some ([], later)
      else readElements? close readElement? text.length text

def readField? (readValue? : List Char → Option (Json × List Char)) (text : List Char) :
    Option ((String × Json) × List Char) :=
  match skipBlanks text with
  | '"' :: body => do
      let (name, afterName) ← readContent? body.length body
      match skipBlanks afterName with
      | ':' :: valueText => do
          let (value, rest) ← readValue? valueText
          return ((String.ofList name, value), rest)
      | _ => none
  | _ => none

def readValue? : Nat → List Char → Option (Json × List Char)
  | 0, _ => none
  | bound + 1, source =>
      match skipBlanks source with
      | 'n' :: 'u' :: 'l' :: 'l' :: rest => some (.null, skipBlanks rest)
      | 't' :: 'r' :: 'u' :: 'e' :: rest => some (.boolean true, skipBlanks rest)
      | 'f' :: 'a' :: 'l' :: 's' :: 'e' :: rest => some (.boolean false, skipBlanks rest)
      | '"' :: body => do
          let (content, rest) ← readContent? body.length body
          return (.text (String.ofList content), skipBlanks rest)
      | '[' :: inner => do
          let (items, rest) ← readEnclosed? ']' (readValue? bound) inner
          return (.array items, skipBlanks rest)
      | '\x7b' :: inner => do
          let (fields, rest) ← readEnclosed? '\x7d' (readField? (readValue? bound)) inner
          return (.object fields, skipBlanks rest)
      | other => do
          let (number, rest) ← readNumber? other
          return (number, skipBlanks rest)

def read? (text : List Char) : Option Json :=
  match readValue? text.length text with
  | some (tree, []) => some tree
  | _ => none

/-! ### Blanks -/

private theorem skipBlanks_append (blanks text : List Char) (blank : AreBlank blanks) :
    skipBlanks (blanks ++ text) = skipBlanks text :=
  List.dropWhile_append_of_pos blank

private theorem skipBlanks_cons (character : Char) (text : List Char)
    (visible : character.isWhitespace = false) :
    skipBlanks (character :: text) = character :: text := by
  unfold skipBlanks
  rw [List.dropWhile_cons_of_neg (by simp [visible])]

theorem not_blank_of_numberCharacter (character : Char)
    (inNumber : isNumberCharacter character = true) : character.isWhitespace = false := by
  cases blank : character.isWhitespace with
  | false => rfl
  | true =>
      simp only [Char.isWhitespace, Bool.or_eq_true, decide_eq_true_eq] at blank
      rcases blank with ((rfl | rfl) | rfl) | rfl <;> exact absurd inNumber (by decide)

/-! ### Numbers -/

/-- What follows does not go on with a number. -/
def Delimited (rest : List Char) : Prop :=
  ∀ character ∈ rest.head?, isNumberCharacter character = false

theorem isNumberCharacter_of_digit (character : Char) (digit : character.isDigit = true) :
    isNumberCharacter character = true := by
  simp [isNumberCharacter, digit]

private theorem numberCharacters_of_isFraction {fraction : List Char} (fits : IsFraction fraction) :
    ∀ character ∈ fraction, isNumberCharacter character = true := by
  intro character member
  cases fraction with
  | nil => cases member
  | cons point digits =>
      obtain ⟨rfl, _, decimal⟩ := fits
      rcases List.mem_cons.mp member with rfl | inDigits
      · decide
      · exact isNumberCharacter_of_digit character (decimal character inDigits)

private theorem numberCharacters_of_isExponent {exponent : List Char} (fits : IsExponent exponent) :
    ∀ character ∈ exponent, isNumberCharacter character = true := by
  intro character member
  cases exponent with
  | nil => cases member
  | cons mark power =>
      obtain ⟨marked, digits | signed⟩ := fits
      · rcases List.mem_cons.mp member with rfl | inPower
        · rcases marked with rfl | rfl <;> decide
        · exact isNumberCharacter_of_digit character (digits.2 character inPower)
      · cases power with
        | nil => cases signed
        | cons sign digits =>
            obtain ⟨isSign, _, decimal⟩ := signed
            rcases List.mem_cons.mp member with rfl | inPower
            · rcases marked with rfl | rfl <;> decide
            · rcases List.mem_cons.mp inPower with rfl | inDigits
              · rcases isSign with rfl | rfl <;> decide
              · exact isNumberCharacter_of_digit character (decimal character inDigits)

private theorem numberCharacters_of_fits {numeral : Numeral} (fits : numeral.Fits) :
    ∀ character ∈ numeral.raw, isNumberCharacter character = true := by
  obtain ⟨whole, fraction, exponent⟩ := fits
  intro character member
  simp only [Numeral.raw, List.mem_append] at member
  rcases member with inSign | inWhole | inFraction | inExponent
  · cases negative : numeral.negative <;> simp [negative] at inSign
    rw [inSign]
    decide
  · exact isNumberCharacter_of_digit character (whole.1.2 character inWhole)
  · exact numberCharacters_of_isFraction fraction character inFraction
  · exact numberCharacters_of_isExponent exponent character inExponent

private theorem head?_of_isExponent {exponent : List Char} (fits : IsExponent exponent) :
    ∀ following ∈ exponent.head?, following.isDigit = false ∧ following ≠ '.' := by
  cases exponent with
  | nil => nofun
  | cons mark power =>
      obtain ⟨marked, _⟩ := fits
      rintro _ ⟨⟩
      rcases marked with rfl | rfl <;> decide

private theorem Numeral.ofUnsigned_parts {numeral : Numeral} (fits : numeral.Fits) :
    ofUnsigned numeral.negative (numeral.whole ++ (numeral.fraction ++ numeral.exponent)) =
      numeral := by
  obtain ⟨negative, whole, fraction, exponent⟩ := numeral
  obtain ⟨⟨⟨_, decimal⟩, _⟩, isFraction, isExponent⟩ := fits
  dsimp only at decimal isFraction isExponent ⊢
  have exponentOpens := head?_of_isExponent isExponent
  cases fraction with
  | nil =>
      have run := Lexeme.takeWhile_run whole exponent decimal
        (fun following first => (exponentOpens following first).1)
      rw [List.nil_append, ofUnsigned, run.1, run.2]
      split
      · exact absurd rfl (exponentOpens '.' rfl).2
      · rfl
  | cons point digits =>
      obtain ⟨rfl, _, fractional⟩ := isFraction
      have run := Lexeme.takeWhile_run whole ('.' :: digits ++ exponent) decimal (by
        rintro _ ⟨⟩
        decide)
      have fractionRun := Lexeme.takeWhile_run digits exponent fractional
        (fun following first => (exponentOpens following first).1)
      rw [ofUnsigned, run.1, run.2]
      simp only [List.cons_append, fractionRun.1, fractionRun.2]

theorem Numeral.exists_first {numeral : Numeral} (fits : numeral.Fits) :
    ∃ first more, numeral.whole = first :: more ∧ first.isDigit = true := by
  obtain ⟨⟨⟨nonempty, decimal⟩, _⟩, _⟩ := fits
  obtain ⟨first, more, whole⟩ := List.exists_cons_of_ne_nil nonempty
  exact ⟨first, more, whole, decimal first (by simp [whole])⟩

theorem Numeral.raw_ne_nil {numeral : Numeral} (fits : numeral.Fits) : numeral.raw ≠ [] := by
  obtain ⟨first, more, whole, _⟩ := exists_first fits
  simp [raw, whole]

private theorem Numeral.ofText_raw {numeral : Numeral} (fits : numeral.Fits) :
    ofText numeral.raw = numeral := by
  have parts := ofUnsigned_parts fits
  obtain ⟨first, more, whole, digit⟩ := exists_first fits
  cases negative : numeral.negative with
  | true =>
      rw [negative] at parts
      simpa only [raw, negative, if_true, List.singleton_append, ofText] using parts
  | false =>
      rw [negative] at parts
      simp only [raw, negative, Bool.false_eq_true, if_false, List.nil_append]
      rw [ofText]
      · exact parts
      · rintro source opens
        rw [whole] at opens
        cases opens
        exact absurd digit (by decide)

theorem readNumber?_raw {numeral : Numeral} (fits : numeral.Fits) (rest : List Char)
    (delimited : Delimited rest) :
    readNumber? (numeral.raw ++ rest) = some (numeral.tree, rest) := by
  have run := Lexeme.takeWhile_run numeral.raw rest (numberCharacters_of_fits fits) delimited
  unfold readNumber?
  rw [run.1, run.2, Numeral.ofText_raw fits]
  exact if_pos fits

/-! ### Strings -/

theorem readCode?_append (digits rest : List Char) (unit : Nat)
    (number : codeUnit? digits = some unit) : readCode? (digits ++ rest) = some (unit, rest) := by
  have four : digits.length = 4 := by
    unfold codeUnit? at number
    split at number
    · assumption
    · cases number
  unfold readCode?
  rw [List.take_left' four, List.drop_left' four, number]
  rfl

private theorem lookup_shortEscapes (letter character : Char)
    (listed : (letter, character) ∈ shortEscapes) :
    shortEscapes.lookup letter = some character ∧ letter ≠ 'u' := by
  simp only [shortEscapes, List.mem_cons, Prod.mk.injEq, List.not_mem_nil, or_false] at listed
  rcases listed with ⟨rfl, rfl⟩ | ⟨rfl, rfl⟩ | ⟨rfl, rfl⟩ | ⟨rfl, rfl⟩ | ⟨rfl, rfl⟩ | ⟨rfl, rfl⟩ |
    ⟨rfl, rfl⟩ | ⟨rfl, rfl⟩ <;> decide

private theorem readCharacter?_append (text : List Char) (character : Char)
    (denotes : DenotesCharacter text character) (rest : List Char) :
    readCharacter? (text ++ rest) = some (character, rest) := by
  cases denotes with
  | itself visible notQuote notBackslash =>
      rw [List.singleton_append, readCharacter?, if_neg notBackslash,
        if_neg (Nat.not_lt.mpr visible)]
  | @short letter _ listed =>
      obtain ⟨found, notCode⟩ := lookup_shortEscapes letter character listed
      rw [List.cons_append, List.singleton_append, readCharacter?, if_pos rfl, readEscape?,
        if_neg notCode, found]
      rfl
  | @code digits _ number =>
      have valid : character.toNat.isValidChar := character.valid
      have notHigh : ¬ (0xD800 ≤ character.toNat ∧ character.toNat < 0xDC00) := by
        unfold Nat.isValidChar at valid
        omega
      rw [List.cons_append, List.cons_append, readCharacter?, if_pos rfl, readEscape?, if_pos rfl,
        readCode?_append digits rest _ number]
      simp only [Option.bind_eq_bind, Option.bind_some, if_neg notHigh, if_pos valid,
        Char.ofNat_toNat]
  | @pair highDigits lowDigits high low _ highNumber highBound lowNumber lowBound number =>
      have isHigh : 0xD800 ≤ 0xD800 + high ∧ 0xD800 + high < 0xDC00 := by omega
      have isLow : 0xDC00 ≤ 0xDC00 + low ∧ 0xDC00 + low < 0xE000 := by omega
      rw [List.cons_append, List.cons_append, List.append_assoc, readCharacter?, if_pos rfl,
        readEscape?, if_pos rfl, readCode?_append highDigits _ _ highNumber]
      simp only [Option.bind_eq_bind, Option.bind_some, if_pos isHigh, List.cons_append,
        readLowHalf?, readCode?_append lowDigits rest _ lowNumber, if_pos isLow,
        Nat.add_sub_cancel_left, ← number, Char.ofNat_toNat]

private theorem opens_of_denotesCharacter {text : List Char} {character : Char}
    (denotes : DenotesCharacter text character) :
    ∃ first more, text = first :: more ∧ first ≠ '"' := by
  cases denotes with
  | itself visible notQuote notBackslash => exact ⟨character, [], rfl, notQuote⟩
  | short listed => exact ⟨_, _, rfl, by decide⟩
  | code number => exact ⟨_, _, rfl, by decide⟩
  | pair highNumber highBound lowNumber lowBound number => exact ⟨_, _, rfl, by decide⟩

private theorem readContent?_append (body content : List Char)
    (denotes : DenotesContent body content)
    (bound : Nat) (enough : body.length < bound) (rest : List Char) :
    readContent? bound (body ++ '"' :: rest) = some (content, rest) := by
  induction denotes generalizing bound with
  | nil =>
      obtain ⟨bound, rfl⟩ := Nat.exists_eq_succ_of_ne_zero (Nat.ne_of_gt enough)
      rw [List.nil_append, readContent?]
      exact if_pos rfl
  | @cons text body content character first _ inductionHypothesis =>
      obtain ⟨opening, more, opens, notQuote⟩ := opens_of_denotesCharacter first
      obtain ⟨bound, rfl⟩ := Nat.exists_eq_succ_of_ne_zero (Nat.ne_of_gt (Nat.zero_lt_of_lt enough))
      have shorter : body.length < bound := by
        rw [opens, List.length_append, List.length_cons] at enough
        omega
      have notClosed : (text ++ (body ++ '"' :: rest)).head? ≠ some '"' := by
        rw [opens]
        simpa using notQuote
      rw [List.append_assoc, readContent?, if_neg notClosed,
        readCharacter?_append text character first]
      simp only [Option.bind_eq_bind, Option.bind_some, inductionHypothesis bound shorter]
      rfl

theorem readContent?_whole (body content : List Char) (denotes : DenotesContent body content)
    (rest : List Char) : readContent? (body ++ '"' :: rest).length (body ++ '"' :: rest) =
      some (content, rest) := by
  apply readContent?_append body content denotes
  rw [List.length_append, List.length_cons]
  omega

/-! ### Elements -/

/-- The reader takes the text off whatever follows, with the blanks behind it. -/
def Takes {Element : Type} (reader : List Char → Option (Element × List Char)) (text : List Char)
    (element : Element) : Prop :=
  ∀ rest, Delimited rest → reader (text ++ rest) = some (element, skipBlanks rest)

def IsClosing (close : Char) : Prop :=
  close = ']' ∨ close = '\x7d'

theorem IsClosing.delimits {close : Char} (closing : IsClosing close) :
    close ≠ ',' ∧ close.isWhitespace = false ∧ isNumberCharacter close = false := by
  rcases closing with rfl | rfl <;> decide

private theorem delimited_cons (character : Char) (rest : List Char)
    (outside : isNumberCharacter character = false) : Delimited (character :: rest) := by
  rintro _ ⟨⟩
  exact outside

private theorem skipBlanks_ne_nil (text : List Char) (character : Char) (inside : character ∈ text)
    (visible : character.isWhitespace = false) : skipBlanks text ≠ [] := by
  intro nothing
  have blank := List.dropWhile_eq_nil_iff.mp nothing character inside
  rw [visible] at blank
  cases blank

private theorem length_le_length_flatMap {Element : Type} (items : List (List Char × Element)) :
    items.length ≤ (items.flatMap (fun item => [','] ++ item.1)).length := by
  induction items with
  | nil => exact Nat.le_refl 0
  | cons item later inductionHypothesis =>
      simp only [List.flatMap_cons, List.length_cons, List.length_append, List.length_nil]
      omega

section Elements

variable {Element : Type} {close : Char} (closing : IsClosing close)
  {readElement? : List Char → Option (Element × List Char)}

include closing

private theorem readElements?_append (first : List Char × Element)
    (later : List (List Char × Element))
    (takes : ∀ item ∈ first :: later, Takes readElement? item.1 item.2) (bound : Nat)
    (enough : later.length < bound) (rest : List Char) :
    readElements? close readElement? bound
        (first.1 ++ (later.flatMap (fun item => [','] ++ item.1) ++ close :: rest)) =
      some (first.2 :: later.map Prod.snd, rest) := by
  obtain ⟨notComma, visible, outside⟩ := closing.delimits
  have firstTaken := takes first List.mem_cons_self
  induction later generalizing first bound with
  | nil =>
      obtain ⟨bound, rfl⟩ := Nat.exists_eq_succ_of_ne_zero (Nat.ne_of_gt enough)
      have taken := firstTaken (close :: rest) (delimited_cons close rest outside)
      rw [skipBlanks_cons close rest visible] at taken
      rw [List.flatMap_nil, List.nil_append, readElements?, taken]
      simp only [if_neg notComma, if_true, List.map_nil]
  | cons next others inductionHypothesis =>
      obtain ⟨bound, rfl⟩ := Nat.exists_eq_succ_of_ne_zero (Nat.ne_of_gt (Nat.zero_lt_of_lt enough))
      have nextTakes : ∀ item ∈ next :: others, Takes readElement? item.1 item.2 :=
        fun item member => takes item (List.mem_cons_of_mem first member)
      have readLater := inductionHypothesis next nextTakes bound
        (by rw [List.length_cons] at enough; omega) (nextTakes next List.mem_cons_self)
      have taken := firstTaken
        (',' :: (next.1 ++ (others.flatMap (fun item => [','] ++ item.1) ++ close :: rest)))
        (delimited_cons ',' _ (by decide))
      rw [skipBlanks_cons ',' _ (by decide)] at taken
      rw [List.flatMap_cons, List.append_assoc, List.append_assoc, List.singleton_append,
        readElements?, taken]
      simp only [if_true, Option.bind_eq_bind, readLater, Option.bind_some]
      rfl

theorem readEnclosed?_append (items : List (List Char × Element))
    (takes : ∀ item ∈ items, Takes readElement? item.1 item.2)
    (refuses : ∀ text rest, skipBlanks text = close :: rest → readElement? text = none)
    (inner : List Char) (listed : Lists inner (items.map Prod.fst)) (rest : List Char) :
    readEnclosed? close readElement? (inner ++ close :: rest) =
      some (items.map Prod.snd, rest) := by
  obtain ⟨_, visible, outside⟩ := closing.delimits
  cases items with
  | nil =>
      have blank : AreBlank inner := listed
      rw [readEnclosed?, skipBlanks_append inner _ blank, skipBlanks_cons close rest visible]
      exact if_pos rfl
  | cons first later =>
      have joined : inner = first.1 ++ later.flatMap (fun item => [','] ++ item.1) := by
        rw [List.map_cons, Lists, if_neg (List.cons_ne_nil _ _), Text.joined_cons,
          List.flatMap_map] at listed
        exact listed
      have bounded : later.length < (inner ++ close :: rest).length := by
        have commas := length_le_length_flatMap later
        rw [joined, List.length_append, List.length_append, List.length_cons]
        omega
      have read := readElements?_append closing first later takes _ bounded rest
      rw [← List.append_assoc, ← joined] at read
      have following :
          Delimited (later.flatMap (fun item => [','] ++ item.1) ++ close :: rest) := by
        cases later with
        | nil => exact delimited_cons close rest outside
        | cons next others => exact delimited_cons ',' _ (by decide)
      have taken := takes first List.mem_cons_self _ following
      rw [← List.append_assoc, ← joined] at taken
      rw [readEnclosed?]
      split
      · rename_i nothing
        exact absurd nothing (skipBlanks_ne_nil _ close (by simp) visible)
      · rename_i opening more opens
        split
        · rename_i isClose
          -- an element that begins with the bracket would be one that the reader refuses
          rw [isClose] at opens
          rw [refuses _ more opens] at taken
          cases taken
        · exact read

end Elements

/-! ### Values -/

private theorem readField?_takes {readValue? : List Char → Option (Json × List Char)}
    (field : WrittenField)
    (named : field.Named) (takes : Takes readValue? field.valueText field.value) :
    Takes (readField? readValue?) field.raw (field.name, field.value) := by
  intro rest delimited
  have opens : skipBlanks (field.raw ++ rest) =
      '"' :: (field.nameBody ++ '"' :: (field.between ++ ':' :: (field.valueText ++ rest))) := by
    simp only [WrittenField.raw, List.append_assoc, List.cons_append]
    rw [skipBlanks_append _ _ named.before, skipBlanks_cons _ _ (by decide)]
  have nameRead := readContent?_whole field.nameBody field.name.toList named.name
    (field.between ++ ':' :: (field.valueText ++ rest))
  have colon : skipBlanks (field.between ++ ':' :: (field.valueText ++ rest)) =
      ':' :: (field.valueText ++ rest) := by
    rw [skipBlanks_append _ _ named.between, skipBlanks_cons _ _ (by decide)]
  rw [readField?, opens]
  simp only [Option.bind_eq_bind, nameRead, Option.bind_some, colon, takes rest delimited,
    String.ofList_toList]
  rfl

private theorem readField?_refuses (readValue? : List Char → Option (Json × List Char))
    (text rest : List Char) (closes : skipBlanks text = '\x7d' :: rest) :
    readField? readValue? text = none := by
  rw [readField?, closes]
  rfl

private theorem readValue?_refuses (bound : Nat) (text rest : List Char)
    (closes : skipBlanks text = ']' :: rest) : readValue? bound text = none := by
  cases bound with
  | zero => rfl
  | succ bound =>
      rw [readValue?, closes]
      rfl

private theorem readValue?_of_number (bound : Nat) (first : Char) (more : List Char)
    (inNumber : isNumberCharacter first = true) :
    readValue? (bound + 1) (first :: more) = do
      let (number, rest) ← readNumber? (first :: more)
      return (number, skipBlanks rest) := by
  rw [readValue?, skipBlanks_cons first more (not_blank_of_numberCharacter first inNumber)]
  split
  case h_7 => rfl
  all_goals
    rename_i opens
    cases opens
    exact absurd inNumber (by decide)

private theorem length_le_of_lists {inner : List Char} {parts : List (List Char)}
    (listed : Lists inner parts) (part : List Char) (member : part ∈ parts) :
    part.length ≤ inner.length := by
  cases parts with
  | nil => cases member
  | cons first later =>
      rw [Lists, if_neg (List.cons_ne_nil _ _), Text.joined_cons] at listed
      rw [listed, List.length_append]
      rcases List.mem_cons.mp member with rfl | inLater
      · omega
      · obtain ⟨before, after, rfl⟩ := List.append_of_mem inLater
        simp only [List.flatMap_append, List.flatMap_cons, List.length_append]
        omega

private theorem readValue?_skip (bound : Nat) (blanks text : List Char) (blank : AreBlank blanks) :
    readValue? bound (blanks ++ text) = readValue? bound text := by
  cases bound with
  | zero => rfl
  | succ bound => rw [readValue?, readValue?, skipBlanks_append blanks text blank]

private theorem delimited_append (blanks rest : List Char) (blank : AreBlank blanks)
    (delimited : Delimited rest) : Delimited (blanks ++ rest) := by
  cases blanks with
  | nil => exact delimited
  | cons character more =>
      apply delimited_cons
      cases inNumber : isNumberCharacter character with
      | false => rfl
      | true =>
          have visible := not_blank_of_numberCharacter character inNumber
          rw [blank character List.mem_cons_self] at visible
          cases visible

private theorem exists_smaller {length bound : Nat} (enough : length + 1 ≤ bound) :
    ∃ smaller, bound = smaller + 1 ∧ length ≤ smaller :=
  ⟨bound - 1, by omega, by omega⟩

/-- Reading takes a text off whatever follows it, and finds the tree that the text denotes. -/
theorem readValue?_takes {text : List Char} {tree : Json} (denotes : Denotes text tree)
    (bound : Nat) (enough : text.length ≤ bound) : Takes (readValue? bound) text tree := by
  intro rest delimited
  induction denotes generalizing bound rest with
  | null | yes | no =>
      obtain ⟨bound, rfl, _⟩ := exists_smaller enough
      rw [List.cons_append, readValue?, skipBlanks_cons _ _ (by decide)]
      rfl
  | @number numeral fits =>
      obtain ⟨first, more, opens⟩ := List.exists_cons_of_ne_nil (Numeral.raw_ne_nil fits)
      have inNumber : isNumberCharacter first = true :=
        numberCharacters_of_fits fits first (by simp [opens])
      have read := readNumber?_raw fits rest delimited
      rw [opens] at enough read ⊢
      obtain ⟨bound, rfl, _⟩ := exists_smaller enough
      rw [List.cons_append] at read ⊢
      rw [readValue?_of_number bound first _ inNumber, read]
      rfl
  | @text body value content =>
      obtain ⟨bound, rfl, _⟩ := exists_smaller enough
      have read := readContent?_whole body value.toList content rest
      rw [List.cons_append, List.append_assoc, List.singleton_append, readValue?,
        skipBlanks_cons _ _ (by decide)]
      simp only [Option.bind_eq_bind, read, Option.bind_some, String.ofList_toList]
      rfl
  | @array inner items listed _ inductionHypothesis =>
      obtain ⟨bound, rfl, innerFits⟩ := exists_smaller enough
      rw [List.length_append] at innerFits
      -- an item is shorter than the array by its brackets, which pays for the level
      have takes : ∀ item ∈ items, Takes (readValue? bound) item.1 item.2 := by
        intro item member itemRest itemDelimited
        have shorter := length_le_of_lists listed item.1 (List.mem_map_of_mem member)
        exact inductionHypothesis item member bound (by omega) itemRest itemDelimited
      have read := readEnclosed?_append (Or.inl rfl) items takes (readValue?_refuses bound) inner
        listed rest
      rw [List.cons_append, List.append_assoc, List.singleton_append, readValue?,
        skipBlanks_cons _ _ (by decide)]
      simp only [Option.bind_eq_bind, read, Option.bind_some]
      rfl
  | @object inner fields listed named _ inductionHypothesis =>
      obtain ⟨bound, rfl, innerFits⟩ := exists_smaller enough
      rw [List.length_append] at innerFits
      let items := fields.map (fun field => (field.raw, (field.name, field.value)))
      have takes : ∀ item ∈ items, Takes (readField? (readValue? bound)) item.1 item.2 := by
        intro item member
        obtain ⟨field, inFields, rfl⟩ := List.mem_map.mp member
        have shorter := length_le_of_lists listed field.raw (List.mem_map_of_mem inFields)
        have valueShorter : field.valueText.length ≤ field.raw.length := by
          simp only [WrittenField.raw, List.length_append, List.length_cons]
          omega
        apply readField?_takes field (named field inFields)
        exact inductionHypothesis field inFields bound (by omega)
      have rawListed : Lists inner (items.map Prod.fst) := by
        rw [List.map_map]
        exact listed
      have read := readEnclosed?_append (Or.inr rfl) items takes (readField?_refuses _) inner
        rawListed rest
      rw [List.map_map] at read
      rw [List.cons_append, List.append_assoc, List.singleton_append, readValue?,
        skipBlanks_cons _ _ (by decide)]
      simp only [Option.bind_eq_bind, read, Option.bind_some]
      rfl
  | @padded before text after tree blankBefore blankAfter _ inductionHypothesis =>
      simp only [List.length_append] at enough
      have read := inductionHypothesis bound (by omega) (after ++ rest)
        (delimited_append after rest blankAfter delimited)
      rw [List.append_assoc, List.append_assoc, readValue?_skip bound _ _ blankBefore, read,
        skipBlanks_append after rest blankAfter]

theorem read?_of_denotes {text : List Char} {tree : Json} (denotes : Denotes text tree) :
    read? text = some tree := by
  have taken := readValue?_takes denotes text.length (Nat.le_refl _) [] nofun
  rw [List.append_nil] at taken
  rw [read?, taken]
  rfl

/-- No text denotes two trees. -/
theorem denotes_unique {text : List Char} {left right : Json} (leftDenotes : Denotes text left)
    (rightDenotes : Denotes text right) : left = right := by
  have leftRead := read?_of_denotes leftDenotes
  rw [read?_of_denotes rightDenotes] at leftRead
  exact (Option.some.inj leftRead).symm

end TokenGrammar.Json
