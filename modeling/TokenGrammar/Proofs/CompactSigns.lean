import TokenGrammar.Matcher.Display
import TokenGrammar.Proofs.SelfDelimiting

set_option autoImplicit false

/-! The signs of a compact text: names of kinds, quoted texts, the sign for the end, parentheses,
separators and bounds. Every sign tells where it ends, so a text is cut into signs in one way only,
and two matchers with one compact text are written with the same signs. What the signs mean is
another matter: a blank stands between two items as it stands inside a leaf. -/

namespace TokenGrammar

/-- What a compact text consists of. -/
inductive Sign where
  | name (kind : TokenKind)
  | quoted (text : String)
  | finish
  | opened
  | closed
  | blank
  | bar
  | bounds (least : Nat) (most : Option Nat)
  deriving DecidableEq

namespace Sign

def text : Sign → List Char
  | name kind => kind.name.toList
  | quoted text => Text.quoted text.toList
  | finish => ['$']
  | opened => ['(']
  | closed => [')']
  | blank => [' ']
  | bar => " | ".toList
  | bounds least most => Matcher.boundsText least most

/-! ### Cutting a text into signs -/

private theorem boundsText_append (least : Nat) (most : Option Nat) (rest : List Char) :
    Matcher.boundsText least most ++ rest =
      '\x7b' :: (Text.decimalDigits least ++ ',' ::
        ((most.map Text.decimalDigits).getD [] ++ '\x7d' :: rest)) := by
  simp [Matcher.boundsText]

private theorem boundsText_append_inj (least otherLeast : Nat) (most otherMost : Option Nat)
    (rest others : List Char) (same : Matcher.boundsText least most ++ rest =
      Matcher.boundsText otherLeast otherMost ++ others) :
    (least = otherLeast ∧ most = otherMost) ∧ rest = others := by
  have noBrace : ∀ bound : Option Nat, '\x7d' ∉ (bound.map Text.decimalDigits).getD [] := by
    intro bound inside
    cases bound with
    | none => cases inside
    | some bound =>
        have digit := Nat.isDigit_of_mem_toDigits (by decide) (by decide) inside
        cases digit
  rw [boundsText_append, boundsText_append, List.cons.injEq] at same
  obtain ⟨rfl, behindLeast⟩ := Text.decimalDigits_append_inj ',' (by decide) _ _ _ _ same.2
  obtain ⟨sameDigits, sameRest⟩ :=
    Text.append_inj_of_stop _ _ _ rest others (noBrace most) (noBrace otherMost) behindLeast
  refine ⟨⟨rfl, ?_⟩, sameRest⟩
  cases most with
  | none =>
      cases otherMost with
      | none => rfl
      | some other => exact absurd sameDigits.symm Nat.toDigits_ne_nil
  | some bound =>
      cases otherMost with
      | none => exact absurd sameDigits Nat.toDigits_ne_nil
      | some other =>
          exact congrArg some (Text.toDigits_injective 10 (by decide) (by decide) sameDigits)

def initial : Sign → Char
  | name .space => 'S'
  | name .number => 'N'
  | name .identifier => 'I'
  | name .string => 'S'
  | name .operator => 'O'
  | quoted _ => '"'
  | finish => '$'
  | opened => '('
  | closed => ')'
  | blank => ' '
  | bar => ' '
  | bounds _ _ => '\x7b'

private theorem exists_text_eq (sign : Sign) : ∃ more, sign.text = sign.initial :: more := by
  cases sign with
  | name kind => cases kind <;> exact ⟨_, rfl⟩
  | _ => exact ⟨_, rfl⟩

private theorem flatMap_text_ne_bar (signs : List Sign) (more : List Char) :
    signs.flatMap text ≠ '|' :: more := by
  cases signs with
  | nil => simp
  | cons sign later =>
      obtain ⟨_, written⟩ := sign.exists_text_eq
      rw [List.flatMap_cons, written]
      cases sign with
      | name kind => cases kind <;> simp [initial]
      | _ => simp [initial]

private theorem isUpper_initial_iff (sign : Sign) :
    sign.initial.isUpper = true ↔ ∃ kind, sign = name kind := by
  cases sign with
  | name kind => cases kind <;> simp [initial]
  | _ => simp [initial]

/-- Signs of different sorts start differently, but for the blank and the bar. -/
theorem sort_of_initial (sign other : Sign) (same : sign.initial = other.initial) :
    sign = other ∨ (∃ kind otherKind, sign = name kind ∧ other = name otherKind) ∨
    (∃ text otherText, sign = quoted text ∧ other = quoted otherText) ∨
    (∃ least most otherLeast otherMost,
      sign = bounds least most ∧ other = bounds otherLeast otherMost) ∨
    (sign = blank ∧ other = bar) ∨ (sign = bar ∧ other = blank) := by
  by_cases named : ∃ kind, sign = name kind
  · have otherNamed : ∃ kind, other = name kind := by
      rwa [← isUpper_initial_iff, ← same, isUpper_initial_iff]
    obtain ⟨kind, rfl⟩ := named
    obtain ⟨otherKind, rfl⟩ := otherNamed
    exact Or.inr (Or.inl ⟨kind, otherKind, rfl, rfl⟩)
  · have otherNotNamed : ¬ ∃ kind, other = name kind := by
      rwa [← isUpper_initial_iff, ← same, isUpper_initial_iff]
    cases sign <;> cases other <;> simp_all [initial]

/-- The first sign of a text made of signs can be told from the text. -/
theorem text_append_inj (sign other : Sign) (later others : List Sign)
    (same : sign.text ++ later.flatMap text = other.text ++ others.flatMap text) :
    sign = other ∧ later.flatMap text = others.flatMap text := by
  have sameInitial : sign.initial = other.initial := by
    obtain ⟨_, written⟩ := sign.exists_text_eq
    obtain ⟨_, otherWritten⟩ := other.exists_text_eq
    rw [written, otherWritten] at same
    exact (List.cons.inj same).1
  rcases sort_of_initial sign other sameInitial with rfl | ⟨kind, otherKind, rfl, rfl⟩ |
    ⟨text, otherText, rfl, rfl⟩ | ⟨least, most, otherLeast, otherMost, rfl, rfl⟩ |
    ⟨rfl, rfl⟩ | ⟨rfl, rfl⟩
  · exact ⟨rfl, List.append_cancel_left same⟩
  · obtain ⟨rfl, sameLater⟩ := TokenKind.selfDelimiting_name _ _ _ _ same
    exact ⟨rfl, sameLater⟩
  · obtain ⟨sameText, sameLater⟩ := Text.selfDelimiting_quoted _ _ _ _ same
    exact ⟨congrArg quoted (String.toList_inj.mp sameText), sameLater⟩
  · obtain ⟨⟨rfl, rfl⟩, sameLater⟩ := boundsText_append_inj _ _ _ _ _ _ same
    exact ⟨rfl, sameLater⟩
  · exact absurd (List.cons.inj same).2 (flatMap_text_ne_bar later _)
  · exact absurd (List.cons.inj same).2.symm (flatMap_text_ne_bar others _)

private theorem eq_of_texts (signs others : List Sign)
    (same : signs.flatMap text = others.flatMap text) : signs = others := by
  induction signs generalizing others with
  | nil =>
      cases others with
      | nil => rfl
      | cons other more =>
          obtain ⟨_, written⟩ := other.exists_text_eq
          rw [List.flatMap_cons, written] at same
          cases same
  | cons sign later inductionHypothesis =>
      cases others with
      | nil =>
          obtain ⟨_, written⟩ := sign.exists_text_eq
          rw [List.flatMap_cons, written] at same
          cases same
      | cons other more =>
          obtain ⟨rfl, sameLater⟩ := text_append_inj sign other later more same
          rw [inductionHypothesis more sameLater]

end Sign

/-! ### The signs of a matcher -/

namespace Matcher

mutual

def signs : Matcher → List Sign
  | token (.kind kind) _ => [.name kind]
  | token (.text text) _ => [.quoted text]
  | token (.kindText kind text) _ => [.name kind, .blank, .quoted text]
  | finish _ => [.finish]
  | alternation branches _ => .opened :: (separatedSigns .bar branches ++ [.closed])
  | sequence items _ => .opened :: (separatedSigns .blank items ++ [.closed])
  | repetition item least most _ => signs item ++ [.bounds least most]

def separatedSigns (separator : Sign) : List Matcher → List Sign
  | [] => []
  | [matcher] => signs matcher
  | matcher :: later => signs matcher ++ separator :: separatedSigns separator later

end

theorem compactTexts_eq_signs (separator : Sign) (matchers : List Matcher)
    (each : ∀ matcher ∈ matchers, matcher.compactText = matcher.signs.flatMap Sign.text) :
    compactTexts separator.text matchers =
      (separatedSigns separator matchers).flatMap Sign.text := by
  induction matchers with
  | nil => simp [compactTexts, separatedSigns]
  | cons matcher later inductionHypothesis =>
      have laterSame := inductionHypothesis
        (fun next member => each next (List.mem_cons_of_mem matcher member))
      have firstSame := each matcher List.mem_cons_self
      cases later with
      | nil => rw [compactTexts, separatedSigns, firstSame]
      | cons next others =>
          rw [compactTexts, separatedSigns, List.flatMap_append, List.flatMap_cons, laterSame,
            firstSame, List.append_assoc]
          · simp
          · simp

theorem compactText_eq_signs (matcher : Matcher) :
    matcher.compactText = matcher.signs.flatMap Sign.text := by
  induction matcher with
  | token test transform =>
      rw [compactText]
      cases test <;> simp [signs, Sign.text, TokenTest.compactText]
  | finish transform => simp [compactText, signs, Sign.text]
  | alternation branches transform each =>
      rw [compactText, signs, List.flatMap_cons, List.flatMap_append,
        ← compactTexts_eq_signs .bar branches each]
      simp [Sign.text]
  | sequence items transform each =>
      rw [compactText, signs, List.flatMap_cons, List.flatMap_append,
        ← compactTexts_eq_signs .blank items each]
      simp [Sign.text]
  | repetition item least most transform itemSame =>
      simp [compactText, signs, Sign.text, itemSame]

/-- Two matchers have one compact text exactly if they are written with the same signs. -/
theorem compact_eq_iff_signs (left right : Matcher) :
    left.compact = right.compact ↔ left.signs = right.signs := by
  unfold compact
  rw [String.ofList_inj, compactText_eq_signs, compactText_eq_signs]
  exact ⟨Sign.eq_of_texts _ _, congrArg (List.flatMap Sign.text)⟩

end Matcher

end TokenGrammar
