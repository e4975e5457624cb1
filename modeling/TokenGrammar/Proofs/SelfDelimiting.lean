import Mathlib.Data.List.Basic
import TokenGrammar.Token
import TokenGrammar.Text.Quoted

set_option autoImplicit false

/-! Texts that tell where they end. Numbers do so in front of a character that is no digit, names of
kinds and quoted texts in front of anything: a quoted text escapes every quote that it holds, so its
end is the first quote that no backslash precedes. -/

namespace TokenGrammar

namespace Text

/-- A way of writing is self-delimiting if two written texts that start the same text are one and
the same: what is written, and where it ends, can be told from its beginning. -/
def SelfDelimiting {α : Type} (write : α → List Char) : Prop :=
  ∀ left right rest others, write left ++ rest = write right ++ others →
    left = right ∧ rest = others

theorem append_inj_of_stop (stop : Char) (left right rest others : List Char)
    (notInLeft : stop ∉ left) (notInRight : stop ∉ right)
    (same : left ++ stop :: rest = right ++ stop :: others) : left = right ∧ rest = others := by
  induction left generalizing right with
  | nil =>
      cases right with
      | nil =>
          cases same
          exact ⟨rfl, rfl⟩
      | cons other more =>
          cases same
          exact absurd List.mem_cons_self notInRight
  | cons character later inductionHypothesis =>
      cases right with
      | nil =>
          cases same
          exact absurd List.mem_cons_self notInLeft
      | cons other more =>
          rw [List.cons_append, List.cons_append, List.cons.injEq] at same
          obtain ⟨rfl, sameLater⟩ := same
          obtain ⟨rfl, sameRest⟩ := inductionHypothesis more
            (fun inside => notInLeft (List.mem_cons_of_mem _ inside))
            (fun inside => notInRight (List.mem_cons_of_mem _ inside)) sameLater
          exact ⟨rfl, sameRest⟩

/-! ### Numbers -/

private theorem exists_digit_of_mem_toDigits (base number : Nat) (fits : 1 < base)
    (character : Char) (member : character ∈ Nat.toDigits base number) :
    ∃ digit < base, character = digit.digitChar := by
  induction number using Nat.strongRecOn with
  | ind number inductionHypothesis =>
      by_cases small : number < base
      · rw [Nat.toDigits_of_lt_base small, List.mem_singleton] at member
        exact ⟨number, small, member⟩
      · rw [Nat.toDigits_of_base_le fits (by omega), List.mem_append, List.mem_singleton] at member
        rcases member with inFront | last
        · exact inductionHypothesis _ (Nat.div_lt_self (by omega) fits) inFront
        · exact ⟨number % base, Nat.mod_lt _ (by omega), last⟩

private theorem lt_base_of_toDigits_eq_singleton (base number : Nat) (fits : 1 < base)
    (digit : Char) (single : Nat.toDigits base number = [digit]) : number < base := by
  by_contra large
  rw [Nat.toDigits_of_base_le fits (Nat.le_of_not_lt large)] at single
  rcases List.append_eq_singleton_iff.mp single with ⟨nothing, _⟩ | ⟨_, nothing⟩
  · exact Nat.toDigits_ne_nil nothing
  · cases nothing

theorem toDigits_injective (base : Nat) (fits : 1 < base) (letters : base ≤ 16) :
    Function.Injective (Nat.toDigits base) := by
  have digits : ∀ left < 16, ∀ right < 16, left.digitChar = right.digitChar → left = right := by
    decide
  intro left right same
  induction left using Nat.strongRecOn generalizing right with
  | ind left inductionHypothesis =>
      by_cases small : left < base
      · rw [Nat.toDigits_of_lt_base small] at same
        have alsoSmall := lt_base_of_toDigits_eq_singleton base right fits _ same.symm
        rw [Nat.toDigits_of_lt_base alsoSmall, List.singleton_inj] at same
        exact digits left (by omega) right (by omega) same
      · have large : base ≤ left := Nat.le_of_not_lt small
        have alsoLarge : base ≤ right := by
          by_contra rightSmall
          rw [Nat.toDigits_of_lt_base (Nat.lt_of_not_le rightSmall)] at same
          exact small (lt_base_of_toDigits_eq_singleton base left fits _ same)
        rw [Nat.toDigits_of_base_le fits large, Nat.toDigits_of_base_le fits alsoLarge,
          List.append_singleton_inj] at same
        have sameFront := inductionHypothesis _ (Nat.div_lt_self (by omega) fits) same.1
        have leftLast : left % base < base := Nat.mod_lt _ (by omega)
        have rightLast : right % base < base := Nat.mod_lt _ (by omega)
        have sameLast := digits _ (by omega) _ (by omega) same.2
        rw [← Nat.div_add_mod left base, ← Nat.div_add_mod right base, sameFront, sameLast]

theorem decimalDigits_append_inj (stop : Char) (notDigit : stop.isDigit = false)
    (left right : Nat) (rest others : List Char)
    (same : decimalDigits left ++ stop :: rest = decimalDigits right ++ stop :: others) :
    left = right ∧ rest = others := by
  have outside : ∀ number, stop ∉ decimalDigits number := by
    intro number inside
    have isDigit := Nat.isDigit_of_mem_toDigits (by decide) (by decide) inside
    rw [notDigit] at isDigit
    cases isDigit
  obtain ⟨sameDigits, sameRest⟩ :=
    append_inj_of_stop stop _ _ rest others (outside left) (outside right) same
  exact ⟨toDigits_injective 10 (by decide) (by decide) sameDigits, sameRest⟩

/-! ### Quoted texts -/

/-- The letters that stand for a character behind a backslash. -/
def namedEscapes : List (Char × Char) :=
  [('0', '\x00'), ('t', '\t'), ('n', '\n'), ('r', '\r'), ('\\', '\\'), ('"', '"')]

theorem quotedCharacter_cases (character : Char) :
    (quotedCharacter character = [character] ∧ character ≠ '\\' ∧ character ≠ '"') ∨
    (∃ letter, (letter, character) ∈ namedEscapes ∧
      quotedCharacter character = ['\\', letter]) ∨
    quotedCharacter character =
      '\\' :: 'u' :: '\x7b' :: (hexDigits character.toNat ++ ['\x7d']) := by
  fun_cases quotedCharacter character with
  | case7 => exact Or.inr (Or.inr rfl)
  | case8 _ _ _ _ notBackslash notQuote => exact Or.inl ⟨rfl, notBackslash, notQuote⟩
  | _ => exact Or.inr (Or.inl ⟨_, by simp [namedEscapes, *], rfl⟩)

private theorem selfDelimiting_quotedCharacter : SelfDelimiting quotedCharacter := by
  have noBrace : ∀ number, '\x7d' ∉ hexDigits number := by
    intro number inside
    obtain ⟨digit, small, isDigit⟩ := exists_digit_of_mem_toDigits 16 number (by decide) _ inside
    have noDigit : ∀ digit < 16, '\x7d' ≠ digit.digitChar := by decide
    exact noDigit digit small isDigit
  have letterOnce : ∀ left ∈ namedEscapes, ∀ right ∈ namedEscapes,
      left.1 = right.1 → left.2 = right.2 := by
    decide
  have noLetter : ∀ escape ∈ namedEscapes, escape.1 ≠ 'u' := by
    decide
  intro left right rest others same
  rcases quotedCharacter_cases left with
    ⟨plain, noBackslash, _⟩ | ⟨letter, named, escaped⟩ | numbered
  · rw [plain] at same
    rcases quotedCharacter_cases right with ⟨otherPlain, _, _⟩ | ⟨_, _, other⟩ | other
    · rw [otherPlain] at same
      exact List.cons.inj same
    · rw [other] at same
      exact absurd (List.cons.inj same).1 noBackslash
    · rw [other] at same
      exact absurd (List.cons.inj same).1 noBackslash
  · rw [escaped] at same
    rcases quotedCharacter_cases right with
      ⟨other, otherNoBackslash, _⟩ | ⟨otherLetter, otherNamed, other⟩ | other
    · rw [other] at same
      exact absurd (List.cons.inj same).1.symm otherNoBackslash
    · rw [other] at same
      obtain ⟨sameLetter, sameRest⟩ := List.cons.inj (List.cons.inj same).2
      exact ⟨letterOnce _ named _ otherNamed sameLetter, sameRest⟩
    · rw [other] at same
      exact absurd (List.cons.inj (List.cons.inj same).2).1 (noLetter _ named)
  · rw [numbered] at same
    rcases quotedCharacter_cases right with
      ⟨other, otherNoBackslash, _⟩ | ⟨otherLetter, otherNamed, other⟩ | other
    · rw [other] at same
      exact absurd (List.cons.inj same).1.symm otherNoBackslash
    · rw [other] at same
      exact absurd (List.cons.inj (List.cons.inj same).2).1.symm (noLetter _ otherNamed)
    · rw [other] at same
      simp only [List.cons_append, List.append_assoc, List.nil_append, List.cons.injEq,
        true_and] at same
      obtain ⟨sameDigits, sameRest⟩ :=
        append_inj_of_stop _ _ _ rest others (noBrace _) (noBrace _) same
      have sameNumber := toDigits_injective 16 (by decide) (by decide) sameDigits
      exact ⟨Char.toNat_inj.mp sameNumber, sameRest⟩

theorem quotedCharacter_append_ne (character : Char) (rest others : List Char) :
    quotedCharacter character ++ rest ≠ '"' :: others := by
  intro same
  rcases quotedCharacter_cases character with ⟨written, _, noQuote⟩ | ⟨_, _, written⟩ | written
  · rw [written] at same
    exact noQuote (List.cons.inj same).1
  · rw [written] at same
    cases same
  · rw [written] at same
    cases same

theorem selfDelimiting_quoted : SelfDelimiting quoted := by
  intro left right rest others same
  simp only [quoted, List.cons_append, List.append_assoc, List.nil_append, List.cons.injEq,
    true_and] at same
  induction left generalizing right with
  | nil =>
      cases right with
      | nil => exact ⟨rfl, (List.cons.inj same).2⟩
      | cons other more =>
          rw [List.flatMap_cons, List.append_assoc] at same
          exact absurd same.symm (quotedCharacter_append_ne other _ _)
  | cons character later inductionHypothesis =>
      rw [List.flatMap_cons, List.append_assoc] at same
      cases right with
      | nil => exact absurd same (quotedCharacter_append_ne character _ _)
      | cons other more =>
          rw [List.flatMap_cons, List.append_assoc] at same
          obtain ⟨rfl, sameLater⟩ := selfDelimiting_quotedCharacter _ _ _ _ same
          obtain ⟨rfl, sameRest⟩ := inductionHypothesis more sameLater
          exact ⟨rfl, sameRest⟩

end Text

/-! ### Names of kinds -/

namespace TokenKind

theorem selfDelimiting_name : Text.SelfDelimiting (fun kind : TokenKind => kind.name.toList) := by
  intro left right rest others same
  cases left <;> cases right <;> simp_all [name]

theorem selfDelimiting_title :
    Text.SelfDelimiting (fun kind : TokenKind => kind.title.toList) := by
  intro left right rest others same
  cases left <;> cases right <;> simp_all [title]

end TokenKind

end TokenGrammar
