import TokenGrammar.Proofs.JsonValues

set_option autoImplicit false

/-! Blanks in JSON texts. Outside strings they carry no meaning, inside strings they are content; so
whoever deletes them has to know where strings begin and end. The main statement is that the
indented text of a token sequence differs from its compact text in nothing else. -/

namespace TokenGrammar

namespace Json

/-! ### Deleting blanks -/

/-- Where a character stands: between strings, inside one, or behind a backslash inside one. -/
inductive Region where
  | between
  | inside
  | escaped
  deriving DecidableEq

def Region.next : Region → Char → Region
  | between, character => if character = '"' then inside else between
  | inside, character =>
      if character = '\\' then escaped else if character = '"' then between else inside
  | escaped, _ => inside

def withoutBlanksFrom : Region → List Char → List Char
  | _, [] => []
  | region, character :: later =>
      if region = .between ∧ character.isWhitespace = true then
        withoutBlanksFrom (region.next character) later
      else character :: withoutBlanksFrom (region.next character) later

/-- The text without the blanks that stand outside its strings. -/
def withoutBlanks (text : List Char) : List Char :=
  withoutBlanksFrom .between text

/-- Reading the text leads from one region to another, and these characters of it are kept. -/
structure Passes (before : Region) (text kept : List Char) (after : Region) : Prop where
  region : text.foldl Region.next before = after
  kept : withoutBlanksFrom before text = kept

abbrev Compacts (text kept : List Char) : Prop :=
  Passes .between text kept .between

private theorem withoutBlanksFrom_append (region : Region) (left right : List Char) :
    withoutBlanksFrom region (left ++ right) =
      withoutBlanksFrom region left ++ withoutBlanksFrom (left.foldl Region.next region) right := by
  induction left generalizing region with
  | nil => rfl
  | cons character later inductionHypothesis =>
      rw [List.cons_append, withoutBlanksFrom, withoutBlanksFrom, List.foldl_cons,
        inductionHypothesis]
      split
      · rfl
      · rfl

namespace Passes

theorem nil (region : Region) : Passes region [] [] region := ⟨rfl, rfl⟩

theorem append {first second third : Region} {left right leftKept rightKept : List Char}
    (leftPasses : Passes first left leftKept second)
    (rightPasses : Passes second right rightKept third) :
    Passes first (left ++ right) (leftKept ++ rightKept) third where
  region := by rw [List.foldl_append, leftPasses.region, rightPasses.region]
  kept := by
    rw [withoutBlanksFrom_append, leftPasses.region, leftPasses.kept, rightPasses.kept]

theorem cons {before after : Region} {character : Char} {later kept : List Char}
    (visible : ¬ (before = .between ∧ character.isWhitespace = true))
    (passes : Passes (before.next character) later kept after) :
    Passes before (character :: later) (character :: kept) after where
  region := passes.region
  kept := by rw [withoutBlanksFrom, if_neg visible, passes.kept]

theorem blanks {text : List Char} (blank : AreBlank text) : Compacts text [] := by
  induction text with
  | nil => exact nil .between
  | cons character later inductionHypothesis =>
      have isBlank := blank character List.mem_cons_self
      have laterPasses := inductionHypothesis
        (fun other member => blank other (List.mem_cons_of_mem character member))
      have stays : Region.between.next character = .between := by
        apply if_neg
        rintro rfl
        exact absurd isBlank (by decide)
      constructor
      · rw [List.foldl_cons, stays, laterPasses.region]
      · rw [withoutBlanksFrom, if_pos ⟨rfl, isBlank⟩, stays, laterPasses.kept]

theorem visible {text : List Char}
    (visible : ∀ character ∈ text, character.isWhitespace = false ∧ character ≠ '"') :
    Compacts text text := by
  induction text with
  | nil => exact nil .between
  | cons character later inductionHypothesis =>
      obtain ⟨notBlank, notQuote⟩ := visible character List.mem_cons_self
      have stays : Region.between.next character = .between := if_neg notQuote
      apply cons
      · simp [notBlank]
      · rw [stays]
        exact inductionHypothesis
          (fun other member => visible other (List.mem_cons_of_mem character member))

private theorem inString {text : List Char}
    (plain : ∀ character ∈ text, character ≠ '\\' ∧ character ≠ '"') :
    Passes .inside text text .inside := by
  induction text with
  | nil => exact nil .inside
  | cons character later inductionHypothesis =>
      obtain ⟨notBackslash, notQuote⟩ := plain character List.mem_cons_self
      have stays : Region.inside.next character = .inside := by
        rw [Region.next, if_neg notBackslash, if_neg notQuote]
      apply cons
      · simp
      · rw [stays]
        exact inductionHypothesis
          (fun other member => plain other (List.mem_cons_of_mem character member))

theorem escape (letter : Char) : Passes .inside ['\\', letter] ['\\', letter] .inside := by
  have escaped : Region.inside.next '\\' = .escaped := rfl
  apply cons (by simp)
  rw [escaped]
  exact cons (by simp) (nil .inside)

end Passes

/-! ### Strings and integers -/

private theorem passes_stringCharacter (character : Char) :
    Passes .inside (stringCharacter character) (stringCharacter character) .inside := by
  unfold stringCharacter
  split_ifs with quote backslash _ _ _ _ _ control
  · exact .escape '"'
  · exact .escape '\\'
  · exact .escape 'b'
  · exact .escape 'f'
  · exact .escape 'n'
  · exact .escape 'r'
  · exact .escape 't'
  · have plainDigits : ∀ number < 0x20,
        (List.replicate (4 - (Text.hexDigits number).length) '0' ++ Text.hexDigits number).all
          (fun digit => digit != '\\' && digit != '"') = true := by decide
    apply (Passes.escape 'u').append
    apply Passes.inString
    simpa using List.all_eq_true.mp (plainDigits character.toNat control)
  · apply Passes.inString
    simp [quote, backslash]

theorem compacts_stringText (value : List Char) :
    Compacts (stringText value) (stringText value) := by
  have opening : Passes .between ['"'] ['"'] .inside := ⟨rfl, rfl⟩
  have closing : Passes .inside ['"'] ['"'] .between := ⟨rfl, rfl⟩
  have body : Passes .inside (value.flatMap stringCharacter) (value.flatMap stringCharacter)
      .inside := by
    induction value with
    | nil => exact .nil .inside
    | cons character later inductionHypothesis =>
        exact (passes_stringCharacter character).append inductionHypothesis
  exact opening.append (body.append closing)

private theorem compacts_integerText (value : Int) :
    Compacts (integerText value) (integerText value) := by
  have digitsVisible : ∀ character ∈ Text.decimalDigits value.natAbs,
      character.isWhitespace = false ∧ character ≠ '"' := by
    intro character member
    have digit : character.isDigit = true :=
      Nat.isDigit_of_mem_toDigits (by decide) (by decide) member
    constructor
    · exact not_blank_of_numberCharacter character (isNumberCharacter_of_digit character digit)
    · rintro rfl
      exact absurd digit (by decide)
  have sign : Compacts ['-'] ['-'] := ⟨rfl, rfl⟩
  unfold integerText
  split
  · exact sign.append (.visible digitsVisible)
  · exact .visible digitsVisible

private theorem compacts_lineBreak (depth : Nat) : Compacts (lineBreak depth) [] := by
  apply Passes.blanks
  intro character member
  rcases List.mem_cons.mp member with rfl | later
  · rfl
  · rw [List.eq_of_mem_replicate later]
    rfl

/-! ### Trees -/

private theorem compacts_line (depth : Nat) {text kept : List Char}
    (compacts : Compacts text kept) :
    Compacts (lineBreak depth ++ text) kept :=
  (compacts_lineBreak depth).append compacts

private theorem compacts_field (name : String) {text kept : List Char}
    (compacts : Compacts text kept) :
    Compacts (stringText name.toList ++ ':' :: ' ' :: text)
      (stringText name.toList ++ ':' :: kept) := by
  have colon : Compacts [':', ' '] [':'] := ⟨rfl, rfl⟩
  exact (compacts_stringText name.toList).append (colon.append compacts)

private theorem indentedItems_eq_flatMap (depth : Nat) (items : List Json) :
    indentedItems depth items = items.flatMap
      (fun item => [','] ++ (lineBreak (depth + 1) ++ item.indentedText (depth + 1))) := by
  induction items with
  | nil => rfl
  | cons item later inductionHypothesis => simp [indentedItems, inductionHypothesis]

def indentedField (depth : Nat) (field : String × Json) : List Char :=
  stringText field.1.toList ++ ':' :: ' ' :: field.2.indentedText depth

private theorem indentedFields_eq_flatMap (depth : Nat) (fields : List (String × Json)) :
    indentedFields depth fields = fields.flatMap
      (fun field => [','] ++ (lineBreak (depth + 1) ++ indentedField (depth + 1) field)) := by
  induction fields with
  | nil => rfl
  | cons field later inductionHypothesis =>
      simp [indentedFields, indentedField, inductionHypothesis]

section Enclosed

variable {Part : Type} {wide narrow : Part → List Char}

private theorem compacts_lines (depth : Nat) (parts : List Part)
    (each : ∀ part ∈ parts, Compacts (wide part) (narrow part)) :
    Compacts (parts.flatMap (fun part => [','] ++ (lineBreak depth ++ wide part)))
      (parts.flatMap (fun part => [','] ++ narrow part)) := by
  have comma : Compacts [','] [','] := ⟨rfl, rfl⟩
  induction parts with
  | nil => exact .nil .between
  | cons part later inductionHypothesis =>
      have partCompacts := compacts_line depth (each part List.mem_cons_self)
      have laterCompacts := inductionHypothesis
        (fun other member => each other (List.mem_cons_of_mem part member))
      exact (comma.append partCompacts).append laterCompacts

theorem compacts_enclosed {opening closing : Char} (opens : Compacts [opening] [opening])
    (closes : Compacts [closing] [closing]) (depth : Nat) (first : Part) (later : List Part)
    (each : ∀ part ∈ first :: later, Compacts (wide part) (narrow part)) :
    Compacts
      (opening :: (lineBreak (depth + 1) ++ wide first ++
        later.flatMap (fun part => [','] ++ (lineBreak (depth + 1) ++ wide part)) ++
        lineBreak depth ++ [closing]))
      (opening :: (Text.joined [','] ((first :: later).map narrow) ++ [closing])) := by
  have firstCompacts := compacts_line (depth + 1) (each first List.mem_cons_self)
  have laterCompacts := compacts_lines (depth + 1) later
    (fun part member => each part (List.mem_cons_of_mem first member))
  -- the comma stands on the line of the part in front of it, so every part brings its own line
  have together := opens.append
    ((firstCompacts.append laterCompacts).append (compacts_line depth closes))
  rw [List.map_cons, Text.joined_cons, List.flatMap_map]
  rwa [← List.append_assoc _ _ [closing]] at together

end Enclosed

private theorem compacts_array (depth : Nat) (items : List Json)
    (inside : ∀ item ∈ items, ∀ depth, Compacts (item.indentedText depth) item.compactText) :
    Compacts ((array items).indentedText depth) (array items).compactText := by
  cases items with
  | nil =>
      rw [indentedText]
      exact ⟨rfl, rfl⟩
  | cons item later =>
      rw [indentedText, indentedItems_eq_flatMap, compactText, compactItems_eq_joined]
      exact compacts_enclosed ⟨rfl, rfl⟩ ⟨rfl, rfl⟩ depth item later
        (fun part member => inside part member (depth + 1))

private theorem compacts_object (depth : Nat) (fields : List (String × Json))
    (inside : ∀ field ∈ fields, ∀ depth,
      Compacts (field.2.indentedText depth) field.2.compactText) :
    Compacts ((object fields).indentedText depth) (object fields).compactText := by
  cases fields with
  | nil =>
      rw [indentedText]
      exact ⟨rfl, rfl⟩
  | cons field later =>
      have opens : Compacts ['\x7b'] ['\x7b'] := ⟨rfl, rfl⟩
      have closes : Compacts ['\x7d'] ['\x7d'] := ⟨rfl, rfl⟩
      have each : ∀ part ∈ field :: later,
          Compacts (indentedField (depth + 1) part) (compactField part) :=
        fun part member => compacts_field part.1 (inside part member (depth + 1))
      have enclosed := compacts_enclosed opens closes depth field later each
      rw [compactText, compactFields_eq_joined]
      simpa [indentedText, indentedFields_eq_flatMap, indentedField] using enclosed

theorem compacts_indentedText {tree : Json} (integral : tree.Integral) (depth : Nat) :
    Compacts (tree.indentedText depth) tree.compactText := by
  induction integral generalizing depth with
  | null => exact ⟨rfl, rfl⟩
  | boolean value => cases value <;> exact ⟨rfl, rfl⟩
  | integer value => exact compacts_integerText value
  | text value => exact compacts_stringText value.toList
  | array _ inductionHypothesis => exact compacts_array depth _ inductionHypothesis
  | object _ inductionHypothesis => exact compacts_object depth _ inductionHypothesis

/-- The indented text of a tree is its compact text with blanks between strings. -/
theorem withoutBlanks_indentedText {tree : Json} (integral : tree.Integral) (depth : Nat) :
    withoutBlanks (tree.indentedText depth) = tree.compactText :=
  (compacts_indentedText integral depth).kept

example :
    (array [text "a \" b"]).indentedText 0 = "[\n  \"a \\\" b\"\n]".toList ∧
      withoutBlanks "[\n  \"a \\\" b\"\n]".toList = "[\"a \\\" b\"]".toList := by
  decide

end Json

private theorem integral_array_toJson (tokens : List Token) :
    (Json.array (tokens.map Token.toJson)).Integral := by
  apply Json.Integral.array
  intro tree member
  obtain ⟨token, _, rfl⟩ := List.mem_map.mp member
  exact token.integral_toJson

/-- Token sequences are written alike in both ways: with the blanks between strings deleted, the
indented text of the sequence is the compact text of the list value that holds its tokens. -/
theorem tokensJsonText_without_blanks (tokens : List Token) :
    Json.withoutBlanks (tokensJsonText tokens) = (Value.list (tokens.map .token)).jsonText := by
  have sameTree : (Value.list (tokens.map .token)).toJson =
      .array (tokens.map Token.toJson) := by
    rw [Value.toJson, Value.toJsons_eq_map, List.map_map]
    rfl
  rw [Value.jsonText, sameTree]
  exact Json.withoutBlanks_indentedText (integral_array_toJson tokens) 0

end TokenGrammar
