import TokenGrammar.Matcher.Display
import TokenGrammar.Proofs.SelfDelimiting

set_option autoImplicit false

/-! What the structural text of a matcher tells. Every node is bracketed and every quoted text ends
at its closing quote, so a node can be read off the front of any text that it starts. The main
statement is that two matchers have one structural text exactly if they are the same tree, with
transforms at the same nodes. -/

namespace TokenGrammar

/-! ### Leaves -/

namespace TokenTest

private theorem structuralText_kind (wanted : TokenKind) :
    (kind wanted).structuralText = "Kind(".toList ++ wanted.title.toList ++ [')'] := rfl

private theorem structuralText_text (wanted : String) :
    (text wanted).structuralText = "Value(".toList ++ Text.quoted wanted.toList ++ [')'] := rfl

private theorem structuralText_kindText (wantedKind : TokenKind) (wanted : String) :
    (kindText wantedKind wanted).structuralText =
      "KindValue(".toList ++ wantedKind.title.toList ++ ", ".toList ++
        Text.quoted wanted.toList ++ [')'] := rfl

private theorem selfDelimiting_structuralText : Text.SelfDelimiting structuralText := by
  intro left right rest others same
  cases left with
  | kind wanted =>
      cases right with
      | kind other =>
          simp only [structuralText_kind, List.append_assoc] at same
          obtain ⟨rfl, closed⟩ :=
            TokenKind.selfDelimiting_title _ _ _ _ (List.append_cancel_left same)
          exact ⟨rfl, (List.cons.inj closed).2⟩
      | text other => simp [structuralText_kind, structuralText_text] at same
      | kindText otherKind other => simp [structuralText_kind, structuralText_kindText] at same
  | text wanted =>
      cases right with
      | kind other => simp [structuralText_kind, structuralText_text] at same
      | text other =>
          simp only [structuralText_text, List.append_assoc] at same
          obtain ⟨sameText, closed⟩ :=
            Text.selfDelimiting_quoted _ _ _ _ (List.append_cancel_left same)
          exact ⟨congrArg text (String.toList_inj.mp sameText), (List.cons.inj closed).2⟩
      | kindText otherKind other => simp [structuralText_text, structuralText_kindText] at same
  | kindText wantedKind wanted =>
      cases right with
      | kind other => simp [structuralText_kind, structuralText_kindText] at same
      | text other => simp [structuralText_text, structuralText_kindText] at same
      | kindText otherKind other =>
          simp only [structuralText_kindText, List.append_assoc] at same
          obtain ⟨rfl, behindKind⟩ :=
            TokenKind.selfDelimiting_title _ _ _ _ (List.append_cancel_left same)
          obtain ⟨sameText, closed⟩ :=
            Text.selfDelimiting_quoted _ _ _ _ (List.append_cancel_left behindKind)
          exact ⟨congrArg (kindText wantedKind) (String.toList_inj.mp sameText),
            (List.cons.inj closed).2⟩

end TokenTest

namespace Matcher

/-- The tree and the nodes that carry a transform: the matcher with each of its transforms replaced
by the one that changes nothing. -/
def outline : Matcher → Matcher
  | .token test transform => .token test (transform.map (fun _ => id))
  | .finish transform => .finish (transform.map (fun _ => id))
  | .alternation branches transform =>
      .alternation (branches.map outline) (transform.map (fun _ => id))
  | .sequence items transform => .sequence (items.map outline) (transform.map (fun _ => id))
  | .repetition item least most transform =>
      .repetition item.outline least most (transform.map (fun _ => id))

/-! ### Nodes -/

theorem nodeText_append (pattern : List Char) (transform : Option Transform) (rest : List Char) :
    nodeText pattern transform ++ rest =
      "Matcher \x7b pattern: ".toList ++ (pattern ++ (", transform: ".toList ++
        (transformText transform ++ (" \x7d".toList ++ rest)))) := by
  have unfolded : nodeText pattern transform =
    "Matcher \x7b pattern: ".toList ++ pattern ++ ", transform: ".toList ++
      transformText transform ++ " \x7d".toList := rfl
  rw [unfolded, List.append_assoc, List.append_assoc, List.append_assoc, List.append_assoc]

private theorem transformText_none : transformText none = "None".toList := rfl

private theorem transformText_some (transform : Transform) :
    transformText (some transform) = "Some(\"<fn>\")".toList := rfl

private theorem mostText_none : mostText none = "None".toList := rfl

private theorem mostText_some (bound : Nat) :
    mostText (some bound) = "Some(".toList ++ Text.decimalDigits bound ++ [')'] := rfl

private theorem transformText_append_inj (left right : Option Transform) (rest others : List Char)
    (same : transformText left ++ rest = transformText right ++ others) :
    left.map (fun _ => (id : Transform)) = right.map (fun _ => (id : Transform)) ∧
      rest = others := by
  cases left <;> cases right <;> simp_all [transformText_none, transformText_some]

private theorem mostText_append_inj (left right : Option Nat) (rest others : List Char)
    (same : mostText left ++ rest = mostText right ++ others) : left = right ∧ rest = others := by
  cases left with
  | none =>
      cases right with
      | none => exact ⟨rfl, List.append_cancel_left same⟩
      | some bound => simp [mostText_none, mostText_some] at same
  | some bound =>
      cases right with
      | none => simp [mostText_none, mostText_some] at same
      | some other =>
          simp only [mostText_some, List.append_assoc] at same
          obtain ⟨rfl, sameRest⟩ := Text.decimalDigits_append_inj ')' (by decide) _ _ _ _
            (List.append_cancel_left same)
          exact ⟨rfl, sameRest⟩

/-- A node is read off if its pattern is. -/
theorem nodeText_append_inj (left right : List Char)
    (leftTransform rightTransform : Option Transform) (rest others : List Char) (alike : Prop)
    (patterns : ∀ behind otherBehind, left ++ behind = right ++ otherBehind →
      alike ∧ behind = otherBehind)
    (same : nodeText left leftTransform ++ rest = nodeText right rightTransform ++ others) :
    alike ∧
      leftTransform.map (fun _ => (id : Transform)) =
        rightTransform.map (fun _ => (id : Transform)) ∧ rest = others := by
  rw [nodeText_append, nodeText_append] at same
  obtain ⟨sameTree, behindPattern⟩ := patterns _ _ (List.append_cancel_left same)
  obtain ⟨sameTransform, behindNode⟩ :=
    transformText_append_inj _ _ _ _ (List.append_cancel_left behindPattern)
  exact ⟨sameTree, sameTransform, List.append_cancel_left behindNode⟩

def patternInitial : Matcher → Char
  | token (.kind _) _ => 'K'
  | token (.text _) _ => 'V'
  | token (.kindText _ _) _ => 'K'
  | finish _ => 'E'
  | alternation _ _ => 'A'
  | sequence _ _ => 'S'
  | repetition _ _ _ _ => 'R'

theorem exists_structuralText_eq (matcher : Matcher) :
    ∃ more, matcher.structuralText =
      "Matcher \x7b pattern: ".toList ++ matcher.patternInitial :: more := by
  cases matcher with
  | token test transform =>
      cases test with
      | kind wanted => exact ⟨_, rfl⟩
      | text wanted => exact ⟨_, rfl⟩
      | kindText wantedKind wanted => exact ⟨_, rfl⟩
  | _ => exact ⟨_, rfl⟩

theorem patternInitial_eq (left right : Matcher) (rest others : List Char)
    (same : left.structuralText ++ rest = right.structuralText ++ others) :
    left.patternInitial = right.patternInitial := by
  obtain ⟨more, leftText⟩ := left.exists_structuralText_eq
  obtain ⟨otherMore, rightText⟩ := right.exists_structuralText_eq
  rw [leftText, rightText, List.append_assoc, List.append_assoc] at same
  exact (List.cons.inj (List.append_cancel_left same)).1

/-! ### Trees -/

/-- The matcher can be read off the front of any text that its structural text starts. -/
def ReadOff (left : Matcher) : Prop :=
  ∀ (right : Matcher) (rest others : List Char),
    left.structuralText ++ rest = right.structuralText ++ others →
      left.outline = right.outline ∧ rest = others

private theorem structuralTexts_cons (matcher : Matcher) (later : List Matcher) :
    structuralTexts (matcher :: later) =
      matcher.structuralText ++ later.flatMap (fun next => ", ".toList ++ next.structuralText) := by
  induction later generalizing matcher with
  | nil => rw [structuralTexts, List.flatMap_nil, List.append_nil]
  | cons next others inductionHypothesis =>
      rw [structuralTexts, inductionHypothesis, List.flatMap_cons]
      simp only [List.append_assoc]
      simp

private theorem later_append_inj (items otherItems : List Matcher) (rest others : List Char)
    (each : ∀ item ∈ items, item.ReadOff)
    (same : items.flatMap (fun next => ", ".toList ++ next.structuralText) ++ ']' :: rest =
      otherItems.flatMap (fun next => ", ".toList ++ next.structuralText) ++ ']' :: others) :
    items.map outline = otherItems.map outline ∧ rest = others := by
  induction items generalizing otherItems with
  | nil =>
      cases otherItems with
      | nil => exact ⟨rfl, (List.cons.inj same).2⟩
      | cons other more => simp at same
  | cons item later inductionHypothesis =>
      cases otherItems with
      | nil => simp at same
      | cons other more =>
          rw [List.flatMap_cons, List.flatMap_cons] at same
          simp only [List.append_assoc] at same
          obtain ⟨sameItem, behind⟩ :=
            each item List.mem_cons_self _ _ _ (List.append_cancel_left same)
          obtain ⟨sameLater, sameRest⟩ := inductionHypothesis more
            (fun next member => each next (List.mem_cons_of_mem item member)) behind
          exact ⟨by rw [List.map_cons, List.map_cons, sameItem, sameLater], sameRest⟩

private theorem structuralTexts_append_inj (items otherItems : List Matcher)
    (rest others : List Char) (each : ∀ item ∈ items, item.ReadOff)
    (same : structuralTexts items ++ ']' :: rest = structuralTexts otherItems ++ ']' :: others) :
    items.map outline = otherItems.map outline ∧ rest = others := by
  cases items with
  | nil =>
      cases otherItems with
      | nil => exact ⟨rfl, (List.cons.inj same).2⟩
      | cons other more =>
          obtain ⟨_, written⟩ := other.exists_structuralText_eq
          rw [structuralTexts, structuralTexts_cons, written] at same
          simp at same
  | cons item later =>
      cases otherItems with
      | nil =>
          obtain ⟨_, written⟩ := item.exists_structuralText_eq
          rw [structuralTexts, structuralTexts_cons, written] at same
          simp at same
      | cons other more =>
          rw [structuralTexts_cons, structuralTexts_cons, List.append_assoc,
            List.append_assoc] at same
          obtain ⟨sameItem, behind⟩ := each item List.mem_cons_self _ _ _ same
          obtain ⟨sameLater, sameRest⟩ := later_append_inj later more rest others
            (fun next member => each next (List.mem_cons_of_mem item member)) behind
          exact ⟨by rw [List.map_cons, List.map_cons, sameItem, sameLater], sameRest⟩

theorem listText_append_inj (word : List Char) (items otherItems : List Matcher)
    (rest others : List Char) (each : ∀ item ∈ items, item.ReadOff)
    (same : word ++ structuralTexts items ++ "])".toList ++ rest =
      word ++ structuralTexts otherItems ++ "])".toList ++ others) :
    items.map outline = otherItems.map outline ∧ rest = others := by
  simp only [List.append_assoc] at same
  obtain ⟨sameItems, closed⟩ := structuralTexts_append_inj items otherItems (')' :: rest)
    (')' :: others) each (List.append_cancel_left same)
  exact ⟨sameItems, (List.cons.inj closed).2⟩

private theorem readOff_token (test : TokenTest) (transform : Option Transform) :
    (token test transform).ReadOff := by
  intro right rest others same
  have initial := patternInitial_eq _ _ _ _ same
  cases right with
  | token other otherTransform =>
      rw [structuralText, structuralText] at same
      obtain ⟨rfl, sameTransform, sameRest⟩ := nodeText_append_inj _ _ _ _ _ _ (test = other)
        (TokenTest.selfDelimiting_structuralText test other) same
      exact ⟨by rw [outline, outline, sameTransform], sameRest⟩
  | _ => cases test <;> simp [patternInitial] at initial

private theorem readOff_finish (transform : Option Transform) : (finish transform).ReadOff := by
  intro right rest others same
  have initial := patternInitial_eq _ _ _ _ same
  cases right with
  | token test otherTransform => cases test <;> simp [patternInitial] at initial
  | finish otherTransform =>
      rw [structuralText, structuralText] at same
      obtain ⟨_, sameTransform, sameRest⟩ := nodeText_append_inj _ _ _ _ _ _ True
        (fun _ _ behind => ⟨trivial, List.append_cancel_left behind⟩) same
      exact ⟨by rw [outline, outline, sameTransform], sameRest⟩
  | _ => simp [patternInitial] at initial

private theorem readOff_alternation (branches : List Matcher) (transform : Option Transform)
    (each : ∀ branch ∈ branches, branch.ReadOff) : (alternation branches transform).ReadOff := by
  intro right rest others same
  have initial := patternInitial_eq _ _ _ _ same
  cases right with
  | token test otherTransform => cases test <;> simp [patternInitial] at initial
  | alternation otherBranches otherTransform =>
      rw [structuralText, structuralText] at same
      obtain ⟨sameBranches, sameTransform, sameRest⟩ := nodeText_append_inj _ _ _ _ _ _
        (branches.map outline = otherBranches.map outline)
        (fun _ _ => listText_append_inj _ branches otherBranches _ _ each) same
      exact ⟨by rw [outline, outline, sameBranches, sameTransform], sameRest⟩
  | _ => simp [patternInitial] at initial

private theorem readOff_sequence (items : List Matcher) (transform : Option Transform)
    (each : ∀ item ∈ items, item.ReadOff) : (sequence items transform).ReadOff := by
  intro right rest others same
  have initial := patternInitial_eq _ _ _ _ same
  cases right with
  | token test otherTransform => cases test <;> simp [patternInitial] at initial
  | sequence otherItems otherTransform =>
      rw [structuralText, structuralText] at same
      obtain ⟨sameItems, sameTransform, sameRest⟩ := nodeText_append_inj _ _ _ _ _ _
        (items.map outline = otherItems.map outline)
        (fun _ _ => listText_append_inj _ items otherItems _ _ each) same
      exact ⟨by rw [outline, outline, sameItems, sameTransform], sameRest⟩
  | _ => simp [patternInitial] at initial

private theorem readOff_repetition (item : Matcher) (least : Nat) (most : Option Nat)
    (transform : Option Transform) (itemRead : item.ReadOff) :
    (repetition item least most transform).ReadOff := by
  intro right rest others same
  have initial := patternInitial_eq _ _ _ _ same
  cases right with
  | token test otherTransform => cases test <;> simp [patternInitial] at initial
  | repetition otherItem otherLeast otherMost otherTransform =>
      rw [structuralText, structuralText] at same
      obtain ⟨⟨sameItem, rfl, rfl⟩, sameTransform, sameRest⟩ := nodeText_append_inj _ _ _ _ _ _
        (item.outline = otherItem.outline ∧ least = otherLeast ∧ most = otherMost)
        (fun behind otherBehind inside => by
          simp only [List.append_assoc] at inside
          obtain ⟨sameItem, behindItem⟩ := itemRead _ _ _ (List.append_cancel_left inside)
          obtain ⟨rfl, behindLeast⟩ := Text.decimalDigits_append_inj ',' (by decide) _ _
            (" max: ".toList ++ _) (" max: ".toList ++ _) (List.append_cancel_left behindItem)
          obtain ⟨rfl, behindMost⟩ :=
            mostText_append_inj _ _ _ _ (List.append_cancel_left behindLeast)
          exact ⟨⟨sameItem, rfl, rfl⟩, List.append_cancel_left behindMost⟩) same
      exact ⟨by rw [outline, outline, sameItem, sameTransform], sameRest⟩
  | _ => simp [patternInitial] at initial

theorem readOff (matcher : Matcher) : matcher.ReadOff := by
  induction matcher with
  | token test transform => exact readOff_token test transform
  | finish transform => exact readOff_finish transform
  | alternation branches transform each => exact readOff_alternation branches transform each
  | sequence items transform each => exact readOff_sequence items transform each
  | repetition item least most transform itemRead =>
      exact readOff_repetition item least most transform itemRead

/-! ### What is not told -/

private theorem transformText_outline (transform : Option Transform) :
    transformText (transform.map (fun _ => (id : Transform))) = transformText transform := by
  cases transform <;> rfl

theorem nodeText_outline (pattern : List Char) (transform : Option Transform) :
    nodeText pattern (transform.map (fun _ => (id : Transform))) = nodeText pattern transform := by
  have same := nodeText_append pattern (transform.map (fun _ => (id : Transform))) []
  rw [transformText_outline, ← nodeText_append, List.append_nil, List.append_nil] at same
  exact same

theorem structuralTexts_map_outline (items : List Matcher)
    (each : ∀ item ∈ items, item.outline.structuralText = item.structuralText) :
    structuralTexts (items.map outline) = structuralTexts items := by
  cases items with
  | nil => rfl
  | cons item later =>
      rw [List.map_cons, structuralTexts_cons, structuralTexts_cons, List.flatMap_map,
        each item List.mem_cons_self]
      congr 1
      apply List.flatMap_congr
      intro next member
      rw [each next (List.mem_cons_of_mem item member)]

theorem structuralText_outline (matcher : Matcher) :
    matcher.outline.structuralText = matcher.structuralText := by
  induction matcher with
  | token test transform =>
      rw [outline, structuralText, structuralText, nodeText_outline]
  | finish transform =>
      rw [outline, structuralText, structuralText, nodeText_outline]
  | alternation branches transform each =>
      rw [outline, structuralText, structuralText, nodeText_outline,
        structuralTexts_map_outline branches each]
  | sequence items transform each =>
      rw [outline, structuralText, structuralText, nodeText_outline,
        structuralTexts_map_outline items each]
  | repetition item least most transform itemSame =>
      rw [outline, structuralText, structuralText, nodeText_outline, itemSame]

/-- Two matchers have one structural text exactly if they are the same tree, node by node with the
same tests, texts, bounds, branches and items in order, and carry transforms at the same nodes. What
the transforms do is not told. -/
theorem structural_eq_iff_same_outline (left right : Matcher) :
    left.structural = right.structural ↔ left.outline = right.outline := by
  unfold structural
  rw [String.ofList_inj]
  constructor
  · intro same
    have inFront : left.structuralText ++ [] = right.structuralText ++ [] := by
      rw [same]
    exact (left.readOff right [] [] inFront).1
  · intro same
    rw [← left.structuralText_outline, same, right.structuralText_outline]

end Matcher

end TokenGrammar
