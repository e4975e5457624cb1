import Mathlib.Data.List.Induction
import TokenGrammar.Proofs.CompactSigns
import TokenGrammar.Proofs.TreeShapes

set_option autoImplicit false

/-! What the compact text of a matcher tells. It leaves two things open: whether a kind and a quoted
text inside parentheses are one leaf or two items of a sequence, and whether empty parentheses are
an alternation without branches or a sequence without items. The signs of a text are read from the
right, where every node shows its case first. The main statement is that nothing else is open: two
matchers with one text that agree on these places reach the same positions from everywhere. -/

namespace TokenGrammar

/-- How a place that a compact text leaves open is meant: a kind as a leaf of its own or as one leaf
with the text behind it, empty parentheses as an alternation without branches or as a sequence
without items. -/
inductive Reading where
  | kindAlone
  | kindWithText
  | noBranches
  | noItems
  deriving DecidableEq

namespace Matcher

def readings : Matcher → List Reading
  | .token (.kind _) _ => [.kindAlone]
  | .token (.text _) _ => []
  | .token (.kindText _ _) _ => [.kindWithText]
  | .finish _ => []
  | .alternation branches _ =>
      (if branches.isEmpty then [.noBranches] else []) ++ branches.flatMap readings
  | .sequence items _ => (if items.isEmpty then [.noItems] else []) ++ items.flatMap readings
  | .repetition item _ _ _ => item.readings

theorem readings_shape (matcher : Matcher) : matcher.shape.readings = matcher.readings := by
  induction matcher with
  | token test transform => cases test <;> simp [shape, readings]
  | finish transform => simp [shape, readings]
  | alternation branches transform each =>
      have branchesSame : (branches.map shape).flatMap readings = branches.flatMap readings := by
        rw [List.flatMap_map]
        exact List.flatMap_congr each
      rw [shape]
      split
      · rename_i single
        have nonempty : branches.isEmpty = false := by
          rw [List.isEmpty_eq_false_iff, ← List.length_pos_iff, single]
          exact Nat.one_pos
        rw [readings, readings, List.isEmpty_map, nonempty, branchesSame]
        rfl
      · rw [readings, readings, List.isEmpty_map, branchesSame]
  | sequence items transform each =>
      have itemsSame : (items.map shape).flatMap readings = items.flatMap readings := by
        rw [List.flatMap_map]
        exact List.flatMap_congr each
      rw [shape, readings, readings, List.isEmpty_map, itemsSame]
  | repetition item least most transform itemSame => rw [shape, readings, readings, itemSame]

/-! ### Matchers that can be mistaken for each other -/

/-- A leaf with the test, or a repetition of one, any number of times over. -/
def IsRepeated (test : TokenTest) : Matcher → Prop
  | .token own _ => own = test
  | .repetition item _ _ _ => item.IsRepeated test
  | _ => False

/-- In one of its sequences a leaf for the kind stands right before a leaf for the text, which may
be repeated. -/
def HoldsPair (kind : TokenKind) (text : String) (matcher : Matcher) : Prop :=
  ∃ before kindTransform next after transform,
    sequence (before ++ token (.kind kind) kindTransform :: next :: after) transform
      ∈ matcher.nodes ∧ next.IsRepeated (.text text)

def HoldsLeaf (kind : TokenKind) (text : String) (matcher : Matcher) : Prop :=
  ∃ transform, token (.kindText kind text) transform ∈ matcher.nodes

/-- The first matcher holds two leaves that are written like one leaf of the second, or an
alternation without branches, written like a sequence without items of the second. -/
def Mistakable (left right : Matcher) : Prop :=
  (∃ kind text, left.HoldsPair kind text ∧ right.HoldsLeaf kind text) ∨
    ((∃ transform, alternation [] transform ∈ left.nodes) ∧
      ∃ transform, sequence [] transform ∈ right.nodes)

theorem Mistakable.mono {left right wider otherWider : Matcher}
    (mistakable : left.Mistakable right) (inside : left.nodes ⊆ wider.nodes)
    (otherInside : right.nodes ⊆ otherWider.nodes) : wider.Mistakable otherWider := by
  rcases mistakable with
    ⟨kind, text, ⟨before, kindTransform, next, after, transform, pair, repeated⟩, leaf⟩ |
      ⟨⟨transform, noBranches⟩, ⟨otherTransform, noItems⟩⟩
  · obtain ⟨leafTransform, leafNode⟩ := leaf
    exact Or.inl ⟨kind, text,
      ⟨before, kindTransform, next, after, transform, inside pair, repeated⟩,
      ⟨leafTransform, otherInside leafNode⟩⟩
  · exact Or.inr ⟨⟨transform, inside noBranches⟩, ⟨otherTransform, otherInside noItems⟩⟩

/-- Two matchers can be mistaken for each other, and their readings, as far as they go, do not end
alike. -/
def Apart (left right : Matcher) (leftReadings rightReadings : List Reading) : Prop :=
  (left.Mistakable right ∨ right.Mistakable left) ∧
    ∀ front otherFront, front ++ leftReadings ≠ otherFront ++ rightReadings

namespace Apart

variable {left right : Matcher} {leftReadings rightReadings : List Reading}

theorem symm (apart : Apart left right leftReadings rightReadings) :
    Apart right left rightReadings leftReadings :=
  ⟨apart.1.symm, fun front otherFront same => apart.2 otherFront front same.symm⟩

theorem mono (apart : Apart left right leftReadings rightReadings) {wider otherWider : Matcher}
    (inside : left.nodes ⊆ wider.nodes) (otherInside : right.nodes ⊆ otherWider.nodes) :
    Apart wider otherWider leftReadings rightReadings :=
  ⟨apart.1.imp (fun mistakable => mistakable.mono inside otherInside)
    (fun mistakable => mistakable.mono otherInside inside), apart.2⟩

theorem append_left (apart : Apart left right leftReadings rightReadings)
    (more otherMore : List Reading) :
    Apart left right (more ++ leftReadings) (otherMore ++ rightReadings) := by
  refine ⟨apart.1, fun front otherFront same => ?_⟩
  rw [← List.append_assoc, ← List.append_assoc] at same
  exact apart.2 _ _ same

private theorem append_right (apart : Apart left right leftReadings rightReadings)
    (behind : List Reading) :
    Apart left right (leftReadings ++ behind) (rightReadings ++ behind) := by
  refine ⟨apart.1, fun front otherFront same => ?_⟩
  rw [← List.append_assoc, ← List.append_assoc] at same
  exact apart.2 _ _ (List.append_cancel_right same)

end Apart

/-! ### Leaves that may be repeated -/

private theorem readings_of_isRepeated_text (text : String) (matcher : Matcher)
    (repeated : matcher.IsRepeated (.text text)) : matcher.readings = [] := by
  induction matcher with
  | token test transform =>
      cases repeated
      rw [readings]
  | finish transform => cases repeated
  | alternation branches transform each => cases repeated
  | sequence items transform each => cases repeated
  | repetition item least most transform itemHolds =>
      rw [readings]
      exact itemHolds repeated

private theorem readings_of_isRepeated_kindText (kind : TokenKind) (text : String)
    (matcher : Matcher) (repeated : matcher.IsRepeated (.kindText kind text)) :
    matcher.readings = [.kindWithText] ∧ matcher.HoldsLeaf kind text := by
  induction matcher with
  | token test transform =>
      cases repeated
      exact ⟨by rw [readings], ⟨transform, self_mem_nodes _⟩⟩
  | finish transform => cases repeated
  | alternation branches transform each => cases repeated
  | sequence items transform each => cases repeated
  | repetition item least most transform itemHolds =>
      obtain ⟨itemReadings, leafTransform, leaf⟩ := itemHolds repeated
      refine ⟨by rw [readings, itemReadings], ⟨leafTransform, ?_⟩⟩
      exact nodes_subset_of_mem_parts _ item (List.mem_singleton.mpr rfl) leaf

/-! ### The last sign -/

def lastSign : Matcher → Sign
  | .token (.kind kind) _ => .name kind
  | .token (.text text) _ => .quoted text
  | .token (.kindText _ text) _ => .quoted text
  | .finish _ => .finish
  | .alternation _ _ => .closed
  | .sequence _ _ => .closed
  | .repetition _ least most _ => .bounds least most

private theorem exists_signs_eq (matcher : Matcher) :
    ∃ front, matcher.signs = front ++ [matcher.lastSign] := by
  cases matcher with
  | token test transform =>
      cases test with
      | kind kind => exact ⟨[], by simp [signs, lastSign]⟩
      | text text => exact ⟨[], by simp [signs, lastSign]⟩
      | kindText kind text => exact ⟨[.name kind, .blank], by simp [signs, lastSign]⟩
  | finish transform => exact ⟨[], by simp [signs, lastSign]⟩
  | alternation branches transform =>
      exact ⟨.opened :: separatedSigns .bar branches, by simp [signs, lastSign]⟩
  | sequence items transform =>
      exact ⟨.opened :: separatedSigns .blank items, by simp [signs, lastSign]⟩
  | repetition item least most transform => exact ⟨item.signs, by rw [signs, lastSign]⟩

private theorem lastSign_eq_of_append (matcher : Matcher) (front signs : List Sign) (last : Sign)
    (same : front ++ matcher.signs = signs ++ [last]) : matcher.lastSign = last := by
  obtain ⟨_, ends⟩ := matcher.exists_signs_eq
  rw [ends, ← List.append_assoc] at same
  exact (List.append_singleton_inj.mp same).2

private theorem lastSign_eq (left right : Matcher) (front otherFront : List Sign)
    (same : front ++ left.signs = otherFront ++ right.signs) : left.lastSign = right.lastSign := by
  obtain ⟨_, ends⟩ := right.exists_signs_eq
  rw [ends, ← List.append_assoc] at same
  exact left.lastSign_eq_of_append _ _ _ same

private theorem exists_token_of_lastSign_name (matcher : Matcher) (kind : TokenKind)
    (last : matcher.lastSign = .name kind) :
    ∃ transform, matcher = token (.kind kind) transform := by
  cases matcher with
  | token test transform =>
      cases test with
      | kind own =>
          cases last
          exact ⟨transform, rfl⟩
      | _ => cases last
  | _ => cases last

private theorem lastSign_ne_opened (matcher : Matcher) : matcher.lastSign ≠ .opened := by
  cases matcher with
  | token test transform => cases test <;> simp [lastSign]
  | _ => simp [lastSign]

/-! ### Two matchers read from the right -/

/-- The first matcher ends in a leaf for a text where the second has one leaf for a kind and the
text, so that the kind stands in front of the first. -/
def SplitLeaf (left right : Matcher) (front otherFront : List Sign) : Prop :=
  ∃ kind text, left.IsRepeated (.text text) ∧ right.IsRepeated (.kindText kind text) ∧
    front = otherFront ++ [.name kind, .blank]

/-- What can be said of two matchers that end the same signs. -/
inductive Compared (left right : Matcher) (front otherFront : List Sign) : Prop
  | alike (shapes : left.shape = right.shape) (fronts : front = otherFront)
  | apart (apart : Apart left right left.readings right.readings)
  | splitLeft (split : SplitLeaf left right front otherFront)
  | splitRight (split : SplitLeaf right left otherFront front)

theorem Compared.symm {left right : Matcher} {front otherFront : List Sign}
    (compared : Compared left right front otherFront) : Compared right left otherFront front := by
  cases compared with
  | alike shapes fronts => exact .alike shapes.symm fronts.symm
  | apart apart => exact .apart apart.symm
  | splitLeft split => exact .splitRight split
  | splitRight split => exact .splitLeft split

def ReadBack (left : Matcher) : Prop :=
  ∀ (right : Matcher) (front otherFront : List Sign),
    front ++ left.signs = otherFront ++ right.signs → Compared left right front otherFront

theorem signs_kindText (kind : TokenKind) (text : String) (transform : Option Transform) :
    (token (.kindText kind text) transform).signs = [.name kind, .blank] ++ [.quoted text] := by
  rw [signs]
  rfl

private theorem readBack_token (test : TokenTest) (transform : Option Transform) :
    (token test transform).ReadBack := by
  intro right front otherFront same
  have last := lastSign_eq _ _ _ _ same
  cases right with
  | token other otherTransform =>
      cases test with
      | kind kind =>
          cases other with
          | kind otherKind =>
              cases last
              exact .alike (by rw [shape, shape]) (List.append_cancel_right same)
          | _ => cases last
      | text text =>
          cases other with
          | kind otherKind => cases last
          | text otherText =>
              cases last
              exact .alike (by rw [shape, shape]) (List.append_cancel_right same)
          | kindText otherKind otherText =>
              cases last
              rw [signs_kindText, signs, ← List.append_assoc] at same
              exact .splitLeft ⟨otherKind, text, rfl, rfl, List.append_cancel_right same⟩
      | kindText kind text =>
          cases other with
          | kind otherKind => cases last
          | text otherText =>
              cases last
              rw [signs_kindText, signs, ← List.append_assoc] at same
              exact .splitRight ⟨kind, text, rfl, rfl, (List.append_cancel_right same).symm⟩
          | kindText otherKind otherText =>
              cases last
              rw [signs_kindText, signs_kindText, ← List.append_assoc, ← List.append_assoc] at same
              obtain ⟨fronts, kinds⟩ := List.append_inj' (List.append_cancel_right same) rfl
              cases kinds
              exact .alike (by rw [shape, shape]) fronts
  | _ => cases test <;> cases last

private theorem readBack_finish (transform : Option Transform) : (finish transform).ReadBack := by
  intro right front otherFront same
  have last := lastSign_eq _ _ _ _ same
  cases right with
  | token other otherTransform => cases other <;> cases last
  | finish otherTransform =>
      rw [signs, signs] at same
      exact .alike (by rw [shape, shape]) (List.append_cancel_right same)
  | _ => cases last

private theorem readBack_repetition (item : Matcher) (least : Nat) (most : Option Nat)
    (transform : Option Transform) (itemRead : item.ReadBack) :
    (repetition item least most transform).ReadBack := by
  intro right front otherFront same
  have last := lastSign_eq _ _ _ _ same
  cases right with
  | token other otherTransform => cases other <;> cases last
  | repetition otherItem otherLeast otherMost otherTransform =>
      cases last
      rw [signs, signs, ← List.append_assoc, ← List.append_assoc] at same
      cases itemRead otherItem _ _ (List.append_cancel_right same) with
      | alike shapes fronts => exact .alike (by rw [shape, shape, shapes]) fronts
      | apart apart =>
          refine .apart ?_
          rw [readings, readings]
          exact apart.mono (nodes_subset_of_mem_parts _ item (List.mem_singleton.mpr rfl))
            (nodes_subset_of_mem_parts _ otherItem (List.mem_singleton.mpr rfl))
      | splitLeft split => exact .splitLeft split
      | splitRight split => exact .splitRight split
  | _ => cases last

/-! ### Groups -/

/-- The signs of a group in front of its next part, from its parenthesis on. -/
def leadIn (separator : Sign) : List Matcher → List Sign
  | [] => [.opened]
  | items => .opened :: (separatedSigns separator items ++ [separator])

private theorem separatedSigns_cons (separator : Sign) (matcher : Matcher) (later : List Matcher) :
    separatedSigns separator (matcher :: later) =
      matcher.signs ++ later.flatMap (fun next => separator :: next.signs) := by
  induction later generalizing matcher with
  | nil => rw [separatedSigns, List.flatMap_nil, List.append_nil]
  | cons next others inductionHypothesis =>
      rw [separatedSigns, inductionHypothesis, List.flatMap_cons, List.cons_append]
      simp

private theorem separatedSigns_concat (separator : Sign) (items : List Matcher) (last : Matcher) :
    .opened :: separatedSigns separator (items ++ [last]) =
      leadIn separator items ++ last.signs := by
  cases items with
  | nil => rw [List.nil_append, separatedSigns, leadIn, List.singleton_append]
  | cons item later =>
      rw [List.cons_append, separatedSigns_cons, leadIn, separatedSigns_cons, List.flatMap_append]
      · simp
      · simp

private theorem leadIn_eq_concat (separator : Sign) (items : List Matcher) :
    (items = [] ∧ leadIn separator items = [.opened]) ∨
      (items ≠ [] ∧ leadIn separator items =
        .opened :: separatedSigns separator items ++ [separator]) := by
  cases items with
  | nil => exact Or.inl ⟨rfl, rfl⟩
  | cons item later => exact Or.inr ⟨List.cons_ne_nil _ _, rfl⟩

/-- A matcher that is written between parentheses, with its parts between separators. -/
structure IsGroup (group : Matcher) (separator : Sign) : Prop where
  signs : group.signs = .opened :: (separatedSigns separator group.parts ++ [.closed])
  separator_ne_opened : separator ≠ .opened
  sequential : separator = .blank → ∃ transform, group = sequence group.parts transform

theorem isGroup_alternation (branches : List Matcher) (transform : Option Transform) :
    (alternation branches transform).IsGroup .bar :=
  ⟨by rw [Matcher.signs, parts], by decide, fun same => by cases same⟩

theorem isGroup_sequence (items : List Matcher) (transform : Option Transform) :
    (sequence items transform).IsGroup .blank :=
  ⟨by rw [Matcher.signs, parts], by decide, fun _ => ⟨transform, rfl⟩⟩

section

variable {group otherGroup : Matcher} {separator otherSeparator : Sign}

private theorem leadIn_append_cases (isGroup : group.IsGroup separator)
    (otherIsGroup : otherGroup.IsGroup otherSeparator) (items otherItems : List Matcher)
    (front otherFront : List Sign)
    (same : front ++ leadIn separator items = otherFront ++ leadIn otherSeparator otherItems) :
    (items = [] ∧ otherItems = [] ∧ front = otherFront) ∨
      (separator = otherSeparator ∧
        front ++ .opened :: separatedSigns separator items =
          otherFront ++ .opened :: separatedSigns otherSeparator otherItems) := by
  rcases leadIn_eq_concat separator items with ⟨noItems, lead⟩ | ⟨_, lead⟩
  · rcases leadIn_eq_concat otherSeparator otherItems with ⟨noOthers, otherLead⟩ | ⟨_, otherLead⟩
    · rw [lead, otherLead] at same
      exact Or.inl ⟨noItems, noOthers, List.append_cancel_right same⟩
    · rw [lead, otherLead, ← List.append_assoc, List.append_singleton_inj] at same
      exact absurd same.2.symm otherIsGroup.separator_ne_opened
  · rcases leadIn_eq_concat otherSeparator otherItems with ⟨_, otherLead⟩ | ⟨_, otherLead⟩
    · rw [lead, otherLead, ← List.append_assoc, List.append_singleton_inj] at same
      exact absurd same.2 isGroup.separator_ne_opened
    · rw [lead, otherLead, ← List.append_assoc, ← List.append_assoc,
        List.append_singleton_inj] at same
      exact Or.inr ⟨same.2, same.1⟩

theorem apart_of_splitLeaf (isGroup : group.IsGroup separator)
    (items later otherItems otherLater : List Matcher) (last otherLast : Matcher)
    (parts : group.parts = items ++ last :: later)
    (otherParts : otherGroup.parts = otherItems ++ otherLast :: otherLater)
    (front otherFront : List Sign)
    (split : SplitLeaf last otherLast (front ++ leadIn separator items) otherFront) :
    Apart group otherGroup ((items ++ [last]).flatMap readings)
      ((otherItems ++ [otherLast]).flatMap readings) := by
  obtain ⟨kind, text, repeated, otherRepeated, fronts⟩ := split
  obtain ⟨otherReadings, leafTransform, leaf⟩ :=
    readings_of_isRepeated_kindText kind text otherLast otherRepeated
  have spread : otherFront ++ [.name kind, .blank] = (otherFront ++ [.name kind]) ++ [.blank] := by
    rw [List.append_assoc]
    rfl
  rcases leadIn_eq_concat separator items with ⟨_, lead⟩ | ⟨nonempty, lead⟩
  · rw [lead, spread] at fronts
    cases (List.append_singleton_inj.mp fronts).2
  · rw [lead, spread, ← List.append_assoc, List.append_singleton_inj] at fronts
    obtain ⟨inFront, isBlank⟩ := fronts
    obtain ⟨before, previous, rfl⟩ := (List.eq_nil_or_concat items).resolve_left nonempty
    rw [List.concat_eq_append] at parts inFront ⊢
    rw [separatedSigns_concat, ← List.append_assoc] at inFront
    obtain ⟨kindTransform, rfl⟩ := previous.exists_token_of_lastSign_name kind
      (previous.lastSign_eq_of_append _ _ _ inFront)
    obtain ⟨transform, isSequence⟩ := isGroup.sequential isBlank
    refine ⟨Or.inl (Or.inl ⟨kind, text, ⟨before, kindTransform, last, later, transform, ?_,
      repeated⟩, ⟨leafTransform, ?_⟩⟩), ?_⟩
    · rw [List.append_cons, ← parts, ← isSequence]
      exact group.self_mem_nodes
    · have isPart : otherLast ∈ otherGroup.parts := by
        rw [otherParts]
        exact List.mem_append_right _ List.mem_cons_self
      exact nodes_subset_of_mem_parts _ _ isPart leaf
    · intro readingsFront otherReadingsFront same
      simp only [List.flatMap_append, List.flatMap_singleton, readings, otherReadings,
        readings_of_isRepeated_text text last repeated, List.append_nil, ← List.append_assoc,
        List.append_singleton_inj] at same
      cases same.2

private theorem compare_parts (isGroup : group.IsGroup separator)
    (otherIsGroup : otherGroup.IsGroup otherSeparator)
    (each : ∀ part ∈ group.parts, part.ReadBack)
    (items later otherItems otherLater : List Matcher)
    (parts : group.parts = items ++ later)
    (otherParts : otherGroup.parts = otherItems ++ otherLater)
    (front otherFront : List Sign)
    (same : front ++ .opened :: separatedSigns separator items =
      otherFront ++ .opened :: separatedSigns otherSeparator otherItems) :
    (items.map shape = otherItems.map shape ∧ front = otherFront ∧
      (separator = otherSeparator ∨ items.length ≤ 1)) ∨
    Apart group otherGroup (items.flatMap readings) (otherItems.flatMap readings) := by
  -- the parts behind do not change the signs; they say where in its sequence a pair of leaves stands
  induction items using List.reverseRecOn generalizing later otherItems otherLater with
  | nil =>
      rcases List.eq_nil_or_concat otherItems with rfl | ⟨otherBefore, otherLast, rfl⟩
      · rw [separatedSigns, separatedSigns] at same
        exact Or.inl ⟨rfl, List.append_cancel_right same, Or.inr (Nat.zero_le 1)⟩
      · rw [List.concat_eq_append, separatedSigns_concat, separatedSigns,
          ← List.append_assoc] at same
        exact absurd (otherLast.lastSign_eq_of_append _ _ _ same.symm) otherLast.lastSign_ne_opened
  | append_singleton before last inductionHypothesis =>
      rcases List.eq_nil_or_concat otherItems with rfl | ⟨otherBefore, otherLast, rfl⟩
      · rw [separatedSigns_concat, separatedSigns, ← List.append_assoc] at same
        exact absurd (last.lastSign_eq_of_append _ _ _ same) last.lastSign_ne_opened
      · rw [List.concat_eq_append] at otherParts same ⊢
        rw [separatedSigns_concat, separatedSigns_concat, ← List.append_assoc,
          ← List.append_assoc] at same
        rw [List.append_assoc, List.singleton_append] at parts otherParts
        have isPart : last ∈ group.parts := by
          rw [parts]
          exact List.mem_append_right _ List.mem_cons_self
        have otherIsPart : otherLast ∈ otherGroup.parts := by
          rw [otherParts]
          exact List.mem_append_right _ List.mem_cons_self
        cases each last isPart otherLast _ _ same with
        | alike shapes fronts =>
            have sameReadings : last.readings = otherLast.readings := by
              rw [← last.readings_shape, shapes, otherLast.readings_shape]
            rw [List.map_append, List.map_append, List.map_singleton, List.map_singleton, shapes,
              List.flatMap_append, List.flatMap_append, List.flatMap_singleton,
              List.flatMap_singleton, sameReadings]
            rcases leadIn_append_cases isGroup otherIsGroup before otherBefore front otherFront
              fronts with ⟨rfl, rfl, sameFronts⟩ | ⟨sameSeparator, inFront⟩
            · exact Or.inl ⟨rfl, sameFronts, Or.inr (Nat.le_refl 1)⟩
            · rcases inductionHypothesis (last :: later) otherBefore (otherLast :: otherLater)
                parts otherParts inFront with ⟨sameShapes, sameFronts, _⟩ | apart
              · exact Or.inl ⟨by rw [sameShapes], sameFronts, Or.inl sameSeparator⟩
              · exact Or.inr (apart.append_right _)
        | apart apart =>
            refine Or.inr ?_
            rw [List.flatMap_append, List.flatMap_append, List.flatMap_singleton,
              List.flatMap_singleton]
            exact (apart.mono (nodes_subset_of_mem_parts _ _ isPart)
              (nodes_subset_of_mem_parts _ _ otherIsPart)).append_left _ _
        | splitLeft split =>
            exact Or.inr (apart_of_splitLeaf isGroup _ _ _ _ _ _ parts otherParts _ _ split)
        | splitRight split =>
            exact Or.inr
              (apart_of_splitLeaf otherIsGroup _ _ _ _ _ _ otherParts parts _ _ split).symm

theorem compare_groups (isGroup : group.IsGroup separator)
    (otherIsGroup : otherGroup.IsGroup otherSeparator)
    (each : ∀ part ∈ group.parts, part.ReadBack) (front otherFront : List Sign)
    (same : front ++ group.signs = otherFront ++ otherGroup.signs) :
    (group.parts.map shape = otherGroup.parts.map shape ∧ front = otherFront ∧
      (separator = otherSeparator ∨ group.parts.length ≤ 1)) ∨
    Apart group otherGroup (group.parts.flatMap readings) (otherGroup.parts.flatMap readings) := by
  rw [isGroup.signs, otherIsGroup.signs, ← List.cons_append, ← List.cons_append,
    ← List.append_assoc, ← List.append_assoc] at same
  exact compare_parts isGroup otherIsGroup each group.parts [] otherGroup.parts []
    (List.append_nil _).symm (List.append_nil _).symm front otherFront
    (List.append_cancel_right same)

end

theorem compared_alternation_sequence (branches items : List Matcher)
    (transform otherTransform : Option Transform) (front otherFront : List Sign)
    (shapes : branches.map shape = items.map shape) (fronts : front = otherFront)
    (few : branches.length ≤ 1) :
    Compared (alternation branches transform) (sequence items otherTransform) front otherFront := by
  cases branches with
  | nil =>
      rw [List.map_nil, eq_comm, List.map_eq_nil_iff] at shapes
      subst shapes
      refine .apart ⟨Or.inl (Or.inr ⟨⟨transform, self_mem_nodes _⟩,
        ⟨otherTransform, self_mem_nodes _⟩⟩), fun readingsFront otherReadingsFront same => ?_⟩
      rw [readings, readings] at same
      cases (List.append_singleton_inj.mp same).2
  | cons branch others =>
      have single : (branch :: others).length = 1 := by
        rw [List.length_cons] at few ⊢
        omega
      exact .alike (by rw [shape, shape, if_pos single, shapes]) fronts

private theorem readBack_alternation (branches : List Matcher) (transform : Option Transform)
    (each : ∀ branch ∈ branches, branch.ReadBack) : (alternation branches transform).ReadBack := by
  intro right front otherFront same
  have last := lastSign_eq _ _ _ _ same
  cases right with
  | token other otherTransform => cases other <;> cases last
  | alternation otherBranches otherTransform =>
      rcases compare_groups (isGroup_alternation branches transform)
        (isGroup_alternation otherBranches otherTransform) each front otherFront same with
        ⟨shapes, fronts, _⟩ | apart
      · rw [parts, parts] at shapes
        have sameLength := congrArg List.length shapes
        rw [List.length_map, List.length_map] at sameLength
        exact .alike (by rw [shape, shape, shapes, sameLength]) fronts
      · refine .apart ?_
        rw [readings, readings]
        exact apart.append_left _ _
  | sequence items otherTransform =>
      rcases compare_groups (isGroup_alternation branches transform)
        (isGroup_sequence items otherTransform) each front otherFront same with
        ⟨shapes, fronts, few⟩ | apart
      · exact compared_alternation_sequence branches items transform otherTransform front otherFront
          shapes fronts (few.resolve_left (by decide))
      · refine .apart ?_
        rw [readings, readings]
        exact apart.append_left _ _
  | _ => cases last

private theorem readBack_sequence (items : List Matcher) (transform : Option Transform)
    (each : ∀ item ∈ items, item.ReadBack) : (sequence items transform).ReadBack := by
  intro right front otherFront same
  have last := lastSign_eq _ _ _ _ same
  cases right with
  | token other otherTransform => cases other <;> cases last
  | alternation branches otherTransform =>
      rcases compare_groups (isGroup_sequence items transform)
        (isGroup_alternation branches otherTransform) each front otherFront same with
        ⟨shapes, fronts, few⟩ | apart
      · have sameLength := congrArg List.length shapes
        rw [List.length_map, List.length_map] at sameLength
        exact (compared_alternation_sequence branches items otherTransform transform otherFront
          front shapes.symm fronts.symm
          (Nat.le_trans (Nat.le_of_eq sameLength.symm) (few.resolve_left (by decide)))).symm
      · refine .apart ?_
        rw [readings, readings]
        exact apart.append_left _ _
  | sequence otherItems otherTransform =>
      rcases compare_groups (isGroup_sequence items transform)
        (isGroup_sequence otherItems otherTransform) each front otherFront same with
        ⟨shapes, fronts, _⟩ | apart
      · rw [parts, parts] at shapes
        exact .alike (by rw [shape, shape, shapes]) fronts
      · refine .apart ?_
        rw [readings, readings]
        exact apart.append_left _ _
  | _ => cases last

theorem readBack (matcher : Matcher) : matcher.ReadBack := by
  induction matcher with
  | token test transform => exact readBack_token test transform
  | finish transform => exact readBack_finish transform
  | alternation branches transform each => exact readBack_alternation branches transform each
  | sequence items transform each => exact readBack_sequence items transform each
  | repetition item least most transform itemRead =>
      exact readBack_repetition item least most transform itemRead

/-! ### What a compact text determines -/

/-- Matchers with one compact text have one shape, or they differ in a reading and can be mistaken
for each other. -/
theorem shape_eq_or_apart_of_compact (left right : Matcher) (same : left.compact = right.compact) :
    left.shape = right.shape ∨ Apart left right left.readings right.readings := by
  have sameSigns := (compact_eq_iff_signs left right).mp same
  cases left.readBack right [] [] (congrArg ([] ++ ·) sameSigns) with
  | alike shapes _ => exact Or.inl shapes
  | apart apart => exact Or.inr apart
  | splitLeft split =>
      obtain ⟨_, _, _, _, nothing⟩ := split
      cases nothing
  | splitRight split =>
      obtain ⟨_, _, _, _, nothing⟩ := split
      cases nothing

/-- Two matchers with one compact text reach the same positions, in the same order, over any tokens
and from any start, if they mean the places that the text leaves open alike: each kind as a leaf of
its own or as one leaf with the text behind it, and each pair of empty parentheses as an alternation
without branches or as a sequence without items. They do so unless one of them has a pair of leaves
where it could be mistaken for the other one with a single leaf, or empty parentheses of one sort
where the other has some of the other sort. -/
theorem same_compact_reaches_same (left right : Matcher) (same : left.compact = right.compact)
    (told : left.readings = right.readings ∨
      ¬ (left.Mistakable right ∨ right.Mistakable left)) (tokens : List Token) (start : Nat) :
    (left.derivations tokens start).map Derivation.position =
      (right.derivations tokens start).map Derivation.position := by
  rcases shape_eq_or_apart_of_compact left right same with shapes | ⟨mistakable, differ⟩
  · exact positions_eq_of_shape tokens left right shapes start
  · rcases told with sameReadings | notMistakable
    · exact absurd (congrArg ([] ++ ·) sameReadings) (differ [] [])
    · exact absurd mistakable notMistakable

/-- A choice of one pair of leaves whose values are counted, and a sequence of the same pair. -/
theorem chosen_pair_reaches_same :
    let plus : Token := ⟨.operator, "+", ⟨0, 1, "."⟩⟩
    let pair := sequence [ofKind .operator, repetition (ofText "+") 1 none none] none
    let chosen := alternation [pair] (some Transform.count)
    let listed := sequence [pair] none
    chosen.compact = listed.compact ∧ chosen.readings = listed.readings ∧
      (chosen.derivations [plus, plus, plus] 0).map Derivation.position =
        (listed.derivations [plus, plus, plus] 0).map Derivation.position ∧
      (listed.derivations [plus, plus, plus] 0).map Derivation.position = [3, 2] := by
  intro plus pair chosen listed
  have sameText : chosen.compact = listed.compact := by
    rw [compact_eq_iff_signs]
    simp [chosen, listed, signs, separatedSigns]
  have sameReadings : chosen.readings = listed.readings := by
    simp [chosen, listed, readings]
  refine ⟨sameText, sameReadings,
    same_compact_reaches_same chosen listed sameText (Or.inl sameReadings) _ 0, ?_⟩
  rw [derivations_eq_enumerate]
  cbv

/-- Two leaves, one for operators and one for a plus, are written like one leaf for the operator
plus; over a single plus they reach nothing, and the one leaf reaches its end. An alternation
without branches is written like a sequence without items; it reaches nothing, and the sequence
stays where it is. -/
theorem pair_written_like_leaf :
    let plus : Token := ⟨.operator, "+", ⟨0, 1, "."⟩⟩
    let pair := sequence [ofKind .operator, ofText "+"] none
    let leaf := sequence [ofKindText .operator "+"] none
    let noBranches := alternation [] none
    let noItems := sequence [] none
    (pair.compact = leaf.compact ∧
      (pair.derivations [plus] 0).map Derivation.position = [] ∧
      (leaf.derivations [plus] 0).map Derivation.position = [1]) ∧
    noBranches.compact = noItems.compact ∧
      (noBranches.derivations [plus] 0).map Derivation.position = [] ∧
      (noItems.derivations [plus] 0).map Derivation.position = [0] := by
  intro plus pair leaf noBranches noItems
  simp only [compact_eq_iff_signs, derivations_eq_enumerate]
  refine ⟨⟨?_, ?_, ?_⟩, ?_, ?_, ?_⟩
  · simp [pair, leaf, signs, separatedSigns, ofKind, ofText, ofKindText]
  · cbv
  · cbv
  · simp [noBranches, noItems, signs, separatedSigns]
  · cbv
  · cbv

end Matcher

end TokenGrammar
