import TokenGrammar.Proofs.DerivationTrees

set_option autoImplicit false

/-! Searches come to an end. All parts of a search but one follow the grammar tree, the tokens or
the events of a search that is already there; the exception is the loop of a repetition, which goes
on for as long as there are frames. Here that loop is shown to run out of frames, whatever the
repetition is wrapped around, and the derivation trees that a stream shows are counted. -/

namespace TokenGrammar

namespace Repetition

def opened (repetition : Repetition) (position : Nat) : Worklist :=
  let nothing := repetition.keep [] position { stack := [], told := [], found := [] }
  if repetition.most = some 0 then nothing else repetition.push [] position nothing

/-- The loop resumes a finite number of frames, is then out of frames, and this is the work that
the repetition collects. -/
def Ends (repetition : Repetition) (position : Nat) : Prop :=
  ∃ ended, Relation.ReflTransGen (fun earlier later => repetition.resume? earlier = some later)
      (repetition.opened position) ended ∧
    ended.stack = [] ∧ repetition.collect position = ended

open Enumeration in
theorem ends_of_staysInReach (repetition : Repetition) (tokens : List Token)
    (stay : StaysInReach tokens (fun position => (repetition.item position).found))
    (position : Nat) : repetition.Ends position := by
  have bare := repetition.stack_keep [] position { stack := [], told := [], found := [] }
  unfold Ends opened collect
  by_cases noneAllowed : repetition.most = some 0
  · simp only [if_pos noneAllowed]
    exact ⟨_, Relation.ReflTransGen.refl, bare, rfl⟩
  · simp only [if_neg noneAllowed]
    have reaches := reaches_of_push repetition tokens stay [] position
      (repetition.keep [] position { stack := [], told := [], found := [] })
    refine ⟨_, reaches.to_reflTransGen, bare, ?_⟩
    rw [run_eq_of_reaches repetition _ _ reaches]
    exact run_of_no_frame repetition _ bare

end Repetition

/-! ### Trees in a finite number -/

private theorem Shows.card_eq_length {α β : Type} {view : α → β} {shown : List β}
    (shows : Shows (fun _ : α => True) view shown) : Finite α ∧ Nat.card α = shown.length := by
  obtain ⟨items, nodup, complete, rfl⟩ := shows
  have every : ∀ item, item ∈ items := fun item => (complete item).mpr trivial
  have finite : Finite α :=
    Finite.of_finite_univ (items.finite_toSet.subset (fun item _ => every item))
  refine ⟨finite, ?_⟩
  classical
  have counted : (Set.univ : Set α) = (items.toFinset : Set α) := by
    ext item
    simp [every]
  rw [← Set.ncard_univ, counted, Set.ncard_coe_finset, List.toFinset_card_of_nodup nodup,
    List.length_map]

/-! ### Steps that advance -/

private theorem DerivationSteps.count_le {tokens : List Token} {item : Matcher}
    {count start stop : Nat} (steps : DerivationSteps tokens item true count start stop) :
    count ≤ tokens.length - start + 1 := by
  -- only the last step may stand still, so every other one shortens what is left
  induction count generalizing start with
  | zero => exact Nat.zero_le _
  | succ count inductionHypothesis =>
      cases steps with
      | @cons _ _ _ _ middle _ first rest advances =>
          by_cases last : count = 0
          · omega
          · have advanced : start < middle := advances rfl last
            have reach := TreeFrom.inReach ⟨middle, first⟩ (enumerate_showsTrees tokens item)
            have inside : middle ≤ max start tokens.length := reach.2
            have remaining := inductionHypothesis rest
            omega

namespace Matcher

private theorem exists_items_of_unbounded (tokens : List Token) (item : Matcher) (least : Nat)
    (transform : Option Transform) (start : Nat) (found : Derivation)
    (member : found ∈ (repetition item least none transform).derivations tokens start) :
    ∃ items, found.value = (repetition item least none transform).applyTransform (.list items) ∧
      items.length ≤ tokens.length - start + 1 := by
  obtain ⟨tree, valued⟩ := (mem_derivations_iff ..).mp member
  cases tree with
  | repetition _ count steps enough allowed =>
      refine ⟨steps.values, ?_, ?_⟩
      · rw [← valued, DerivationTree.value]
      · rw [steps.length_values]
        exact steps.count_le

/-- Every loop that the search of a grammar may run comes to an end, whichever repetition of the
tree it belongs to and wherever it starts. There are finitely many derivation trees from a cursor,
and as many pulls of a stream give a derivation; from then on every pull gives nothing. A list of
steps without an upper bound is longer than the tokens that were left by one step at most. -/
theorem search_ends (matcher : Matcher) (cursor : Cursor) :
    (∀ item least most transform, repetition item least most transform ∈ matcher.nodes →
      ∀ position, Repetition.Ends
        { item := item.derive cursor.sequence.tokens, least, most } position) ∧
    (Finite (TreeFrom cursor.sequence.tokens matcher cursor.position) ∧
      ∀ count, ((DerivationStream.start matcher cursor).2.after count).pull.2.1 = none ↔
        Nat.card (TreeFrom cursor.sequence.tokens matcher cursor.position) ≤ count) ∧
    (∀ item least transform count found,
      ((DerivationStream.start (repetition item least none transform) cursor).2.after
          count).pull.2.1 = some found →
        ∃ items, found.value =
            (repetition item least none transform).applyTransform (.list items) ∧
          items.length ≤ cursor.sequence.tokens.length - cursor.position + 1) := by
  refine ⟨?_, ?_, ?_⟩
  · intro item least most transform _ position
    apply Repetition.ends_of_staysInReach _ cursor.sequence.tokens
    intro start found member
    apply item.enumerate_staysInReach cursor.sequence.tokens start found
    rw [← derivations_eq_enumerate]
    exact member
  · have shows := enumerate_showsTrees cursor.sequence.tokens matcher cursor.position
    obtain ⟨finite, counted⟩ := shows.card_eq_length
    refine ⟨finite, ?_⟩
    intro count
    rw [DerivationStream.pull_after, held_start, derivations_eq_enumerate, counted]
    exact List.getElem?_eq_none_iff
  · intro item least transform count found pulled
    rw [DerivationStream.pull_after, held_start] at pulled
    exact exists_items_of_unbounded _ item least transform cursor.position found
      (List.mem_of_getElem? pulled)

/-- Over no tokens at all: both loops of an unbounded repetition in an unbounded repetition end,
and the list of one step that the outer one yields is as long as a list may be. -/
theorem nested_unbounded_ends :
    let inner := repetition (finish none) 0 none none
    let outer := repetition inner 0 none none
    let cursor : Cursor := ⟨⟨0, []⟩, 0⟩
    Repetition.Ends { item := inner.derive [], least := 0, most := none } 0 ∧
      Repetition.Ends { item := (finish none).derive [], least := 0, most := none } 0 ∧
      ((DerivationStream.start outer cursor).2.after 0).pull.2.1 =
        some ⟨.list [.list []], 0⟩ ∧
      ∃ items, Value.list [.list []] = .list items ∧ items.length ≤ 0 - 0 + 1 := by
  intro inner outer cursor
  obtain ⟨loops, _, bounded⟩ := search_ends outer cursor
  have outerNode : outer ∈ outer.nodes := outer.self_mem_nodes
  have innerNode : inner ∈ outer.nodes :=
    nodes_subset_of_mem_parts outer inner List.mem_cons_self inner.self_mem_nodes
  have pulled : ((DerivationStream.start outer cursor).2.after 0).pull.2.1 =
      some ⟨.list [.list []], 0⟩ := by
    rw [DerivationStream.pull_after, held_start, derivations_eq_enumerate]
    cbv
  exact ⟨loops _ _ _ _ outerNode 0, loops _ _ _ _ innerNode 0, pulled,
    bounded inner 0 none 0 _ pulled⟩

end Matcher

end TokenGrammar
