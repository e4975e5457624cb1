import TokenGrammar.Proofs.DerivationTrees

set_option autoImplicit false

/-! Token conservation. A derivation tree and the tokens behind its end make up the tokens from its
start on, so as long as transforms keep the tokens of what they are given, the value of a
derivation holds the tokens between its two positions, each of them once and in order. -/

namespace TokenGrammar

namespace Matcher

/-- No transform of the tree adds, drops or moves a token. -/
def KeepsTokens (matcher : Matcher) : Prop :=
  ∀ node ∈ matcher.nodes, ∀ transform ∈ node.transform?, ∀ value : Value,
    (transform value).tokens = value.tokens

namespace KeepsTokens

theorem applyTransform {matcher : Matcher} (keeps : matcher.KeepsTokens) (value : Value) :
    (matcher.applyTransform value).tokens = value.tokens := by
  unfold Matcher.applyTransform
  cases attached : matcher.transform? with
  | none => rfl
  | some transform => exact keeps matcher matcher.self_mem_nodes transform attached value

theorem part {matcher : Matcher} (keeps : matcher.KeepsTokens) {inner : Matcher}
    (isPart : inner ∈ matcher.parts) : inner.KeepsTokens := by
  intro node member
  exact keeps node (nodes_subset_of_mem_parts matcher inner isPart member)

end KeepsTokens

end Matcher

/-! ### Trees -/

/-- The tokens of every tree of the matcher, followed by the tokens behind its end, are the tokens
from its start on. -/
def ConservesTokens (tokens : List Token) (matcher : Matcher) : Prop :=
  ∀ start stop (tree : DerivationTree tokens matcher start stop),
    tree.value.tokens ++ tokens.drop stop = tokens.drop start

theorem DerivationChain.tokens_append_drop {tokens : List Token} {items : List Matcher}
    {start stop : Nat} (trees : DerivationChain tokens items start stop)
    (each : ∀ item ∈ items, ConservesTokens tokens item) :
    Value.tokensOfAll trees.values ++ tokens.drop stop = tokens.drop start := by
  induction items generalizing start with
  | nil =>
      cases trees
      simp [DerivationChain.values, Value.tokensOfAll]
  | cons item later inductionHypothesis =>
      cases trees with
      | @cons _ _ _ middle _ first rest =>
          have firstConserved := each item List.mem_cons_self start middle first
          have restConserved := inductionHypothesis rest
            (fun other member => each other (List.mem_cons_of_mem item member))
          rw [DerivationChain.values, Value.tokensOfAll, List.append_assoc, restConserved,
            firstConserved]

theorem DerivationSteps.tokens_append_drop {tokens : List Token} {item : Matcher}
    {advancing : Bool} {count start stop : Nat}
    (steps : DerivationSteps tokens item advancing count start stop)
    (conserves : ConservesTokens tokens item) :
    Value.tokensOfAll steps.values ++ tokens.drop stop = tokens.drop start := by
  induction count generalizing start with
  | zero =>
      cases steps
      simp [DerivationSteps.values, Value.tokensOfAll]
  | succ count inductionHypothesis =>
      cases steps with
      | @cons _ _ _ _ middle _ first rest advances =>
          have firstConserved := conserves start middle first
          have restConserved := inductionHypothesis rest
          rw [DerivationSteps.values, Value.tokensOfAll, List.append_assoc, restConserved,
            firstConserved]

theorem conservesTokens_of_keepsTokens (tokens : List Token) (matcher : Matcher)
    (keeps : matcher.KeepsTokens) : ConservesTokens tokens matcher := by
  intro start stop tree
  -- the transform at the root changes nothing, so only what the node consists of counts
  induction matcher generalizing start stop with
  | token test transform =>
      cases tree with
      | token _ _ _ token present accepted =>
          obtain ⟨inside, here⟩ := List.getElem?_eq_some_iff.mp present
          rw [DerivationTree.value, keeps.applyTransform, List.drop_eq_getElem_cons inside, here]
          rfl
  | finish transform =>
      cases tree
      rw [DerivationTree.value, keeps.applyTransform]
      rfl
  | alternation branches transform branchesConserve =>
      cases tree with
      | alternation _ index branch =>
          have isBranch : branches.get index ∈ branches := List.get_mem branches index
          rw [DerivationTree.value, keeps.applyTransform]
          exact branchesConserve _ isBranch (keeps.part isBranch) start stop branch
  | sequence items transform itemsConserve =>
      cases tree with
      | sequence _ trees =>
          have each : ∀ item ∈ items, ConservesTokens tokens item := fun item isItem =>
            itemsConserve item isItem (keeps.part isItem)
          rw [DerivationTree.value, keeps.applyTransform]
          exact trees.tokens_append_drop each
  | repetition item least most transform itemConserves =>
      cases tree with
      | repetition _ count steps enough allowed =>
          have conserves : ConservesTokens tokens item :=
            itemConserves (keeps.part List.mem_cons_self)
          rw [DerivationTree.value, keeps.applyTransform]
          exact steps.tokens_append_drop conserves

/-! ### Derivations -/

private theorem eq_extract_of_append_drop (part tokens : List Token) (start stop : Nat)
    (ordered : start ≤ stop) (inside : stop ≤ tokens.length)
    (joined : part ++ tokens.drop stop = tokens.drop start) :
    part = tokens.extract start stop := by
  have lengths := congrArg List.length joined
  rw [List.length_append, List.length_drop, List.length_drop] at lengths
  have length : stop - start = part.length := by omega
  rw [List.extract_eq_take_drop, ← joined, length, List.take_left]

private theorem Value.tokensOfAll_map_token (tokens : List Token) :
    Value.tokensOfAll (tokens.map Value.token) = tokens := by
  induction tokens with
  | nil => rfl
  | cons first later inductionHypothesis =>
      rw [List.map_cons, Value.tokensOfAll, Value.tokens, inductionHypothesis]
      rfl

namespace Matcher

/-- If no transform of the tree changes the tokens of a value, every derivation that a pull gives
reaches a position between the start and the end of the tokens, and the tokens of its value are
the slice of the tokens between the start and that position. -/
theorem pulled_tokens_eq_slice (matcher : Matcher) (keeps : matcher.KeepsTokens)
    (cursor : Cursor) (inBounds : cursor.position ≤ cursor.sequence.tokens.length)
    (count : Nat) (found : Derivation)
    (pulled : ((DerivationStream.start matcher cursor).2.after count).pull.2.1 = some found) :
    cursor.position ≤ found.position ∧ found.position ≤ cursor.sequence.tokens.length ∧
      found.value.tokens = cursor.sequence.tokens.extract cursor.position found.position := by
  rw [DerivationStream.pull_after, held_start] at pulled
  have member := List.mem_of_getElem? pulled
  have reach := matcher.enumerate_staysInReach cursor.sequence.tokens cursor.position found
    (derivations_eq_enumerate .. ▸ member)
  have ordered : cursor.position ≤ found.position := reach.1
  have inside : found.position ≤ cursor.sequence.tokens.length := by
    have bounded := reach.2
    omega
  obtain ⟨tree, valued⟩ := (mem_derivations_iff ..).mp member
  have conserved := conservesTokens_of_keepsTokens cursor.sequence.tokens matcher keeps
    cursor.position found.position tree
  rw [valued] at conserved
  exact ⟨ordered, inside, eq_extract_of_append_drop _ _ _ _ ordered inside conserved⟩

/-- Two operators from the second token to the end, wrapped by one transform and flattened by
another. -/
theorem wrapped_operators_conserved :
    let number : Token := ⟨.number, "7", ⟨0, 1, "."⟩⟩
    let first : Token := ⟨.operator, "+", ⟨1, 2, "."⟩⟩
    let second : Token := ⟨.operator, "+", ⟨2, 3, "."⟩⟩
    let matcher := sequence [repetition (ofText "+") 1 none (some Transform.wrap), finish none]
      (some Transform.flatten)
    let cursor : Cursor := ⟨⟨0, [number, first, second]⟩, 1⟩
    matcher.KeepsTokens ∧
      ((DerivationStream.start matcher cursor).2.after 0).pull.2.1 =
        some ⟨.list [.token first, .token second], 3⟩ ∧
      (1 ≤ 3 ∧ 3 ≤ [number, first, second].length ∧
        (Value.list [.token first, .token second]).tokens =
          [number, first, second].extract 1 3) := by
  intro number first second matcher cursor
  have keeps : matcher.KeepsTokens := by
    intro node member transform attached value
    simp only [matcher, nodes, nodesOfAll, ofText, List.append_nil, List.cons_append,
      List.nil_append, List.mem_cons, List.not_mem_nil, or_false] at member
    rcases member with rfl | rfl | rfl | rfl
    · cases attached
      exact Value.tokensOfAll_map_token value.tokens
    · cases attached
      exact List.append_nil value.tokens
    · cases attached
    · cases attached
  have pulled : ((DerivationStream.start matcher cursor).2.after 0).pull.2.1 =
      some ⟨.list [.token first, .token second], 3⟩ := by
    rw [DerivationStream.pull_after, held_start, derivations_eq_enumerate]
    cbv
  exact ⟨keeps, pulled, pulled_tokens_eq_slice matcher keeps cursor (by decide) 0 _ pulled⟩

end Matcher

end TokenGrammar
