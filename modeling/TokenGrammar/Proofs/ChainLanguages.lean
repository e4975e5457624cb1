import TokenGrammar.Proofs.ChainGrammars

set_option autoImplicit false

/-! The languages of the ready-made grammars. From any position the grammar of a chain asks whether
the tokens behind the position are a chain. If they are, it finds that chain, once and up to the
last token; if they are not, it finds nothing. The two grammars differ in their joints only. -/

namespace TokenGrammar

inductive SingleOperator : List Token → Value → Prop
  | operator {token : Token} (joins : token.kind = .operator) :
      SingleOperator [token] (.token token)

namespace Matcher

/-- What a grammar of chains finds from a position: the chain that the tokens behind the position
are, as its parts, its last identifier and the end, or nothing if they are no chain. -/
structure FindsChain (tokens : List Token) (start : Nat) (joint : List Token → Value → Prop)
    (grammar : Matcher) : Prop where
  once : ∀ parts last, ChainOf joint (tokens.drop start) parts last →
    grammar.derivations tokens start =
      [⟨.list [.list parts, .token last, .null], tokens.length⟩]
  otherwise : (∀ parts last, ¬ ChainOf joint (tokens.drop start) parts last) →
    grammar.derivations tokens start = []

variable {tokens : List Token}

theorem findsChain_chain {joint : Matcher} {spelling : List Token → Value → Prop}
    (spells : joint.Spells tokens spelling) (deterministic : joint.Deterministic tokens)
    (start : Nat) : (chain joint).FindsChain tokens start spelling where
  once parts last here := by
    rw [derivations_eq_enumerate]
    exact chain_gives_one spells deterministic here
  otherwise nowhere := by
    rw [derivations_eq_enumerate]
    exact chain_gives_none spells nowhere

private theorem spells_operator : (ofKind .operator).Spells tokens SingleOperator := by
  intro start found
  unfold ofKind
  rw [mem_enumerate_token_iff]
  constructor
  · rintro ⟨token, here, accepted, rfl⟩
    exact ⟨[token], .operator (eq_of_beq accepted), here, rfl⟩
  · rintro ⟨word, joins, lies⟩
    cases found with
    | mk value stop =>
        cases joins with
        | @operator token isOperator =>
            exact ⟨token, lies.1, beq_iff_eq.mpr isOperator, congrArg _ lies.2⟩

/-- Operator chains are identifiers joined by `/`, `+`, `/` or by `+`, identifier chains are
identifiers joined by any one operator, and both have one part at least. Each of the two grammars
finds, from any position, exactly the chain of its kind that the tokens from there to the end are,
and finds it once. -/
theorem chains_found_once (tokens : List Token) (start : Nat) :
    operatorChain.FindsChain tokens start OperatorJoint ∧
      identifierChain.FindsChain tokens start SingleOperator :=
  ⟨findsChain_chain spells_operatorJoint deterministic_operatorJoint start,
    findsChain_chain spells_operator (deterministic_token tokens _ none) start⟩

/-- A slashed joint and a plus make an operator chain; behind the slashed joint there is left an
identifier chain. -/
theorem slashed_and_plus_found :
    let a : Token := ⟨.identifier, "A", ⟨0, 1, "."⟩⟩
    let opening : Token := ⟨.operator, "/", ⟨1, 2, "."⟩⟩
    let plus : Token := ⟨.operator, "+", ⟨2, 3, "."⟩⟩
    let closing : Token := ⟨.operator, "/", ⟨3, 4, "."⟩⟩
    let b : Token := ⟨.identifier, "B", ⟨4, 5, "."⟩⟩
    let c : Token := ⟨.identifier, "C", ⟨6, 7, "."⟩⟩
    let tokens := [a, opening, plus, closing, b, plus, c]
    let slashed := Value.list [.token a, .list [.token opening, .token plus, .token closing]]
    let joined := Value.list [.token b, .token plus]
    ChainOf OperatorJoint (tokens.drop 0) [slashed, joined] c ∧
      operatorChain.derivations tokens 0 =
        [⟨.list [.list [slashed, joined], .token c, .null], 7⟩] ∧
      ChainOf SingleOperator (tokens.drop 4) [joined] c ∧
      identifierChain.derivations tokens 4 = [⟨.list [.list [joined], .token c, .null], 7⟩] := by
  intro a opening plus closing b c tokens slashed joined
  have operators : ChainOf OperatorJoint (tokens.drop 0) [slashed, joined] c :=
    @ChainOf.more _ a c [opening, plus, closing] [b, plus, c] _ _ rfl (.slashed rfl rfl rfl)
      (@ChainOf.one _ b c [plus] _ rfl (.plus rfl) rfl)
  have identifiers : ChainOf SingleOperator (tokens.drop 4) [joined] c :=
    @ChainOf.one _ b c [plus] _ rfl (.operator rfl) rfl
  exact ⟨operators, (chains_found_once tokens 0).1.once _ _ operators,
    identifiers, (chains_found_once tokens 4).2.once _ _ identifiers⟩

end Matcher

end TokenGrammar
