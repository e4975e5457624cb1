import TokenGrammar.Matcher

set_option autoImplicit false

/-! Ready-made grammars. Both accept a chain of identifiers that ends with the tokens; they differ
in what may stand between two identifiers. -/

namespace TokenGrammar.Matcher

def operatorText (text : String) : Matcher := ofKindText .operator text

/-- Parts of an identifier and a joint, at least one of them, then an identifier and the end. -/
def chain (joint : Matcher) : Matcher :=
  sequence
    [repetition (sequence [ofKind .identifier, joint] none) 1 none none,
     ofKind .identifier,
     finish none] none

def operatorChain : Matcher :=
  chain (alternation
    [sequence [operatorText "/", operatorText "+", operatorText "/"] none,
     operatorText "+"] none)

def identifierChain : Matcher :=
  chain (ofKind .operator)

end TokenGrammar.Matcher
