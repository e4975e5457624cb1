import TokenGrammar.Search.Worklist

set_option autoImplicit false

/-! Deriving: the search that a grammar tree opens at a position of a token list. A sequence opens
its first item as soon as it is opened itself; an alternation opens a branch only when the branches
before it have ended; a repetition does nothing until it is run, and then finds everything before it
yields anything. -/

namespace TokenGrammar

namespace Search

def ofToken (tokens : List Token) (test : TokenTest) (position : Nat) : List Derivation :=
  match tokens[position]? with
  | some token => if test.accepts token then [⟨.token token, position + 1⟩] else []
  | none => []

def ofFinish (tokens : List Token) (position : Nat) : List Derivation :=
  if position = tokens.length then [⟨.null, position⟩] else []

end Search

/-- The opening of a node around the opening of what it consists of: it tells that the node is
tried, and before each yield that the node has matched; the node's transform is applied last. -/
def Opening.announce (matcher : Matcher) (position : Nat) (inner : Opening) : Opening :=
  { records := .tried matcher position :: inner.records
    pending := (inner.bind (fun found =>
      .record (.matched matcher found.position) (fun _ =>
        .yield { found with value := matcher.applyTransform found.value } (fun _ =>
          .done)))).pending }

namespace Matcher

mutual

def derive (tokens : List Token) : Matcher → Nat → Opening
  | .token test transform, position =>
      .announce (.token test transform) position
        (.suspend (fun _ => .ofList (Search.ofToken tokens test position)))
  | .finish transform, position =>
      .announce (.finish transform) position
        (.suspend (fun _ => .ofList (Search.ofFinish tokens position)))
  | .alternation branches transform, position =>
      .announce (.alternation branches transform) position
        (.suspend (fun _ => deriveBranches tokens branches position))
  | .sequence items transform, position =>
      .announce (.sequence items transform) position (deriveItems tokens items position [])
  | .repetition item least most transform, position =>
      .announce (.repetition item least most transform) position
        (.suspend (fun _ =>
          { item := derive tokens item, least, most : Repetition }.search position))

def deriveBranches (tokens : List Token) : List Matcher → Nat → Search
  | [], _ => .done
  | branch :: later, position =>
      (derive tokens branch position).run.append (fun _ => deriveBranches tokens later position)

def deriveItems (tokens : List Token) : List Matcher → Nat → List Value → Opening
  | [], position, values => .suspend (fun _ => .ofList [⟨.list values, position⟩])
  | item :: later, position, values =>
      (derive tokens item position).bind (fun found =>
        (deriveItems tokens later found.position (values ++ [found.value])).run)

end

end Matcher

end TokenGrammar
