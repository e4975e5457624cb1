set_option autoImplicit false

/-! Faults: what an operation reports when its caller breaks the operation's promise. They are
values, so an operation that faults leaves everything else as it was. -/

namespace TokenGrammar

inductive Fault where
  | spanReversed (start stop : Nat)
  | readPastEnd (position length : Nat)
  | advancedPastEnd (length : Nat)
  | foreignCursor
  | indexOutOfBounds (length index : Nat)
  | offBoundary
  | unmet (explanation : String)
  deriving DecidableEq

/-- The text of a fault; cutting off a boundary has none. -/
def Fault.message : Fault → Option String
  | .spanReversed start stop =>
      some ("span start " ++ toString start ++ " after end " ++ toString stop)
  | .readPastEnd position length =>
      some ("read past end of token stream at position " ++ toString position ++
        " (length " ++ toString length ++ ")")
  | .advancedPastEnd length =>
      some ("advanced past end of token stream (length " ++ toString length ++ ")")
  | .foreignCursor => some "committed a cursor from a different token sequence"
  | .indexOutOfBounds length index =>
      some ("index out of bounds: the len is " ++ toString length ++
        " but the index is " ++ toString index)
  | .offBoundary => none
  | .unmet explanation => some explanation

end TokenGrammar
