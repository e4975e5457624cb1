import TokenGrammar.Expectation

set_option autoImplicit false

/-! What can be expected of the values that a grammar yields. They are compared by their compact
notation. -/

namespace TokenGrammar

inductive ValueExpectation where
  | count (wanted : Nat)
  | renderedAt (index : Nat) (wanted : String)
  | renderedAll (wanted : List String)

namespace ValueExpectation

open Expectation

def none : ValueExpectation := count 0

def check (values : List Value) : ValueExpectation → Except Fault Unit
  | count wanted =>
      equal Text.decimalDigits
        (some ("Expected ".toList ++ Text.decimalDigits wanted ++ " derivations, found ".toList ++
          Text.decimalDigits values.length ++ ":\n".toList ++
          Text.joined ['\n'] (values.map Value.prettyText)))
        values.length wanted
  | renderedAt index wanted =>
      match values[index]? with
      | some value =>
          equal shownText
            (some ("derivations[".toList ++ Text.decimalDigits index ++ [']']))
            value.pretty wanted
      | .none =>
          .error (.unmet (String.ofList ("Derivation index ".toList ++ Text.decimalDigits index ++
            " out of bounds (".toList ++ Text.decimalDigits values.length ++
            " derivations)".toList)))
  | renderedAll wanted => equal shownTexts .none (values.map Value.pretty) wanted

end ValueExpectation

end TokenGrammar
