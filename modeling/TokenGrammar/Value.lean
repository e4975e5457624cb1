import TokenGrammar.Token

set_option autoImplicit false

/-! Values: what a derivation produces. A leaf gives a token, the end of input gives null, sequences
and repetitions give lists, and a transform may turn any of these into something else. -/

namespace TokenGrammar

inductive Value where
  | null
  | boolean (value : Bool)
  | integer (value : Int64)
  | float (value : Float)
  | text (value : String)
  | token (value : Token)
  | list (items : List Value)

namespace Value

instance : Inhabited Value := ⟨null⟩

def isNull : Value → Bool
  | null => true
  | _ => false

def asText? : Value → Option String
  | text value => some value
  | _ => none

def asToken? : Value → Option Token
  | token value => some value
  | _ => none

def asList? : Value → Option (List Value)
  | list items => some items
  | _ => none

mutual

def tokens : Value → List Token
  | token value => [value]
  | list items => tokensOfAll items
  | _ => []

def tokensOfAll : List Value → List Token
  | [] => []
  | item :: later => tokens item ++ tokensOfAll later

end

mutual

/-- Equality of values. Floats compare as numbers: a NaN differs from itself and the two zeros are
equal. -/
def same : Value → Value → Bool
  | null, null => true
  | boolean left, boolean right => left == right
  | integer left, integer right => left == right
  | float left, float right => left == right
  | text left, text right => left == right
  | token left, token right => left == right
  | list left, list right => sameAll left right
  | _, _ => false

def sameAll : List Value → List Value → Bool
  | [], [] => true
  | left :: leftLater, right :: rightLater => same left right && sameAll leftLater rightLater
  | _, _ => false

end

end Value

end TokenGrammar
