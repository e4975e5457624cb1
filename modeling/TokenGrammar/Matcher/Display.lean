import TokenGrammar.Matcher
import TokenGrammar.Text.Quoted

set_option autoImplicit false

/-! Two texts of a grammar tree. The compact one is for readers and for the log of a search; it
shows no transforms and does not always tell a leaf with kind and text from two leaves. The
structural one names every node, brackets it, and says whether it carries a transform. -/

namespace TokenGrammar

namespace TokenTest

def compactText : TokenTest → List Char
  | .kind wantedKind => wantedKind.name.toList
  | .text wantedText => Text.quoted wantedText.toList
  | .kindText wantedKind wantedText =>
      wantedKind.name.toList ++ ' ' :: Text.quoted wantedText.toList

def structuralText : TokenTest → List Char
  | .kind wantedKind => "Kind(".toList ++ wantedKind.title.toList ++ [')']
  | .text wantedText => "Value(".toList ++ Text.quoted wantedText.toList ++ [')']
  | .kindText wantedKind wantedText =>
      "KindValue(".toList ++ wantedKind.title.toList ++ ", ".toList ++
        Text.quoted wantedText.toList ++ [')']

end TokenTest

namespace Matcher

/-! ### The compact text -/

def boundsText (least : Nat) (most : Option Nat) : List Char :=
  '\x7b' :: (Text.decimalDigits least ++ ',' ::
    ((most.map Text.decimalDigits).getD [] ++ ['\x7d']))

mutual

/-- The compact text: kinds by name, texts quoted, the end as a dollar sign, branches between bars,
items between spaces, and bounds after what is repeated. -/
def compactText : Matcher → List Char
  | token test _ => test.compactText
  | finish _ => ['$']
  | alternation branches _ => '(' :: (compactTexts " | ".toList branches ++ [')'])
  | sequence items _ => '(' :: (compactTexts [' '] items ++ [')'])
  | repetition item least most _ => compactText item ++ boundsText least most

def compactTexts (separator : List Char) : List Matcher → List Char
  | [] => []
  | [matcher] => compactText matcher
  | matcher :: later => compactText matcher ++ separator ++ compactTexts separator later

end

def compact (matcher : Matcher) : String :=
  String.ofList matcher.compactText

/-! ### The structural text -/

def transformText : Option Transform → List Char
  | none => "None".toList
  | some _ => "Some(\"<fn>\")".toList

def mostText : Option Nat → List Char
  | none => "None".toList
  | some most => "Some(".toList ++ Text.decimalDigits most ++ [')']

def nodeText (pattern : List Char) (transform : Option Transform) : List Char :=
  "Matcher \x7b pattern: ".toList ++ pattern ++ ", transform: ".toList ++
    transformText transform ++ " \x7d".toList

mutual

def structuralText : Matcher → List Char
  | token test transform => nodeText test.structuralText transform
  | finish transform => nodeText "End".toList transform
  | alternation branches transform =>
      nodeText ("Alternation([".toList ++ structuralTexts branches ++ "])".toList) transform
  | sequence items transform =>
      nodeText ("Sequence([".toList ++ structuralTexts items ++ "])".toList) transform
  | repetition item least most transform =>
      nodeText ("Repetition \x7b matcher: ".toList ++ structuralText item ++ ", min: ".toList ++
        Text.decimalDigits least ++ ", max: ".toList ++ mostText most ++ " \x7d".toList) transform

def structuralTexts : List Matcher → List Char
  | [] => []
  | [matcher] => structuralText matcher
  | matcher :: later => structuralText matcher ++ ", ".toList ++ structuralTexts later

end

def structural (matcher : Matcher) : String :=
  String.ofList matcher.structuralText

end Matcher

end TokenGrammar
