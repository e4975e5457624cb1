import TokenGrammar.Text.Hidden

set_option autoImplicit false

/-! Quoted texts. A text is written between double quotes; the quote, the backslash, the common
control characters and every hidden character are escaped, so that the closing quote is the first
one that no backslash precedes. -/

namespace TokenGrammar.Text

def hexDigits (number : Nat) : List Char :=
  Nat.toDigits 16 number

def decimalDigits (number : Nat) : List Char :=
  Nat.toDigits 10 number

def quotedCharacter (character : Char) : List Char :=
  if character = '\x00' then ['\\', '0']
  else if character = '\t' then ['\\', 't']
  else if character = '\n' then ['\\', 'n']
  else if character = '\r' then ['\\', 'r']
  else if character = '\\' then ['\\', '\\']
  else if character = '"' then ['\\', '"']
  else if isHidden character then
    '\\' :: 'u' :: '\x7b' :: (hexDigits character.toNat ++ ['\x7d'])
  else [character]

def quoted (text : List Char) : List Char :=
  '"' :: (text.flatMap quotedCharacter ++ ['"'])

end TokenGrammar.Text
