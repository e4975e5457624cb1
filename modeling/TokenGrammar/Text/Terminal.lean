set_option autoImplicit false

/-! Terminal control sequences: what a terminal obeys and does not show. A sequence starts with the
escape character, and its form is known by a small machine that reads one character after the other.
`plain` keeps of a text what the machine shows. -/

namespace TokenGrammar.Text

inductive ControlState where
  | ground
  | escape
  | escapeMarks
  | command
  | commandParameters
  | commandMarks
  | commandRefused
  | device
  | deviceParameters
  | deviceMarks
  | message
  | title
  deriving DecidableEq

namespace ControlState

def obeysBlanks : ControlState → Bool
  | device | deviceParameters | deviceMarks | message | title => false
  | _ => true

def isControlBlank (code : Nat) : Bool :=
  code = 0x09 || code = 0x0A || code = 0x0C || code = 0x0D

def shows (state : ControlState) (character : Char) : Bool :=
  let code := character.toNat
  (state = ground && 0x20 ≤ code && code != 0x7F) || (state.obeysBlanks && isControlBlank code)

/-- The state that a code unit below 128 leads to. Two of the control characters end every sequence,
and the escape character starts a new one. -/
def afterCode (state : ControlState) (code : Nat) : ControlState :=
  let isMark : Bool := 0x20 ≤ code && code ≤ 0x2F
  let isParameter : Bool := 0x30 ≤ code && code ≤ 0x3F
  let isPrivate : Bool := 0x3C ≤ code && code ≤ 0x3F
  let isFinal : Bool := 0x40 ≤ code && code ≤ 0x7E
  if code = 0x18 || code = 0x1A then ground
  else if code = 0x1B then escape
  else
    match state with
    | ground => ground
    | escape =>
        if isMark then escapeMarks
        else if code = 0x50 then device
        else if code = 0x5B then command
        else if code = 0x5D then title
        else if code = 0x58 || code = 0x5E || code = 0x5F then message
        else if isParameter || isFinal then ground
        else escape
    | escapeMarks => if isParameter || isFinal then ground else escapeMarks
    | command =>
        if isMark then commandMarks
        else if isParameter then commandParameters
        else if isFinal then ground
        else command
    | commandParameters =>
        if isMark then commandMarks
        else if isPrivate then commandRefused
        else if isFinal then ground
        else commandParameters
    | commandMarks =>
        if isParameter then commandRefused
        else if isFinal then ground
        else commandMarks
    | commandRefused => if isFinal then ground else commandRefused
    | device =>
        if isMark then deviceMarks
        else if isParameter then deviceParameters
        else if isFinal then message
        else device
    | deviceParameters =>
        if isMark then deviceMarks
        else if isPrivate || isFinal then message
        else deviceParameters
    | deviceMarks => if isParameter || isFinal then message else deviceMarks
    | message => message
    | title => if code = 0x07 then ground else title

def messageEnd : UInt8 := 0x9C

/-- The state that a hidden character leads to. A character of several bytes does nothing but
close a message. -/
def after (state : ControlState) (character : Char) : ControlState :=
  if character.toNat < 0x80 then state.afterCode character.toNat
  else if state = message && (String.singleton character).toUTF8.toList.contains messageEnd then ground
  else state

end ControlState

/-- What is shown of a text that starts in a state. Once a character has been shown, all are shown
up to the next one that is hidden outside sequences; a sequence that was left open by a blank goes
on there, unless a character of several bytes has ended it. -/
def plainFrom : Bool → ControlState → List Char → List Char
  | _, _, [] => []
  | showing, state, character :: later =>
      if (if showing then ControlState.ground else state).shows character then
        character :: plainFrom true (if character.toNat < 0x80 then state else .ground) later
      else plainFrom false (state.after character) later

def plain (text : List Char) : List Char :=
  plainFrom false .ground text

end TokenGrammar.Text
