import Thermowire.Text

/-!
A text as it is shown without a terminal: control characters other than blanks are left out, and so
are control sequences, which an escape opens.
-/
namespace Thermowire.Host

def isBlankControl (c : Char) : Bool := ['\t', '\n', '\x0c', '\r'].contains c

def isPlain (c : Char) : Bool := isBlankControl c || (' ' ≤ c && c ≠ '\x7f')

/-- How far a control sequence has been read; `ground` is outside of all. -/
inductive ControlState where
  | ground
  | escape
  | escapeIntermediate
  | controlSequence
  | deviceEntry
  | deviceParameter
  | deviceIntermediate
  | controlString
  | systemCommand
  deriving DecidableEq, Repr

namespace ControlState

def isIntermediate (c : Char) : Bool := ' ' ≤ c && c ≤ '/'

def isFinal (c : Char) : Bool := '0' ≤ c && c ≤ '~'

def terminates (c : Char) : Bool := (String.utf8EncodeChar c).contains 0x9c

/-- The state behind a character that is no part of a text. An escape opens a new sequence anywhere,
and a cancel or a substitute ends any. -/
def next (state : ControlState) (c : Char) : ControlState :=
  if c = '\x1b' then escape
  else if c = '\x18' ∨ c = '\x1a' then ground
  else
    match state with
    | ground => ground
    | escape =>
      match c with
      | '[' => controlSequence
      | ']' => systemCommand
      | 'P' => deviceEntry
      | 'X' => controlString
      | '^' => controlString
      | '_' => controlString
      | c => if isIntermediate c then escapeIntermediate else if isFinal c then ground else escape
    | escapeIntermediate => if isFinal c then ground else escapeIntermediate
    | controlSequence => if '@' ≤ c && c ≤ '~' then ground else controlSequence
    | deviceEntry =>
      if isIntermediate c then deviceIntermediate
      else if '@' ≤ c && c ≤ '~' then controlString
      else if isFinal c then deviceParameter
      else deviceEntry
    | deviceParameter =>
      if isIntermediate c then deviceIntermediate
      else if '<' ≤ c && c ≤ '~' then controlString
      else deviceParameter
    | deviceIntermediate => if isFinal c then controlString else deviceIntermediate
    | controlString => if terminates c then ground else controlString
    | systemCommand => if c = '\x07' then ground else systemCommand

def shows : ControlState → Char → Bool
  | ground, c => isPlain c
  | escape, c => isBlankControl c
  | escapeIntermediate, c => isBlankControl c
  | controlSequence, c => isBlankControl c
  | _, _ => false

/-- What is shown of a text. Once a character is shown, all is text up to the next one that is not
plain; there the sequence goes on, unless a character outside of ASCII has ended it. -/
def plainFrom (state : ControlState) (inText : Bool) : Text → Text
  | [] => []
  | c :: rest =>
    if (if inText then ground else state).shows c then
      c :: plainFrom (if c.toNat < 128 then state else ground) true rest
    else plainFrom (state.next c) false rest

end ControlState

def plain (text : Text) : Text := ControlState.plainFrom .ground false text

end Thermowire.Host
