import Thermowire.Letters
import Thermowire.Pattern.Automaton

/-!
Patterns as they are written. A dot is any character of a line, brackets hold a set, parentheses a
group, a bar divides alternatives, and `?`, `*`, `+` and a count in braces repeat what stands before
them; `^` and `$` are the ends of the text. A backslash takes a sign's meaning away or gives one to a
letter. Flags in parentheses hold up to the end of their group. The classes of letters, digits and
blanks and the cases of letters are known for ASCII alone, without the flag `u`.
-/
namespace Thermowire.Pattern

/-- The flags: whether case is ignored, all characters are regarded and not those of ASCII, blanks
and comments between signs are skipped, a dot is a line feed too, and lines also end at a return. -/
structure Flags where
  anyCase : Bool := false
  full : Bool := true
  spaced : Bool := false
  dotAll : Bool := false
  returns : Bool := false
  deriving DecidableEq, Repr

def Flags.set? (flags : Flags) (value : Bool) : Char → Option Flags
  | 'i' => some { flags with anyCase := value }
  | 'u' => some { flags with full := value }
  | 'x' => some { flags with spaced := value }
  | 's' => some { flags with dotAll := value }
  | 'R' => some { flags with returns := value }
  | 'm' => some flags
  | 'U' => some flags
  | _ => none

def skipBlanks (inComment : Bool) : Text → Text
  | [] => []
  | c :: rest =>
    if inComment then skipBlanks (c != '\n') rest
    else if isWhiteSpace c then skipBlanks false rest
    else if c = '#' then skipBlanks true rest
    else c :: rest

def skip (flags : Flags) (text : Text) : Text :=
  if flags.spaced then skipBlanks false text else text

/-- The character that decides whether a dash joins a range: with blanks skipped, the next one that
is no blank and does not open a comment. -/
def peek (flags : Flags) (inComment : Bool) : Text → Option Char
  | [] => none
  | c :: rest =>
    if flags.spaced && (isWhiteSpace c || (c = '#' && !inComment)) then
      peek flags (inComment || c = '#') rest
    else some c

inductive Sign where
  | char (c : Char)
  | set (members : CharSet)
  | here (place : Place)
  deriving DecidableEq, Repr

def hexDigit? (c : Char) : Option Nat :=
  if c.isDigit then some (c.toNat - '0'.toNat)
  else if 'a' ≤ c.toLower && c.toLower ≤ 'f' then some (c.toLower.toNat - 'a'.toNat + 10)
  else none

def readHexDigits (flags : Flags) : Nat → Nat → Text → Option (Nat × Text)
  | 0, code, text => some (code, text)
  | _ + 1, _, [] => none
  | count + 1, code, c :: rest => do
    let digit ← hexDigit? c
    readHexDigits flags count (16 * code + digit) (skip flags rest)

def readHexBraces (flags : Flags) : Nat → Nat → Text → Option (Nat × Text)
  | 0, _, _ => none
  | fuel + 1, code, text =>
    match skip flags text with
    | [] => none
    | '}' :: rest => some (code, rest)
    | c :: rest => do
      let digit ← hexDigit? c
      readHexBraces flags fuel (16 * code + digit) rest

/-- Reads a code point: hexadecimal digits of the given number, or any number of them in braces. Two
digits are a byte where not all characters are regarded. -/
def readCode (flags : Flags) (count : Nat) (text : Text) : Option (Sign × Text) := do
  let (code, rest) ←
    match skip flags text with
    | '{' :: text =>
      if (skip flags text).head? = some '}' then none
      else readHexBraces flags (text.length + 1) 0 text
    | text => do
      let (code, rest) ← readHexDigits flags count 0 text
      if count = 2 && !flags.full && 128 ≤ code then none else some (code, rest)
  if code.isValidChar then some (.char (.ofNat code), rest) else none

def isPlaceLetter (c : Char) : Bool := c.isAlpha || c = '-'

def readPlaceName (flags : Flags) : Nat → Text → Text → Option (Text × Text)
  | 0, _, _ => none
  | fuel + 1, name, text =>
    match text with
    | [] => none
    | '}' :: rest => some (name.reverse, rest)
    | c :: rest => if isPlaceLetter c then readPlaceName flags fuel (c :: name) (skip flags rest) else none

def namedPlace? (name : String) : Option WordPlace :=
  match name with
  | "start" => some .start
  | "end" => some .finish
  | "start-half" => some .startHalf
  | "end-half" => some .finishHalf
  | _ => none

def readWordPlace (flags : Flags) (text : Text) : Option (WordPlace × Text) :=
  match text with
  | '{' :: rest =>
    match skip flags rest with
    | [] => none
    | c :: inside =>
      if isPlaceLetter c then do
        let (name, rest) ← readPlaceName flags (inside.length + 2) [] (c :: inside)
        return (← namedPlace? (String.ofList name), rest)
      else some (.edge, text)
  | text => some (.edge, text)

/-- Reads a sign behind its backslash. No letter or digit stands for itself there. -/
def readEscape (flags : Flags) : Text → Option (Sign × Text)
  | [] => none
  | c :: rest =>
    let word (place : WordPlace) := Sign.here (.word place !flags.full)
    match c with
    | 'x' => readCode flags 2 rest
    | 'u' => readCode flags 4 rest
    | 'U' => readCode flags 8 rest
    | 'b' => (readWordPlace flags rest).map fun (place, rest) => (word place, rest)
    | 'B' => some (word .noEdge, rest)
    | '<' => some (word .start, rest)
    | '>' => some (word .finish, rest)
    | 'A' => some (.here .start, rest)
    | 'z' => some (.here .finish, rest)
    | 'd' => if flags.full then none else some (.set .digits, rest)
    | 's' => if flags.full then none else some (.set .blanks, rest)
    | 'w' => if flags.full then none else some (.set .words, rest)
    | 'a' => some (.char '\x07', rest)
    | 't' => some (.char '\t', rest)
    | 'n' => some (.char '\n', rest)
    | 'v' => some (.char '\x0b', rest)
    | 'f' => some (.char '\x0c', rest)
    | 'r' => some (.char '\r', rest)
    | c => if c.toNat < 128 && !c.isAlphanum then some (.char c, rest) else none

def readSign (flags : Flags) : Text → Option (Sign × Text)
  | [] => none
  | '\\' :: rest => readEscape flags rest
  | c :: rest => some (.char c, rest)

def fold (flags : Flags) (set : CharSet) : Option CharSet :=
  if !flags.anyCase || set.ranges.isEmpty then some set
  else if flags.full then none
  else some set.anyCase

def close (flags : Flags) (negated : Bool) (set : CharSet) : Option CharSet := do
  let set ← fold flags set
  let set := if negated then set.complement else set
  if flags.full || set.isAscii then some set else none

def Sign.pattern (flags : Flags) : Sign → Option Pattern
  | char c =>
    if flags.anyCase && (flags.full || c.isAlpha) then (fold flags (.single c)).map .one
    else some (.one (.single c))
  | set members => some (.one members)
  | here place => some (.here place)

def namedSet? (name : String) : Option CharSet :=
  match name with
  | "alnum" => some (.union .digits .letters)
  | "alpha" => some .letters
  | "ascii" => some (.range '\x00' '\x7f')
  | "blank" => some (.union (.single '\t') (.single ' '))
  | "cntrl" => some (.union (.range '\x00' '\x1f') (.single '\x7f'))
  | "digit" => some .digits
  | "graph" => some (.range '!' '~')
  | "lower" => some .lowers
  | "print" => some (.range ' ' '~')
  | "punct" => some (.difference (.range '!' '~') (.union .digits .letters))
  | "space" => some .blanks
  | "upper" => some .uppers
  | "word" => some .words
  | "xdigit" => some (.union .digits (.union (.range 'a' 'f') (.range 'A' 'F')))
  | _ => none

def readNamedSet (text : Text) : Option (Bool × CharSet × Text) :=
  let (negated, text) :=
    match text with
    | '^' :: text => (true, text)
    | text => (false, text)
  match text.span (· != ':') with
  | (name, ':' :: ']' :: rest) => (namedSet? (String.ofList name)).map (negated, ·, rest)
  | _ => none

/-- The members of a set so far, their number, and how deep sets stand in each other in it. -/
structure Members where
  set : CharSet := .empty
  count : Nat := 0
  inner : Nat := 0
  deriving DecidableEq, Repr

namespace Members

def add (members : Members) (set : CharSet) (depth : Nat) : Members :=
  ⟨.union members.set set, members.count + 1, max members.inner depth⟩

def depth (members : Members) : Nat :=
  if members.count ≤ 1 then members.inner else members.inner + 1

end Members

def readDashes (flags : Flags) : Nat → Members → Text → Members × Text
  | fuel + 1, members, '-' :: rest =>
    readDashes flags fuel (members.add (.single '-') 0) (skip flags rest)
  | _, members, text => (members, text)

def readOpening (flags : Flags) (text : Text) : Bool × Members × Text :=
  let (negated, text) :=
    match skip flags text with
    | '^' :: text => (true, skip flags text)
    | text => (false, text)
  match readDashes flags text.length {} text with
  | (⟨_, 0, _⟩, ']' :: rest) => (negated, ({} : Members).add (.single ']') 0, skip flags rest)
  | (members, rest) => (negated, members, rest)

def memberSet (flags : Flags) : Sign → Option CharSet
  | .char c => if flags.full || c.toNat < 128 then some (.single c) else none
  | .set members => some members
  | .here _ => none

def readRange (flags : Flags) (text : Text) : Option (CharSet × Text) := do
  let (sign, rest) ← readSign flags text
  let set ← memberSet flags sign
  match skip flags rest with
  | '-' :: rest =>
    let next := peek flags false rest
    if next = some ']' || next = some '-' then return (set, '-' :: rest)
    else
      match sign, ← readSign flags (skip flags rest) with
      | .char first, (.char last, rest) => do
        let _ ← memberSet flags (.char last)
        if first ≤ last then some (.range first last, rest) else none
      | _, _ => none
  | rest => return (set, rest)

structure Operand where
  combine : CharSet → CharSet := id
  depth : Option Nat := none

def Operand.join (operand : Operand) (depth : Nat) : Nat :=
  match operand.depth with
  | none => depth
  | some before => max before depth + 1

/-- Reads a set up to its bracket, with the levels in it. -/
def readSet (flags : Flags) : Nat → Operand → Members → Text → Option (CharSet × Nat × Text)
  | 0, _, _, _ => none
  | fuel + 1, operand, members, text =>
    let operate (operation : CharSet → CharSet → CharSet) (rest : Text) := do
      let whole := operand.combine (← fold flags members.set)
      readSet flags fuel ⟨operation whole, some (operand.join members.depth)⟩ {} rest
    let nested (text : Text) := do
      let (negated, first, rest) := readOpening flags text
      let (set, depth, rest) ← readSet flags fuel {} first rest
      readSet flags fuel operand (members.add (← close flags negated set) (depth + 1)) rest
    match skip flags text with
    | [] => none
    | ']' :: rest => do
      let last ← if operand.depth.isSome then fold flags members.set else some members.set
      some (operand.combine last, operand.join members.depth, rest)
    | '&' :: '&' :: rest => operate .intersection rest
    | '-' :: '-' :: rest => operate .difference rest
    | '~' :: '~' :: rest => operate .symmetricDifference rest
    | '[' :: ':' :: rest =>
      match readNamedSet rest with
      | some (negated, set, rest) => do
        readSet flags fuel operand (members.add (← close flags negated set) 0) rest
      | none => nested (':' :: rest)
    | '[' :: rest => nested rest
    | text => do
      let (set, rest) ← readRange flags text
      readSet flags fuel operand (members.add set 0) rest

def readDigits (flags : Flags) : Nat → Option Nat → Text → Option (Nat × Text)
  | fuel + 1, value, digit :: rest =>
    if digit.isDigit then
      readDigits flags fuel (some (10 * value.getD 0 + (digit.toNat - '0'.toNat))) (skip flags rest)
    else value.map (·, digit :: rest)
  | _, value, text => value.map (·, text)

def readNumber (flags : Flags) (text : Text) : Option (Nat × Text) := do
  let text := text.dropWhile isWhiteSpace
  let (value, rest) ← readDigits flags text.length none text
  if value < UInt32.size then some (value, rest.dropWhile isWhiteSpace) else none

def readCounts (flags : Flags) (text : Text) : Option ((Nat × Option Nat) × Text) := do
  let (least, rest) ← readNumber flags (skip flags text)
  match rest with
  | '}' :: rest => return ((least, some least), skip flags rest)
  | ',' :: rest =>
    match skip flags rest with
    | '}' :: rest => return ((least, none), skip flags rest)
    | rest =>
      match ← readNumber flags rest with
      | (most, '}' :: rest) =>
        if least ≤ most then some ((least, some most), skip flags rest) else none
      | _ => none
  | _ => none

def readFlags (negated : Bool) (seen : Text) (flags : Flags) : Text → Option (Flags × Text)
  | [] => none
  | '-' :: rest =>
    if negated || rest.head?.all [':', ')'].contains then none else readFlags true seen flags rest
  | c :: rest =>
    if c = ':' || c = ')' then some (flags, c :: rest)
    else if seen.contains c then none
    else do readFlags negated (c :: seen) (← flags.set? (!negated) c) rest

def isNameLetter (c : Char) : Bool :=
  c = '_' || c = '.' || c = '[' || c = ']' || isLetter c || isNumeral c

def readName (text : Text) : Option (Text × Text) :=
  match text.span (· != '>') with
  | (first :: name, _ :: rest) =>
    if (first = '_' || isLetter first) && name.all isNameLetter then some (first :: name, rest)
    else none
  | _ => none

inductive Opened where
  | named (name : Text)
  | counted
  | plain (flags : Flags)
  | flags (flags : Flags)
  deriving DecidableEq, Repr

def readOpened (flags : Flags) (text : Text) : Option (Opened × Text) :=
  match skip flags text with
  | '?' :: 'P' :: '<' :: rest => (readName rest).map fun (name, rest) => (.named name, rest)
  | '?' :: '<' :: rest => (readName rest).map fun (name, rest) => (.named name, rest)
  | '?' :: ')' :: _ => none
  | '?' :: rest => do
    match ← readFlags false [] flags rest with
    | (flags, ':' :: rest) => some (.plain flags, rest)
    | (flags, rest) => some (.flags flags, rest.drop 1)
  | rest => some (.counted, rest)

structure Part where
  pattern : Pattern
  depth : Nat := 0
  isFlags : Bool := false
  deriving DecidableEq, Repr

def levels (parts : List Part) : Nat :=
  let inner := (parts.map Part.depth).foldl max 0
  if parts.length ≤ 1 then inner else inner + 1

def sequence (parts : List Part) : Part :=
  { pattern := parts.foldl (fun rest part => part.pattern.append rest) empty, depth := levels parts }

def alternatives (parts : List Part) : Part :=
  match parts with
  | [part] => part
  | parts => { pattern := choice (parts.reverse.map Part.pattern), depth := levels parts }

def skipLazy : Text → Text
  | '?' :: rest => rest
  | rest => rest

def dot (flags : Flags) : Option Pattern :=
  if !flags.full then none
  else if flags.dotAll then some (.one (.complement .empty))
  else if flags.returns then some (.one (.complement (.union (.single '\n') (.single '\r'))))
  else some (.one (.complement (.single '\n')))

/-- Reads alternatives up to the end of the text or of the group, with the names of groups that have
been read. `before` holds the alternatives before the last and `parts` those of the last, both in
reverse. -/
def read : Nat → Flags → List Text → List Part → List Part → Text → Option (Part × List Text × Text)
  | 0, _, _, _, _, _ => none
  | fuel + 1, flags, names, before, parts, text =>
    let add (part : Part) (rest : Text) := read fuel flags names before (part :: parts) rest
    let again (least : Nat) (most : Option Nat) (rest : Text) :=
      match parts with
      | [] => none
      | part :: parts =>
        if part.isFlags then none
        else
          let part := { pattern := part.pattern.times least most, depth := part.depth + 1 }
          read fuel flags names before (part :: parts) (skipLazy rest)
    let inside (flags' : Flags) (names : List Text) (wrap : Pattern → Pattern) (rest : Text) := do
      match ← read fuel flags' names [] [] rest with
      | (part, names, ')' :: rest) =>
        let part := { pattern := wrap part.pattern, depth := part.depth + 1 }
        read fuel flags names before (part :: parts) rest
      | _ => none
    match skip flags text with
    | [] => some (alternatives (sequence parts :: before), names, [])
    | ')' :: rest => some (alternatives (sequence parts :: before), names, ')' :: rest)
    | '|' :: rest => read fuel flags names (sequence parts :: before) [] rest
    | '(' :: rest => do
      match ← readOpened flags rest with
      | (.named name, rest) =>
        if names.contains name then none else inside flags (name :: names) group rest
      | (.counted, rest) => inside flags names group rest
      | (.plain flags, rest) => inside flags names id rest
      | (.flags flags, rest) =>
        read fuel flags names before ({ pattern := empty, isFlags := true } :: parts) rest
    | '[' :: rest => do
      let (negated, first, rest) := readOpening flags rest
      let (set, depth, rest) ← readSet flags (rest.length + 1) {} first rest
      add { pattern := .one (← close flags negated set), depth := depth + 1 } rest
    | '?' :: rest => again 0 (some 1) rest
    | '*' :: rest => again 0 none rest
    | '+' :: rest => again 1 none rest
    | '{' :: rest => do
      let ((least, most), rest) ← readCounts flags rest
      again least most rest
    | '.' :: rest => do add { pattern := ← dot flags } rest
    | '^' :: rest => add { pattern := .here .start } rest
    | '$' :: rest => add { pattern := .here .finish } rest
    | text => do
      let (sign, rest) ← readSign flags text
      add { pattern := ← sign.pattern flags } rest

def mostLevels : Nat := 250

inductive Fault where
  | unreadable
  | tooLarge
  | needsLetters
  deriving DecidableEq, Repr

def ofText (text : Text) : Except Fault Pattern :=
  match read (text.length + 1) {} [] [] [] text with
  | some (⟨pattern, depth, _⟩, _, []) =>
    if mostLevels < depth then .error .unreadable
    else if sizeLimit < pattern.wholeSize false then .error .tooLarge
    else if pattern.needsLetters then .error .needsLetters
    else if sizeLimit < pattern.wholeSize true then .error .tooLarge
    else .ok pattern
  | _ => .error .unreadable

end Thermowire.Pattern
