import Thermowire.Digits

/-!
The command line of the host program. The program declares two options that take a value; how a
command line is read by such declarations is a parameter of the program, of which only what is
documented is relied on (`OptionParser.Documented`).
-/
namespace Thermowire.Host

inductive Setting where
  | chip
  | line
  deriving DecidableEq, Repr

/-- An option with a value. It is required unless there is a value to fall back to. -/
structure Declaration where
  letter : Char
  name : Text
  fallback : Option Text := none
  deriving DecidableEq, Repr

def defaultChip : Text := "/dev/gpiochip0".toList

def Setting.declaration : Setting → Declaration
  | chip => { letter := 'c', name := "chip".toList, fallback := some defaultChip }
  | line => { letter := 'l', name := "line".toList }

structure Arguments where
  chip : Text
  line : UInt32
  deriving DecidableEq, Repr

/-- An end before the program has begun, with all that is printed. -/
structure Exit where
  code : Nat
  output : Text := []
  errors : Text := []
  deriving DecidableEq, Repr

/-- What reads command lines by the options that are declared. -/
abbrev OptionParser := (Setting → Declaration) → List Text → Except Exit Arguments

inductive Spelling where
  | shortAttached
  | shortEquals
  | shortApart
  | longEquals
  | longApart
  deriving DecidableEq, Repr

def Spelling.write (letter : Char) (name value : Text) : Spelling → List Text
  | shortAttached => ['-' :: letter :: value]
  | shortEquals => ['-' :: letter :: '=' :: value]
  | shortApart => [['-', letter], value]
  | longEquals => ['-' :: '-' :: (name ++ '=' :: value)]
  | longApart => ['-' :: '-' :: name, value]

/-- A value that can be told from an option and from an equals sign in front of a value. -/
structure Spellable (value : Text) : Prop where
  nonempty : value ≠ []
  undashed : value.head? ≠ some '-'
  unequal : value.head? ≠ some '='

structure Given where
  setting : Setting
  value : Text
  spelling : Spelling
  spellable : Spellable value

def Given.respell (given : Given) (spelling : Spelling) : Given := { given with spelling }

section Declared
variable (declared : Setting → Declaration)

def Given.write (given : Given) : List Text :=
  given.spelling.write (declared given.setting).letter (declared given.setting).name given.value

def commandLine (options : List Given) : List Text := options.flatMap (Given.write declared)

/-- The value that some options give to a setting, or else the one to fall back to. -/
def valueOf (options : List Given) (setting : Setting) : Option Text :=
  ((options.find? (·.setting = setting)).map Given.value).or (declared setting).fallback

/-- Options that are told apart by letters and by words, also from those that ask for help and for the version. -/
structure Unambiguous : Prop where
  letters : ['h', 'V', (declared .chip).letter, (declared .line).letter].Nodup
  names : ["help".toList, "version".toList, (declared .chip).name, (declared .line).name].Nodup
  alphabetic : ∀ setting, (declared setting).letter.isAlpha
  word : ∀ setting, (declared setting).name ≠ [] ∧ ∀ c ∈ (declared setting).name, c.isAlpha

end Declared

/-- A text that is read as a signed number of 64 bits, whose value is one of 32 bits. -/
def Fits (text : Text) (number : UInt32) : Prop := readInteger text = .ok number.toNat

namespace OptionParser

/-- Whatever else is given, an option means the same in two spellings. -/
def Interchangeable (parse : OptionParser) (first second : Spelling) : Prop :=
  ∀ declared, Unambiguous declared → ∀ (before : List Given) (given : Given) (after : List Given),
    parse declared (commandLine declared (before ++ given.respell first :: after)) =
      parse declared (commandLine declared (before ++ given.respell second :: after))

/-- What is documented of a parser. An option has a short and a long form, and its value is an argument of its own or
follows an equals sign or, in the short form, the letter itself. Options are given once, in any order; a setting has
the value that is given or else that to fall back to, and the program ends with code 2 if a line is no number that
fits. -/
structure Documented (parse : OptionParser) : Prop where
  short : parse.Interchangeable .shortApart .longApart
  longEquals : parse.Interchangeable .longEquals .longApart
  shortEquals : parse.Interchangeable .shortEquals .shortApart
  shortAttached : parse.Interchangeable .shortAttached .shortApart
  accepted : ∀ declared, Unambiguous declared → ∀ options : List Given, (options.map Given.setting).Nodup →
    ∀ chip line number, valueOf declared options .chip = some chip → valueOf declared options .line = some line →
      Fits line number →
        parse declared (commandLine declared (options.map (·.respell .longApart))) = .ok { chip, line := number }
  refused : ∀ declared, Unambiguous declared → ∀ options : List Given,
    ∀ given ∈ options, given.setting = .line → (¬ ∃ number, Fits given.value number) →
      ∃ exit, parse declared (commandLine declared (options.map (·.respell .longApart))) = .error exit ∧ exit.code = 2

end OptionParser
end Thermowire.Host
