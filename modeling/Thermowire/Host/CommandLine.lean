import Thermowire.Host.Arguments
import Thermowire.Host.PlainText

/-!
The parser of command lines that the program is run with. Beside the declared options there are two
flags that ask for a text. Arguments are read from left to right; an option whose value may still
follow is settled by the next option or flag that is known, or at the end.
-/
namespace Thermowire.Host

inductive Flag where
  | help
  | version
  deriving DecidableEq, Repr

def Flag.usage : Flag → Text
  | help => "--help".toList
  | version => "--version".toList

def Declaration.usage (declaration : Declaration) : Text :=
  "--".toList ++ declaration.name ++ " <".toList ++ declaration.name.map Char.toUpper ++ ">".toList

inductive LineError where
  | number (error : NumberError)
  | outOfRange (value : Int)
  deriving DecidableEq, Repr

def LineError.message : LineError → String
  | number error => error.message
  | outOfRange value => toString value ++ " is not in 0..=4294967295"

def readLine (text : Text) : Except LineError UInt32 :=
  match readInteger text with
  | .error error => .error (.number error)
  | .ok value =>
    if 0 ≤ value ∧ value.toNat < UInt32.size then .ok (.ofNat value.toNat) else .error (.outOfRange value)

inductive UsageError where
  | unexpected (argument : Text)
  | unexpectedValue (flag : Flag) (value : Text)
  | missingValue (setting : Setting)
  | repeated (setting : Setting)
  | invalidLine (value : Text) (error : LineError)
  | missing
  deriving DecidableEq, Repr

inductive Halt where
  | usage (error : UsageError)
  | asked (flag : Flag)
  deriving DecidableEq, Repr

/-- An argument by its form. A single dash is a plain text; a long option ends at the first `=`. -/
inductive Argument where
  | terminator
  | long (name : Text) (value : Option Text)
  | short (letter : Char) (rest : Text)
  | plain (text : Text)
  deriving DecidableEq, Repr

def Argument.ofText : Text → Argument
  | ['-', '-'] => terminator
  | '-' :: '-' :: text =>
    match text.dropWhile (· != '=') with
    | [] => long text none
    | _ :: value => long (text.takeWhile (· != '=')) (some value)
  | '-' :: letter :: rest => short letter rest
  | text => plain text

/-- What the arguments read so far have set. An option is pending while its value may follow, and
still pending with its value when that has come as an argument of its own. -/
structure Reading where
  chip : Option Text := none
  line : Option UInt32 := none
  pending : Option (Setting × Option Text) := none
  deriving DecidableEq, Repr

namespace Reading

def commit (reading : Reading) : Setting → Text → Except Halt Reading
  | .chip, value =>
    if reading.chip.isSome then .error (.usage (.repeated .chip))
    else .ok { reading with chip := some value }
  | .line, value =>
    if reading.line.isSome then .error (.usage (.repeated .line))
    else match readLine value with
      | .ok line => .ok { reading with line := some line }
      | .error error => .error (.usage (.invalidLine value error))

def settle (reading : Reading) : Except Halt Reading :=
  match reading.pending with
  | none => .ok reading
  | some (setting, none) => .error (.usage (.missingValue setting))
  | some (setting, some value) => { reading with pending := none }.commit setting value

def readSetting (reading : Reading) (setting : Setting) (value : Option Text) :
    Except Halt Reading := do
  let reading ← reading.settle
  match value with
  | some value => reading.commit setting value
  | none => return { reading with pending := some (setting, none) }

def readFlag (reading : Reading) (flag : Flag) : Except Halt Reading := do
  let _ ← reading.settle
  throw (.asked flag)

def attached : Text → Option Text
  | [] => none
  | '=' :: value => some value
  | value => some value

def readPlain (reading : Reading) (text : Text) : Except Halt Reading :=
  match reading.pending with
  | some (setting, none) => .ok { reading with pending := some (setting, some text) }
  | _ => .error (.usage (.unexpected text))

section Declared
variable (declared : Setting → Declaration)

def readLong (reading : Reading) (name : Text) (value : Option Text) : Except Halt Reading :=
  let ofFlag (flag : Flag) :=
    match value with
    | some value => .error (.usage (.unexpectedValue flag value))
    | none => reading.readFlag flag
  if name = (declared .chip).name then reading.readSetting .chip value
  else if name = (declared .line).name then reading.readSetting .line value
  else if name = "help".toList then ofFlag .help
  else if name = "version".toList then ofFlag .version
  else .error (.usage (.unexpected ('-' :: '-' :: name)))

def readShort (reading : Reading) (letter : Char) (rest : Text) : Except Halt Reading :=
  if letter = (declared .chip).letter then reading.readSetting .chip (attached rest)
  else if letter = (declared .line).letter then reading.readSetting .line (attached rest)
  else if letter = 'h' then reading.readFlag .help
  else if letter = 'V' then reading.readFlag .version
  else .error (.usage (.unexpected ['-', letter]))

def readAll : List Text → Reading → Except Halt Reading
  | [], reading => .ok reading
  | text :: rest, reading =>
    match Argument.ofText text with
    | .terminator =>
      match rest with
      | [] => .ok reading
      | next :: _ => .error (.usage (.unexpected next))
    | .long name value => reading.readLong declared name value >>= readAll rest
    | .short letter tail => reading.readShort declared letter tail >>= readAll rest
    | .plain text => reading.readPlain text >>= readAll rest

def fallBack (setting : Setting) (reading : Reading) : Except Halt Reading :=
  let unset : Bool :=
    match setting with
    | .chip => reading.chip.isNone
    | .line => reading.line.isNone
  match (declared setting).fallback with
  | some value => if unset then reading.commit setting value else .ok reading
  | none => .ok reading

def complete (reading : Reading) : Except Halt Arguments := do
  let reading ← fallBack declared .chip reading
  let reading ← fallBack declared .line reading
  match reading.chip, reading.line with
  | some chip, some line => return { chip, line }
  | _, _ => throw (.usage .missing)

def readArguments (arguments : List Text) : Except Halt Arguments := do
  let reading ← readAll declared arguments {}
  let reading ← reading.settle
  reading.complete declared

end Declared
end Reading

def UsageError.message (declared : Setting → Declaration) : UsageError → Text
  | unexpected argument =>
    "error: unexpected argument '".toList ++ plain argument ++ "' found".toList
  | unexpectedValue flag value =>
    "error: unexpected value '".toList ++ plain value ++ "' for '".toList ++ flag.usage ++
      "' found; no more were expected".toList
  | missingValue setting =>
    "error: a value is required for '".toList ++ (declared setting).usage ++ "' but none was supplied".toList
  | repeated setting =>
    "error: the argument '".toList ++ (declared setting).usage ++ "' cannot be used multiple times".toList
  | invalidLine value error =>
    "error: invalid value '".toList ++ plain value ++ "' for '".toList ++ (declared .line).usage ++
      "': ".toList ++ error.message.toList
  | missing => "error: the following required arguments were not provided:".toList

def Flag.text : Flag → String
  | help =>
    "Read a DS18B20 on a GPIO line once a second\n\n" ++
    "Usage: ds18b20-linux [OPTIONS] --line <LINE>\n\n" ++
    "Options:\n" ++
    "  -c, --chip <CHIP>  Path to the GPIO character device [default: /dev/gpiochip0]\n" ++
    "  -l, --line <LINE>  Offset of the 1-Wire data line on the chip\n" ++
    "  -h, --help         Print help\n" ++
    "  -V, --version      Print version\n"
  | version => "ds18b20-linux 0.0.1\n"

def Halt.exit (declared : Setting → Declaration) : Halt → Exit
  | usage error => { code := 2, errors := error.message declared }
  | asked flag => { code := 0, output := flag.text.toList }

def parseOptions : OptionParser := fun declared arguments =>
  (Reading.readArguments declared arguments).mapError (Halt.exit declared)

end Thermowire.Host
