import Thermowire.Host.Run
import Thermowire.Pattern.Reader

/-!
The filter of log records that the program is run with. It is written as directives between commas, each a level, a
target, or both as `target=level`, and behind a slash a pattern for the records' texts. Of the
directives that fit a record's target the longest decides; what cannot be read is passed over.
-/
namespace Thermowire.Host

structure Directive where
  target : Option Text
  most : Option Level
  deriving DecidableEq, Repr

inductive FilterFault where
  | unreadable (directive : Text)
  | tooManyParts (text : Text)
  | invalidPattern (pattern : Text) (fault : Pattern.Fault)
  deriving DecidableEq, Repr

def FilterFault.warning : FilterFault → Text
  | unreadable directive =>
    "warning: invalid logging spec '".toList ++ directive ++ "', ignoring it".toList
  | tooManyParts text =>
    "warning: invalid logging spec '".toList ++ text ++ "' (too many '/'s), ignoring it".toList
  | invalidPattern pattern .unreadable =>
    "warning: invalid regex filter - regex parse error:\n    ".toList ++ pattern ++
      "\nignoring it".toList
  | invalidPattern _ .tooLarge =>
    "warning: invalid regex filter - Compiled regex exceeds size limit of ".toList ++
      digits 10 0 Pattern.sizeLimit ++ " bytes., ignoring it".toList
  | invalidPattern _ .needsLetters =>
    "warning: invalid regex filter - error building NFA, ignoring it".toList

/-- Without a directive errors are shown, and without a pattern all texts. -/
structure LogFilter where
  directives : List Directive := []
  pattern : Option Pattern := none
  faults : List FilterFault := []
  deriving DecidableEq, Repr

def limit? (name : Text) : Option (Option Level) :=
  match (String.ofList name).toLower with
  | "off" => some none
  | "error" => some (some .error)
  | "warn" => some (some .warn)
  | "info" => some (some .info)
  | "debug" => some (some .debug)
  | "trace" => some (some .trace)
  | _ => none

namespace Directive

def fits (directive : Directive) (target : Text) : Bool :=
  directive.target.all (·.isPrefixOf target)

def length (directive : Directive) : Nat := (directive.target.map List.length).getD 0

/-- A single word is a level if it can be. A target alone lets all its records pass. -/
def ofText (text : Text) : Except FilterFault Directive :=
  match splitText '=' text with
  | [word] =>
    match limit? word with
    | some most => .ok ⟨none, most⟩
    | none => .ok ⟨some word, some .trace⟩
  | [target, level] =>
    match trim level, limit? (trim level) with
    | [], _ => .ok ⟨some target, some .trace⟩
    | _, some most => .ok ⟨some target, most⟩
    | level, none => .error (.unreadable level)
  | _ => .error (.unreadable text)

def insert (directives : List Directive) (directive : Directive) : List Directive :=
  if directives.any (·.target = directive.target) then
    directives.map fun old => if old.target = directive.target then directive else old
  else directives ++ [directive]

end Directive

namespace LogFilter

def upTo (most : Level) : LogFilter := { directives := [⟨none, some most⟩] }

def addDirective (filter : LogFilter) (text : Text) : LogFilter :=
  match trim text with
  | [] => filter
  | text =>
    match Directive.ofText text with
    | .ok directive => { filter with directives := Directive.insert filter.directives directive }
    | .error fault => { filter with faults := filter.faults ++ [fault] }

def addPattern (filter : LogFilter) (text : Text) : LogFilter :=
  match Pattern.ofText text with
  | .ok pattern => { filter with pattern := some pattern }
  | .error fault => { filter with faults := filter.faults ++ [.invalidPattern text fault] }

def ofText (text : Text) : LogFilter :=
  match splitText '/' text with
  | [directives] => (splitText ',' directives).foldl addDirective {}
  | [directives, pattern] => ((splitText ',' directives).foldl addDirective {}).addPattern pattern
  | _ => { faults := [.tooManyParts text] }

/-- The longest directive that fits a target, and the last of those that are equally long. -/
def governing (filter : LogFilter) (target : Text) : Option Directive :=
  (filter.directives.filter (·.fits target)).foldl
    (fun best directive => if best.all (·.length ≤ directive.length) then some directive else best) none

def most (filter : LogFilter) (target : Text) : Option Level :=
  if filter.directives.isEmpty then some .error else (filter.governing target).bind (·.most)

def passes (filter : LogFilter) (level : Level) (target text : Text) : Bool :=
  (filter.most target).any (level.verbosity ≤ ·.verbosity) && filter.pattern.all (·.isMatch text)

def shows (filter : LogFilter) (record : HostRecord) : Bool :=
  filter.passes record.level record.target.toList record.text.toList

theorem passes_upTo (most level : Level) (target text : Text) :
    (upTo most).passes level target text = decide (level.verbosity ≤ most.verbosity) := by
  simp [passes, LogFilter.most, upTo, governing, Directive.fits]

/-- At the most verbose level all records are shown. -/
theorem shows_trace (record : HostRecord) : (ofText "trace".toList).shows record := by
  have all : ofText "trace".toList = upTo .trace := by decide +kernel
  rw [shows, all, passes_upTo]
  cases record.level <;> rfl

end LogFilter
end Thermowire.Host
