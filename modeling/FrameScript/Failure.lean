import FrameScript.Console.Markup
import FrameScript.Disk.Change
import FrameScript.Text.Numeral

/-!
# Failures

Every way in which reading, compiling or playing a script can fail, as a cause. `Failure.message`
words a cause, `Failure.kind?` files it, and `Kind.code` is the stable code of a kind. Causes
without a kind come from outside the language of scripts: a disk that cannot be changed, a numeral,
a number, a repetition or a period too large to be handled, a path that no system takes, an option
without the value that it needs, a message with marks that are not in order, a line that cannot be
cut, or a device or a clock that refuses.
-/

namespace FrameScript

/-- A place in a source, as far as it is known. -/
structure Place where
  source : Option Text
  line : Option Nat
  deriving DecidableEq

/-- A message under the place that it is about. -/
def Place.locate (place : Place) (message : String) : String :=
  match place.source, place.line with
  | none, _ => message
  | some s, none => s!"{String.ofList s}: {message}"
  | some s, some n => s!"{String.ofList s}:{n}: {message}"

/-- What is wrong with a format. -/
inductive FormatFault where
  | emptyName
  | duplicateName (name : Text)
  | noFields (format : Text)
  deriving DecidableEq

/-- What is wrong with the layout of a script. A cycle is given by its files, each including the
next, and ends where it begins. -/
inductive LayoutFault where
  | badKind (text : Text)
  | noFormat
  | noKind
  | badIndent
  | badCount (text : Text)
  | mismatch (format line : Text)
  | includeInFragment
  | includeNothing
  | cycle (chain : List Path)
  deriving DecidableEq

/-- What the options are for that need a value. -/
inductive Need where
  | offset
  | level
  | period
  deriving DecidableEq

/-- Why a script cannot be read, compiled or played. -/
inductive Failure where
  | format (fault : FormatFault) (place : Place)
  | layout (fault : LayoutFault) (place : Place)
  | unknownField (name : Text)
  | unknownKey (name : Text)
  | badCoordinate (field value : Text)
  | fieldsDiffer (origin : Text) (fields previous : List Text)
  | unreadable (path opened : Text) (fault : ReadFault)
  | change (fault : ChangeFault)
  | busy
  | longNumeral (digits : Nat)
  | longNumber
  | hugeRepeat
  | hugeSpan
  | badPath
  | blank (need : Need)
  | markup (fault : Console.Markup.Fault)
  | uncut
  | device (message : String)
  deriving DecidableEq

namespace Failure

/-- The kinds of failure that belong to scripts. -/
inductive Kind where
  | general
  | located
  | format
  | layout
  | instruction
  | incompatible
  | unknownKey
  | unknownField
  | badValue
  | unavailable
  | busy
  deriving DecidableEq

/-- The kind that a kind is a case of. Hosts ask for it who deal with a failure by its kind: whoever
is prepared for a kind is prepared for its cases. -/
def Kind.parent? : Kind → Option Kind
  | general => none
  | located | instruction | unavailable | busy => some general
  | format | layout => some located
  | incompatible | unknownKey | unknownField | badValue => some instruction

/-- The stable code of a kind. -/
def Kind.code : Kind → String
  | general | located | instruction => "TAS_GENERAL_ERROR"
  | format => "MALFORMED_FORMAT"
  | layout => "INVALID_FILE_FORMAT"
  | incompatible => "INCOMPATIBLE_INSTRUCTION"
  | unknownKey => "UNKNOWN_KEY"
  | unknownField => "UNKNOWN_FIELD"
  | badValue => "INVALID_VALUE"
  | unavailable => "RESOURCE_UNAVAILABLE"
  | busy => "PLAYBACK_IN_PROGRESS"

/-- The kind of a failure, if it belongs to scripts. -/
def kind? : Failure → Option Kind
  | format .. => some .format
  | layout .. => some .layout
  | unknownField _ => some .unknownField
  | unknownKey _ => some .unknownKey
  | badCoordinate .. => some .badValue
  | fieldsDiffer .. => some .incompatible
  | unreadable .. => some .unavailable
  | busy => some .busy
  | change _ | longNumeral _ | longNumber | hugeRepeat | hugeSpan | badPath | blank _ | markup _
  | uncut | device _ => none

/-! ## Wording -/

/-- A text in quotes, for a message. -/
def quote (s : Text) : String :=
  String.ofList (Text.quoted s)

/-- Several texts in quotes, for a message. -/
def quoteList (names : List Text) : String :=
  "[" ++ ", ".intercalate (names.map quote) ++ "]"

/-- The wording of a fault of a format. -/
def formatMessage : FormatFault → String
  | .emptyName => "empty placeholder name '<>'"
  | .duplicateName name => s!"duplicate field name {quote name}"
  | .noFields text => s!"format declares no fields: {quote text}"

/-- The wording of a fault of the layout. -/
def layoutMessage : LayoutFault → String
  | .badKind text => s!"invalid type in type declaration: {quote text}"
  | .noFormat => "invalid or missing format declaration"
  | .noKind => "invalid or missing type declaration"
  | .badIndent => "invalid indentation"
  | .badCount text => s!"invalid REPEAT count: {quote text}"
  | .mismatch text line => s!"line does not match format {quote text}: {quote line}"
  | .includeInFragment => "fragment files cannot contain INCLUDE"
  | .includeNothing => "INCLUDE without a path"
  | .cycle chain =>
    "INCLUDE cycle: " ++ " -> ".intercalate (chain.map fun p => String.ofList p.text)

/-- The wording of a fault in reading the file that was opened as `opened`. -/
def readMessage (opened : Text) : ReadFault → String
  | .missing => s!"[Errno 2] No such file or directory: {quote opened}"
  | .notFolder => s!"[Errno 20] Not a directory: {quote opened}"
  | .isFolder => s!"[Errno 21] Is a directory: {quote opened}"
  | .longName => s!"[Errno 36] File name too long: {quote opened}"
  | .encoding fault => fault.message

/-- The wording of a fault in changing a disk. -/
def changeMessage : ChangeFault → String
  | .refused fault named => readMessage named fault
  | .occupied named => s!"[Errno 17] File exists: {quote named}"
  | .occupiedByLink target named =>
    s!"[Errno 17] File exists: {quote target} -> {quote named}"

/-- The wording of the lack of a value. -/
def needMessage : Need → String
  | .offset =>
    "int() argument must be a string, a bytes-like object or a real number, not 'list'"
  | .level => "'list' object has no attribute 'upper'"
  | .period => "'<=' not supported between instances of 'list' and 'int'"

/-- The wording of a failure. -/
def message : Failure → String
  | format fault place => place.locate (formatMessage fault)
  | layout fault place => place.locate (layoutMessage fault)
  | unknownField name => s!"Unknown instruction field: {quote name}"
  | unknownKey name => s!"Unknown key name: {quote name}"
  | badCoordinate field value =>
    s!"Field {String.ofList field} expects an integer or a no-input sentinel, got {quote value}"
  | fieldsDiffer origin fields previous =>
    s!"{String.ofList origin}: fields {quoteList fields} do not match "
      ++ s!"predecessor fields {quoteList previous}"
  | unreadable path opened fault =>
    s!"Cannot read {String.ofList path}: {readMessage opened fault}"
  | change fault => changeMessage fault
  | busy => "A playback run already owns the input sink"
  | longNumeral digits => Numeral.tooLongMessage digits
  | longNumber => Numeral.unwritableMessage
  | hugeRepeat => "cannot fit 'int' into an index-sized integer"
  | hugeSpan => "int too large to convert to float"
  | badPath => "embedded null byte"
  | blank need => needMessage need
  | markup fault => fault.message
  | uncut => "list index out of range"
  | device message => message

end Failure

end FrameScript
