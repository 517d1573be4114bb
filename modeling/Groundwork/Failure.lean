import Groundwork.Data.Issue
import Groundwork.Field.Kind
import Groundwork.Literal.Fault
import Groundwork.Text.Quoted

/-!
# Failures

Every way in which a command can fail, as its cause. `Failure.message` holds the wording.
-/

namespace Groundwork

/-- Why an operation on the project directory failed. -/
inductive DiskFault where
  /-- The path, or a directory on the way to it, does not exist. -/
  | absent
  /-- A file stands where a directory was needed. -/
  | notDirectory
  /-- A directory stands where a file was needed. -/
  | isDirectory
  /-- A file stands where a directory was to be made. -/
  | occupied
  /-- A name in the path, or the path as a whole, is too long for a disk. -/
  | nameTooLong
  deriving DecidableEq, Repr

/-- Why a date or time of day does not exist. -/
inductive CalendarFault where
  | year
  | month
  | day
  | hour
  | minute
  | second
  deriving DecidableEq, Repr

/-- Why a command or an operation was refused. -/
inductive Failure where
  | modelNameMissing
  | modelNameInvalid (name : Text)
  | modelNameReserved (name : Text)
  | fieldNameMissing (token : Text)
  | fieldNameInvalid (name : Text)
  /-- The field's name is a word of SQL. -/
  | fieldNameReserved (name : Text)
  /-- The field's name is the primary key's. -/
  | fieldNameTaken (name : Text)
  | fieldKindUnknown (word : Text)
  /-- A token for an enum field lists no values. -/
  | tokenLacksChoices (name : Text)
  /-- A token for a reference names no target. -/
  | tokenLacksTarget (name : Text)
  /-- An enum field has no values. -/
  | fieldLacksChoices (name : Text)
  /-- A reference field has no target. -/
  | fieldLacksTarget (name : Text)
  /-- The field's name is that of a timestamp column. -/
  | fieldNameTimestamp (name : Text)
  | fieldRepeated (name : Text)
  | dialectUnknown (word : Text)
  | tableNotFound (table : Text)
  | modelExists (model : Text)
  | kindUnknown (word : Text)
  | settingsExist
  | settingsNotMapping
  /-- The settings file is no document of its format. -/
  | settingsMalformed
  /-- The settings file writes a date that does not exist. -/
  | noSuchDate (fault : CalendarFault)
  /-- The settings file writes a time whose zone is this many minutes, a day or more, ahead. -/
  | noSuchZone (ahead : Int)
  /-- A project file writes a number of so many digits that it is not read. -/
  | tooManyDigits (count : Nat)
  /-- The settings file has a collection within too many others. -/
  | settingsTooDeep
  /-- A JSON file has a list, or else a mapping, within too many others. -/
  | nestedTooDeeply (isList : Bool)
  /-- A text was to be a whole number in this base. -/
  | noWhole (base : Nat) (text : Text)
  /-- A text was to be a floating number. -/
  | noReal (text : Text)
  /-- The settings file marks an empty text as a number. -/
  | numberMissing
  /-- The settings file marks another word as a truth value. -/
  | truthUnknown (word : Text)
  /-- The settings file writes a character by a number that no character has. -/
  | noSuchCharacter
  /-- The settings file writes a character by a number that is not even a signed one of 32 bits. -/
  | characterOverflow
  /-- Given values were refused. -/
  | refused (issues : List Issue)
  /-- A value of a project file that is no mapping or cannot be gone through. -/
  | unusableValue
  /-- A value of a project file lacks what a mapping or a text offers. -/
  | unsuitableValue
  | disk (fault : DiskFault) (path : Text)
  | nulInPath
  /-- The file's bytes are no UTF-8. -/
  | undecodable (path : Text)
  /-- Console markup closes a tag that is not open; an empty tag name closes the last one. -/
  | unopenedTag (tag : Text) (position : Nat)
  /-- Console markup closes a handler whose arguments, as they are in its parameter, are no
      literal. -/
  | handlerMalformed (arguments parameter : Text) (fault : LiteralFault)
  deriving DecidableEq, Repr

namespace CalendarFault

/-- The wording of a calendar fault. -/
def message : CalendarFault → Text
  | year => "year 0 is out of range"
  | month => "month must be in 1..12"
  | day => "day is out of range for month"
  | hour => "hour must be in 0..23"
  | minute => "minute must be in 0..59"
  | second => "second must be in 0..59"

end CalendarFault

namespace DiskFault

/-- The wording of a fault at a path. -/
def message (path : Text) : DiskFault → Text
  | absent => "[Errno 2] No such file or directory: " ++ Text.quoted path
  | notDirectory => "[Errno 20] Not a directory: " ++ Text.quoted path
  | isDirectory => "[Errno 21] Is a directory: " ++ Text.quoted path
  | occupied => "[Errno 17] File exists: " ++ Text.quoted path
  | nameTooLong => "[Errno 36] File name too long: " ++ Text.quoted path

end DiskFault

namespace Failure

/-- The wording of a failure. -/
def message : Failure → Text
  | modelNameMissing => "Model name is required"
  | modelNameInvalid name =>
    "Invalid model name \"" ++ name
      ++ "\". Must start with a letter and contain only letters and numbers."
  | modelNameReserved name =>
    "\"" ++ name ++ "\" is a reserved word and cannot be used as a model name."
  | fieldNameMissing token =>
    "Invalid field definition \"" ++ token ++ "\". Field name is required."
  | fieldNameInvalid name =>
    "Invalid field name \"" ++ name ++ "\". Must be camelCase (start with lowercase letter)."
  | fieldNameReserved name =>
    "Field name \"" ++ name ++ "\" is a SQL reserved word. Consider renaming to \"" ++ name
      ++ "Value\" or \"" ++ name ++ "Field\"."
  | fieldNameTaken name =>
    "Field name \"" ++ name ++ "\" is generated automatically and cannot be redefined."
  | fieldKindUnknown word =>
    "Invalid field type \"" ++ word ++ "\". Valid types: "
      ++ List.intercalate ", " FieldKind.plainWords ++ ", enum"
  | tokenLacksChoices name =>
    "Enum field \"" ++ name ++ "\" requires values. Example: " ++ name
      ++ ":enum:draft,published,archived"
  | tokenLacksTarget name =>
    "Reference field \"" ++ name ++ "\" requires a target model. Example: " ++ name
      ++ ":references:user"
  | fieldLacksChoices name => "Enum field \"" ++ name ++ "\" requires values."
  | fieldLacksTarget name => "Reference field \"" ++ name ++ "\" requires a target model."
  | fieldNameTimestamp name =>
    "Field name \"" ++ name
      ++ "\" is generated automatically. Use --no-timestamps to define it yourself."
  | fieldRepeated name => "Duplicate field \"" ++ name ++ "\"."
  | dialectUnknown word => Text.quoted word ++ " is not a valid Dialect"
  | tableNotFound table => "Table \"" ++ table ++ "\" not found in schema."
  | modelExists model =>
    "Model \"" ++ model ++ "\" already exists in schema. Use --force to regenerate."
  | kindUnknown word => "Unknown type \"" ++ word ++ "\". Use: scaffold, resource, or api"
  | settingsExist => "brizzle.yaml already exists. Use --force to overwrite."
  | settingsNotMapping => "brizzle.yaml must contain a mapping"
  | settingsMalformed => "brizzle.yaml is not a valid document"
  | noSuchDate fault => fault.message
  | noSuchZone ahead =>
    let seconds := ahead * 60
    let days := Text.ofInt (seconds.fdiv 86400)
    let rest : Text :=
      if seconds.fmod 86400 = 0 then [] else ", seconds=" ++ Text.ofInt (seconds.fmod 86400)
    "offset must be a timedelta strictly between -timedelta(hours=24) and timedelta(hours=24), "
      ++ "not datetime.timedelta(days=" ++ days ++ rest ++ ")."
  | tooManyDigits count =>
    "Exceeds the limit (4300 digits) for integer string conversion: value has "
      ++ Text.ofNat count
      ++ " digits; use sys.set_int_max_str_digits() to increase the limit"
  | settingsTooDeep => "maximum recursion depth exceeded"
  | nestedTooDeeply isList =>
    "maximum recursion depth exceeded while decoding a JSON "
      ++ (if isList then "array" else "object") ++ " from a unicode string"
  | noWhole base text =>
    "invalid literal for int() with base " ++ Text.ofNat base ++ ": "
      ++ (Text.quoted text).take 200
  | noReal text => "could not convert string to float: " ++ Text.quoted text
  | numberMissing => "string index out of range"
  | truthUnknown word => Text.quoted word
  | noSuchCharacter => "chr() arg not in range(0x110000)"
  | characterOverflow => "the number of a character is too large"
  | refused issues =>
    Text.ofNat issues.length ++ " of the given values cannot be used: "
      ++ List.intercalate ", " (issues.map fun issue => List.intercalate "." issue.location)
  | unusableValue => "a project file holds a value that cannot be gone through"
  | unsuitableValue => "a project file holds a value of the wrong kind"
  | disk fault path => fault.message path
  | nulInPath => "embedded null byte"
  | undecodable path => path ++ " is not UTF-8"
  | unopenedTag tag position =>
    if tag.isEmpty then
      "closing tag '[/]' at position " ++ Text.ofNat position ++ " has nothing to close"
    else
      "closing tag '[/" ++ tag ++ "]' at position " ++ Text.ofNat position
        ++ " doesn't match any open tag"
  | handlerMalformed arguments parameter fault =>
    let place : Text :=
      if fault = .notWrittenOut then [] else Text.quoted arguments ++ " in "
    "error parsing " ++ place ++ Text.quoted parameter ++ "; " ++ fault.message

end Failure

end Groundwork
