import BuildDescriptor.Condition.Token
import BuildDescriptor.Platform.Kind
import BuildDescriptor.Xml.File

/-!
# Notices

What an operation passes over, it tells in a log. A notice names what happened; its level, its
topic and its wording follow from that.

## Main definitions

* `Notice`, `Notice.level`, `Notice.topic`, `Notice.message`
* `Logged` — a value, and what was noticed on the way to it
-/

namespace BuildDescriptor

/-- Why the text of a compilation database cannot be had. -/
inductive StreamFault
  /-- Reading ended with an error of this wording. -/
  | failed (text : String)
  | undecodable
deriving DecidableEq, Repr

/-- The wording of a fault. Where the bytes stop being text is not told. -/
def StreamFault.message : StreamFault → String
  | failed text => text
  | undecodable => "<decode error>"

/-- Why a platform file is of no use. -/
inductive PlatformFileError
  | unreadable (path : Path) (reason : Xml.Unreadable)
  | wrongRoot (path : Path) (tag : String)
deriving DecidableEq, Repr

/-- The kind of this error, as it is reported. -/
def PlatformFileError.kind : String := "PlatformFileError"

/-- The wording of an error. -/
def PlatformFileError.message : PlatformFileError → String
  | unreadable path reason =>
    "Failed to read platform file " ++ path.toString ++ ": " ++ reason.message
  | wrongRoot path tag =>
    "Expected <platform> root in " ++ path.toString ++ ", found <" ++ tag ++ ">"

/-- How much a notice matters. -/
inductive Level
  | debug
  | warning
deriving DecidableEq, Repr

/-- The name of a level. -/
def Level.name : Level → String
  | debug => "DEBUG"
  | warning => "WARNING"

/-- What an operation has to tell. -/
inductive Notice
  | databaseUnreadable (fault : StreamFault)
  /-- A compilation database is no JSON; so many objects were found in it. -/
  | databaseMalformed (recovered : Nat)
  | databaseNoArray
  | recordNoObject (index : Nat)
  | recordIncomplete (index : Nat)
  | databaseImported (units records : Nat)
  | conditionRejected (condition : String) (error : Condition.SyntaxError)
  | projectUnreadable (path : Path) (reason : Xml.Unreadable)
  | projectLoaded (path : Path) (sources variants groups : Nat)
  | descriptorUnreadable (path : Path) (fault : FileFault)
  | descriptorUnrecognized (path : Path)
  | platformUnsupported (name : String)
  | platformFileRejected (error : PlatformFileError)
  | signIgnored (path : Path) (text : Option String)
  | numberIgnored (path : Path) (tag text : String)
deriving DecidableEq, Repr

namespace Notice

/-- How much a notice matters. -/
def level : Notice → Level
  | databaseUnreadable _ => .warning
  | databaseMalformed _ => .warning
  | databaseNoArray => .warning
  | recordNoObject _ => .debug
  | recordIncomplete _ => .debug
  | databaseImported _ _ => .debug
  | conditionRejected _ _ => .debug
  | projectUnreadable _ _ => .warning
  | projectLoaded _ _ _ _ => .debug
  | descriptorUnreadable _ _ => .warning
  | descriptorUnrecognized _ => .debug
  | platformUnsupported _ => .warning
  | platformFileRejected _ => .warning
  | signIgnored _ _ => .warning
  | numberIgnored _ _ _ => .warning

/-- The topic under which a notice is logged. -/
def topic : Notice → String
  | databaseUnreadable _ => "buildcfg.project.compile_commands"
  | databaseMalformed _ => "buildcfg.project.compile_commands"
  | databaseNoArray => "buildcfg.project.compile_commands"
  | recordNoObject _ => "buildcfg.project.compile_commands"
  | recordIncomplete _ => "buildcfg.project.compile_commands"
  | databaseImported _ _ => "buildcfg.project.compile_commands"
  | conditionRejected _ _ => "buildcfg.project.condition"
  | projectUnreadable _ _ => "buildcfg.project.vcxproj"
  | projectLoaded _ _ _ _ => "buildcfg.project.vcxproj"
  | descriptorUnreadable _ _ => "buildcfg.project.importer"
  | descriptorUnrecognized _ => "buildcfg.project.importer"
  | platformUnsupported _ => "buildcfg.config.settings"
  | platformFileRejected _ => "buildcfg.config.settings"
  | signIgnored _ _ => "buildcfg.config.platform_profile"
  | numberIgnored _ _ _ => "buildcfg.config.platform_profile"

/-- The wording of a notice. -/
def message : Notice → String
  | databaseUnreadable fault => "Failed to read compilation database: " ++ fault.message
  | databaseMalformed recovered =>
    "Failed to parse compilation database: <json error>; recovered " ++ toString recovered ++
      " complete records"
  | databaseNoArray => "Compilation database is not a JSON array"
  | recordNoObject index => "Skipping record " ++ toString index ++ ": not an object"
  | recordIncomplete index =>
    "Skipping record " ++ toString index ++ ": missing file or command"
  | databaseImported units records =>
    "Imported " ++ toString units ++ " of " ++ toString records ++ " compile commands"
  | conditionRejected condition error =>
    "Condition does not parse: " ++ Text.quoted condition ++ ": " ++ error.message
  | projectUnreadable path reason =>
    "Failed to read project file " ++ path.toString ++ ": " ++ reason.message
  | projectLoaded path sources variants groups =>
    path.toString ++ ": " ++ toString sources ++ " sources, " ++ toString variants ++
      " configurations, " ++ toString groups ++ " item definition groups"
  | descriptorUnreadable path fault =>
    "Cannot open build descriptor " ++ path.toString ++ ": " ++ fault.message
  | descriptorUnrecognized path =>
    "Ignoring unrecognized build descriptor: " ++ path.toString
  | platformUnsupported name => "Unsupported platform: " ++ name
  | platformFileRejected error => error.message
  | signIgnored path text =>
    "Ignoring invalid value for <default-sign> in " ++ path.toString ++ ": '" ++
      text.getD "None" ++ "'"
  | numberIgnored path tag text =>
    "Ignoring invalid value for <" ++ tag ++ "> in " ++ path.toString ++ ": '" ++ text ++ "'"

/-- The line that a log shows for a notice. -/
def line (n : Notice) : String :=
  n.level.name ++ " " ++ n.topic ++ ": " ++ n.message

end Notice

/-- A value, and what was noticed on the way to it. -/
structure Logged (α : Type) where
  value : α
  log : List Notice := []

end BuildDescriptor
