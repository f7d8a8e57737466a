import WorkerPool.Text.Visible

/-!
Why settings cannot be loaded.
-/

namespace WorkerPool

inductive FileError
  | notFound
  | permissionDenied
  | notADirectory
  | isADirectory
  | nameTooLong
  /-- The path holds a character that no path can hold. -/
  | invalidPath
  | notText
  | other (message : String)
  deriving DecidableEq, Repr

/-- The system's number and text of an error, for the errors that come from the system. -/
def FileError.system? : FileError → Option (Nat × String)
  | .notFound => some (2, "No such file or directory")
  | .permissionDenied => some (13, "Permission denied")
  | .notADirectory => some (20, "Not a directory")
  | .isADirectory => some (21, "Is a directory")
  | .nameTooLong => some (36, "File name too long")
  | .invalidPath | .notText | .other _ => none

def FileError.message (e : FileError) : String :=
  match e.system? with
  | some (number, text) => text ++ " (os error " ++ toString number ++ ")"
  | none => match e with
    | .invalidPath => "file name contained an unexpected NUL byte"
    | .notText => "stream did not contain valid UTF-8"
    | .other message => message
    | _ => ""

def FileError.kind : FileError → String
  | .notFound => "NotFound"
  | .permissionDenied => "PermissionDenied"
  | .notADirectory => "NotADirectory"
  | .isADirectory => "IsADirectory"
  | .nameTooLong => "InvalidFilename"
  | .invalidPath => "InvalidInput"
  | .notText => "InvalidData"
  | .other _ => "Other"

def recordText (title : String) (parts : List (String × String)) : String :=
  title ++ " \x7b " ++
    String.intercalate ", " (parts.map fun (name, value) => name ++ ": " ++ value) ++ " \x7d"

def FileError.text (e : FileError) : String :=
  match e.system? with
  | some (number, text) => recordText "Os"
      [("code", toString number), ("kind", e.kind), ("message", Text.quote text)]
  | none => match e with
    | .other message => recordText "Custom" [("kind", e.kind), ("error", Text.quote message)]
    | _ => recordText "Error" [("kind", e.kind), ("message", Text.quote e.message)]

inductive SettingsError
  /-- The text of a setting does not spell a value. -/
  | parse (key value reason : String)
  | missing (key : String)
  /-- A setting spells a value that is not allowed. -/
  | invalid (key message : String)
  | io (path : String) (cause : FileError)
  /-- A file is no document of the expected shape. -/
  | malformed (path reason : String)
  deriving DecidableEq, Repr

namespace SettingsError

def message : SettingsError → String
  | parse key value reason => "failed to parse " ++ key ++ "='" ++ value ++ "': " ++ reason
  | missing key => "missing required setting: " ++ key
  | invalid key message => "invalid value for " ++ key ++ ": " ++ message
  | io path cause => "IO error for '" ++ path ++ "': " ++ cause.message
  | malformed path reason => "failed to decode '" ++ path ++ "': " ++ reason

def cause? : SettingsError → Option FileError
  | io _ cause => some cause
  | _ => none

def text : SettingsError → String
  | parse key value reason => recordText "Parse"
      [("key", Text.quote key), ("value", Text.quote value), ("error", Text.quote reason)]
  | missing key => recordText "Missing" [("key", Text.quote key)]
  | invalid key message => recordText "Invalid"
      [("key", Text.quote key), ("message", Text.quote message)]
  | io path cause => recordText "Io" [("path", Text.quote path), ("error", cause.text)]
  | malformed path reason => recordText "Toml"
      [("path", Text.quote path), ("error", Text.quote reason)]

end SettingsError
end WorkerPool
