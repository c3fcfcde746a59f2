/-
Where the settings file is looked for.

Without a path from the user the file lies in the folder for settings: the one that the environment
names, if its path is absolute, and else the hidden one in the home folder.  Paths are joined as
texts; what they lead to does not matter here.
-/

namespace ShowControl.Location

/-- The usual name of the settings file. -/
def fileName : String := "cue-engine.toml"

/-- A path inside a folder; an absolute path leads out of it. -/
def join (folder path : List Char) : List Char :=
  if path.head? = some '/' then path
  else if folder.isEmpty || folder.getLast? = some '/' then folder ++ path
  else folder ++ '/' :: path

/-- Where a user lives and keeps settings, as far as it is known. -/
structure User where
  /-- The home folder that the environment names. -/
  home : Option String
  /-- The home folder of the account. -/
  accountHome : Option String
  /-- The folder for settings that the environment names. -/
  settings : Option String

/-- The home folder: the one that the environment names, unless that is empty. -/
def User.homeFolder? (u : User) : Option String :=
  (u.home.filter (! ·.isEmpty)) <|> u.accountHome

/-- The folder for settings. -/
def User.settingsFolder? (u : User) : Option (List Char) :=
  (u.settings.map String.toList).filter (fun folder => folder.head? = some '/') <|>
    u.homeFolder?.map fun home => join home.toList ".config".toList

/-- The usual path of a settings file; without a folder for settings it belongs to the system. -/
def User.usualPath (u : User) (file : String) : String :=
  String.ofList <|
    match u.settingsFolder? with
    | some folder => join (join folder "vixio".toList) file.toList
    | none => join "/etc/vixio".toList file.toList

end ShowControl.Location
