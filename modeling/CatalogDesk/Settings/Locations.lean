import CatalogDesk.Settings.Basic

/-! # Where files are kept

    The settings and the remembered state are kept in one directory, the session and the
    log in another.  Each directory lies in a base directory that the environment names,
    if it names it absolutely, and else in the home directory. -/

namespace CatalogDesk

/-- The environment as far as it tells where files are kept. -/
structure Environment where
  home : String
  configBase : Option String := none
  dataBase : Option String := none
  deriving DecidableEq, Inhabited, Repr

/-- The directories of the console. -/
structure Locations where
  configDirectory : String
  dataDirectory : String
  deriving DecidableEq, Inhabited, Repr

namespace Locations

/-- A name below a directory. -/
def join (directory name : String) : String :=
  if directory = "" || directory.toList.getLast? = some '/' then directory ++ name
  else directory ++ "/" ++ name

/-- The base directory that is named absolutely, or another one. -/
def base (named : Option String) (otherwise : String) : String :=
  match named with
  | some s => if s.toList.head? = some '/' then s else otherwise
  | none => otherwise

/-- The name of the console in every path. -/
def application : String := "catalog-console"

/-- The home directory of a system without one in its environment. -/
def systemHome : String := "/root"

def ofEnvironment (e : Environment) : Locations :=
  let home := if e.home = "" then systemHome else e.home
  { configDirectory := join (base e.configBase (join home ".config")) application,
    dataDirectory :=
      join (base e.dataBase (join home ".local/share")) application }

def settingsFile (l : Locations) : String := join l.configDirectory "config.toml"

def stateFile (l : Locations) : String := join l.configDirectory "state.toml"

def sessionFile (l : Locations) : String := join l.dataDirectory "session.json"

def logFile (l : Locations) : String := join l.dataDirectory "catalog-console.log"

end Locations

namespace Settings

/-- The document in effect. -/
def effectiveConfig (s : Settings) (l : Locations) : String := s.configPath.getD l.settingsFile

/-- The log in effect. -/
def effectiveLog (s : Settings) (l : Locations) : String := s.logPath.getD l.logFile

end Settings

end CatalogDesk
