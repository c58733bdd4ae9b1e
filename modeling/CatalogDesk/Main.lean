import CatalogDesk.Console.Desk
import CatalogDesk.Console.Draw
import CatalogDesk.Screen.Key
import CatalogDesk.Session.StoredItems
import CatalogDesk.Settings.Arguments
import CatalogDesk.Settings.Locations
import CatalogDesk.Text.Blank

/-! # The command line

    Opens the console as the arguments and the settings say.  Keys are read from the
    standard input, the name of one on each line, and the screen is written after each of
    them.  Settings, session and the last screen are kept in files.  No gateway is
    connected: every request is answered as not found. -/

namespace CatalogDesk.CommandLine

open Draw

/-- The text of a file, if there is one that can be read. -/
def contents? (path : String) : IO (Option String) := do
  try
    return some (← IO.FS.readFile path)
  catch _ =>
    return none

/-- Where the environment says that files are kept. -/
def locations : IO Locations := do
  return .ofEnvironment
    { home := (← IO.getEnv "HOME").getD ""
      configBase := ← IO.getEnv "XDG_CONFIG_HOME"
      dataBase := ← IO.getEnv "XDG_DATA_HOME" }

/-- The settings of a document, which is written if there is none. -/
def loadSettings (directory path : String) : IO Settings := do
  let loaded := Settings.load (← contents? path)
  if let some text := loaded.written then
    IO.FS.createDirAll directory
    IO.FS.writeFile path text
  return loaded.settings

/-- The text of the screen. -/
def screenText (d : Desk) : String :=
  let blank := Surface.blank 100 24
  let drawn := d.console.draw d.scheduler.context.user blank.area blank
  String.intercalate "\n" (drawn.rows.map Text.trimEnd)

/-- Takes keys until the console is left or the input ends. -/
partial def run (d : Desk) (input output : IO.FS.Stream) : IO Desk := do
  if !d.console.running then return d
  output.putStrLn (screenText d)
  output.flush
  let line ← input.getLine
  if line.isEmpty then return d
  run (d.press (.ofText line.trimAsciiEnd.toString)).settle input output

/-- Opens the console with arguments that are in order. -/
def work (given : Arguments) : IO Unit := do
  let l ← locations
  let path := given.config.getD l.settingsFile
  let settings := (← loadSettings l.configDirectory path).merge given
  let remembered := Remembered.ofText ((← contents? l.stateFile).getD "")
  let items := Items.ofText ((← contents? l.sessionFile).getD "")
  let desk := Desk.new settings remembered {} { items }
  let desk ← run desk.start.settle (← IO.getStdin) (← IO.getStdout)
  IO.FS.createDirAll l.configDirectory
  IO.FS.writeFile l.stateFile desk.console.remembered.toText
  IO.FS.createDirAll l.dataDirectory
  IO.FS.writeFile l.sessionFile desk.scheduler.context.store.items.toText

/-- The options with their names. -/
def usage : String :=
  String.intercalate "\n"
    ("Usage: catalog-console [OPTIONS]" ::
      OptionName.all.map fun o => "  --" ++ o.label ++ " <VALUE>")

/-- What is written about arguments that are not in order, and the status to leave with. -/
def complaint : ArgumentError → String × UInt32
  | .help => (usage, 0)
  | .version => (Console.programName ++ " " ++ Console.programVersion, 0)
  | .unknown => ("error: unknown argument", 2)
  | .repeated => ("error: an option is given twice", 2)
  | .badValue => ("error: a value is missing or not possible", 2)
  | .notANumber => ("error: a value is not a number in range", 2)
  | .valueNotExpected => ("error: a switch is given a value", 2)

end CatalogDesk.CommandLine

def main (words : List String) : IO UInt32 := do
  match CatalogDesk.Arguments.read words (← IO.getEnv "CATALOG_API_URL") with
  | .ok given =>
    CatalogDesk.CommandLine.work given
    return 0
  | .error e =>
    let (text, status) := CatalogDesk.CommandLine.complaint e
    IO.println text
    return status
