import CatalogDesk.Settings.Basic

/-! # Command line arguments

    Every option takes one value and may be given once: `--name value` or `--name=value`,
    and for an option with a letter also `-n value`, `-nvalue` and `-n=value`.  The value
    of an option is looked at when the next option or the end is reached, so of two
    mistakes the first one that is looked at is reported.

    Main definition: `Arguments.read`. -/

namespace CatalogDesk

/-- The options. -/
inductive OptionName where
  | config | apiUrl | logPath | logLevel | pageSize | storeQuery | pollInterval | pollAttempts
  deriving DecidableEq, Inhabited, Repr

namespace OptionName

def all : List OptionName :=
  [.config, .apiUrl, .logPath, .logLevel, .pageSize, .storeQuery, .pollInterval, .pollAttempts]

def label : OptionName → String
  | .config => "config"
  | .apiUrl => "api-url"
  | .logPath => "log-path"
  | .logLevel => "log-level"
  | .pageSize => "page-size"
  | .storeQuery => "store-query"
  | .pollInterval => "poll-interval-ms"
  | .pollAttempts => "poll-max-attempts"

def ofLabel? (s : String) : Option OptionName :=
  all.find? fun o => o.label = s

end OptionName

/-- Why the arguments cannot be used, or what they ask for instead. -/
inductive ArgumentError where
  | help
  | version
  | unknown
  /-- An option is given twice. -/
  | repeated
  /-- A value is missing, or is not one of the possible ones. -/
  | badValue
  /-- A value is not a number in range. -/
  | notANumber
  /-- A switch is given a value. -/
  | valueNotExpected
  deriving DecidableEq, Inhabited, Repr

/-- The values given on the command line. -/
structure Arguments where
  config : Option String := none
  apiUrl : Option String := none
  logPath : Option String := none
  logLevel : Option LogLevel := none
  pageSize : Option Nat := none
  storeQuery : Option String := none
  pollInterval : Option Nat := none
  pollAttempts : Option Nat := none
  deriving DecidableEq, Inhabited, Repr

namespace Arguments

/-! ## Values -/

/-- The number that a row of digits writes. -/
def number? (ds : List Char) : Option Nat :=
  if ds ≠ [] && ds.all Char.isDigit then some (Binary64.appendDigits 0 ds) else none

/-- A number with an optional plus sign. -/
def unsigned? (s : String) : Option Nat :=
  match s.toList with
  | '+' :: ds => number? ds
  | ds => number? ds

/-- A number that may also be written as minus zero. -/
def signed? (s : String) : Option Nat :=
  match s.toList with
  | '-' :: ds => (number? ds).bind fun n => if n = 0 then some 0 else none
  | _ => unsigned? s

def below (limit : Nat) (n : Option Nat) : Except ArgumentError Nat :=
  match n with
  | some n => if n < limit then .ok n else .error .notANumber
  | none => .error .notANumber

/-- A path, which must not be empty. -/
def path (s : String) : Except ArgumentError String :=
  if s = "" then .error .badValue else .ok s

def level (s : String) : Except ArgumentError LogLevel :=
  match LogLevel.all.find? fun l => l.label = s with
  | some l => .ok l
  | none => .error .badValue

/-- Has the option a value already? -/
def has (a : Arguments) : OptionName → Bool
  | .config => a.config.isSome
  | .apiUrl => a.apiUrl.isSome
  | .logPath => a.logPath.isSome
  | .logLevel => a.logLevel.isSome
  | .pageSize => a.pageSize.isSome
  | .storeQuery => a.storeQuery.isSome
  | .pollInterval => a.pollInterval.isSome
  | .pollAttempts => a.pollAttempts.isSome

/-- Gives an option its value. -/
def set (a : Arguments) (o : OptionName) (value : Option String) :
    Except ArgumentError Arguments :=
  match value with
  | none => .error .badValue
  | some s =>
    if a.has o then .error .repeated
    else
      match o with
      | .config => return { a with config := some (← path s) }
      | .apiUrl => .ok { a with apiUrl := some s }
      | .logPath => return { a with logPath := some (← path s) }
      | .logLevel => return { a with logLevel := some (← level s) }
      | .pageSize => return { a with pageSize := some (← below wideLimit (unsigned? s)) }
      | .storeQuery => .ok { a with storeQuery := some s }
      | .pollInterval => return { a with pollInterval := some (← below wideLimit (unsigned? s)) }
      | .pollAttempts => return { a with pollAttempts := some (← below narrowLimit (signed? s)) }

/-! ## Reading -/

/-- Where reading is. -/
structure Progress where
  done : Arguments := {}
  /-- An option that has not been looked at, with its value if it has come. -/
  pending : Option (OptionName × Option String) := none
  deriving DecidableEq, Inhabited, Repr

namespace Progress

/-- Looks at the option that waits. -/
def resolve (p : Progress) : Except ArgumentError Progress :=
  match p.pending with
  | none => .ok p
  | some (o, value) => return { done := (← p.done.set o value) }

/-- Takes an option with the value that is attached to it, or waits for its value. -/
def option (p : Progress) (o : OptionName) (attached : Option String) :
    Except ArgumentError Progress := do
  let p ← p.resolve
  match attached with
  | some s => return { done := (← p.done.set o (some s)) }
  | none => return { p with pending := some (o, none) }

/-- Does an option wait for its value? -/
def expectsValue (p : Progress) : Bool :=
  match p.pending with
  | some (_, none) => true
  | _ => false

/-- Takes a word that is no option. -/
def word (p : Progress) (s : String) : Except ArgumentError Progress :=
  match p.pending with
  | some (o, none) => .ok { p with pending := some (o, some s) }
  | _ => .error .unknown

/-- Stops at a switch that asks for a text instead. -/
def switch (p : Progress) (e : ArgumentError) (attached : Option String) :
    Except ArgumentError Progress :=
  match attached with
  | some _ => .error .valueNotExpected
  | none => do
    let _ ← p.resolve
    .error e

/-- Takes an option by its name; `cs` follows the two hyphens. -/
def long (p : Progress) (cs : List Char) : Except ArgumentError Progress :=
  let name := String.ofList (cs.takeWhile (· ≠ '='))
  let attached := match cs.dropWhile (· ≠ '=') with
    | [] => none
    | _ :: value => some (String.ofList value)
  if name = "help" then p.switch .help attached
  else if name = "version" then p.switch .version attached
  else
    match OptionName.ofLabel? name with
    | some o => p.option o attached
    | none => .error .unknown

/-- Takes an option by its letter; `cs` follows the hyphen. -/
def short (p : Progress) (cs : List Char) : Except ArgumentError Progress :=
  match cs with
  | 'h' :: _ => p.switch .help none
  | 'V' :: _ => p.switch .version none
  | 'c' :: [] => p.option .config none
  | 'c' :: '=' :: value => p.option .config (some (String.ofList value))
  | 'c' :: value => p.option .config (some (String.ofList value))
  | _ => .error .unknown

end Progress

/-- Reads the words from here on. -/
def readFrom (p : Progress) : List String → Except ArgumentError Progress
  | [] => p.resolve
  | s :: rest => do
    match s.toList with
    | ['-', '-'] => if rest.isEmpty then p.resolve else .error .unknown
    | '-' :: '-' :: cs => readFrom (← p.long cs) rest
    | ['-'] => readFrom (← p.word s) rest
    | '-' :: cs => readFrom (← p.short cs) rest
    | _ => readFrom (← p.word s) rest

/-- Reads the arguments; the address of the gateway may also stand in the environment. -/
def read (words : List String) (environment : Option String) :
    Except ArgumentError Arguments := do
  let p ← readFrom {} words
  return { p.done with apiUrl := p.done.apiUrl.or environment }

end Arguments

namespace Settings

/-- The settings with the arguments in place of what the document says. -/
def merge (s : Settings) (a : Arguments) : Settings :=
  { s with
    configPath := a.config.or s.configPath,
    logPath := a.logPath.or s.logPath,
    storeQuery := a.storeQuery.or s.storeQuery,
    logLevel := a.logLevel.getD s.logLevel,
    gateway := { s.gateway with baseUrl := a.apiUrl.getD s.gateway.baseUrl },
    view := { s.view with pageSize := (a.pageSize.filter (0 < ·)).getD s.view.pageSize },
    publish :=
      { interval := a.pollInterval.getD s.publish.interval,
        maxAttempts := a.pollAttempts.getD s.publish.maxAttempts } }

end Settings

end CatalogDesk
