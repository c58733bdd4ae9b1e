import CatalogDesk.Json.Decode

/-! # Levels of logging -/

namespace CatalogDesk

/-- How much is logged. -/
inductive LogLevel where
  | trace | debug | info | warn | error
  deriving DecidableEq, Inhabited, Repr

namespace LogLevel

def all : List LogLevel := [.trace, .debug, .info, .warn, .error]

def label : LogLevel → String
  | .trace => "trace"
  | .debug => "debug"
  | .info => "info"
  | .warn => "warn"
  | .error => "error"

/-- The level as it stands in the log. -/
def tag (l : LogLevel) : String :=
  String.ofList (l.label.toList.map Char.toUpper)

def encode (l : LogLevel) : Json := .text l.label

def decode : Json → Decode.Result LogLevel :=
  Decode.variant (all.map fun l => (l.label, l))

end LogLevel

end CatalogDesk
