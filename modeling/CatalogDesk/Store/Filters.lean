import CatalogDesk.Net.FormEncoding
import CatalogDesk.Text.Blank

/-! # Store filters

    What a visitor searches the store for.  The filters have a written form, the
    query line, which is the location of a search: it is kept in the history, stored
    between runs and sent with the request.  Values are trimmed when they are written,
    and blank ones left out. -/

namespace CatalogDesk

/-- The filters of a store search, each as typed. -/
structure Filters where
  q : String := ""
  minPrice : String := ""
  maxPrice : String := ""
  channel : String := ""
  /-- Wanted characteristics, each as `name:value`. -/
  characteristics : List String := []
  deriving DecidableEq, Inhabited, Repr

namespace Filters

/-- A name with the trimmed value, unless that is empty. -/
def trimmedPair (name value : String) : FormEncoding.Pairs :=
  if Text.trim value = "" then [] else [(name, Text.trim value)]

/-- The filters that are set, in a fixed order. -/
def pairs (f : Filters) : FormEncoding.Pairs :=
  trimmedPair "q" f.q ++ trimmedPair "min_price" f.minPrice ++
    trimmedPair "max_price" f.maxPrice ++ trimmedPair "channel" f.channel ++
    f.characteristics.flatMap (trimmedPair "characteristic")

/-- Is no filter set? -/
def isEmpty (f : Filters) : Bool :=
  f.pairs.isEmpty

/-- The parameters of a request for one page of the search. -/
def searchParams (f : Filters) (skip limit : Nat) : FormEncoding.Pairs :=
  [("skip", toString skip), ("limit", toString limit)] ++ f.pairs

/-- The query line. -/
def toQuery (f : Filters) : String :=
  FormEncoding.encode f.pairs

/-- Takes over one pair of a query line; unknown names are ignored. -/
def takePair (f : Filters) (p : String × String) : Filters :=
  match p.1 with
  | "q" => { f with q := p.2 }
  | "min_price" => { f with minPrice := p.2 }
  | "max_price" => { f with maxPrice := p.2 }
  | "channel" => { f with channel := p.2 }
  | "characteristic" => { f with characteristics := f.characteristics ++ [p.2] }
  | _ => f

/-- The filters of a query line; question marks in front are skipped. -/
def ofQuery (s : String) : Filters :=
  let line := (Text.trimChars s.toList).dropWhile (· = '?')
  (FormEncoding.decode (String.ofList line)).foldl takePair {}

end Filters

end CatalogDesk
