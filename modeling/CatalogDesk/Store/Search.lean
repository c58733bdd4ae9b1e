import CatalogDesk.Store.Browser
import CatalogDesk.Task.Work

/-! # Running store searches -/

namespace CatalogDesk

namespace SearchTicket

def searchPath : String := "/store/search"

def connectionMessage : String := "Could not connect to the store service."

/-- Sends the search; a failure is shown. -/
def search (t : SearchTicket) : Work (Except Failure SearchPage) := do
  let result ← Work.get searchPath t.params SearchPage.decode
  match result with
  | .ok page => return .ok page
  | .error f =>
    Work.notify .error connectionMessage
    return .error f

end SearchTicket

end CatalogDesk
