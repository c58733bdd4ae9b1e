import CatalogDesk.Main
import CatalogDesk.Net.Transport
import CatalogDesk.Proofs.Builder.Busy
import CatalogDesk.Proofs.Builder.Ownership
import CatalogDesk.Proofs.Builder.Picking
import CatalogDesk.Proofs.Catalog.ReadBack
import CatalogDesk.Proofs.Catalog.RowActions
import CatalogDesk.Proofs.Clock.Debounced
import CatalogDesk.Proofs.Console.Custody
import CatalogDesk.Proofs.Console.Edits
import CatalogDesk.Proofs.Console.Guard
import CatalogDesk.Proofs.Console.Listings
import CatalogDesk.Proofs.Console.Progress
import CatalogDesk.Proofs.Form.Checks
import CatalogDesk.Proofs.Form.Episodes
import CatalogDesk.Proofs.Form.Selections
import CatalogDesk.Proofs.Net.Messages
import CatalogDesk.Proofs.Notice.Turns
import CatalogDesk.Proofs.Publish.Polling
import CatalogDesk.Proofs.Publish.Stopping
import CatalogDesk.Proofs.Publish.TwoWays
import CatalogDesk.Proofs.Screen.Cursor
import CatalogDesk.Proofs.Screen.Numeral
import CatalogDesk.Proofs.Screen.Popup
import CatalogDesk.Proofs.Session.Durability
import CatalogDesk.Proofs.Session.Masking
import CatalogDesk.Proofs.Session.SignIn
import CatalogDesk.Proofs.Store.Location
import CatalogDesk.Proofs.Store.Paging
import CatalogDesk.Proofs.Store.Status
import CatalogDesk.Proofs.Store.Superseded
import CatalogDesk.Proofs.Store.Trail
import CatalogDesk.Proofs.Table.Buttons
import CatalogDesk.Proofs.Table.Directions
import CatalogDesk.Proofs.Table.InSight
import CatalogDesk.Proofs.Table.Literal
import CatalogDesk.Proofs.Table.Pages
import CatalogDesk.Proofs.Table.WeakOrder
import CatalogDesk.Proofs.Task.Course
import CatalogDesk.Proofs.Viewer.Commands
import CatalogDesk.Proofs.Viewer.Dates
import CatalogDesk.Proofs.Viewer.SearchBox
import CatalogDesk.Rehearsal.Console
import CatalogDesk.Rehearsal.Forms
import CatalogDesk.Rehearsal.Parts
import CatalogDesk.Rehearsal.Screens
import CatalogDesk.Rehearsal.Seen.Table
