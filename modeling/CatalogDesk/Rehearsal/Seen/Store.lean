import CatalogDesk.Notice.Basic
import CatalogDesk.Rehearsal.Seen.Values
import CatalogDesk.Store.Browser

/-! # What is seen: the store and the notices -/

namespace CatalogDesk.Rehearsal

def ticketJson (t : SearchTicket) : Json :=
  let mode := match t.mode with
    | .replace => "replace"
    | .append => "append"
  .ofMembers [("generation", .nat t.generation), ("mode", .text mode), ("skip", .nat t.skip),
    ("limit", .nat t.limit), ("params", pairsJson t.params)]

def browserJson (b : StoreBrowser) : Json :=
  .ofMembers [("location", .text b.location), ("filters", filtersJson b.filters),
    ("items", .texts (b.items.map (·.name))), ("total", .nat b.total), ("skip", .nat b.skip),
    ("loading", .bool b.loading), ("error", optText b.error), ("more", .bool b.hasMore),
    ("empty", .bool b.showsEmptyState), ("summary", .text b.summary),
    ("selected", .nat b.selected), ("selected_id", optText (b.selected?.map (·.id))),
    ("back", .bool b.history.canGoBack), ("forward", .bool b.history.canGoForward)]

def noticeJson (n : Notice) : Json :=
  .ofMembers [("level", .text (levelName n.level)), ("title", .text n.title),
    ("message", .text n.message), ("displayed", .bool n.displayedAt.isSome),
    ("expired", .bool (n.isExpired 0)), ("duration_ms", .nat n.duration)]

def queueJson (q : NoticeQueue) : Json :=
  .ofMembers [("len", .nat q.size), ("empty", .bool q.isEmpty), ("any", .bool (!q.isEmpty)),
    ("current", .ofOption noticeJson q.current?)]

end CatalogDesk.Rehearsal
