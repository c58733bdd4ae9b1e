import CatalogDesk.Rehearsal.Seen.Values
import CatalogDesk.Table.Basic

/-! # What is seen: tables -/

namespace CatalogDesk.Rehearsal

def directionJson : SortDirection → Json
  | .ascending => .text "asc"
  | .descending => .text "desc"

def pageButtonJson : PageButton → Json
  | .page n => .nat n
  | .ellipsis => .text "..."

def tableJson (t : Table Json) : Json :=
  .ofMembers [("page", .nat t.page), ("pages", .nat t.totalPages), ("page_size", .nat t.pageSize),
    ("filtered", .nat t.view.length), ("len", .nat t.records.length),
    ("no_records", .bool t.records.isEmpty), ("rows", .nat t.pageRows.length),
    ("cells", .list (t.pageCells.map .texts)), ("summary", .text t.summary),
    ("buttons", .list (t.pageButtons.map pageButtonJson)),
    ("sort", .ofOption (fun s => .list [.nat s.1, directionJson s.2]) t.sort),
    ("directions", .list ((List.range t.columns.length).map fun c =>
      .ofOption directionJson (t.sortDirection? c))),
    ("selected", .nat t.selected), ("record", t.selected?.getD .null),
    ("back", .bool t.canGoBack), ("forward", .bool t.canGoForward),
    ("empty_state", .bool t.showsEmptyState), ("empty_message", .text t.emptyMessage),
    ("placeholders", .nat t.placeholderRows), ("loading", .bool t.loading),
    ("search", .text t.search)]

end CatalogDesk.Rehearsal
