import CatalogDesk.Console.Desk
import CatalogDesk.Console.Draw
import CatalogDesk.Rehearsal.Scene
import CatalogDesk.Rehearsal.Seen.Store
import CatalogDesk.Rehearsal.Seen.Values
import CatalogDesk.Settings.Encoding

/-! # Rehearsing the console

    The whole console, with prepared replies and a session that is stored nowhere. -/

namespace CatalogDesk.Rehearsal

open Draw

/-- What is remembered, as data. -/
def rememberedOf (j : Json) : Remembered :=
  { lastRoute := j.textAt? "last_route", storeQuery := j.textAt? "store_query" }

def rememberedJson (r : Remembered) : Json :=
  .ofMembers [("last_route", optText r.lastRoute), ("store_query", optText r.storeQuery)]

/-- The notice on display. -/
def frontJson (n : Notice) : Json := .texts [levelName n.level, n.title, n.message]

/-- The state of the console. -/
def consoleJson (c : Console) (s : SessionContext) : Json :=
  .ofMembers [("running", .bool c.running), ("route", .text c.route.name),
    ("return_to", optText (c.returnTo.map Route.name)),
    ("last_visited", .text c.lastVisited.name), ("store_started", .bool c.shopStarted),
    ("authenticated", .bool s.isAuthenticated),
    ("user", optText (s.user.map (·.username))),
    ("token", optText (s.client.token.map (·.value))), ("login_error", optText c.signIn.error),
    ("builder_tab", .text c.builder.tab.title), ("viewer", .text c.viewer.active.title),
    ("toasts", .nat c.notices.size), ("toast", .ofOption frontJson c.notices.current?),
    ("watches", .nat c.watches.length), ("filter_pending", .bool c.edits.isPending),
    ("hints", .nat c.hints.length), ("saved", rememberedJson c.remembered),
    ("store", browserJson c.shop.browser)]

/-- What is seen of a desk, and the desk after that. -/
def deskJson (d : Desk) : Json × Desk :=
  let s := d.scheduler
  (.ofMembers [("state", consoleJson d.console s.context),
    ("toasts", .list (d.shown.map toastJson)), ("requests", requestsJson s),
    ("storage", itemsJson s.context.store.items)],
    { d with shown := [], scheduler := { s with sent := [] } })

/-- Presses keys, settling after each of them or after the last one. -/
def pressAll (d : Desk) (keys : List Key) (burst : Bool) : Desk :=
  if burst then (keys.foldl Desk.press d).settle
  else keys.foldl (fun d k => (d.press k).settle) d

/-- Carries out a step that is neither a key nor a look at the screen. -/
def act (d : Desk) (s : Json) (name : String) : Answered Desk :=
  match name with
  | "sleep" => .ok (d.sleep (s.natAt "ms" 0)).settle
  | "tick" => .ok d.tick.settle
  | "routes" =>
    let scheduler := d.scheduler
    .ok { d with
      scheduler := { scheduler with gateway := prepare scheduler.gateway (s.listAt "routes") } }
  | _ => unknownStep name

/-- Carries out one step; its entry is the result. -/
def deskStep : Play Desk := fun d s name => do
  if name == "render" then
    return (d, ← drawn s 100 24 (d.console.draw d.scheduler.context.user))
  let d ← match keysOf s with
    | some keys => pure (pressAll d keys (s.flagAt "burst"))
    | none => act d s name
  let (entry, d) := deskJson d
  return (d, entry)

/-- The desk that a rehearsal starts with. -/
def deskOf (j : Json) : Answered Desk := do
  let settings ← match j.present? "config" with
    | some v => decoded (Settings.decode v)
    | none => pure {}
  let settings := { settings with storeQuery := j.textAt? "store_query" <|> settings.storeQuery }
  return .new settings (rememberedOf (j.valueAt "saved")) (prepare {} (j.listAt "routes"))
    (storeOf (j.valueAt "storage") (j.textsAt "storage_fail"))

def rehearseConsole (j : Json) : Answered Json := do
  let (first, d) := deskJson (← deskOf j).start.settle
  playFrom j first d (fun d entry => (d, entry)) deskStep

end CatalogDesk.Rehearsal
