/-! # Notices

    Short messages that are shown one at a time.  The time of a notice runs from the
    moment it is displayed, not from the moment it is queued. -/

namespace CatalogDesk

/-- What a notice is about. -/
inductive NoticeLevel where
  | info | success | warn | error
  deriving DecidableEq, Inhabited, Repr

/-- The title of a notice that brings none. -/
def NoticeLevel.title : NoticeLevel → String
  | .info => "Info"
  | .success => "Success"
  | .warn => "Warning"
  | .error => "Error"

/-- A message for the queue, before it has a title. -/
structure Toast where
  level : NoticeLevel
  message : String
  deriving DecidableEq, Inhabited, Repr

/-- A message with its title and the time at which it came to the front.  Times and
    durations are in milliseconds. -/
structure Notice where
  level : NoticeLevel
  title : String
  message : String
  displayedAt : Option Int := none
  duration : Nat := 5000
  deriving DecidableEq, Inhabited, Repr

namespace Notice

/-- The notice of a message without a title of its own. -/
def ofToast (t : Toast) : Notice :=
  { level := t.level, title := t.level.title, message := t.message }

/-- Has the notice been displayed for longer than its duration? -/
def isExpired (n : Notice) (now : Int) : Bool :=
  match n.displayedAt with
  | none => false
  | some start => (n.duration : Int) < now - start

/-- Starts the time of the notice, unless it runs already. -/
def markDisplayed (n : Notice) (now : Int) : Notice :=
  match n.displayedAt with
  | none => { n with displayedAt := some now }
  | some _ => n

end Notice

/-! ## The queue of notices

    Notices wait in the order in which they came.  The one at the front is on display;
    it leaves when its time is over or when it is dismissed, and the next one's time
    starts. -/

/-- Notices in order of arrival, and how long each is displayed, in milliseconds. -/
structure NoticeQueue where
  duration : Nat := 5000
  notices : List Notice := []
  deriving DecidableEq, Inhabited, Repr

namespace NoticeQueue

/-- Queues a notice. -/
def push (q : NoticeQueue) (n : Notice) : NoticeQueue :=
  { q with notices := q.notices ++ [{ n with duration := q.duration }] }

/-- The notices with the time of the first one started. -/
def displayFront (now : Int) : List Notice → List Notice
  | [] => []
  | n :: rest => n.markDisplayed now :: rest

/-- Starts the time of the front notice, and removes the notice if its time is over.  The
    clock may have gone on when the time is looked at, and again when the next one starts. -/
def tick (q : NoticeQueue) (now : Int) (later : Int := now) (last : Int := later) :
    NoticeQueue :=
  match displayFront now q.notices with
  | [] => q
  | n :: rest =>
    if n.isExpired later then { q with notices := displayFront last rest }
    else { q with notices := n :: rest }

/-- Removes the front notice. -/
def dismiss (q : NoticeQueue) (now : Int) : NoticeQueue :=
  { q with notices := displayFront now (q.notices.drop 1) }

/-- The notice on display. -/
def current? (q : NoticeQueue) : Option Notice :=
  q.notices.head?

def isEmpty (q : NoticeQueue) : Bool :=
  q.notices.isEmpty

def size (q : NoticeQueue) : Nat :=
  q.notices.length

end NoticeQueue

end CatalogDesk
