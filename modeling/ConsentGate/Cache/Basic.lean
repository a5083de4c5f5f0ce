import ConsentGate.VendorList.Gvl
import ConsentGate.Event

namespace ConsentGate

inductive FetchOutcome where
  | list (l : VendorList)
  | payload (j : Json)
  | failed (kind : String) (message : Text)
  | invalid

structure FetchFailure where
  error : Text
  kind : String

namespace FetchOutcome

def vendorList (now : Moment) : FetchOutcome → Except FetchFailure VendorList
  | list l => .ok l
  | payload j => (VendorList.ofGvl now j).mapError fun e => ⟨e.message, "VendorListError"⟩
  | failed kind message => .error ⟨message, kind⟩
  | invalid => .error ⟨"<validation>", "ValidationError"⟩

end FetchOutcome

/-- A call of a fetcher. In the background a slow one stays in flight until it is landed. -/
structure Fetch where
  outcome : FetchOutcome
  slow : Bool

abbrev Fetcher := Nat → Fetch

structure Snapshot where
  list : VendorList
  loadedAt : Moment
deriving DecidableEq, Inhabited

structure Cache where
  fetcher : Option Fetcher
  refreshInterval : Interval
  retryInterval : Interval
  snapshot : Option Snapshot
  /-- When a reader last found the snapshot stale and an attempt due. -/
  lastAttempt : Option Moment
  flight : Option FetchOutcome
  fetches : Nat

namespace Cache

def weekly : Interval := ⟨7 * Interval.microsPerDay⟩

def hourly : Interval := ⟨3600 * Interval.microsPerSecond⟩

/-- Without a load time the initial list counts as loaded now. -/
def create (now : Moment) (fetcher : Option Fetcher) (refreshInterval retryInterval : Interval)
    (initial : Option VendorList) (loadedAt : Option Moment) : Cache where
  fetcher := fetcher
  refreshInterval := refreshInterval
  retryInterval := retryInterval
  snapshot := initial.map fun l => ⟨l, loadedAt.getD now⟩
  lastAttempt := none
  flight := none
  fetches := 0

def list (c : Cache) : Option VendorList := c.snapshot.map (·.list)

def inFlight (c : Cache) : Bool := c.flight.isSome

def isStale (c : Cache) (now : Moment) : Bool :=
  c.snapshot.all fun s => now.exceeds s.loadedAt c.refreshInterval

def attemptDue (c : Cache) (now : Moment) : Bool :=
  c.lastAttempt.all fun last => now.reaches last c.retryInterval

def lists (c : Cache) (vendor : Int) : Bool := c.list.any (·.lists vendor)

def declares (c : Cache) (vendor purpose : Int) : Bool := c.list.any (·.declares vendor purpose)

def publish (c : Cache) (l : VendorList) (loadedAt : Moment) : Cache × List Event :=
  ({ c with snapshot := some ⟨l, loadedAt⟩ }, [.listPublished l.version l.vendors.length])

def complete (c : Cache) (outcome : FetchOutcome) (now : Moment) : Cache × List Event × Bool :=
  match outcome.vendorList now with
  | .ok l =>
    let (c, events) := c.publish l now
    (c, events, true)
  | .error f => (c, [.refreshFailed f.error f.kind (c.list.map (·.version))], false)

def refresh (c : Cache) (now : Moment) : Cache × List Event × Bool :=
  match c.fetcher with
  | none => (c, [.fetcherNotConfigured], false)
  | some fetch =>
    if c.inFlight then (c, [.refreshInFlight], false)
    else
      let (c', events, published) :=
        { c with fetches := c.fetches + 1 }.complete (fetch c.fetches).outcome now
      (c', .refreshStarted :: events, published)

def land (c : Cache) (now : Moment) : Cache × List Event :=
  match c.flight with
  | none => (c, [])
  | some outcome =>
    let (c, events, _) := { c with flight := none }.complete outcome now
    (c, events)

def refreshInBackground (c : Cache) (now : Moment) : Cache × List Event × Bool :=
  match c.fetcher with
  | none => (c, [], false)
  | some fetch =>
    if c.inFlight then (c, [], false)
    else
      let call := fetch c.fetches
      let c := { c with fetches := c.fetches + 1, flight := some call.outcome }
      if call.slow then (c, [.refreshStarted], true)
      else
        let (c, events) := c.land now
        (c, .refreshStarted :: events, true)

/-- The snapshot to go by at a given time. A stale one still serves, while a refresh that is due
is started in the background. -/
def current (c : Cache) (now time : Moment) : Cache × List Event × Option VendorList :=
  if c.isStale time && c.attemptDue time then
    let (c', events, _) := { c with lastAttempt := some time }.refreshInBackground now
    (c', events, c.list)
  else (c, [], c.list)

def check (c : Cache) (now : Moment) : Cache × List Event :=
  if c.isStale now then
    let (c, events, _) := c.refresh now
    (c, events)
  else (c, [])

def patrol (c : Cache) (now : Clock) : List Interval → Cache × List Event × Clock
  | [] =>
    let (c, events) := c.check now
    (c, events, now)
  | wait :: waits =>
    let (c, events) := c.check now
    let (c, later, now) := c.patrol (now.advance wait) waits
    (c, events ++ later, now)

end Cache

end ConsentGate
