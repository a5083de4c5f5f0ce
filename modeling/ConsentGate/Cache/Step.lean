import ConsentGate.Cache.Basic

namespace ConsentGate

structure ClockedCache where
  now : Clock
  cache : Cache

namespace ClockedCache

/-- What can happen to a cache. Where no time is given, that of the clock counts. -/
inductive Step where
  | tick (i : Interval)
  | read (time : Option Moment)
  | askStale (time : Option Moment)
  | publish (l : VendorList) (loadedAt : Option Moment)
  | refresh
  | refreshInBackground
  | land
  | patrol (waits : List Interval)

inductive Reply where
  | nothing
  | clock (c : Clock)
  | served (l : Option VendorList)
  | told (answer : Bool)

def step (s : ClockedCache) : Step → ClockedCache × List Event × Reply
  | .tick i => ({ s with now := s.now.advance i }, [], .clock (s.now.advance i))
  | .read time =>
    let (c, events, l) := s.cache.current s.now (time.getD s.now)
    (⟨s.now, c⟩, events, .served l)
  | .askStale time => (s, [], .told (s.cache.isStale (time.getD s.now)))
  | .publish l loadedAt =>
    let (c, events) := s.cache.publish l (loadedAt.getD s.now)
    (⟨s.now, c⟩, events, .nothing)
  | .refresh =>
    let (c, events, published) := s.cache.refresh s.now
    (⟨s.now, c⟩, events, .told published)
  | .refreshInBackground =>
    let (c, events, started) := s.cache.refreshInBackground s.now
    (⟨s.now, c⟩, events, .told started)
  | .land =>
    let (c, events) := s.cache.land s.now
    (⟨s.now, c⟩, events, .nothing)
  | .patrol waits =>
    let (c, events, now) := s.cache.patrol s.now waits
    (⟨now, c⟩, events, .nothing)

def run (s : ClockedCache) (steps : List Step) : ClockedCache :=
  steps.foldl (fun s t => (s.step t).1) s

end ClockedCache

end ConsentGate
