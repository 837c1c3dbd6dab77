import Reconciler.RateLimiter

/-!
# The work queue

A queue that hands out each waiting item once, at most one item of a key at a time, and keeps the
order of the items of a key. An item that comes again while it is being processed is queued when it is
done; delayed items enter when their time has come.
-/

namespace Reconciler

/-- Items of work, of which two with one key are never processed at the same time. -/
class Keyed (ι : Type) (κ : outParam Type) where
  /-- The key of an item. -/
  key : ι → κ

/-- An item that enters the queue at a later time. -/
structure Delayed (ι α : Type) where
  /-- The time at which the item is due. -/
  due : α
  /-- The item. -/
  item : ι

/-- A work queue. -/
structure WorkQueue (ι κ α : Type) where
  /-- The limiter that says how long a failed item waits. -/
  limiter : RateLimiter ι α
  /-- The queued items in order. -/
  queue : List ι
  /-- The items that have come and were not handed out since. -/
  dirty : List ι
  /-- The items that were handed out and are not done. -/
  processing : List ι
  /-- The keys of the items that are being processed. -/
  busy : List κ
  /-- The delayed items, by due time and then by arrival. -/
  waiting : List (Delayed ι α)
  /-- No items are accepted any more. -/
  closed : Bool
  /-- The gauge that shows the number of queued items. -/
  depth : Nat

/-- What a request for work is answered. -/
structure Handout (ι : Type) where
  /-- The item to process. -/
  item : Option ι
  /-- The queue is closed and empty. -/
  finished : Bool

namespace WorkQueue

variable {ι κ α : Type} [BEq ι] [BEq κ] [Keyed ι κ] [Quantity α]

/-- An empty queue. -/
def empty (limiter : RateLimiter ι α) : WorkQueue ι κ α :=
  ⟨limiter, [], [], [], [], [], false, 0⟩

/-- The queue with its gauge read again. -/
def gauged (q : WorkQueue ι κ α) : WorkQueue ι κ α :=
  { q with depth := q.queue.length }

/-- The queue after the arrival of an item: it is queued unless it waits already or is being
processed. -/
def arrive (q : WorkQueue ι κ α) (item : ι) : WorkQueue ι κ α :=
  if q.dirty.contains item then q
  else
    let q := { q with dirty := q.dirty ++ [item] }
    if q.processing.contains item then q else gauged { q with queue := q.queue ++ [item] }

/-- The queue after an item was added. -/
def add (q : WorkQueue ι κ α) (item : ι) : WorkQueue ι κ α :=
  if q.closed then q else q.arrive item

/-- The delayed items with one more behind those that are due no later. -/
def schedule (delayed : Delayed ι α) : List (Delayed ι α) → List (Delayed ι α)
  | [] => [delayed]
  | first :: rest =>
    if Quantity.atMost first.due delayed.due then first :: schedule delayed rest
    else delayed :: first :: rest

/-- The queue after an item was added with a delay. -/
def addAfter (q : WorkQueue ι κ α) (now : α) (item : ι) (delay : α) : WorkQueue ι κ α :=
  if Quantity.atMost delay Quantity.zero then q.add item
  else if q.closed then q
  else { q with waiting := schedule ⟨now + delay, item⟩ q.waiting }

/-- The queue after a failed item was added again, to wait as the limiter says. -/
def addRateLimited (q : WorkQueue ι κ α) (now : α) (item : ι) :
    Except Failure Unit × WorkQueue ι κ α :=
  match q.limiter.wait now item with
  | (.error failure, limiter) => (.error failure, { q with limiter })
  | (.ok delay, limiter) => (.ok (), addAfter { q with limiter } now item delay)

/-- The queue after an item has succeeded or is given up. -/
def forget (q : WorkQueue ι κ α) (item : ι) : WorkQueue ι κ α :=
  { q with limiter := q.limiter.forget item }

/-- The number of failures of an item. -/
def requeues (q : WorkQueue ι κ α) (item : ι) : Except Failure Nat :=
  q.limiter.requeues item

/-- The key of an item is busy. -/
def isBusy (q : WorkQueue ι κ α) (item : ι) : Bool :=
  q.busy.contains (Keyed.key item)

/-- The queue after an item was handed out. -/
def take (q : WorkQueue ι κ α) (item : ι) : WorkQueue ι κ α :=
  gauged
    { q with
      queue := q.queue.eraseP fun queued => !q.isBusy queued
      dirty := q.dirty.filter fun x => !x == item
      processing := if q.processing.contains item then q.processing else q.processing ++ [item]
      busy := if q.isBusy item then q.busy else q.busy ++ [Keyed.key item] }

/-- The first queued item whose key is not busy is handed out. -/
def get (q : WorkQueue ι κ α) : Handout ι × WorkQueue ι κ α :=
  match q.queue.find? fun queued => !q.isBusy queued with
  | some item => (⟨some item, false⟩, q.take item)
  | none => (⟨none, q.closed && q.queue.isEmpty⟩, q)

/-- The queue after an item is done; an item that has come again meanwhile is queued. -/
def done (q : WorkQueue ι κ α) (item : ι) : WorkQueue ι κ α :=
  let q :=
    { q with
      processing := q.processing.filter fun x => !x == item
      busy := q.busy.filter fun k => !k == Keyed.key item }
  if q.dirty.contains item then gauged { q with queue := q.queue ++ [item] } else q

/-- The queue after the delayed items that are due have arrived, in their order. -/
def deliver (q : WorkQueue ι κ α) (now : α) : WorkQueue ι κ α :=
  if q.closed then q
  else
    let isDue (delayed : Delayed ι α) : Bool := Quantity.atMost delayed.due now
    let arrivals := q.waiting.takeWhile isDue
    arrivals.foldl (fun q delayed => q.arrive delayed.item)
      { q with waiting := q.waiting.dropWhile isDue }

/-- The queue after it was closed: nothing is accepted, and the delayed items are dropped. -/
def close (q : WorkQueue ι κ α) : WorkQueue ι κ α :=
  { q with closed := true, waiting := [] }

/-- Nothing is queued and nothing is being processed. -/
def isDrained (q : WorkQueue ι κ α) : Bool :=
  q.queue.isEmpty && q.processing.isEmpty

end WorkQueue

end Reconciler
