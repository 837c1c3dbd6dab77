import Reconciler.Failure
import Reconciler.Quantity

/-!
# Rate limiters

How long a failed item waits before it is tried again: an exponential backoff for each item, a bucket
of tokens shared by all items, and the longest wait that several limiters ask for.
-/

namespace Reconciler

/-- The number of failures of each item. -/
abbrev FailureCounts (ι : Type) := List (ι × Nat)

namespace FailureCounts

variable {ι : Type} [BEq ι]

/-- The number of failures of an item. -/
def count (counts : FailureCounts ι) (item : ι) : Nat :=
  ((counts.find? fun entry => entry.1 == item).map Prod.snd).getD 0

/-- The counts without an item. -/
def forget (counts : FailureCounts ι) (item : ι) : FailureCounts ι :=
  counts.filter fun entry => !entry.1 == item

/-- The counts with one more failure of an item. -/
def record (counts : FailureCounts ι) (item : ι) : FailureCounts ι :=
  (item, counts.count item + 1) :: forget counts item

end FailureCounts

/-- An exponential backoff for each item. -/
structure Backoff (ι α : Type) where
  /-- The wait after the first failure. -/
  base : α
  /-- The longest wait. -/
  limit : α
  /-- The failures so far. -/
  failures : FailureCounts ι

namespace Backoff

variable {ι α : Type} [BEq ι] [Quantity α]

/-- The wait after a number of earlier failures: it doubles with each of them up to the limit, and is
the limit when the doubling would leave the range of numbers. -/
def delay (base limit : α) (failures : Nat) : α :=
  if 62 < failures then limit else Quantity.least (base * Quantity.ofInt (Nat.pow 2 failures)) limit

/-- The wait for an item, which has failed once more. -/
def wait (b : Backoff ι α) (item : ι) : α × Backoff ι α :=
  (delay b.base b.limit (b.failures.count item), { b with failures := b.failures.record item })

end Backoff

/-- A bucket of tokens which refills at a rate up to a burst. -/
structure Bucket (α : Type) where
  /-- The tokens that come in a second. -/
  rate : α
  /-- The most tokens the bucket holds. -/
  burst : α
  /-- The tokens at the last call; below zero when tokens are reserved. -/
  tokens : α
  /-- The time of the last call. -/
  last : α

namespace Bucket

variable {α : Type} [Quantity α]

/-- A full bucket. -/
def full (rate burst now : α) : Bucket α :=
  ⟨rate, burst, Quantity.measured burst, now⟩

/-- The bucket after its refill and the reservation of a token. -/
def reserve (b : Bucket α) (now : α) : Bucket α :=
  let refilled :=
    Quantity.least (Quantity.measured b.burst) (b.tokens + (now - b.last) * b.rate)
  { b with tokens := refilled - Quantity.measured (Quantity.ofInt 1), last := now }

/-- The time until the reserved token is there. -/
def shortfall (b : Bucket α) : Except Failure α :=
  if Quantity.atMost Quantity.zero b.tokens then .ok (Quantity.measured Quantity.zero)
  else if Quantity.isZero b.rate then .error (.shape .divisionByZero)
  else .ok (-b.tokens / b.rate)

/-- The wait for a token, which is reserved. -/
def wait (b : Bucket α) (now : α) : Except Failure α × Bucket α :=
  let reserved := b.reserve now
  (reserved.shortfall, reserved)

end Bucket

/-- A rate limiter. -/
inductive RateLimiter (ι α : Type) where
  /-- An exponential backoff. -/
  | backoff (b : Backoff ι α)
  /-- A bucket of tokens. -/
  | bucket (b : Bucket α)
  /-- The longest wait of several limiters. -/
  | longest (limiters : List (RateLimiter ι α))

namespace RateLimiter

instance {ι α : Type} : Inhabited (RateLimiter ι α) := ⟨.longest []⟩

variable {ι α : Type} [BEq ι] [Quantity α]

/-- The greatest of several quantities, the first of them on a tie. -/
def greatestOf : List α → Except Failure α
  | [] => .error (.shape .noGreatest)
  | a :: rest => .ok (rest.foldl Quantity.greatest a)

mutual

/-- The wait for an item at a time. -/
def wait (now : α) (item : ι) : RateLimiter ι α → Except Failure α × RateLimiter ι α
  | .backoff b => (.ok (b.wait item).1, .backoff (b.wait item).2)
  | .bucket b => ((b.wait now).1, .bucket (b.wait now).2)
  | .longest limiters =>
    let (waits, limiters) := waits now item limiters
    (waits.bind greatestOf, .longest limiters)

/-- The waits that the limiters ask for; those behind a limiter that fails are not asked. -/
def waits (now : α) (item : ι) :
    List (RateLimiter ι α) → Except Failure (List α) × List (RateLimiter ι α)
  | [] => (.ok [], [])
  | limiter :: rest =>
    match wait now item limiter with
    | (.error failure, limiter) => (.error failure, limiter :: rest)
    | (.ok delay, limiter) =>
      let (delays, rest) := waits now item rest
      (delays.map (delay :: ·), limiter :: rest)

end

mutual

/-- The limiter after an item has succeeded or is given up. -/
def forget (item : ι) : RateLimiter ι α → RateLimiter ι α
  | .backoff b => .backoff { b with failures := b.failures.forget item }
  | .bucket b => .bucket b
  | .longest limiters => .longest (forgetAll item limiters)

/-- The limiters after an item has succeeded or is given up. -/
def forgetAll (item : ι) : List (RateLimiter ι α) → List (RateLimiter ι α)
  | [] => []
  | limiter :: rest => forget item limiter :: forgetAll item rest

end

mutual

/-- The number of failures of an item. -/
def requeues (item : ι) : RateLimiter ι α → Except Failure Nat
  | .backoff b => .ok (b.failures.count item)
  | .bucket _ => .ok 0
  | .longest limiters => greatestRequeues item limiters

/-- The greatest number of failures of an item that one of the limiters counts. -/
def greatestRequeues (item : ι) : List (RateLimiter ι α) → Except Failure Nat
  | [] => .error (.shape .noGreatest)
  | [limiter] => requeues item limiter
  | limiter :: rest =>
    match requeues item limiter, greatestRequeues item rest with
    | .ok n, .ok m => .ok (max n m)
    | .error failure, _ | _, .error failure => .error failure

end

/-- A backoff without failures. -/
def ofBackoff (base limit : α) : RateLimiter ι α :=
  .backoff ⟨base, limit, []⟩

end RateLimiter

/-- The limiter of a controller: a backoff from 3 to 180 seconds for each item, and 10 items in a
second with a burst of 100 for all items. -/
def RateLimiter.standard {ι : Type} (now : Number) : RateLimiter ι Number :=
  .longest
    [.ofBackoff (.float 3.0) (.float 180.0), .bucket (.full (.float 10.0) (.whole 100) now)]

end Reconciler
