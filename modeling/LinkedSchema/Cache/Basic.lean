import LinkedSchema.Cache.Recency

/-!
# Caches

A `Cache ν ε` keeps a bounded number of values of type `ν` by their keys and drops the least
recently used.  A value is created by a factory, which may fail with an `ε`.  While a factory
runs, its key is in flight: other calls for the key wait until the outcome of the flight is
published.  The functions of this module are the atomic steps of a call; each of them reads and
writes the cache at one moment.
-/

namespace LinkedSchema

/-- How a factory ends: with a value, with an error, or by unwinding without either. -/
inductive Outcome (ν ε : Type) where
  | value (value : ν)
  | error (error : ε)
  | unwound
deriving DecidableEq, Inhabited

/-- A bounded store of values, with the flights of the factories that create them. -/
structure Cache (ν ε : Type) where
  /-- The largest number of values that are kept. -/
  capacity : Nat
  capacity_pos : 0 < capacity
  /-- The values by key, the most recently used first. -/
  entries : List (String × ν)
  /-- The flight of every key that is being created. -/
  inFlight : List (String × Nat)
  /-- What has been published of every flight so far, by its number. -/
  flights : List (Option (Outcome ν ε))
deriving DecidableEq

/-- Why there is no cache of a capacity. -/
inductive CacheFault where
  | zeroCapacity
deriving DecidableEq, Inhabited

/-- The text of a reason why there is no cache. -/
def CacheFault.message : CacheFault → String
  | zeroCapacity => "A cache must be able to hold at least one entry"

/-- What a call for a key finds: its value, a flight to wait for, or that it has to create the
value itself in a new flight. -/
inductive Claim (ν : Type) where
  | cached (value : ν)
  | waiter (flight : Nat)
  | creator (flight : Nat)
deriving DecidableEq, Inhabited

namespace Cache

variable {ν ε : Type}

/-- The cache of a capacity that keeps nothing yet. -/
def ofCapacity (capacity : Nat) (h : 0 < capacity) : Cache ν ε where
  capacity := capacity
  capacity_pos := h
  entries := []
  inFlight := []
  flights := []

/-- The cache of a capacity, which must not be zero. -/
def new (capacity : Nat) : Except CacheFault (Cache ν ε) :=
  if h : 0 < capacity then .ok (ofCapacity capacity h) else .error .zeroCapacity

/-! ### Reading -/

/-- The number of values kept. -/
def size (c : Cache ν ε) : Nat := c.entries.length

/-- Whether a value is kept at a key; this is no use of it. -/
def contains (c : Cache ν ε) (key : String) : Bool := (OrderedMap.lookup key c.entries).isSome

/-- The value at a key, and the cache in which it is the most recently used. -/
def get? (c : Cache ν ε) (key : String) : Option ν × Cache ν ε :=
  (OrderedMap.lookup key c.entries, { c with entries := Recency.touch key c.entries })

/-- The cache without any values; flights go on. -/
def clear (c : Cache ν ε) : Cache ν ε := { c with entries := [] }

/-- What has been published of a flight. -/
def published? (c : Cache ν ε) (flight : Nat) : Option (Outcome ν ε) :=
  (c.flights[flight]?).join

/-- The flight of a key that is being created. -/
def flight? (c : Cache ν ε) (key : String) : Option Nat := OrderedMap.lookup key c.inFlight

/-! ### Creating -/

/-- What a call for a key finds; if it is the creator, the key is in flight from then on. -/
def claim (c : Cache ν ε) (key : String) : Claim ν × Cache ν ε :=
  match OrderedMap.lookup key c.entries with
  | some value => (.cached value, { c with entries := Recency.touch key c.entries })
  | none =>
    match c.flight? key with
    | some flight => (.waiter flight, c)
    | none =>
      (.creator c.flights.length,
        { c with
          inFlight := c.inFlight ++ [(key, c.flights.length)]
          flights := c.flights ++ [none] })

/-- The cache in which a key is no longer in the given flight. -/
def release (c : Cache ν ε) (key : String) (flight : Nat) : Cache ν ε :=
  { c with inFlight := c.inFlight.filter fun entry => entry ≠ (key, flight) }

/-- Takes up the outcome of a flight: a value is kept as the most recently used, and in any
case the key is no longer in flight. -/
def settle (c : Cache ν ε) (key : String) (flight : Nat) (outcome : Outcome ν ε) :
    Cache ν ε :=
  match outcome with
  | .value value =>
    { c with entries := Recency.push c.capacity key value c.entries }.release key flight
  | .error _ | .unwound => c.release key flight

/-- Publishes the outcome of a flight to the calls that wait for it. -/
def publish (c : Cache ν ε) (flight : Nat) (outcome : Outcome ν ε) : Cache ν ε :=
  { c with flights := c.flights.set flight (some outcome) }

/-! ### Whole calls -/

/-- A call for a key that meets no other call.  The factory runs only if the key has no value;
it may use the cache, and gives a report beside its outcome.  The call ends with an outcome, or
with none if the key is in flight, for then it would wait for ever; the report is there exactly
if the factory ran. -/
def getOrCreate {ρ : Type} (c : Cache ν ε) (key : String)
    (factory : Cache ν ε → Outcome ν ε × ρ × Cache ν ε) :
    Option (Outcome ν ε) × Option ρ × Cache ν ε :=
  match c.claim key with
  | (.cached value, c) => (some (.value value), none, c)
  | (.waiter flight, c) => (c.published? flight, none, c)
  | (.creator flight, c) =>
    let (outcome, report, c) := factory c
    (some outcome, some report, (c.settle key flight outcome).publish flight outcome)

/-- Keeps a value at a key unless one is there, and says whether it did. -/
def add (c : Cache ν ε) (key : String) (value : ν) : Bool × Cache ν ε :=
  let (_, ran, c) := c.getOrCreate key fun c => (.value value, (), c)
  (ran.isSome, c)

/-- A line that sums a cache up. -/
def summary (c : Cache ν ε) : String :=
  "Cache \x7b capacity: " ++ toString c.capacity ++ ", len: " ++ toString c.size
    ++ ", in_flight: " ++ toString c.inFlight.length ++ " \x7d"

end Cache

end LinkedSchema
