import LinkedSchema.Cache.Basic
import LinkedSchema.Proofs.Cache.Recency
import LinkedSchema.Proofs.FirstOccurrences

/-!
# Sessions

A session is a cache with the requests that it has served so far, one at a time, and what it has
answered.  What the cache keeps can be read off these exchanges alone: the keys are the last ones
used, and the value of each is the last one created for it (`Session.Exact`).  This holds of every
session, and says how the next request is answered (`Session.exact_run`).
-/

namespace LinkedSchema

open OrderedMap (lookup)

variable {ν ε : Type}

/-! ### Requests and answers -/

/-- What a cache is asked to do while nothing else goes on.  A factory does not touch the cache. -/
inductive Request (ν ε : Type) where
  /-- A call for a key, whose factory would end with an outcome. -/
  | create (key : String) (outcome : Outcome ν ε)
  /-- The addition of a value at a key. -/
  | add (key : String) (value : ν)
  /-- A reading of a key. -/
  | get (key : String)
  /-- The question whether a key has a value. -/
  | contains (key : String)
  /-- The question for the number of values. -/
  | size
  | clear
deriving DecidableEq, Inhabited

/-- What a request is answered. -/
inductive Answer (ν ε : Type) where
  /-- How a call ended, if it does not wait for ever, and whether its factory ran. -/
  | ended (outcome : Option (Outcome ν ε)) (ran : Bool)
  | added (accepted : Bool)
  | found (value : Option ν)
  | contained (there : Bool)
  | counted (size : Nat)
  | cleared
deriving DecidableEq, Inhabited

/-- The answer to a request, and the cache afterwards. -/
def Cache.serve (c : Cache ν ε) : Request ν ε → Answer ν ε × Cache ν ε
  | .create key outcome =>
    let (result, report, c) := c.getOrCreate key fun c => (outcome, (), c)
    (.ended result report.isSome, c)
  | .add key value =>
    let (accepted, c) := c.add key value
    (.added accepted, c)
  | .get key =>
    let (value, c) := c.get? key
    (.found value, c)
  | .contains key => (.contained (c.contains key), c)
  | .size => (.counted c.size, c)
  | .clear => (.cleared, c.clear)

/-- A request with its answer. -/
structure Exchange (ν ε : Type) where
  request : Request ν ε
  answer : Answer ν ε
deriving DecidableEq, Inhabited

namespace Exchange

/-- The key that is used: by a call that ends with a value, by every addition, and by a reading that
finds a value. -/
def used? (e : Exchange ν ε) : Option String :=
  match e.request, e.answer with
  | .create key _, .ended (some (.value _)) _ => some key
  | .add key _, _ => some key
  | .get key, .found (some _) => some key
  | _, _ => none

/-- The value that is created, with its key: by a factory that runs and ends with it, or by an
addition that is accepted. -/
def created? (e : Exchange ν ε) : Option (String × ν) :=
  match e.request, e.answer with
  | .create key (.value value), .ended _ true => some (key, value)
  | .add key value, .added true => some (key, value)
  | _, _ => none

end Exchange

/-- A cache with the requests that it has served, the first one first. -/
structure Session (ν ε : Type) where
  cache : Cache ν ε
  exchanges : List (Exchange ν ε)

namespace Session

/-- The session of a cache of a capacity that keeps nothing yet. -/
def idle (capacity : Nat) (h : 0 < capacity) : Session ν ε := ⟨Cache.ofCapacity capacity h, []⟩

/-- The session after one more request. -/
def serve (s : Session ν ε) (request : Request ν ε) : Session ν ε :=
  ⟨(s.cache.serve request).2, s.exchanges ++ [⟨request, (s.cache.serve request).1⟩]⟩

/-- The session after more requests. -/
def run (s : Session ν ε) (requests : List (Request ν ε)) : Session ν ε := requests.foldl serve s

end Session

/-! ### What exchanges say -/

/-- The keys used since the cache was last cleared, the last one first, as often as they were
used. -/
def usedKeys (exchanges : List (Exchange ν ε)) : List String :=
  exchanges.foldl (fun keys e =>
    match e.request with
    | .clear => []
    | _ => e.used?.toList ++ keys) []

/-- The values created, each with its key, the last one first. -/
def creations (exchanges : List (Exchange ν ε)) : List (String × ν) :=
  (exchanges.filterMap Exchange.created?).reverse

/-- Whether a cache keeps exactly what the exchanges of its session say. -/
structure Session.Exact (s : Session ν ε) : Prop where
  /-- The keys kept are the last distinct ones used, as many as may be kept, the most recently used
  first. -/
  keys : s.cache.entries.map Prod.fst = (usedKeys s.exchanges).eraseDups.take s.cache.capacity
  /-- The value of a key is the last one created for it. -/
  values : ∀ key value, (key, value) ∈ s.cache.entries →
    lookup key (creations s.exchanges) = some value
  /-- No key is in flight. -/
  inFlight : s.cache.inFlight = []

/-- How a cache answers any request. -/
structure Cache.Answers (c : Cache ν ε) : Prop where
  /-- A call ends with the value of its key, and runs its factory exactly if there is none. -/
  create : ∀ key outcome, (c.serve (.create key outcome)).1
    = .ended (some ((lookup key c.entries).elim outcome .value)) (!c.contains key)
  /-- A value is accepted exactly if its key has none. -/
  add : ∀ key value, (c.serve (.add key value)).1 = .added (!c.contains key)
  /-- What is no use of a key, and does not clear the cache, leaves the entries with their order,
  and the keys in flight. -/
  undisturbed : ∀ request, request ≠ .clear →
    Exchange.used? ⟨request, (c.serve request).1⟩ = none →
    (c.serve request).2.entries = c.entries ∧ (c.serve request).2.inFlight = c.inFlight

/-! ### What a request does to a cache -/

namespace Cache

variable {c : Cache ν ε} {key : String}

/-- A call finds the value of its key and uses it. -/
theorem getOrCreate_of_some {value : ν} (found : lookup key c.entries = some value) {ρ : Type}
    (factory : Cache ν ε → Outcome ν ε × ρ × Cache ν ε) :
  c.getOrCreate key factory
    = (some (.value value), none, { c with entries := Recency.touch key c.entries })
  := by simp only [getOrCreate, claim, found]

/-- The cache after a factory has ended with an outcome for a key while no key is in flight. -/
def afterFactory (c : Cache ν ε) (key : String) (outcome : Outcome ν ε) : Cache ν ε where
  capacity := c.capacity
  capacity_pos := c.capacity_pos
  entries :=
    match outcome with
    | .value value => Recency.push c.capacity key value c.entries
    | .error _ | .unwound => c.entries
  inFlight := []
  flights := c.flights ++ [some outcome]

/-- A call for a key without a value runs its factory, if no key is in flight. -/
theorem getOrCreate_of_none (landed : c.inFlight = []) (missing : lookup key c.entries = none)
    (outcome : Outcome ν ε) {ρ : Type} (report : ρ) :
  c.getOrCreate key (fun c => (outcome, report, c))
    = (some outcome, some report, c.afterFactory key outcome)
  := by
  have free : c.flight? key = none := by
    rw [flight?, landed]
    rfl
  simp only [getOrCreate, claim, missing, free]
  cases outcome <;> simp [settle, release, publish, afterFactory, landed]

/-- What an exchange does to the entries of a cache: it clears them, leaves them, uses a key that is
there, or inserts one that is not. -/
inductive Effect (capacity : Nat) (entries : List (String × ν)) (e : Exchange ν ε) :
    List (String × ν) → Prop where
  | clearing : e.request = .clear → e.created? = none → Effect capacity entries e []
  | nothing : e.request ≠ .clear → e.used? = none → e.created? = none →
      Effect capacity entries e entries
  | use {key : String} : e.request ≠ .clear → e.used? = some key → e.created? = none →
      key ∈ entries.map Prod.fst → Effect capacity entries e (Recency.touch key entries)
  | creation {key : String} {value : ν} : e.request ≠ .clear → e.used? = some key →
      e.created? = some (key, value) → key ∉ entries.map Prod.fst →
      Effect capacity entries e (Recency.push capacity key value entries)

/-- What a cache without a key in flight is after an exchange. -/
structure Serves (c : Cache ν ε) (e : Exchange ν ε) (later : Cache ν ε) : Prop where
  capacity : later.capacity = c.capacity
  inFlight : later.inFlight = []
  effect : Effect c.capacity c.entries e later.entries

/-- Every request is served with one of the effects. -/
theorem serves_serve (landed : c.inFlight = []) (request : Request ν ε) :
  c.Serves ⟨request, (c.serve request).1⟩ (c.serve request).2
  := by
  have there {key : String} {value : ν} (found : lookup key c.entries = some value) :
      key ∈ c.entries.map Prod.fst :=
    List.mem_map_of_mem (OrderedMap.mem_of_lookup found)
  cases request with
  | create key outcome =>
    cases found : lookup key c.entries with
    | some value =>
      rw [serve, getOrCreate_of_some found]
      use rfl, landed
      cases outcome <;> apply Effect.use (by simp) rfl rfl (there found)
    | none =>
      rw [serve, getOrCreate_of_none landed found]
      use rfl, rfl
      cases outcome with
      | value value =>
        apply Effect.creation (by simp) rfl rfl ((OrderedMap.lookup_eq_none_iff _ _).mp found)
      | error error => apply Effect.nothing (by simp) rfl rfl
      | unwound => apply Effect.nothing (by simp) rfl rfl
  | add key value =>
    cases found : lookup key c.entries with
    | some kept =>
      rw [serve, add, getOrCreate_of_some found]
      use rfl, landed
      apply Effect.use (by simp) rfl rfl (there found)
    | none =>
      rw [serve, add, getOrCreate_of_none landed found]
      use rfl, rfl
      apply Effect.creation (by simp) rfl rfl ((OrderedMap.lookup_eq_none_iff _ _).mp found)
  | get key =>
    use rfl, landed
    cases found : lookup key c.entries with
    | some value =>
      simp only [serve, get?, found]
      apply Effect.use (by simp) rfl rfl (there found)
    | none =>
      simp only [serve, get?, found, Recency.touch]
      apply Effect.nothing (by simp) rfl rfl
  | contains key =>
    use rfl, landed
    apply Effect.nothing (by simp) rfl rfl
  | size =>
    use rfl, landed
    apply Effect.nothing (by simp) rfl rfl
  | clear =>
    use rfl, landed
    apply Effect.clearing rfl rfl

/-- A cache without a key in flight answers every request. -/
theorem answers_of_landed (landed : c.inFlight = []) :
  c.Answers
  where
  create key outcome := by
    cases found : lookup key c.entries with
    | some value =>
      rw [serve, getOrCreate_of_some found, contains, found]
      rfl
    | none =>
      rw [serve, getOrCreate_of_none landed found, contains, found]
      rfl
  add key value := by
    cases found : lookup key c.entries with
    | some kept =>
      rw [serve, add, getOrCreate_of_some found, contains, found]
      rfl
    | none =>
      rw [serve, add, getOrCreate_of_none landed found, contains, found]
      rfl
  undisturbed request keeps unused := by
    obtain ⟨-, still, effect⟩ := serves_serve landed request
    rw [still, landed]
    generalize (c.serve request).2.entries = entries at effect
    cases effect with
    | clearing clears _ => exact absurd clears keeps
    | nothing _ _ _ => exact ⟨rfl, rfl⟩
    | use _ used _ _ => rw [unused] at used; cases used
    | creation _ used _ _ => rw [unused] at used; cases used

end Cache

/-! ### What one exchange adds -/

theorem usedKeys_concat_of_clear (exchanges : List (Exchange ν ε)) {e : Exchange ν ε}
    (clears : e.request = .clear) :
  usedKeys (exchanges ++ [e]) = []
  := by
  rw [usedKeys, List.foldl_concat, clears]

theorem usedKeys_concat (exchanges : List (Exchange ν ε)) {e : Exchange ν ε}
    (keeps : e.request ≠ .clear) :
  usedKeys (exchanges ++ [e]) = e.used?.toList ++ usedKeys exchanges
  := by
  rw [usedKeys, List.foldl_concat]
  split
  · next clears => exact absurd clears keeps
  · rfl

theorem creations_concat (exchanges : List (Exchange ν ε)) (e : Exchange ν ε) :
  creations (exchanges ++ [e]) = e.created?.toList ++ creations exchanges
  := by
  rw [creations, List.filterMap_append, List.reverse_append]
  cases created : e.created? <;> simp [created, creations]

/-- The keys of a recency list after a use are the last distinct ones used, if they were so
before. -/
theorem map_fst_use {capacity : Nat} (positive : 0 < capacity) (key : String) (value : ν)
    {entries : List (String × ν)} {used : List String}
    (before : entries.map Prod.fst = used.eraseDups.take capacity) :
  (Recency.push capacity key value entries).map Prod.fst
    = (key :: used).eraseDups.take capacity
  := by
  obtain ⟨n, rfl⟩ := Nat.exists_eq_succ_of_ne_zero (Nat.ne_of_gt positive)
  rw [Recency.push, List.map_take, List.map_cons, Recency.map_fst_erase, before,
    List.eraseDups_cons_eq, List.take_succ_cons, List.take_succ_cons,
    List.take_filter_take (List.nodup_eraseDups used)]

/-- A use of a key that is there inserts it with its value. -/
theorem Recency.touch_eq_push {capacity : Nat} {key : String} {entries : List (String × ν)}
    (bounded : entries.length ≤ capacity) (there : key ∈ entries.map Prod.fst) :
  ∃ value, Recency.touch key entries = Recency.push capacity key value entries
  := by
  obtain ⟨value, found⟩ := Option.isSome_iff_exists.mp
    ((OrderedMap.lookup_isSome_iff _ _).mpr there)
  use value
  have touched : Recency.touch key entries = (key, value) :: Recency.erase key entries := by
    rw [touch, found]
  rw [Recency.push, ← touched, List.take_of_length_le]
  apply Nat.le_trans (Recency.length_touch_le key entries) bounded

section Effect

variable {capacity : Nat} {entries later : List (String × ν)} {e : Exchange ν ε}
  {exchanges : List (Exchange ν ε)} (effect : Cache.Effect capacity entries e later)

include effect

/-- If the keys were the last distinct ones used, they still are after one more exchange. -/
theorem Cache.Effect.keys_eq (positive : 0 < capacity)
    (before : entries.map Prod.fst = (usedKeys exchanges).eraseDups.take capacity) :
  later.map Prod.fst = (usedKeys (exchanges ++ [e])).eraseDups.take capacity
  := by
  cases effect with
  | clearing clears _ =>
    rw [usedKeys_concat_of_clear _ clears]
    apply List.take_nil.symm
  | nothing keeps used _ =>
    rw [usedKeys_concat _ keeps, used]
    apply before
  | use keeps used _ there =>
    have bounded : entries.length ≤ capacity := by
      rw [← List.length_map (f := Prod.fst), before]
      apply List.length_take_le
    obtain ⟨value, touched⟩ := Recency.touch_eq_push bounded there
    rw [usedKeys_concat _ keeps, used, touched]
    apply map_fst_use positive _ _ before
  | creation keeps used _ _ =>
    rw [usedKeys_concat _ keeps, used]
    apply map_fst_use positive _ _ before

/-- If the value of every key was the last one created for it, it still is after one more
exchange. -/
theorem Cache.Effect.lookup_creations
    (before : ∀ key value, (key, value) ∈ entries →
      lookup key (creations exchanges) = some value)
    {key : String} {value : ν} (member : (key, value) ∈ later) :
  lookup key (creations (exchanges ++ [e])) = some value
  := by
  rw [creations_concat]
  cases effect with
  | clearing _ _ => cases member
  | nothing _ _ created =>
    rw [created]
    apply before key value member
  | use _ _ created _ =>
    rw [created]
    apply before key value (Recency.mem_of_mem_touch member)
  | @creation other new _ _ created missing =>
    rw [created]
    rcases Recency.mem_of_mem_push member with same | older
    · cases same
      simp [lookup]
    · have different : other ≠ key := by
        rintro rfl
        apply missing (List.mem_map_of_mem older)
      simp only [Option.toList_some, List.singleton_append, lookup, if_neg different]
      apply before key value older

end Effect

namespace Session

/-- A session keeps being exact with every request. -/
theorem Exact.serve {s : Session ν ε} (h : s.Exact) (request : Request ν ε) :
  (s.serve request).Exact
  := by
  obtain ⟨capacity, inFlight, effect⟩ := Cache.serves_serve h.inFlight request
  refine ⟨?_, fun key value => effect.lookup_creations h.values, inFlight⟩
  rw [Session.serve, capacity]
  apply effect.keys_eq s.cache.capacity_pos h.keys

theorem exact_idle (capacity : Nat) (h : 0 < capacity) :
  (idle capacity h : Session ν ε).Exact
  where
  keys := List.take_nil.symm
  values key value member := by cases member
  inFlight := rfl

/-- A session stays exact. -/
theorem Exact.run {s : Session ν ε} (h : s.Exact) (requests : List (Request ν ε)) :
  (s.run requests).Exact ∧ (s.run requests).cache.capacity = s.cache.capacity
  := by
  induction requests generalizing s with
  | nil => exact ⟨h, rfl⟩
  | cons request rest ih =>
    obtain ⟨exact_rest, capacity⟩ := ih (h.serve request)
    use exact_rest
    rw [← (Cache.serves_serve h.inFlight request).capacity]
    apply capacity

/-- In every session of a cache that kept nothing at first, what the cache keeps is what the
exchanges say, and every request is answered. -/
theorem exact_run (capacity : Nat) (h : 0 < capacity) (requests : List (Request ν ε)) :
  ((idle capacity h).run requests).Exact
    ∧ ((idle capacity h).run requests).cache.capacity = capacity
    ∧ ((idle capacity h).run requests).cache.Answers
  := by
  obtain ⟨exact_end, same⟩ := (exact_idle capacity h).run requests
  use exact_end, same
  apply Cache.answers_of_landed exact_end.inFlight

/-- Requests of which the last ones run a factory again for a key whose value had to give way. -/
def revival : List (Request Nat Nat) := [
  .create "c" (.value 0), .clear, .create "a" (.value 1), .create "b" .unwound, .add "b" 2,
  .get "a", .add "b" 3, .create "c" (.error 4), .create "c" (.value 5), .create "b" (.value 6),
  .create "a" (.value 7), .contains "c", .size]

/-- With room for two values, the value that came back last is the most recently used. -/
theorem exact_run_revival :
  ((idle 2 (by decide)).run revival).Exact
    ∧ ((idle 2 (by decide)).run revival).cache.Answers
    ∧ ((idle 2 (by decide)).run revival).cache.entries = [("a", 7), ("b", 2)]
    ∧ ((idle 2 (by decide)).run revival).exchanges.map Exchange.answer
      = [.ended (some (.value 0)) true, .cleared, .ended (some (.value 1)) true,
        .ended (some .unwound) true, .added true, .found (some 1), .added false,
        .ended (some (.error 4)) true, .ended (some (.value 5)) true,
        .ended (some (.value 2)) false, .ended (some (.value 7)) true, .contained false,
        .counted 2]
  := by
  obtain ⟨exact_end, -, answers⟩ := exact_run 2 (by decide) revival
  use exact_end, answers
  decide

end Session

end LinkedSchema
