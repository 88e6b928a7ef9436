import LinkedSchema.Cache.Basic

/-!
# Calls in progress

Any number of calls may be in progress on one cache.  A `Call` goes through stages, one atomic
step of the cache at a time, and `Calls.act` lets one of them take its next step.  An
interleaving of calls is a list of actions.
-/

namespace LinkedSchema

/-- Where a call for a key stands. -/
inductive Stage (ν ε : Type) where
  /-- The call is about to look for the key. -/
  | claiming
  /-- The call waits for a flight of another call. -/
  | waiting (flight : Nat)
  /-- The factory of the call runs. -/
  | creating (flight : Nat)
  /-- The factory has ended, and the cache does not know yet. -/
  | finished (flight : Nat)
  /-- The cache has taken up the outcome, and the waiting calls do not know yet. -/
  | settled (flight : Nat)
  /-- The call has ended. -/
  | returned (outcome : Outcome ν ε)
deriving DecidableEq, Inhabited

/-- A call for a key, whose factory would end with `outcome`; `ran` says whether the factory
has been started. -/
structure Call (ν ε : Type) where
  key : String
  outcome : Outcome ν ε
  stage : Stage ν ε
  ran : Bool
deriving DecidableEq, Inhabited

namespace Call

variable {ν ε : Type}

/-- A call that has not begun. -/
def start (key : String) (outcome : Outcome ν ε) : Call ν ε := ⟨key, outcome, .claiming, false⟩

/-- What a call returned. -/
def result? (call : Call ν ε) : Option (Outcome ν ε) :=
  match call.stage with
  | .returned outcome => some outcome
  | _ => none

/-- The next step of a call.  A call that waits stays where it is until the outcome of the
flight is published; if the flight unwound, it looks for the key again. -/
def step (c : Cache ν ε) (call : Call ν ε) : Cache ν ε × Call ν ε :=
  match call.stage with
  | .claiming =>
    match c.claim call.key with
    | (.cached value, c) => (c, { call with stage := .returned (.value value) })
    | (.waiter flight, c) => (c, { call with stage := .waiting flight })
    | (.creator flight, c) => (c, { call with stage := .creating flight, ran := true })
  | .waiting flight =>
    match c.published? flight with
    | none => (c, call)
    | some .unwound => (c, { call with stage := .claiming })
    | some outcome => (c, { call with stage := .returned outcome })
  | .creating flight => (c, { call with stage := .finished flight })
  | .finished flight =>
    (c.settle call.key flight call.outcome, { call with stage := .settled flight })
  | .settled flight =>
    (c.publish flight call.outcome, { call with stage := .returned call.outcome })
  | .returned _ => (c, call)

end Call

/-- A cache with the calls in progress on it. -/
structure Calls (ν ε : Type) where
  cache : Cache ν ε
  calls : List (Call ν ε)
deriving DecidableEq

/-- Something that happens to a cache at one moment: a call begins or takes its next step, or
the cache is read or cleared. -/
inductive Action (ν ε : Type) where
  | begin (key : String) (outcome : Outcome ν ε)
  | advance (call : Nat)
  | get (key : String)
  | contains (key : String)
  | size
  | clear
deriving DecidableEq, Inhabited

namespace Calls

variable {ν ε : Type}

/-- The effect of an action. -/
def act (s : Calls ν ε) : Action ν ε → Calls ν ε
  | .begin key outcome => { s with calls := s.calls ++ [.start key outcome] }
  | .advance i =>
    match s.calls[i]? with
    | none => s
    | some call =>
      let (cache, call) := call.step s.cache
      ⟨cache, s.calls.set i call⟩
  | .get key => { s with cache := (s.cache.get? key).2 }
  | .contains _ | .size => s
  | .clear => { s with cache := s.cache.clear }

/-- The effect of actions one after another. -/
def run (s : Calls ν ε) (actions : List (Action ν ε)) : Calls ν ε := actions.foldl act s

/-- The schedule of a meeting of calls 0 to `waiters`: call 0 starts its factory, the others
then look for the key, and only then the factory of call 0 ends; at last every other call goes
on until it returns. -/
def meeting (waiters : Nat) : List (Action ν ε) :=
  let others := (List.range waiters).map (· + 1)
  [.advance 0] ++ others.map .advance ++ List.replicate 3 (.advance 0)
    ++ others.flatMap fun i => List.replicate 6 (.advance i)

/-- The end of a meeting of calls for one key: one with an outcome, and others that wait for
it, whose own factories would end with `retry`. -/
def meet (c : Cache ν ε) (key : String) (outcome : Outcome ν ε) (waiters : Nat)
    (retry : Outcome ν ε) : Calls ν ε :=
  run ⟨c, .start key outcome :: List.replicate waiters (.start key retry)⟩ (meeting waiters)

end Calls

end LinkedSchema
