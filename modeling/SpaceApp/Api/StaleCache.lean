import Mathlib.Data.Rat.Floor
import Mathlib.Algebra.Order.Monoid.Unbundled.WithTop

/-! The keyed single-flight cache with stale-while-revalidate reads (`stale-while-revalidate.ts`).

A load is called in a later microtask than its `get` and settles at any time after; the clock may
show anything. A scene keeps, beside the cache, every flight that was started and every call of `get`.
-/

set_option autoImplicit false

namespace SpaceApp.Api

/-- A number of milliseconds as an option may give it. -/
inductive Millis where
  | nan
  | minusInfinity
  | finite (ms : ℚ)
  | infinity
  deriving DecidableEq

def nonNegative (value : Millis) (fallback : WithTop ℚ) : WithTop ℚ :=
  match value with
  | .nan => fallback
  | .minusInfinity => 0
  | .finite ms => ((max 0 ms : ℚ) : WithTop ℚ)
  | .infinity => ⊤

/-- `StaleWhileRevalidateOptions`; a plain `freshMs` is the constant function, and one of a value may throw. -/
structure CacheOptions (V E : Type) where
  freshMs : V → Except E Millis
  maxAgeMs : Option Millis := none
  errorTtlMs : Option Millis := none
  maxEntries : Option Millis := none

section

variable {K V E : Type}

def CacheOptions.maxAge (options : CacheOptions V E) : WithTop ℚ := nonNegative (options.maxAgeMs.getD .infinity) ⊤

def CacheOptions.errorTtl (options : CacheOptions V E) : WithTop ℚ := nonNegative (options.errorTtlMs.getD (.finite 0)) 0

/-- `Math.max(1, Math.trunc(maxEntries))`: no size is over NaN or infinity. -/
def CacheOptions.limit (options : CacheOptions V E) : WithTop ℕ :=
  match options.maxEntries.getD (.finite 256) with
  | .nan | .infinity => ⊤
  | .minusInfinity => 1
  | .finite count => ((max 1 ⌊count⌋.toNat : ℕ) : WithTop ℕ)

def CacheOptions.freshFor (options : CacheOptions V E) (value : V) : Except E (WithTop ℚ) :=
  (options.freshMs value).map fun fresh => nonNegative fresh 0

/-- A value entry also says which flight's load it came from. -/
inductive CacheEntry (V E : Type) where
  | value (value : V) (refreshAtMs expiresAtMs : WithTop ℚ) (source : Nat)
  | error (error : E) (expiresAtMs : WithTop ℚ)

/-- One call of `start`. -/
structure Flight (K V E : Type) where
  key : K
  created : Nat
  begun : Option Nat := none
  outcome : Option (Except E V × ℚ) := none

/-- Where a call of `get` stands. A value names the flight whose load gave it and when the caller got it. -/
inductive Reply (V E : Type) where
  | promise (flight : Nat)
  | value (value : V) (source : Nat) (at_ : ℚ)
  | error (error : E)

structure Call (K V E : Type) where
  key : K
  force : Bool
  turn : Nat
  /-- The turn of the last invalidation or forced read of its key, this call included. -/
  cut : Nat
  reply : Reply V E

structure Scene (K V E : Type) where
  /-- A JavaScript `Map`: in the order of insertion. -/
  entries : List (K × CacheEntry V E) := []
  flights : K → Option Nat := fun _ => none
  started : List (Flight K V E) := []
  calls : List (Call K V E) := []
  turn : Nat := 0
  /-- The turn of the last invalidation or forced read of each key; 0 for none. -/
  cuts : K → Nat := fun _ => 0

variable [DecidableEq K]

def deleteEntry (entries : List (K × CacheEntry V E)) (key : K) : List (K × CacheEntry V E) :=
  entries.filter fun entry => entry.1 ≠ key

def Scene.entry (scene : Scene K V E) (key : K) : Option (CacheEntry V E) :=
  (scene.entries.find? fun entry => entry.1 = key).map Prod.snd

def remember (limit : WithTop ℕ) (entries : List (K × CacheEntry V E)) (key : K) (entry : CacheEntry V E) :
    List (K × CacheEntry V E) :=
  let kept := deleteEntry entries key ++ [(key, entry)]
  match limit with
  | none => kept
  | some count => kept.drop (kept.length - count)

/-- `current.refreshAtMs = …`, in place. -/
def putOff (entries : List (K × CacheEntry V E)) (key : K) (refreshAt : WithTop ℚ) : List (K × CacheEntry V E) :=
  entries.map fun entry =>
    match entry with
    | (other, .value value refreshAtMs expiresAtMs source) =>
      if other = key then (other, .value value (min refreshAt expiresAtMs) expiresAtMs source)
      else (other, .value value refreshAtMs expiresAtMs source)
    | other => other

def Scene.start (scene : Scene K V E) (key : K) : Scene K V E :=
  { scene with
    flights := Function.update scene.flights key (some scene.started.length)
    started := scene.started ++ [{ key, created := scene.turn }] }

/-- `flights.get(key)?.promise ?? start(key, load)` -/
def Scene.join (scene : Scene K V E) (key : K) : Scene K V E × Reply V E :=
  match scene.flights key with
  | some flight => (scene, .promise flight)
  | none => (scene.start key, .promise scene.started.length)

def Scene.drop (scene : Scene K V E) (key : K) : Scene K V E :=
  { scene with
    entries := deleteEntry scene.entries key
    flights := Function.update scene.flights key none
    cuts := Function.update scene.cuts key scene.turn }

def Scene.get (scene : Scene K V E) (key : K) (force : Bool) (now : ℚ) : Scene K V E × Reply V E :=
  if force then ((scene.drop key).start key, .promise scene.started.length)
  else match scene.entry key with
    | some (.value value refreshAtMs expiresAtMs source) =>
      if now < refreshAtMs then (scene, .value value source now)
      else if now < expiresAtMs then ((scene.join key).1, .value value source now)
      else scene.join key
    | some (.error error expiresAtMs) => if now < expiresAtMs then (scene, .error error) else scene.join key
    | none => scene.join key

def Call.settle (call : Call K V E) (flight : Nat) (reply : Reply V E) : Call K V E :=
  match call.reply with
  | .promise waiting => if waiting = flight then { call with reply } else call
  | _ => call

def Scene.loaded (options : CacheOptions V E) (scene : Scene K V E) (id : Nat) (key : K) (value : V) (now : ℚ) :
    Scene K V E × Reply V E :=
  if scene.flights key = some id then
    let detached := { scene with flights := Function.update scene.flights key none }
    match options.freshFor value with
    | .error error => (detached, .error error)
    | .ok fresh =>
      ({ detached with
         entries := remember options.limit scene.entries key
           (.value value (now + fresh) (now + max fresh options.maxAge) id) },
        .value value id now)
  else (scene, .value value id now)

def Scene.failed (options : CacheOptions V E) (scene : Scene K V E) (id : Nat) (key : K) (error : E) (now : ℚ) :
    Scene K V E :=
  if scene.flights key = some id then
    let detached := { scene with flights := Function.update scene.flights key none }
    let forget :=
      if 0 < options.errorTtl then
        { detached with
          entries := remember options.limit scene.entries key (.error error (now + options.errorTtl)) }
      else { detached with entries := deleteEntry scene.entries key }
    match scene.entry key with
    | some (.value _ _ expiresAtMs _) =>
      -- a failed background refresh keeps the last good value
      if now < expiresAtMs then
        { detached with entries := putOff scene.entries key (now + options.errorTtl) }
      else forget
    | _ => forget
  else scene

inductive CacheEvent (K V E : Type) where
  | get (key : K) (force : Bool) (now : ℚ)
  | loadCalled (flight : Nat)
  | loadSettled (flight : Nat) (outcome : Except E V) (now : ℚ)
  | invalidate (key : Option K)

def Scene.settleLoad (options : CacheOptions V E) (scene : Scene K V E) (id : Nat) (flight : Flight K V E)
    (outcome : Except E V) (now : ℚ) : Scene K V E :=
  let (after, reply) :=
    match outcome with
    | .ok value => scene.loaded options id flight.key value now
    | .error error => (scene.failed options id flight.key error now, .error error)
  { after with
    started := scene.started.set id { flight with outcome := some (outcome, now) }
    calls := scene.calls.map fun call => call.settle id reply }

def Scene.act (options : CacheOptions V E) (scene : Scene K V E) : CacheEvent K V E → Scene K V E
  | .get key force now =>
    let (after, reply) := scene.get key force now
    { after with calls := scene.calls ++ [{ key, force, turn := scene.turn, cut := after.cuts key, reply }] }
  | .loadCalled id =>
    match scene.started[id]? with
    | some flight =>
      if flight.begun = none then { scene with started := scene.started.set id { flight with begun := some scene.turn } }
      else scene
    | none => scene
  | .loadSettled id outcome now =>
    match scene.started[id]? with
    | some flight =>
      if flight.begun.isSome ∧ flight.outcome.isNone then scene.settleLoad options id flight outcome now else scene
    | none => scene
  | .invalidate (some key) => scene.drop key
  | .invalidate none => { scene with entries := [], flights := fun _ => none, cuts := fun _ => scene.turn }

/-- Turns are counted from 1. -/
def Scene.step (options : CacheOptions V E) (scene : Scene K V E) (event : CacheEvent K V E) : Scene K V E :=
  { scene with turn := scene.turn + 1 }.act options event

def Scene.run (options : CacheOptions V E) (events : List (CacheEvent K V E)) : Scene K V E :=
  events.foldl (Scene.step options) {}

end

end SpaceApp.Api
