/-
**The subscription cache: sessions, their actors, and the cleanup task.**

Each session with subscriptions has an entry with the handle of its actor. The actor owns the
`SessionSubscriptions`, and handles its mailbox, its timer and its wake-ups one at a time; each time
it sets its timer anew.

* `Command` — what is sent to an actor; `stop` is handled after all earlier commands.

Left out: the items of the cache by node, the diagnostics, transfers and the teardown of a session.
-/

import AsyncOpcua.Subscriptions.Closing

namespace AsyncOpcua.Subscriptions

open Types Foundation

/-! ### The actors -/

/-- What a call of `create_subscription` asks for. -/
structure Creation (E : Externals) where
  session : ℕ
  request : CreateSubscriptionRequest E
  info : SubscriptionLimits E

inductive Service (E : Externals) where
  | deleteSubscriptions (ids : List ℕ)
  | serve (op : SessionOp E) (serves : op.Serves)

inductive Command (E : Externals) where
  | createSubscription (call : ℕ) (creation : Creation E)
  | service (service : Service E)
  | stop

def Command.call {E : Externals} : Command E → Option ℕ
  | .createSubscription call _ => some call
  | .service _ | .stop => none

structure SubscriptionActor (E : Externals) where
  sessionId : ℕ
  subs : SessionSubscriptions E
  commands : List (Command E)
  stopped : Bool

/-- What an actor reports after a tick of its timer. -/
structure SubscriptionCleanup (E : Externals) where
  sessionId : ℕ
  removedSubscriptions : List (RemovedSubscription E)
  readyToDelete : Bool

def SubscriptionCleanup.removedIds {E : Externals} (message : SubscriptionCleanup E) : List ℕ :=
  message.removedSubscriptions.map (·.id)

/-! ### The timer of an actor -/

def Subscription.nextPublishDeadline {E : Externals} (s : Subscription E) : ℕ :=
  s.lastTimePublishingIntervalElapsed + s.publishingInterval

def SessionSubscriptions.nextTickDeadline {E : Externals} (s : SessionSubscriptions E) : Option ℕ :=
  (s.subscriptions.entries.map fun entry => entry.2.nextPublishDeadline).min?

/-- `Duration::from_secs(3600)`, in nanoseconds. -/
def idleSleep : ℕ := 3600 * 1000000000

/-- Until when an actor sleeps that goes to sleep at `now`. -/
def SessionSubscriptions.nextSleepDeadline {E : Externals} (s : SessionSubscriptions E) (now : ℕ) :
    ℕ :=
  s.nextTickDeadline.getD (now + idleSleep)

/-! ### The cache -/

/-- **How far a call of `create_subscription` has come.** `constructed` is the time between the
lookup that finds no entry and the lock under which the new entry goes in. -/
inductive CreateCall (E : Externals) where
  | idle
  | constructed (creation : Creation E) (actor : ℕ)
  | holding (creation : Creation E) (actor : ℕ)
  | waiting (session : ℕ)
  | answered (session : ℕ) (result : Except StatusCode ℕ)
  | returned

/-- **The cache.** Actors and calls are numbered; `deletions` are the deletions that are answered
and still to be taken out of the index. -/
structure SubscriptionCache (E : Externals) where
  limits : SubscriptionLimits E
  sessionSubscriptions : ℕ → Option ℕ
  subscriptionToSession : ℕ → Option ℕ
  subscriptionIdHandle : Handle
  cleanups : List (SubscriptionCleanup E)
  actors : ℕ → Option (SubscriptionActor E)
  spawned : ℕ
  /-- The clock when an actor last went to sleep, and until when each sleeps. -/
  clock : ℕ
  sleepUntil : ℕ → ℕ
  calls : ℕ → CreateCall E
  deletions : List (List ℕ)
  /-- The subscription ids drawn so far. -/
  drawn : List ℕ
  /-- The sessions and ids for which `create_subscription` has returned `Good`. -/
  good : List (ℕ × ℕ)
  /-- The ids that have been deleted or have expired. -/
  gone : List ℕ

variable {E : Externals}

/-- What a caller, an actor or the cleanup task does next. -/
inductive CacheOp (E : Externals) where
  | lookUp (call : ℕ) (creation : Creation E) (userToken : PersistentSessionKey)
      (nowInstant : ℕ)
  | register (call : ℕ)
  | send (call : ℕ)
  | conclude (call : ℕ)
  | post (actor : ℕ) (service : Service E)
  | command (actor nowInstant : ℕ)
  | timer (actor : ℕ) (o : Occasion)
  | wake (actor : ℕ) (o : Occasion)
  | removeDeleted (deletion : ℕ)
  | runCleanup

namespace SubscriptionCache

def new (limits : SubscriptionLimits E) : SubscriptionCache E where
  limits := limits
  sessionSubscriptions _ := none
  subscriptionToSession _ := none
  subscriptionIdHandle := .new 1
  cleanups := []
  actors _ := none
  spawned := 0
  clock := 0
  sleepUntil _ := 0
  calls _ := .idle
  deletions := []
  drawn := []
  good := []
  gone := []

variable (c : SubscriptionCache E)

def setCall (call : ℕ) (phase : CreateCall E) : SubscriptionCache E :=
  { c with calls := Function.update c.calls call phase }

def setActor (n : ℕ) (actor : SubscriptionActor E) : SubscriptionCache E :=
  { c with actors := Function.update c.actors n (some actor) }

def setEntry (session : ℕ) (entry : Option ℕ) : SubscriptionCache E :=
  { c with sessionSubscriptions := Function.update c.sessionSubscriptions session entry }

def push (n : ℕ) (actor : SubscriptionActor E) (command : Command E) : SubscriptionCache E :=
  c.setActor n { actor with commands := actor.commands ++ [command] }

/-- The actor goes round its loop: its timer is set anew. -/
def fallAsleep (n nowInstant : ℕ) : SubscriptionCache E :=
  match c.actors n with
  | some actor =>
    { c with
      clock := nowInstant
      sleepUntil := Function.update c.sleepUntil n (actor.subs.nextSleepDeadline nowInstant) }
  | none => c

/-- Take ids out of the index. -/
def unindex (ids : List ℕ) : SubscriptionCache E :=
  { c with
    subscriptionToSession := fun id => if id ∈ ids then none else c.subscriptionToSession id }

/-! ### `create_subscription` -/

/-- The lookup under the read lock: the actor of the session, or a new one. -/
def lookUp (call : ℕ) (creation : Creation E)
    (userToken : PersistentSessionKey) (nowInstant : ℕ) : Option (SubscriptionCache E) :=
  match c.calls call with
  | .idle =>
    match c.sessionSubscriptions creation.session with
    | some n => some (c.setCall call (.holding creation n))
    | none =>
      some ({ c with spawned := c.spawned + 1 }.setActor c.spawned
        ⟨creation.session, .new c.limits userToken, [], false⟩
        |>.setCall call (.constructed creation c.spawned)
        |>.fallAsleep c.spawned nowInstant)
  | _ => none

/-- `entry(session_id).or_insert(entry)`. An entry that is not needed is dropped; the actor whose
handle is gone stops. -/
def register (call : ℕ) : Option (SubscriptionCache E) :=
  match c.calls call with
  | .constructed creation n =>
    match c.sessionSubscriptions creation.session, c.actors n with
    | some existing, some actor =>
      some ((c.push n actor .stop).setCall call (.holding creation existing))
    | none, some _ =>
      some ((c.setEntry creation.session (some n)).setCall call (.holding creation n))
    | _, none => none
  | _ => none

/-- The command is sent; an actor that has stopped takes none. -/
def send (call : ℕ) : Option (SubscriptionCache E) :=
  match c.calls call with
  | .holding creation n =>
    (c.actors n).map fun actor =>
      if actor.stopped then c.setCall call .returned
      else (c.push n actor (.createSubscription call creation)).setCall call
        (.waiting creation.session)
  | _ => none

def conclude (call : ℕ) : Option (SubscriptionCache E) :=
  match c.calls call with
  | .answered session (.ok id) =>
    some ({ c with
      subscriptionToSession := Function.update c.subscriptionToSession id (some session)
      good := (session, id) :: c.good }.setCall call .returned)
  | .answered _ (.error _) => some (c.setCall call .returned)
  | _ => none

/-! ### Other callers -/

def post (n : ℕ) (service : Service E) : Option (SubscriptionCache E) :=
  (c.actors n).map fun actor =>
    if actor.stopped then c else c.push n actor (.service service)

/-- A call of `delete_subscriptions` goes on with its answer. -/
def removeDeleted (deletion : ℕ) : Option (SubscriptionCache E) :=
  (c.deletions[deletion]?).map fun ids =>
    { c with deletions := c.deletions.eraseIdx deletion }.unindex ids

/-! ### The actors at work -/

def handleService (n : ℕ) (actor : SubscriptionActor E) :
    Service E → Option (SubscriptionCache E)
  | .deleteSubscriptions ids =>
    let (results, subs) := actor.subs.deleteSubscriptions ids
    some ({ c with
      deletions := c.deletions ++ [SessionSubscriptions.deletedIds ids results]
      gone := c.gone ++ SessionSubscriptions.deletedIds ids results }.setActor n
        { actor with subs := subs })
  | .serve op _ =>
    (op.apply actor.subs).toOption.map fun subs => c.setActor n { actor with subs := subs }

def handleCreate (n : ℕ) (actor : SubscriptionActor E) (call nowInstant : ℕ)
    (creation : Creation E) : SubscriptionCache E :=
  let (id, subscriptionIdHandle) := c.subscriptionIdHandle.issue
  match actor.subs.createSubscription creation.request creation.info id nowInstant with
  | (.ok response, subs) =>
    { c with
      subscriptionIdHandle := subscriptionIdHandle
      drawn := id :: c.drawn }.setActor n { actor with subs := subs }
      |>.setCall call (.answered creation.session (.ok response.subscriptionId))
  | (.error status, subs) =>
    (c.setActor n { actor with subs := subs }).setCall call
      (.answered creation.session (.error status))

def handleStop (n : ℕ) (actor : SubscriptionActor E) : SubscriptionCache E :=
  { c with
    calls := fun call =>
      if some call ∈ actor.commands.map Command.call then .returned else c.calls call }.setActor n
    { actor with commands := [], stopped := true }

def command (n nowInstant : ℕ) : Option (SubscriptionCache E) :=
  (c.actors n).bind fun actor =>
    if actor.stopped then none
    else
      match actor.commands with
      | [] => none
      | .createSubscription call creation :: rest =>
        some (c.handleCreate n { actor with commands := rest } call nowInstant creation)
      | .service service :: rest => c.handleService n { actor with commands := rest } service
      | .stop :: rest => some (c.handleStop n { actor with commands := rest })

def report (n : ℕ) (actor : SubscriptionActor E)
    (removed : List (RemovedSubscription E)) (subs : SessionSubscriptions E) :
    SubscriptionCache E :=
  let message : SubscriptionCleanup E := ⟨actor.sessionId, removed, subs.isReadyToDelete⟩
  { c with
    cleanups :=
      if !removed.isEmpty || subs.isReadyToDelete then c.cleanups ++ [message] else c.cleanups
    gone := c.gone ++ message.removedIds }.setActor n { actor with subs := subs }

def timer (n : ℕ) (o : Occasion) : Option (SubscriptionCache E) :=
  (c.actors n).bind fun actor =>
    if actor.stopped then none
    else
      (actor.subs.tick o .tickTimerFired).toOption.map fun ticked =>
        c.report n actor ticked.1 ticked.2

def wake (n : ℕ) (o : Occasion) : Option (SubscriptionCache E) :=
  (c.actors n).bind fun actor =>
    if actor.stopped then none
    else
      (actor.subs.processNotificationWake o).toOption.map fun subs =>
        c.setActor n { actor with subs := subs }

/-! ### The cleanup task -/

def runCleanup : Option (SubscriptionCache E) :=
  match c.cleanups with
  | [] => none
  | message :: rest =>
    let c := { c with cleanups := rest }.unindex message.removedIds
    if message.readyToDelete then
      match c.sessionSubscriptions message.sessionId with
      | none => some c
      | some n =>
        let c := c.setEntry message.sessionId none
        (c.actors n).map fun actor => if actor.stopped then c else c.push n actor .stop
    else some c

/-- Clocks do not go back, and no timer fires before its time. -/
def due : CacheOp E → Bool
  | .lookUp _ _ _ nowInstant | .command _ nowInstant => c.clock ≤ nowInstant
  | .timer n o => c.clock ≤ o.nowInstant && c.sleepUntil n ≤ o.nowInstant
  | .wake _ o => c.clock ≤ o.nowInstant
  | _ => true

def perform : CacheOp E → Option (SubscriptionCache E)
  | .lookUp call creation userToken nowInstant => c.lookUp call creation userToken nowInstant
  | .register call => c.register call
  | .send call => c.send call
  | .conclude call => c.conclude call
  | .post n service => c.post n service
  | .command n nowInstant => (c.command n nowInstant).map (·.fallAsleep n nowInstant)
  | .timer n o => (c.timer n o).map (·.fallAsleep n o.nowInstant)
  | .wake n o => (c.wake n o).map (·.fallAsleep n o.nowInstant)
  | .removeDeleted deletion => c.removeDeleted deletion
  | .runCleanup => c.runCleanup

def step (op : CacheOp E) : Option (SubscriptionCache E) :=
  if c.due op then c.perform op else none

end SubscriptionCache

def caches (E : Externals) : Machine (SubscriptionCache E) (CacheOp E) where
  step := SubscriptionCache.step

/-- A cache as the server creates it. -/
def FreshCache (c : SubscriptionCache E) : Prop := ∃ limits, c = .new limits

end AsyncOpcua.Subscriptions
