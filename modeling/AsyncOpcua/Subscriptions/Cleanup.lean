/-
**Cleanup and the creation of subscriptions: when no live subscription loses its session.**

An actor that has nothing left reports so when its timer fires; the cleanup task removes its entry
when it gets to the message. In between the actor may have been given a subscription again.

* `Sound` — the invariant: every actor without an entry has only subscriptions that are gone, and
  creates no more;
* `live_subscriptions_kept` — in the runs whose messages find the actor idle, every subscription
  created with `Good` and not gone keeps its entry, its actor and its place in the index;
  `cleanup_orphans_subscription` — without that condition it need not.
-/

import AsyncOpcua.Subscriptions.SubscriptionCache

namespace AsyncOpcua.Subscriptions

open Types Foundation List Option Or

variable {E : Externals}

namespace SubscriptionActor

structure Running (a : SubscriptionActor E) : Prop where
  alive : a.stopped = false
  untold : .stop ∉ a.commands

/-- No command to create a subscription is left that the actor will handle. -/
def Closing (a : SubscriptionActor E) : Prop :=
  a.stopped = true ∨ ∃ before after, a.commands = before ++ .stop :: after ∧
    ∀ command ∈ before, command.call = none

def Creates (a : SubscriptionActor E) : Prop :=
  ∃ call creation, .createSubscription call creation ∈ a.commands

variable {a : SubscriptionActor E}

theorem Closing.of_not_creates (idle : ¬ a.Creates) :
    Closing { a with commands := a.commands ++ [.stop] } := by
  refine inr ⟨a.commands, [], rfl, fun command member => ?_⟩
  cases command with
  | createSubscription call creation => exact absurd ⟨call, creation, member⟩ idle
  | service | stop => rfl

theorem Closing.not_running (closing : a.Closing) : ¬ a.Running := by
  intro running
  rcases closing with stopped | ⟨before, after, commands, -⟩
  · rw [running.alive] at stopped
    cases stopped
  · refine running.untold ?_
    rw [commands]
    exact mem_append_right _ mem_cons_self

theorem Closing.push (closing : a.Closing) (command : Command E) :
    Closing { a with commands := a.commands ++ [command] } := by
  rcases closing with stopped | ⟨before, after, commands, quiet⟩
  · exact inl stopped
  · refine inr ⟨before, after ++ [command], ?_, quiet⟩
    rw [commands, append_assoc]
    rfl

theorem Closing.pop {command : Command E} {rest : List (Command E)} (closing : a.Closing)
    (next : a.commands = command :: rest) (going : command ≠ .stop) :
    Closing { a with commands := rest } ∧ (a.stopped = true ∨ command.call = none) := by
  rcases closing with stopped | ⟨before, after, commands, quiet⟩
  · exact ⟨inl stopped, inl stopped⟩
  · rw [next] at commands
    cases before with
    | nil =>
      rw [nil_append, cons.injEq] at commands
      exact absurd commands.1 going
    | cons first before =>
      obtain ⟨rfl, rfl⟩ := commands
      exact ⟨inr ⟨before, after, rfl, fun other member =>
        quiet other (mem_cons_of_mem _ member)⟩, inr (quiet _ mem_cons_self)⟩

end SubscriptionActor

open SessionSubscriptions

open Function

namespace SubscriptionCache

/-! ### The condition -/

/-- **A message that the session is done with finds the actor idle:** it has no open subscription,
and none is on the way to it. No id is drawn a second time. -/
def FindsIdle (c : SubscriptionCache E) : CacheOp E → Prop
  | .runCleanup =>
    ∀ message rest, c.cleanups = message :: rest → message.readyToDelete = true →
      ∀ n a, c.sessionSubscriptions message.sessionId = some n → c.actors n = some a →
        (∀ id, ¬ a.subs.OpenAt id) ∧ ¬ a.Creates
  | .command _ _ => c.subscriptionIdHandle.next ∉ c.drawn
  | _ => True

/-! ### The invariant -/

def LiveIn (c : SubscriptionCache E) (session id : ℕ) : Prop :=
  id ∈ c.gone ∨ ∃ n a, c.sessionSubscriptions session = some n ∧ c.actors n = some a ∧
    a.subs.OpenAt id

def Spare (c : SubscriptionCache E) (call session n : ℕ) : Prop :=
  (∃ a, c.actors n = some a ∧ a.sessionId = session ∧ a.Running ∧ ¬ a.Creates) ∧
    (∀ other, c.sessionSubscriptions other ≠ some n) ∧
    ∀ other creation, c.calls other = .constructed creation n → other = call

structure Sound (c : SubscriptionCache E) : Prop where
  bounded : ∀ n a, c.actors n = some a → n < c.spawned
  entry : ∀ session n, c.sessionSubscriptions session = some n →
    ∃ a, c.actors n = some a ∧ a.sessionId = session ∧ a.Running
  constructed : ∀ call creation n, c.calls call = .constructed creation n →
    c.Spare call creation.session n
  holding : ∀ call creation n, c.calls call = .holding creation n →
    ∃ a, c.actors n = some a ∧ (c.sessionSubscriptions creation.session = some n ∨ a.Closing)
  waiting : ∀ n a call creation, c.actors n = some a →
    .createSubscription call creation ∈ a.commands →
    c.sessionSubscriptions creation.session = some n ∨ a.Closing
  members : ∀ n a id, c.actors n = some a → id ∈ a.subs.subscriptions →
    id ∈ c.drawn ∧ (a.subs.OpenAt id ∨ id ∈ c.gone)
  retired : ∀ n a id, c.actors n = some a → (∀ session, c.sessionSubscriptions session ≠ some n) →
    id ∈ a.subs.subscriptions → id ∈ c.gone
  owner : ∀ n m a b id, c.actors n = some a → c.actors m = some b → id ∈ a.subs.subscriptions →
    id ∈ b.subs.subscriptions → n = m
  answered : ∀ call session id, c.calls call = .answered session (.ok id) → c.LiveIn session id
  good : ∀ session id, (session, id) ∈ c.good →
    c.LiveIn session id ∧ (id ∈ c.gone ∨ c.subscriptionToSession id = some session)
  messages : ∀ message ∈ c.cleanups, ∀ id ∈ message.removedIds, id ∈ c.gone
  deleted : ∀ ids ∈ c.deletions, ∀ id ∈ ids, id ∈ c.gone

theorem sound_new (limits : SubscriptionLimits E) : (new limits).Sound where
  bounded := fun _ _ found => by cases found
  entry := fun _ _ found => by cases found
  constructed := fun _ _ _ found => by cases found
  holding := fun _ _ _ found => by cases found
  waiting := fun _ _ _ _ found => by cases found
  members := fun _ _ _ found => by cases found
  retired := fun _ _ _ found => by cases found
  owner := fun _ _ _ _ _ found => by cases found
  answered := fun _ _ _ found => by cases found
  good := fun _ _ member => by cases member
  messages := fun _ member => by cases member
  deleted := fun _ member => by cases member

variable {c : SubscriptionCache E} {session n : ℕ} {a : SubscriptionActor E}

theorem Sound.session_eq (sound : c.Sound) (listed : c.sessionSubscriptions session = some n)
    (found : c.actors n = some a) : a.sessionId = session ∧ a.Running := by
  obtain ⟨b, there, own, running⟩ := sound.entry session n listed
  rw [found, some.injEq] at there
  subst there
  exact ⟨own, running⟩

def Admissible (c : SubscriptionCache E) : CreateCall E → Prop
  | .constructed _ _ => False
  | .holding creation n =>
    ∃ a, c.actors n = some a ∧ (c.sessionSubscriptions creation.session = some n ∨ a.Closing)
  | .answered session (.ok id) => c.LiveIn session id
  | _ => True

/-- **Calls go on** to phases in which they have constructed nothing. -/
theorem Sound.recall (sound : c.Sound) {calls : ℕ → CreateCall E}
    (admissible : ∀ call, calls call = c.calls call ∨ c.Admissible (calls call)) :
    { c with calls := calls }.Sound := by
  have before : ∀ call creation n, calls call = .constructed creation n →
      c.calls call = .constructed creation n := by
    intro call creation n there
    obtain same | allowed := admissible call
    · exact same.symm.trans there
    · rw [there] at allowed
      exact allowed.elim
  refine ⟨sound.bounded, sound.entry, fun call creation n there => ?_,
    fun call creation n there => ?_, sound.waiting, sound.members, sound.retired, sound.owner,
    fun call session id there => ?_, sound.good, sound.messages, sound.deleted⟩
  · obtain ⟨actor, unlisted, alone⟩ :=
      sound.constructed call creation n (before call creation n there)
    exact ⟨actor, unlisted, fun other creation' there' =>
      alone other creation' (before other creation' n there')⟩
  · obtain same | allowed := admissible call
    · exact sound.holding call creation n (same.symm.trans there)
    · have there : calls call = .holding creation n := there
      rw [there] at allowed
      exact allowed
  · obtain same | allowed := admissible call
    · exact sound.answered call session id (same.symm.trans there)
    · have there : calls call = .answered session (.ok id) := there
      rw [there] at allowed
      exact allowed

theorem Sound.setCall (sound : c.Sound) (call : ℕ) {phase : CreateCall E}
    (admissible : c.Admissible phase) : (c.setCall call phase).Sound := by
  refine sound.recall fun other => ?_
  rw [update_apply]
  split_ifs
  · exact inr admissible
  · exact inl rfl

structure Moves (c : SubscriptionCache E) (n : ℕ) (a a' : SubscriptionActor E) (gone : List ℕ) :
    Prop where
  sessionId : a'.sessionId = a.sessionId
  running : ((∃ session, c.sessionSubscriptions session = some n) ∨
    ∃ call creation, c.calls call = .constructed creation n) → a.Running → a'.Running
  closing : a.Closing → a'.Closing
  creates : ∀ call creation, .createSubscription call creation ∈ a'.commands →
    .createSubscription call creation ∈ a.commands ∨
      c.sessionSubscriptions creation.session = some n ∨ a'.Closing
  members : ∀ id ∈ a'.subs.subscriptions, id ∈ a.subs.subscriptions
  opened : ∀ id, a.subs.OpenAt id → a'.subs.OpenAt id ∨ id ∈ gone
  grows : ∀ id ∈ c.gone, id ∈ gone

variable {gone : List ℕ}

theorem Moves.still (a : SubscriptionActor E) (grows : ∀ id ∈ c.gone, id ∈ gone) :
    c.Moves n a a gone :=
  ⟨rfl, fun _ running => running, fun closing => closing, fun _ _ member => inl member,
    fun _ member => member, fun _ opened => inl opened, grows⟩

variable {a' : SubscriptionActor E}

theorem Sound.moves (sound : c.Sound) {cleanups : List (SubscriptionCleanup E)}
    {deletions : List (List ℕ)} (found : c.actors n = some a) (moves : c.Moves n a a' gone)
    (messages : ∀ message ∈ cleanups, ∀ id ∈ message.removedIds, id ∈ gone)
    (deleted : ∀ ids ∈ deletions, ∀ id ∈ ids, id ∈ gone) :
    ({ c with cleanups := cleanups, deletions := deletions, gone := gone }.setActor n
      a').Sound := by
  set d :=
    { c with cleanups := cleanups, deletions := deletions, gone := gone }.setActor n a' with known
  -- An actor after the step has moved, or has stood still.
  have before : ∀ m b, d.actors m = some b → ∃ b', c.actors m = some b' ∧ c.Moves m b' b gone := by
    intro m b there
    obtain ⟨rfl, ⟨⟩⟩ | ⟨-, there⟩ := update_eq_some there
    · exact ⟨a, found, moves⟩
    · exact ⟨b, there, .still b moves.grows⟩
  have after : ∀ m b', c.actors m = some b' → ∃ b, d.actors m = some b ∧ c.Moves m b' b gone := by
    intro m b' there
    by_cases own : m = n
    · subst own
      rw [found, some.injEq] at there
      subst there
      exact ⟨a', update_self .., moves⟩
    · exact ⟨b', (update_of_ne own ..).trans there, .still b' moves.grows⟩
  have live : ∀ session id, c.LiveIn session id → d.LiveIn session id := by
    rintro session id (member | ⟨m, b', listed, there, opened⟩)
    · exact inl (moves.grows id member)
    · obtain ⟨b, now, moves⟩ := after m b' there
      exact (moves.opened id opened).elim (fun opened => inr ⟨m, b, listed, now, opened⟩) inl
  refine ⟨fun m b there => ?_, fun session m listed => ?_, fun call creation m there => ?_,
    fun call creation m there => ?_, fun m b call creation there member => ?_,
    fun m b id there member => ?_, fun m b id there unlisted member => ?_,
    fun m m' b b' id there there' member member' => ?_,
    fun call session id there => live session id (sound.answered call session id there),
    fun session id member => ?_, messages, deleted⟩
  · obtain ⟨b', there', -⟩ := before m b there
    exact sound.bounded m b' there'
  · obtain ⟨b', there, own, running⟩ := sound.entry session m listed
    obtain ⟨b, now, moves⟩ := after m b' there
    exact ⟨b, now, moves.sessionId.trans own, moves.running (inl ⟨session, listed⟩) running⟩
  · obtain ⟨⟨b', there', own, running, idle⟩, unlisted, alone⟩ :=
      sound.constructed call creation m there
    obtain ⟨b, now, moves⟩ := after m b' there'
    have runs := moves.running (inr ⟨call, creation, there⟩) running
    refine ⟨⟨b, now, moves.sessionId.trans own, runs, ?_⟩, unlisted, alone⟩
    rintro ⟨call', creation', member⟩
    obtain member | listed | closing := moves.creates call' creation' member
    · exact idle ⟨call', creation', member⟩
    · exact unlisted _ listed
    · exact closing.not_running runs
  · obtain ⟨b', there', held⟩ := sound.holding call creation m there
    obtain ⟨b, now, moves⟩ := after m b' there'
    exact ⟨b, now, held.imp_right moves.closing⟩
  · obtain ⟨b', there', moves⟩ := before m b there
    obtain member | held := moves.creates call creation member
    · exact (sound.waiting m b' call creation there' member).imp_right moves.closing
    · exact held
  · obtain ⟨b', there', moves⟩ := before m b there
    obtain ⟨drawn, opened | member⟩ := sound.members m b' id there' (moves.members id member)
    · exact ⟨drawn, moves.opened id opened⟩
    · exact ⟨drawn, inr (moves.grows id member)⟩
  · obtain ⟨b', there', moves⟩ := before m b there
    exact moves.grows id (sound.retired m b' id there' unlisted (moves.members id member))
  · obtain ⟨a₁, found₁, moves₁⟩ := before m b there
    obtain ⟨a₂, found₂, moves₂⟩ := before m' b' there'
    exact sound.owner m m' a₁ a₂ id found₁ found₂ (moves₁.members id member)
      (moves₂.members id member')
  · obtain ⟨lives, indexed⟩ := sound.good session id member
    exact ⟨live session id lives, indexed.imp_left (moves.grows id)⟩

theorem Moves.push {c : SubscriptionCache E} {n : ℕ} (a : SubscriptionActor E) {command : Command E}
    (untold : ((∃ session, c.sessionSubscriptions session = some n) ∨
      ∃ call creation, c.calls call = .constructed creation n) → command ≠ .stop)
    (creates : ∀ call creation, command = .createSubscription call creation →
      c.sessionSubscriptions creation.session = some n ∨ a.Closing) :
    c.Moves n a { a with commands := a.commands ++ [command] } c.gone := by
  refine ⟨rfl, fun known running => ⟨running.alive, ?_⟩, fun closing => closing.push command,
    fun call creation member => ?_, fun _ member => member, fun _ opened => inl opened,
    fun _ member => member⟩
  · rw [mem_append, mem_singleton, not_or]
    exact ⟨running.untold, (untold known).symm⟩
  · rw [mem_append, mem_singleton] at member
    refine member.imp_right fun same => ?_
    exact (creates call creation same.symm).imp_right fun closing => closing.push command

theorem Sound.moves_only (sound : c.Sound) (found : c.actors n = some a)
    (moves : c.Moves n a a' c.gone) : (c.setActor n a').Sound :=
  sound.moves found moves sound.messages sound.deleted

/-! ### Creating -/

theorem Sound.spawn (sound : c.Sound) (a : SubscriptionActor E) (empty : a.subs.subscriptions = ∅)
    (unasked : a.commands = []) :
    ({ c with spawned := c.spawned + 1 }.setActor c.spawned a).Sound := by
  have others : ∀ m b, c.actors m = some b →
      update c.actors c.spawned (some a) m = some b := by
    intro m b there
    have bound := sound.bounded m b there
    rw [update_of_ne (by omega)]
    exact there
  have nothing : ∀ id, id ∉ a.subs.subscriptions := by
    intro id member
    rw [empty] at member
    exact AList.notMem_empty id member
  have live : ∀ session id, c.LiveIn session id →
      ({ c with spawned := c.spawned + 1 }.setActor c.spawned a).LiveIn session id := by
    rintro session id (member | ⟨m, b, listed, there, opened⟩)
    · exact inl member
    · exact inr ⟨m, b, listed, others m b there, opened⟩
  refine ⟨fun m b there => ?_, fun session m listed => ?_, fun call creation m there => ?_,
    fun call creation m there => ?_, fun m b call creation there member => ?_,
    fun m b id there member => ?_, fun m b id there unlisted member => ?_,
    fun m m' b b' id there there' member member' => ?_,
    fun call session id there => live session id (sound.answered call session id there),
    fun session id member => (sound.good session id member).imp_left (live session id),
    sound.messages, sound.deleted⟩
  · show m < c.spawned + 1
    rcases update_eq_some there with ⟨rfl, -⟩ | ⟨-, there⟩
    · omega
    · have bound := sound.bounded m b there
      omega
  · obtain ⟨b, there, rest⟩ := sound.entry session m listed
    exact ⟨b, others m b there, rest⟩
  · obtain ⟨⟨b, there', rest⟩, unlisted, alone⟩ := sound.constructed call creation m there
    exact ⟨⟨b, others m b there', rest⟩, unlisted, alone⟩
  · obtain ⟨b, there', rest⟩ := sound.holding call creation m there
    exact ⟨b, others m b there', rest⟩
  · rcases update_eq_some there with ⟨-, ⟨⟩⟩ | ⟨-, there⟩
    · rw [unasked] at member
      cases member
    · exact sound.waiting m b call creation there member
  · rcases update_eq_some there with ⟨-, ⟨⟩⟩ | ⟨-, there⟩
    · exact absurd member (nothing id)
    · exact sound.members m b id there member
  · rcases update_eq_some there with ⟨-, ⟨⟩⟩ | ⟨-, there⟩
    · exact absurd member (nothing id)
    · exact sound.retired m b id there unlisted member
  · rcases update_eq_some there with ⟨-, ⟨⟩⟩ | ⟨-, there⟩
    · exact absurd member (nothing id)
    · rcases update_eq_some there' with ⟨-, ⟨⟩⟩ | ⟨-, there'⟩
      · exact absurd member' (nothing id)
      · exact sound.owner m m' b b' id there there' member member'

variable {call : ℕ} {creation : Creation E}

theorem Sound.construct (sound : c.Sound) (spare : c.Spare call creation.session n)
    (unknown : ∀ other creation', c.calls other ≠ .constructed creation' n) :
    (c.setCall call (.constructed creation n)).Sound := by
  have before : ∀ other phase, (c.setCall call (.constructed creation n)).calls other = phase →
      other = call ∧ phase = .constructed creation n ∨ c.calls other = phase := by
    intro other phase there
    have there : update c.calls call (.constructed creation n) other = phase := there
    rw [update_apply] at there
    split_ifs at there with own
    · exact inl ⟨own, there.symm⟩
    · exact inr there
  refine ⟨sound.bounded, sound.entry, fun other creation' m there => ?_,
    fun other creation' m there => ?_, sound.waiting, sound.members, sound.retired, sound.owner,
    fun other session id there => ?_, sound.good, sound.messages, sound.deleted⟩
  · rcases before other _ there with ⟨rfl, same⟩ | there
    · cases same
      refine ⟨spare.1, spare.2.1, fun another creation' there' => ?_⟩
      rcases before another _ there' with ⟨same, -⟩ | there'
      · exact same
      · exact absurd there' (unknown another creation')
    · obtain ⟨actor, unlisted, alone⟩ := sound.constructed other creation' m there
      refine ⟨actor, unlisted, fun another creation'' there' => ?_⟩
      rcases before another _ there' with ⟨-, same⟩ | there'
      · cases same
        exact absurd there (unknown other creation')
      · exact alone another creation'' there'
  · rcases before other _ there with ⟨-, same⟩ | there
    · cases same
    · exact sound.holding other creation' m there
  · rcases before other _ there with ⟨-, same⟩ | there
    · cases same
    · exact sound.answered other session id there

variable {d : SubscriptionCache E}

section

variable (sound : c.Sound)
include sound

/-- Timers hold nothing. -/
theorem Sound.fallAsleep (n nowInstant : ℕ) : (c.fallAsleep n nowInstant).Sound := by
  unfold SubscriptionCache.fallAsleep
  split
  · exact ⟨sound.bounded, sound.entry, sound.constructed, sound.holding, sound.waiting,
      sound.members, sound.retired, sound.owner, sound.answered, sound.good, sound.messages,
      sound.deleted⟩
  · exact sound

theorem Sound.lookUp {userToken : PersistentSessionKey} {nowInstant : ℕ}
    (stepped : c.lookUp call creation userToken nowInstant = some d) : d.Sound := by
  unfold SubscriptionCache.lookUp at stepped
  split at stepped
  swap
  · cases stepped
  split at stepped
  · rename_i n listed
    cases stepped
    obtain ⟨a, there, -⟩ := sound.entry _ n listed
    exact sound.setCall call ⟨a, there, inl listed⟩
  · cases stepped
    have spawned := sound.spawn ⟨creation.session, .new c.limits userToken, [], false⟩ rfl rfl
    refine Sound.fallAsleep
      (spawned.construct ⟨⟨_, update_self .., rfl, ⟨rfl, not_mem_nil⟩, ?_⟩, ?_, ?_⟩ ?_) _ _
    · rintro ⟨call', creation', member⟩
      cases member
    · intro other listed
      obtain ⟨a, there, -⟩ := sound.entry other _ listed
      exact absurd (sound.bounded _ a there) (Nat.lt_irrefl _)
    · intro other creation' there
      obtain ⟨⟨a, there, -⟩, -, -⟩ := sound.constructed other creation' _ there
      exact absurd (sound.bounded _ a there) (Nat.lt_irrefl _)
    · intro other creation' there
      obtain ⟨⟨a, there, -⟩, -, -⟩ := sound.constructed other creation' _ there
      exact absurd (sound.bounded _ a there) (Nat.lt_irrefl _)

theorem Sound.list (vacant : c.sessionSubscriptions session = none) (found : c.actors n = some a)
    (own : a.sessionId = session) (running : a.Running)
    (known : ∀ call creation, c.calls call ≠ .constructed creation n) :
    (c.setEntry session (some n)).Sound := by
  have kept : ∀ other m, c.sessionSubscriptions other = some m →
      update c.sessionSubscriptions session (some n) other = some m := by
    intro other m there
    have apart : other ≠ session := by
      rintro rfl
      rw [vacant] at there
      cases there
    rw [update_of_ne apart]
    exact there
  have live : ∀ other id, c.LiveIn other id →
      (c.setEntry session (some n)).LiveIn other id := by
    rintro other id (member | ⟨m, b, there, rest⟩)
    · exact inl member
    · exact inr ⟨m, b, kept other m there, rest⟩
  refine ⟨sound.bounded, fun other m there => ?_, fun call creation m there => ?_,
    fun call creation m there => ?_, fun m b call creation there member => ?_, sound.members,
    fun m b id there gone member => ?_, sound.owner,
    fun call other id there => live other id (sound.answered call other id there),
    fun other id member => (sound.good other id member).imp_left (live other id), sound.messages,
    sound.deleted⟩
  · rcases update_eq_some there with ⟨rfl, ⟨⟩⟩ | ⟨-, there⟩
    · exact ⟨a, found, own, running⟩
    · exact sound.entry other m there
  · obtain ⟨actor, free, alone⟩ := sound.constructed call creation m there
    refine ⟨actor, fun other there' => ?_, alone⟩
    rcases update_eq_some there' with ⟨-, ⟨⟩⟩ | ⟨-, there'⟩
    · exact known call creation there
    · exact free other there'
  · obtain ⟨b, there', held⟩ := sound.holding call creation m there
    exact ⟨b, there', held.imp_left (kept _ m)⟩
  · exact (sound.waiting m b call creation there member).imp_left (kept _ m)
  · exact sound.retired m b id there (fun other there' => gone other (kept other m there')) member

theorem Sound.register (stepped : c.register call = some d) : d.Sound := by
  unfold SubscriptionCache.register at stepped
  split at stepped
  swap
  · cases stepped
  rename_i creation n waits
  obtain ⟨⟨a, there, own, running, idle⟩, unlisted, alone⟩ :=
    sound.constructed call creation n waits
  -- Once the call has gone on, nobody has constructed the actor.
  have unknown : ∀ phase, (∀ creation', phase ≠ .constructed creation' n) →
      ∀ other creation', (c.setCall call phase).calls other ≠ .constructed creation' n := by
    intro phase goes other creation' there'
    have there' : update c.calls call phase other = .constructed creation' n := there'
    rw [update_apply] at there'
    split_ifs at there' with same
    · exact goes creation' there'
    · exact same (alone other creation' there')
  split at stepped
  · rename_i existing actor listed found
    rw [there, some.injEq] at found
    subst found
    cases stepped
    obtain ⟨b, exists_, -⟩ := sound.entry _ existing listed
    have held : (c.setCall call (.holding creation existing)).Sound :=
      sound.setCall call ⟨b, exists_, inl listed⟩
    -- The actor that is not needed is told to stop.
    refine held.moves_only there (.push a ?_ fun _ _ impossible => by cases impossible)
    rintro (⟨session, listed⟩ | ⟨other, creation', there'⟩)
    · exact absurd listed (unlisted session)
    · exact absurd there' (unknown _ (fun _ impossible => by cases impossible) other creation')
  · rename_i actor vacant found
    cases stepped
    have gone : (c.setCall call .returned).Sound := sound.setCall call trivial
    have listed := gone.list vacant there own running
      (unknown .returned fun _ impossible => by cases impossible)
    have held : (((c.setCall call .returned).setEntry creation.session (some n)).setCall call
        (.holding creation n)).Sound :=
      listed.setCall call ⟨a, there, inl (update_self ..)⟩
    have same : ((c.setCall call .returned).setEntry creation.session (some n)).setCall call
        (.holding creation n) = (c.setEntry creation.session (some n)).setCall call
        (.holding creation n) := by
      simp [SubscriptionCache.setCall, setEntry]
    exact same ▸ held
  · cases stepped

theorem Sound.send (stepped : c.send call = some d) : d.Sound := by
  unfold SubscriptionCache.send at stepped
  split at stepped
  swap
  · cases stepped
  rename_i creation n waits
  obtain ⟨actor, found, built⟩ := map_eq_some_iff.mp stepped
  obtain ⟨a, there, held⟩ := sound.holding call creation n waits
  rw [found, some.injEq] at there
  subst there
  split_ifs at built
  · rw [← built]
    exact sound.setCall call trivial
  · rw [← built]
    have waits : (c.setCall call (.waiting creation.session)).Sound := sound.setCall call trivial
    refine waits.moves_only found (.push actor (fun _ impossible => by cases impossible) ?_)
    intro call' creation' same
    cases same
    exact held

theorem Sound.conclude (stepped : c.conclude call = some d) : d.Sound := by
  unfold SubscriptionCache.conclude at stepped
  split at stepped
  · rename_i session id waits
    cases stepped
    have live := sound.answered call session id waits
    have returned : (c.setCall call .returned).Sound := sound.setCall call trivial
    refine ⟨returned.bounded, returned.entry, returned.constructed, returned.holding,
      returned.waiting, returned.members, returned.retired, returned.owner, returned.answered,
      fun session' id' member => ?_, returned.messages, returned.deleted⟩
    have indexed : (update c.subscriptionToSession id (some session)) id =
        some session := update_self ..
    rcases mem_cons.mp member with same | member
    · rw [Prod.mk.injEq] at same
      obtain ⟨rfl, rfl⟩ := same
      exact ⟨live, inr indexed⟩
    · obtain ⟨live', index⟩ := sound.good session' id' member
      refine ⟨live', ?_⟩
      show _ ∨ update c.subscriptionToSession id (some session) id' = some session'
      by_cases same : id' = id
      · -- The subscription is at one actor, and that actor is of one session.
        subst same
        rcases live with gone | ⟨n, a, listed, found, opened⟩
        · exact inl gone
        rcases live' with gone | ⟨m, b, listed', found', opened'⟩
        · exact inl gone
        have one := sound.owner n m a b id' found found' opened.mem opened'.mem
        subst one
        rw [found, some.injEq] at found'
        rw [indexed, ← (sound.session_eq listed found).1, ← (sound.session_eq listed' found).1]
        exact inr rfl
      · rw [update_of_ne same]
        exact index
  · cases stepped
    exact sound.setCall call trivial
  · cases stepped

theorem Sound.post {service : Service E} (stepped : c.post n service = some d) : d.Sound := by
  obtain ⟨actor, found, built⟩ := map_eq_some_iff.mp stepped
  split_ifs at built
  · rw [← built]
    exact sound
  · rw [← built]
    exact sound.moves_only found (.push actor (fun _ impossible => by cases impossible)
      fun _ _ impossible => by cases impossible)

end

/-! ### The actors at work -/

variable {rest : List (Command E)}

theorem Moves.handle {command : Command E} {subs : SessionSubscriptions E}
    (next : a.commands = command :: rest) (going : command ≠ .stop)
    (members : ∀ id ∈ subs.subscriptions, id ∈ a.subs.subscriptions)
    (opened : ∀ id, a.subs.OpenAt id → subs.OpenAt id ∨ id ∈ gone)
    (grows : ∀ id ∈ c.gone, id ∈ gone) :
    c.Moves n a { a with commands := rest, subs := subs } gone := by
  have later : ∀ other ∈ rest, other ∈ a.commands := by
    intro other member
    rw [next]
    exact mem_cons_of_mem command member
  exact ⟨rfl, fun _ running => ⟨running.alive, fun member => running.untold (later _ member)⟩,
    fun closing => (closing.pop next going).1, fun _ _ member => inl (later _ member), members,
    opened, grows⟩

theorem Moves.tick {subs : SessionSubscriptions E}
    (members : ∀ id ∈ subs.subscriptions, id ∈ a.subs.subscriptions)
    (opened : ∀ id, a.subs.OpenAt id → subs.OpenAt id ∨ id ∈ gone)
    (grows : ∀ id ∈ c.gone, id ∈ gone) : c.Moves n a { a with subs := subs } gone :=
  ⟨rfl, fun _ running => ⟨running.alive, running.untold⟩, fun closing => closing,
    fun _ _ member => inl member, members, opened, grows⟩

section

variable (sound : c.Sound)
include sound

theorem Sound.timer {o : Occasion} (stepped : c.timer n o = some d) : d.Sound := by
  obtain ⟨actor, found, stepped⟩ := bind_eq_some_iff.mp stepped
  split_ifs at stepped
  obtain ⟨⟨removed, subs⟩, ticked, rfl⟩ := map_eq_some_iff.mp stepped
  have ticked := Machine.toOption_eq_some.mp ticked
  have grows : ∀ id ∈ c.gone, id ∈ c.gone ++ removed.map (·.id) :=
    fun id member => mem_append_left _ member
  refine sound.moves found (.tick (fun id => (tick_advances id (tickMeets_any id _ o _) ticked).mem)
    (fun id opened => ?_) grows) (fun message member id removedHere => ?_) fun ids member id here =>
    grows id (sound.deleted ids member id here)
  · refine (tick_keeps_open opened ticked).imp_right fun reports => ?_
    exact mem_append_right _ reports.2
  · split_ifs at member
    · rcases mem_append.mp member with member | member
      · exact grows id (sound.messages message member id removedHere)
      · rw [mem_singleton] at member
        rw [member] at removedHere
        exact mem_append_right _ removedHere
    · exact grows id (sound.messages message member id removedHere)

theorem Sound.wake {o : Occasion} (stepped : c.wake n o = some d) : d.Sound := by
  obtain ⟨actor, found, stepped⟩ := bind_eq_some_iff.mp stepped
  split_ifs at stepped
  obtain ⟨subs, woken, rfl⟩ := map_eq_some_iff.mp stepped
  have woken := Machine.toOption_eq_some.mp woken
  refine sound.moves_only found (.tick (fun id => ?_) (fun id opened => inl ?_)
    fun _ member => member)
  · exact (processNotificationWake_advances id (ticksMeet_any id _ _) woken).mem
  · exact wake_keeps_open opened woken

theorem Sound.create {id : ℕ} {handle : Handle}
    (listed : c.sessionSubscriptions session = some n) (found : c.actors n = some a)
    (fresh : id ∉ c.drawn) (own : a'.sessionId = a.sessionId) (running : a'.Running)
    (commands : ∀ command ∈ a'.commands, command ∈ a.commands)
    (members : ∀ other ∈ a'.subs.subscriptions, other = id ∨ other ∈ a.subs.subscriptions)
    (created : a'.subs.OpenAt id)
    (opened : ∀ other ≠ id, a.subs.OpenAt other → a'.subs.OpenAt other) :
    ({ c with subscriptionIdHandle := handle, drawn := id :: c.drawn }.setActor n a').Sound := by
  have kept : ∀ m b, m ≠ n → c.actors m = some b →
      update c.actors n (some a') m = some b := by
    intro m b apart there
    rw [update_of_ne apart]
    exact there
  have here : update c.actors n (some a') n = some a' := update_self ..
  have new : ∀ m b, c.actors m = some b → id ∉ b.subs.subscriptions :=
    fun m b there member => fresh (sound.members m b id there member).1
  have live : ∀ session other, c.LiveIn session other →
      ({ c with subscriptionIdHandle := handle, drawn := id :: c.drawn }.setActor n a').LiveIn
        session other := by
    rintro session other (gone | ⟨m, b, listed', there, open'⟩)
    · exact inl gone
    · by_cases same : m = n
      · subst same
        rw [found, some.injEq] at there
        subst there
        refine inr ⟨m, a', listed', here, opened other ?_ open'⟩
        rintro rfl
        exact new m a found open'.mem
      · exact inr ⟨m, b, listed', kept m b same there, open'⟩
  refine ⟨fun m b there => ?_, fun other m listed' => ?_, fun call creation m there => ?_,
    fun call creation m there => ?_, fun m b call creation there member => ?_,
    fun m b other there member => ?_, fun m b other there unlisted member => ?_,
    fun m m' b b' other there there' member member' => ?_,
    fun call session other there => live session other (sound.answered call session other there),
    fun session other member => (sound.good session other member).imp_left (live session other),
    sound.messages, sound.deleted⟩
  · rcases update_eq_some there with ⟨rfl, -⟩ | ⟨-, there⟩
    · exact sound.bounded m a found
    · exact sound.bounded m b there
  · by_cases same : m = n
    · subst same
      exact ⟨a', here, own.trans (sound.session_eq listed' found).1, running⟩
    · obtain ⟨b, there, rest⟩ := sound.entry other m listed'
      exact ⟨b, kept m b same there, rest⟩
  · obtain ⟨⟨b, there', rest⟩, unlisted, alone⟩ := sound.constructed call creation m there
    have apart : m ≠ n := fun same => unlisted session (same ▸ listed)
    exact ⟨⟨b, kept m b apart there', rest⟩, unlisted, alone⟩
  · obtain ⟨b, there', held⟩ := sound.holding call creation m there
    by_cases same : m = n
    · subst same
      rw [found, some.injEq] at there'
      subst there'
      exact ⟨a', here, held.imp_right fun closing =>
        absurd (sound.session_eq listed found).2 closing.not_running⟩
    · exact ⟨b, kept m b same there', held⟩
  · rcases update_eq_some there with ⟨rfl, ⟨⟩⟩ | ⟨-, there⟩
    · exact (sound.waiting m a call creation found (commands _ member)).imp_right fun closing =>
        absurd (sound.session_eq listed found).2 closing.not_running
    · exact sound.waiting m b call creation there member
  · rcases update_eq_some there with ⟨rfl, ⟨⟩⟩ | ⟨-, there⟩
    · rcases members other member with rfl | member
      · exact ⟨mem_cons_self, inl created⟩
      · obtain ⟨drawn, still⟩ := sound.members m a other found member
        refine ⟨mem_cons_of_mem _ drawn, still.imp_left (opened other ?_)⟩
        rintro rfl
        exact fresh drawn
    · exact (sound.members m b other there member).imp_left (mem_cons_of_mem _)
  · rcases update_eq_some there with ⟨rfl, -⟩ | ⟨-, there⟩
    · exact absurd listed (unlisted session)
    · exact sound.retired m b other there unlisted member
  · rcases update_eq_some there with ⟨rfl, ⟨⟩⟩ | ⟨-, before⟩
    · rcases update_eq_some there' with ⟨rfl, -⟩ | ⟨-, before'⟩
      · rfl
      · refine sound.owner m m' a b' other found before' ((members other member).resolve_left ?_)
          member'
        rintro rfl
        exact new m' b' before' member'
    · rcases update_eq_some there' with ⟨rfl, ⟨⟩⟩ | ⟨-, before'⟩
      · refine sound.owner m m' b a other before found member
          ((members other member').resolve_left ?_)
        rintro rfl
        exact new m b before member
      · exact sound.owner m m' b b' other before before' member member'

theorem Sound.handleService {service : Service E} (found : c.actors n = some a)
    (next : a.commands = .service service :: rest)
    (handled : c.handleService n { a with commands := rest } service = some d) : d.Sound := by
  have going : Command.service service ≠ .stop := fun impossible => by cases impossible
  cases service with
  | deleteSubscriptions ids =>
    cases handled
    have grows : ∀ id ∈ c.gone, id ∈ c.gone ++ SessionSubscriptions.deletedIds ids
        (a.subs.deleteSubscriptions ids).1 := fun id member => mem_append_left _ member
    refine sound.moves found (.handle next going (fun id => ?_) (fun id opened => ?_) grows)
      (fun message member id here => grows id (sound.messages message member id here))
      fun deletion member id here => ?_
    · have leaves : SessionOp.LeavesTransfer id (.deleteSubscriptions ids : SessionOp E) := trivial
      exact (advances_of_apply (ticksMeet_any id a.subs _) leaves
        (fun _ _ impossible => by cases impossible) rfl).mem
    · exact (deleteSubscriptions_keeps_open opened).imp_right
        (mem_append_right _)
    · rcases mem_append.mp member with member | member
      · exact grows id (sound.deleted deletion member id here)
      · rw [mem_singleton] at member
        rw [member] at here
        exact mem_append_right _ here
  | serve op serves =>
    obtain ⟨subs, applied, rfl⟩ := map_eq_some_iff.mp handled
    have applied := Machine.toOption_eq_some.mp applied
    exact sound.moves_only found (.handle next going
      (fun id => mem_of_apply serves applied)
      (fun id opened => inl (keeps_open_of_apply serves opened applied))
      fun _ member => member)

theorem Sound.handleStop (found : c.actors n = some a)
    (next : a.commands = .stop :: rest) : (c.handleStop n { a with commands := rest }).Sound := by
  have dropped : { c with
      calls := fun call =>
        if some call ∈ rest.map Command.call then .returned else c.calls call }.Sound := by
    refine sound.recall fun call => ?_
    split_ifs
    · exact inr trivial
    · exact inl rfl
  refine dropped.moves_only found ⟨rfl, fun _ running => ?_, fun _ => inl rfl,
    fun _ _ member => (by cases member), fun _ member => member, fun _ opened => inl opened,
    fun _ member => member⟩
  refine absurd ?_ running.untold
  rw [next]
  exact mem_cons_self

/-- **An actor creates a subscription,** if it has room. It is the actor of the session, since an
actor that has no entry any more is closing. -/
theorem Sound.handleCreate {nowInstant : ℕ} (found : c.actors n = some a)
    (alive : a.stopped = false) (next : a.commands = .createSubscription call creation :: rest)
    (fresh : c.subscriptionIdHandle.next ∉ c.drawn) :
    (c.handleCreate n { a with commands := rest } call nowInstant creation).Sound := by
  have going : Command.createSubscription call creation ≠ .stop :=
    fun impossible => by cases impossible
  have listed : c.sessionSubscriptions creation.session = some n := by
    refine (sound.waiting n a call creation found (by rw [next]; exact mem_cons_self)).resolve_right
      fun closing => ?_
    obtain stopped | creates := (closing.pop next going).2
    · rw [alive] at stopped
      cases stopped
    · cases creates
  have running := (sound.session_eq listed found).2
  have later : ∀ other ∈ rest, other ∈ a.commands := by
    intro other member
    rw [next]
    exact mem_cons_of_mem _ member
  unfold SubscriptionCache.handleCreate
  dsimp only [Handle.issue]
  split
  · rename_i response subs created
    obtain ⟨same, opened, members, others⟩ := createSubscription_spec created
    rw [same]
    have made : ({ c with
        subscriptionIdHandle :=
          { c.subscriptionIdHandle with
            next := if c.subscriptionIdHandle.next = u32Max then c.subscriptionIdHandle.first
              else c.subscriptionIdHandle.next + 1 }
        drawn := c.subscriptionIdHandle.next :: c.drawn }.setActor n
          { a with commands := rest, subs := subs }).Sound :=
      sound.create listed found fresh rfl
        ⟨running.alive, fun member => running.untold (later _ member)⟩ later members opened others
    exact made.setCall call (inr ⟨n, _, listed, update_self .., opened⟩)
  · rename_i status subs failed
    -- No room: nothing has changed.
    rw [createSubscription_error failed]
    have popped := sound.moves_only found (.handle next going (fun _ member => member)
      (fun _ opened => inl opened) fun _ member => member)
    exact popped.setCall call trivial

theorem Sound.command {nowInstant : ℕ}
    (fresh : c.subscriptionIdHandle.next ∉ c.drawn) (stepped : c.command n nowInstant = some d) :
    d.Sound := by
  obtain ⟨a, found, stepped⟩ := bind_eq_some_iff.mp stepped
  split_ifs at stepped with stopped
  rw [Bool.not_eq_true] at stopped
  split at stepped
  · cases stepped
  · rename_i call creation rest next
    cases stepped
    exact sound.handleCreate found stopped next fresh
  · rename_i service rest next
    exact sound.handleService found next stepped
  · rename_i rest next
    cases stepped
    exact sound.handleStop found next

/-! ### The index and the cleanup task -/

theorem Sound.unindex {ids : List ℕ} (gone : ∀ id ∈ ids, id ∈ c.gone) : (c.unindex ids).Sound := by
  refine ⟨sound.bounded, sound.entry, sound.constructed, sound.holding, sound.waiting,
    sound.members, sound.retired, sound.owner, sound.answered, fun session id member => ?_,
    sound.messages, sound.deleted⟩
  obtain ⟨live, indexed⟩ := sound.good session id member
  refine ⟨live, ?_⟩
  show _ ∨ (if id ∈ ids then none else c.subscriptionToSession id) = some session
  split_ifs with listed
  · exact inl (gone id listed)
  · exact indexed

theorem Sound.removeDeleted {deletion : ℕ}
    (stepped : c.removeDeleted deletion = some d) : d.Sound := by
  obtain ⟨ids, there, rfl⟩ := map_eq_some_iff.mp stepped
  have gone := sound.deleted ids (mem_of_getElem? there)
  have dropped : { c with deletions := c.deletions.eraseIdx deletion }.Sound :=
    ⟨sound.bounded, sound.entry, sound.constructed, sound.holding, sound.waiting, sound.members,
      sound.retired, sound.owner, sound.answered, sound.good, sound.messages,
      fun ids member => sound.deleted ids (mem_of_mem_eraseIdx member)⟩
  exact dropped.unindex gone

theorem Sound.dismiss (listed : c.sessionSubscriptions session = some n)
    (found : c.actors n = some a) (closed : ∀ id, ¬ a.subs.OpenAt id) (idle : ¬ a.Creates) :
    ((c.setEntry session none).push n a .stop).Sound := by
  have own := sound.session_eq listed found
  have kept : ∀ other m, update c.sessionSubscriptions session none other = some m ↔
      other ≠ session ∧ c.sessionSubscriptions other = some m := by
    intro other m
    rw [update_apply]
    split_ifs with same
    · simp [same]
    · simp [same]
  have alone : ∀ other, c.sessionSubscriptions other = some n → other = session :=
    fun other there =>
    (sound.session_eq there found).1.symm.trans own.1
  have closing := SubscriptionActor.Closing.of_not_creates idle
  have others : ∀ m b, m ≠ n → c.actors m = some b → update c.actors n
      (some { a with commands := a.commands ++ [.stop] }) m = some b := by
    intro m b apart there
    rw [update_of_ne apart]
    exact there
  have stays : ∀ other m, m ≠ n → c.sessionSubscriptions other = some m →
      update c.sessionSubscriptions session none other = some m := by
    intro other m apart there
    refine (kept other m).mpr ⟨?_, there⟩
    rintro rfl
    rw [listed, some.injEq] at there
    exact apart there.symm
  have live : ∀ other id, c.LiveIn other id →
      ((c.setEntry session none).push n a .stop).LiveIn other id := by
    rintro other id (gone | ⟨m, b, there, found', opened⟩)
    · exact inl gone
    · have apart : m ≠ n := by
        rintro rfl
        rw [found, some.injEq] at found'
        exact closed id (found' ▸ opened)
      exact inr ⟨m, b, stays other m apart there, others m b apart found', opened⟩
  -- The actor as it was, if it is this one or another.
  have subs : ∀ m b, update c.actors n
      (some { a with commands := a.commands ++ [.stop] }) m = some b →
      ∃ b', c.actors m = some b' ∧ b'.subs = b.subs := by
    intro m b there
    rcases update_eq_some there with ⟨rfl, ⟨⟩⟩ | ⟨-, there⟩
    · exact ⟨a, found, rfl⟩
    · exact ⟨b, there, rfl⟩
  refine ⟨fun m b there => ?_, fun other m listed' => ?_, fun call creation m there => ?_,
    fun call creation m there => ?_, fun m b call creation there member => ?_,
    fun m b id there member => ?_, fun m b id there unlisted member => ?_,
    fun m m' b b' id there there' member member' => ?_,
    fun call other id there => live other id (sound.answered call other id there),
    fun other id member => (sound.good other id member).imp_left (live other id),
    sound.messages, sound.deleted⟩
  · obtain ⟨b', before, -⟩ := subs m b there
    exact sound.bounded m b' before
  · obtain ⟨apart, before⟩ := (kept other m).mp listed'
    obtain ⟨b, there, rest⟩ := sound.entry other m before
    refine ⟨b, others m b ?_ there, rest⟩
    rintro rfl
    exact apart (alone other before)
  · obtain ⟨⟨b, there', rest⟩, unlisted, known⟩ := sound.constructed call creation m there
    refine ⟨⟨b, others m b ?_ there', rest⟩, fun other listed' => ?_, known⟩
    · rintro rfl
      exact unlisted session listed
    · exact unlisted other ((kept other m).mp listed').2
  · obtain ⟨b, there', held⟩ := sound.holding call creation m there
    by_cases same : m = n
    · exact ⟨_, same ▸ update_self .., inr closing⟩
    · exact ⟨b, others m b same there', held.imp_left (stays _ m same)⟩
  · rcases update_eq_some there with ⟨-, ⟨⟩⟩ | ⟨apart, before⟩
    · exact inr closing
    · exact (sound.waiting m b call creation before member).imp_left (stays _ m apart)
  · obtain ⟨b', before, same⟩ := subs m b there
    rw [← same] at member ⊢
    exact sound.members m b' id before member
  · rcases update_eq_some there with ⟨rfl, ⟨⟩⟩ | ⟨apart, before⟩
    · exact (sound.members m a id found member).2.resolve_left (closed id)
    · exact sound.retired m b id before
        (fun other there' => unlisted other (stays other m apart there'))
        member
  · obtain ⟨a₁, before, same⟩ := subs m b there
    obtain ⟨a₂, before', same'⟩ := subs m' b' there'
    exact sound.owner m m' a₁ a₂ id before before' (same ▸ member) (same' ▸ member')

theorem Sound.runCleanup (idle : c.FindsIdle .runCleanup)
    (stepped : c.runCleanup = some d) : d.Sound := by
  unfold SubscriptionCache.runCleanup at stepped
  split at stepped
  · cases stepped
  · rename_i message rest waiting
    have first : message ∈ c.cleanups := by
      rw [waiting]
      exact mem_cons_self
    have received : { c with cleanups := rest }.Sound :=
      ⟨sound.bounded, sound.entry, sound.constructed, sound.holding, sound.waiting, sound.members,
        sound.retired, sound.owner, sound.answered, sound.good,
        fun other member => sound.messages other (by rw [waiting]; exact mem_cons_of_mem _ member),
        sound.deleted⟩
    have cleaned := received.unindex (sound.messages message first)
    dsimp only at stepped
    split_ifs at stepped with ready
    · split at stepped
      · cases stepped
        exact cleaned
      · rename_i n listed
        obtain ⟨a, found, built⟩ := map_eq_some_iff.mp stepped
        have alive := (cleaned.session_eq listed found).2.alive
        rw [alive, if_neg Bool.false_ne_true] at built
        obtain ⟨closed, still⟩ := idle message rest waiting ready n a listed found
        rw [← built]
        exact cleaned.dismiss listed found closed still
    · cases stepped
      exact cleaned

end

theorem Sound.step {op : CacheOp E} (sound : c.Sound) (idle : c.FindsIdle op)
    (stepped : c.step op = some d) : d.Sound := by
  unfold SubscriptionCache.step at stepped
  split_ifs at stepped
  cases op with
  | lookUp call creation userToken nowInstant => exact sound.lookUp stepped
  | register call => exact sound.register stepped
  | send call => exact sound.send stepped
  | conclude call => exact sound.conclude stepped
  | post n service => exact sound.post stepped
  | command n nowInstant =>
    obtain ⟨c', handled, rfl⟩ := map_eq_some_iff.mp stepped
    exact (sound.command idle handled).fallAsleep n nowInstant
  | timer n o =>
    obtain ⟨c', ticked, rfl⟩ := map_eq_some_iff.mp stepped
    exact (sound.timer ticked).fallAsleep n o.nowInstant
  | wake n o =>
    obtain ⟨c', woken, rfl⟩ := map_eq_some_iff.mp stepped
    exact (sound.wake woken).fallAsleep n o.nowInstant
  | removeDeleted deletion => exact sound.removeDeleted stepped
  | runCleanup => exact sound.runCleanup idle stepped

/-! ### Live subscriptions -/

/-- **The session still has the subscription:** there is an entry, its actor has not been stopped,
and the index leads to it. -/
def Keeps (c : SubscriptionCache E) (session id : ℕ) : Prop :=
  (∃ n a, c.sessionSubscriptions session = some n ∧ c.actors n = some a ∧ a.Running) ∧
    c.subscriptionToSession id = some session

/-- **No live subscription loses its session,** in the runs whose messages find the actor idle. -/
theorem live_subscriptions_kept {init c : SubscriptionCache E} {ops : List (CacheOp E)}
    {session id : ℕ} (fresh : FreshCache init)
    (idle : (caches E).Guarded FindsIdle init ops) (ran : (caches E).run init ops = some c)
    (good : (session, id) ∈ c.good) (live : id ∉ c.gone) : c.Keeps session id := by
  have initially : init.Sound := by
    obtain ⟨limits, rfl⟩ := fresh
    exact sound_new limits
  have step : ∀ c op d, c.Sound → c.FindsIdle op → (caches E).step c op = some d → d.Sound :=
    fun _ _ _ sound idle stepped => sound.step idle stepped
  have sound := (caches E).run_invariant_of_guarded step initially idle ran
  obtain ⟨lives, indexed⟩ := sound.good session id good
  obtain ⟨n, a, listed, found, -⟩ := lives.resolve_left live
  exact ⟨⟨n, a, listed, found, (sound.session_eq listed found).2⟩, indexed.resolve_left live⟩

/-- A call of `create_subscription` for session 1 looks its session up. -/
def lookUpInteger (call seconds : ℕ) : CacheOp Externals.integers :=
  .lookUp call
    ⟨1, { requestedPublishingInterval := (1000 : ℤ), requestedLifetimeCount := 3
          requestedMaxKeepAliveCount := 1, maxNotificationsPerPublish := 0
          publishingEnabled := true, priority := 0 }, integerLimits⟩
    ⟨"user", .sign, "application"⟩ (seconds * 1000000000)

def timerAt (seconds : ℕ) : CacheOp Externals.integers :=
  .timer 0 ⟨0, seconds * 1000000000, upwardOrders⟩

def commandAt (actor seconds : ℕ) : CacheOp Externals.integers :=
  .command actor (seconds * 1000000000)

/-- The only subscription of a session expires, and a publish request takes its last message. An
hour later the timer of the actor fires. -/
def leftIdle : List (CacheOp Externals.integers) :=
  [lookUpInteger 0 0, .register 0, .send 0, commandAt 0 0, .conclude 0, timerAt 1, timerAt 2,
    timerAt 3, timerAt 4, .runCleanup, .post 0 (.serve (publishInteger 0) trivial), commandAt 0 4,
    timerAt 3604]

/-- The message is handled, and the session creates a subscription. -/
def cleanedUp : List (CacheOp Externals.integers) :=
  leftIdle ++ [.runCleanup, lookUpInteger 1 3605, .register 1, .send 1, commandAt 1 3605,
    .conclude 1]

def checkIdle {E : Externals} (c : SubscriptionCache E) : CacheOp E → Bool
  | .runCleanup =>
    match c.cleanups with
    | [] => true
    | message :: _ => !message.readyToDelete ||
      ((c.sessionSubscriptions message.sessionId).bind c.actors).all fun a =>
        a.subs.subscriptions.keys.isEmpty && a.commands.isEmpty
  | .command _ _ => c.subscriptionIdHandle.next ∉ c.drawn
  | _ => true

theorem findsIdle_of_check {op : CacheOp E} (checked : c.checkIdle op = true) : c.FindsIdle op := by
  cases op with
  | runCleanup =>
    intro message rest waiting ready n a listed found
    simp only [checkIdle, waiting, ready, listed, found, Bool.not_true, Bool.false_or, bind_some,
      all_some, Bool.and_eq_true, List.isEmpty_iff] at checked
    refine ⟨fun id opened => ?_, fun ⟨call, creation, member⟩ => ?_⟩
    · have listed := AList.mem_keys.mp opened.mem
      rw [checked.1] at listed
      cases listed
    · rw [checked.2] at member
      cases member
  | command n nowInstant =>
    have fresh : decide (c.subscriptionIdHandle.next ∉ c.drawn) = true := checked
    show c.subscriptionIdHandle.next ∉ c.drawn
    exact of_decide_eq_true fresh
  | _ => trivial

theorem live_subscriptions_kept_created :
    ∃ c, (caches _).run (new integerLimits) cleanedUp = some c ∧ c.sessionSubscriptions 1 = some 1 ∧
      c.Keeps 1 2 := by
  obtain ⟨c, ran, good, gone, listed⟩ : ∃ c, (caches _).run (new integerLimits) cleanedUp = some c ∧
      c.good = [(1, 2), (1, 1)] ∧ c.gone = [1] ∧ c.sessionSubscriptions 1 = some 1 :=
    ⟨_, rfl, rfl, rfl, rfl⟩
  have idle : (caches _).Guarded FindsIdle (new integerLimits) cleanedUp :=
    Machine.guarded_of_checks _ (fun _ _ => findsIdle_of_check) rfl
  refine ⟨c, ran, listed, live_subscriptions_kept ⟨_, rfl⟩ idle ran ?_ ?_⟩
  · rw [good]
    exact mem_cons_self
  · rw [gone]
    decide

/-- The session creates a subscription before the message is handled. -/
def createdBefore : List (CacheOp Externals.integers) :=
  leftIdle ++ [lookUpInteger 1 3604, .send 1, commandAt 0 3604, .conclude 1, .runCleanup]

/-- **A message sent before a subscription is created can remove its entry afterwards.** -/
theorem cleanup_orphans_subscription :
    ¬ ∀ (E : Externals) (init c : SubscriptionCache E) (ops : List (CacheOp E)) (session id : ℕ),
      FreshCache init → (caches E).run init ops = some c → (session, id) ∈ c.good → id ∉ c.gone →
      c.Keeps session id := by
  intro always
  obtain ⟨c, ran, good, gone, removed⟩ : ∃ c, (caches _).run (new integerLimits) createdBefore =
      some c ∧ c.good = [(1, 2), (1, 1)] ∧ c.gone = [1] ∧ c.sessionSubscriptions 1 = none :=
    ⟨_, rfl, rfl, rfl, rfl⟩
  obtain ⟨⟨n, a, listed, -⟩, -⟩ := always _ (new integerLimits) c createdBefore 1 2 ⟨_, rfl⟩ ran
    (by rw [good]; exact mem_cons_self) (by rw [gone]; decide)
  rw [removed] at listed
  cases listed

end SubscriptionCache

end AsyncOpcua.Subscriptions
