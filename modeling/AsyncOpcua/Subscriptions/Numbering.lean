/-
**Which numbers the messages of a subscription carry.**

* `tick_makes` — a tick numbers the messages with data that it makes, and nothing else.
-/

import AsyncOpcua.Subscriptions.SessionAdvance

namespace AsyncOpcua.Subscriptions

open Types Foundation Option Or

variable {E : Externals}

/-! ### Successive numbers -/

/-- The factory after some numbers were drawn. -/
def Handle.issues (handle : Handle) : ℕ → Handle
  | 0 => handle
  | count + 1 => (handle.issues count).issue.2

theorem Handle.issues_issues (handle : Handle) (first second : ℕ) :
    (handle.issues first).issues second = handle.issues (first + second) := by
  induction second with
  | zero => rfl
  | succ second ih => exact congrArg (·.issue.2) ih

theorem Handle.new_issues {count : ℕ} (few : count < u32Max) :
    ((Handle.new 1).issues count).next = count + 1 := by
  induction count with
  | zero => rfl
  | succ count ih =>
    have next := ih (Nat.lt_of_succ_lt few)
    have below : ((Handle.new 1).issues count).next ≠ u32Max := by omega
    show (if _ then _ else _) = _
    rw [if_neg below, next]

def Numbered (handle : Handle) (messages : List (NotificationMessage E)) : Prop :=
  ∀ place message, messages[place]? = some message →
    message.sequenceNumber = (handle.issues place).next

theorem numbered_nil (handle : Handle) : Numbered handle ([] : List (NotificationMessage E)) := by
  rintro place message there
  cases there

variable {handle : Handle}

theorem numbered_singleton {message : NotificationMessage E}
    (next : message.sequenceNumber = handle.next) : Numbered handle [message] := by
  rintro (_ | place) other there
  · cases there
    exact next
  · cases there

theorem Numbered.append {first second : List (NotificationMessage E)}
    (before : Numbered handle first) (after : Numbered (handle.issues first.length) second) :
    Numbered handle (first ++ second) := by
  intro place message there
  by_cases early : place < first.length
  · rw [List.getElem?_append_left early] at there
    exact before place message there
  · rw [List.getElem?_append_right (Nat.not_lt.mp early)] at there
    have next := after _ message there
    rw [Handle.issues_issues] at next
    rwa [Nat.add_sub_cancel' (Nat.not_lt.mp early)] at next

open List

variable {messages : List (NotificationMessage E)}

theorem Numbered.eq_of_sequenceNumber
    (numbered : Numbered (.new 1) messages) (few : messages.length ≤ u32Max)
    {first second : NotificationMessage E} (left : first ∈ messages) (right : second ∈ messages)
    (same : first.sequenceNumber = second.sequenceNumber) : first = second := by
  obtain ⟨i, one⟩ := mem_iff_getElem?.mp left
  obtain ⟨j, other⟩ := mem_iff_getElem?.mp right
  have within : ∀ place message, messages[place]? = some message → place < u32Max := by
    intro place message there
    obtain ⟨inside, -⟩ := List.getElem?_eq_some_iff.mp there
    omega
  have numbers := numbered i first one
  rw [same, numbered j second other, Handle.new_issues (within i first one),
    Handle.new_issues (within j second other)] at numbers
  have places : i = j := by omega
  rw [places, other] at one
  exact (some.inj one).symm

/-! ### One scan -/

namespace Scan

/-- The messages of the scan carry the next numbers of the factory, and that is what it drew. -/
def Counts (handle : Handle) (scan : Scan E) : Prop :=
  Numbered handle scan.messages ∧ scan.sequenceNumbers = handle.issues scan.messages.length

variable {handle : Handle} {scan : Scan E}

section

variable (counts : scan.Counts handle)
include counts

theorem Counts.flush (now : ℤ) : (scan.flush now).Counts handle := by
  obtain ⟨numbered, factory⟩ := counts
  refine ⟨numbered.append (numbered_singleton ?_), ?_⟩
  · rw [← factory]
    rfl
  · show scan.sequenceNumbers.issue.2 = handle.issues (scan.messages ++ [_]).length
    rw [factory, length_append]
    rfl

theorem Counts.push (maxNotifications : ℕ) (now : ℤ) (notification : Notification E) :
    (scan.push maxNotifications now notification).Counts handle := by
  have collected :
      Counts handle { scan with notifications := scan.notifications ++ [notification] } :=
    counts
  unfold Scan.push
  dsimp only
  split_ifs
  · exact collected.flush now
  · exact collected

theorem Counts.foldl_push (maxNotifications : ℕ) (now : ℤ) (popped : List (Notification E)) :
    (popped.foldl (Scan.push maxNotifications now) scan).Counts handle := by
  induction popped generalizing scan with
  | nil => exact counts
  | cons notification rest ih => exact ih (counts.push maxNotifications now notification)

theorem Counts.addTriggers (fires : Bool) (item : MonitoredItem E) :
    (scan.addTriggers fires item).Counts handle := by
  unfold Scan.addTriggers
  split_ifs
  · exact counts
  · exact counts

end

end Scan

section

variable {now : ℤ} {resendData : Bool} {maxNotifications : ℕ} {handle : Handle}
  {scan scan' : Scan E} (counts : scan.Counts handle)
include counts

theorem tickMonitoredItem_counts {item after : MonitoredItem E}
    (ticked : tickMonitoredItem item now resendData maxNotifications scan = some (after, scan')) :
    scan'.Counts handle := by
  obtain ⟨⟨fires, prepared⟩, -, built⟩ := map_eq_some_iff.mp ticked
  dsimp only at built
  split_ifs at built
  · rw [← (Prod.mk.inj built).2]
    exact (counts.addTriggers fires prepared).foldl_push _ _ _
  · rw [← (Prod.mk.inj built).2]
    exact counts.addTriggers fires prepared

theorem scanItems_counts {ids : List ℕ} {items items' : ItemMap E}
    (scanned : scanItems now resendData maxNotifications ids items scan = some (items', scan')) :
    scan'.Counts handle := by
  induction ids generalizing items scan with
  | nil =>
    cases scanned
    exact counts
  | cons first rest ih =>
    rw [scanItems] at scanned
    split at scanned
    · exact ih counts scanned
    · obtain ⟨⟨after, middle⟩, ticked, scanned⟩ := bind_eq_some_iff.mp scanned
      exact ih (tickMonitoredItem_counts counts ticked) scanned

end

theorem handleTriggers_counts (now : ℤ) (maxNotifications : ℕ) (triggers : List (ℕ × ℕ))
    (items : ItemMap E) {scan : Scan E} (counts : scan.Counts handle) :
    (handleTriggers now maxNotifications triggers items scan).2.Counts handle := by
  induction triggers generalizing items scan with
  | nil => exact counts
  | cons trigger rest ih =>
    rw [handleTriggers]
    split
    · exact ih _ counts
    · exact ih _ (counts.foldl_push _ _ _)

/-! ### One subscription -/

namespace Subscription

variable {s t : Subscription E} {now : ℤ} {visit : VisitOrder}

theorem tickMonitoredItems_numbered {resendData : Bool}
    (scanned : s.tickMonitoredItems now resendData visit = some (messages, t)) :
    Numbered s.sequenceNumber messages ∧
      t.sequenceNumber = s.sequenceNumber.issues messages.length := by
  obtain ⟨⟨items, scan⟩, scannedItems, built⟩ := map_eq_some_iff.mp scanned
  obtain ⟨rfl, rfl⟩ := built
  have begins : (⟨[], [], [], s.sequenceNumber⟩ : Scan E).Counts s.sequenceNumber :=
    ⟨numbered_nil _, rfl⟩
  have linked := handleTriggers_counts now s.maxNotificationsPerPublish scan.triggers items
    (scanItems_counts begins scannedItems)
  dsimp only
  split_ifs
  · exact linked
  · exact linked.flush now

/-- **What is made of a subscription** while it becomes another one: messages with data, which carry
the next numbers; those that wait or were taken with data waited before or were made. -/
structure Makes (s : Subscription E) (made taken : List (NotificationMessage E))
    (t : Subscription E) : Prop where
  id : t.id = s.id
  numbered : Numbered s.sequenceNumber made
  counter : t.sequenceNumber = s.sequenceNumber.issues made.length
  waiting : ∀ m ∈ t.notifications, m.CarriesData → m ∈ s.notifications ∨ m ∈ made
  taken : ∀ m ∈ taken, m.CarriesData → m ∈ s.notifications ∨ m ∈ made

theorem Altered.makes (altered : s.Altered t) : s.Makes [] [] t where
  id := altered.id
  numbered := numbered_nil _
  counter := altered.sequenceNumber
  waiting m there _ := inl (altered.notifications ▸ there)
  taken m there := by cases there

theorem Makes.trans {u : Subscription E} {made more taken further : List (NotificationMessage E)}
    (first : s.Makes made taken t) (second : t.Makes more further u) :
    s.Makes (made ++ more) (taken ++ further) u where
  id := second.id.trans first.id
  numbered := first.numbered.append (first.counter ▸ second.numbered)
  counter := by rw [second.counter, first.counter, Handle.issues_issues, length_append]
  waiting m there data := by
    obtain before | here := second.waiting m there data
    · exact (first.waiting m before data).imp_right (mem_append_left more)
    · exact inr (mem_append_right made here)
  taken m there data := by
    obtain early | late := mem_append.mp there
    · exact (first.taken m early data).imp_right (mem_append_left more)
    · obtain before | here := second.taken m late data
      · exact (first.waiting m before data).imp_right (mem_append_left more)
      · exact inr (mem_append_right made here)

theorem enforceQueuedNotificationLimit_frame (s : Subscription E) :
    s.enforceQueuedNotificationLimit.id = s.id ∧
      s.enforceQueuedNotificationLimit.sequenceNumber = s.sequenceNumber ∧
      ∀ m ∈ s.enforceQueuedNotificationLimit.notifications, m ∈ s.notifications := by
  unfold enforceQueuedNotificationLimit
  split_ifs
  · exact ⟨rfl, rfl, fun _ there => there⟩
  · exact ⟨rfl, rfl, fun _ there => mem_of_mem_drop there⟩

theorem makes_enqueued {made queued : List (NotificationMessage E)} (id : t.id = s.id)
    (numbered : Numbered s.sequenceNumber made)
    (counter : t.sequenceNumber = s.sequenceNumber.issues made.length)
    (notifications : t.notifications = s.notifications ++ queued)
    (data : ∀ m ∈ queued, m.CarriesData → m ∈ made) :
    s.Makes made [] t.enforceQueuedNotificationLimit := by
  obtain ⟨same, numbers, kept⟩ := t.enforceQueuedNotificationLimit_frame
  refine ⟨same.trans id, numbered, numbers.trans counter, fun m there carries => ?_, ?_⟩
  · have before := kept m there
    rw [notifications] at before
    exact (mem_append.mp before).imp_right fun fresh => data m fresh carries
  · rintro m ⟨⟩

/-- No item is marked for the next scan, and none is to be resent. -/
def Unmarked (s : Subscription E) : Prop := s.resendData = false ∧ s.notifiedMonitoredItems = ∅

instance (s : Subscription E) : Decidable s.Unmarked := inferInstanceAs (Decidable (_ ∧ _))

/-- What an action makes; a scan that visits no item makes nothing. -/
theorem perform_makes {action : UpdateStateAction} {result : TickResult}
    (performed : s.perform action now visit = some (result, t)) :
    ∃ made, s.Makes made [] t ∧ (action ≠ .subscriptionExpired →
      (action = .returnNotifications → s.Unmarked) → made = []) := by
  cases action with
  | none | subscriptionCreated =>
    cases performed
    exact ⟨[], (Altered.refl s).makes, fun _ _ => rfl⟩
  | returnKeepAlive =>
    cases performed
    refine ⟨[], makes_enqueued rfl (numbered_nil _) rfl rfl ?_, fun _ _ => rfl⟩
    rintro m there carries
    rw [mem_singleton.mp there] at carries
    exact absurd rfl carries
  | subscriptionExpired =>
    cases performed
    exact ⟨_, makes_enqueued rfl (numbered_singleton rfl) rfl rfl fun m there _ => there,
      fun stays => absurd rfl stays⟩
  | returnNotifications =>
    obtain ⟨⟨messages, u⟩, scanned, enqueued⟩ := map_eq_some_iff.mp performed
    cases enqueued
    rw [foldl_enqueueNotification]
    obtain ⟨numbered, counter⟩ := tickMonitoredItems_numbered scanned
    obtain ⟨-, waiting, -⟩ := tickMonitoredItems_control scanned
    have own : u.id = s.id := by
      obtain ⟨result, -, built⟩ := map_eq_some_iff.mp scanned
      rw [Prod.mk.injEq] at built
      rw [← built.2]
    refine ⟨messages, makes_enqueued own numbered counter ?_ fun m there _ => there,
      fun _ unmarked => ?_⟩
    · exact congrArg (· ++ messages) waiting
    · obtain ⟨resent, notified⟩ := unmarked rfl
      have none : visit.order ∅ = [] :=
        eq_nil_iff_forall_not_mem.mpr fun id member =>
          Finset.notMem_empty id ((visit.mem_order ∅ id).mp member)
      simp only [tickMonitoredItems, visited, resent, notified, none, scanItems, handleTriggers,
        Bool.false_eq_true, if_false, map_some, List.isEmpty_nil, if_true] at scanned
      exact (Prod.mk.inj (some.inj scanned)).1.symm

theorem handleStateTransition_altered (s : Subscription E) (transition : HandledState) :
    s.Altered (s.handleStateTransition transition).2 := by
  cases transition <;> exact ⟨rfl, rfl, rfl⟩

theorem restart_altered (s : Subscription E) (nowInstant : ℕ) (tickReason : TickReason) :
    s.Altered (s.restart nowInstant tickReason) := by
  unfold restart
  split_ifs <;> exact ⟨rfl, rfl, rfl⟩

/-- **A tick of the subscription draws numbers:** it closes the subscription, or it returns the
notifications of items that are marked. -/
def Numbers (s : Subscription E) (nowInstant : ℕ) (tickReason : TickReason) (queued : Bool) :
    Prop :=
  (tickReason = .tickTimerFired → s.Elapsed nowInstant) ∧
    match s.row tickReason queued with
    | .closed27 => True
    | .normal5 | .intervalElapsed6 | .late10 | .keepAlive14 => ¬ s.Unmarked
    | _ => False

theorem handleStateTransition_unmarked (nowInstant : ℕ) (tickReason : TickReason)
    (transition : HandledState) (unmarked : s.Unmarked) :
    ((s.restart nowInstant tickReason).handleStateTransition transition).2.Unmarked := by
  unfold restart
  split_ifs <;> cases transition <;> exact unmarked

theorem tick_makes {nowInstant : ℕ} {tickReason : TickReason} {queued : Bool}
    {result : TickResult}
    (ticked : s.tick now nowInstant tickReason queued visit = some (result, t)) :
    ∃ made, s.Makes made [] t ∧ (¬ s.Numbers nowInstant tickReason queued → made = []) := by
  rw [tick_eq] at ticked
  split_ifs at ticked with idle
  · cases ticked
    exact ⟨[], (Altered.refl s).makes, fun _ => rfl⟩
  · have moved : s.Altered ((s.restart nowInstant tickReason).handleStateTransition
        (s.row tickReason queued)).2 :=
      (s.restart_altered nowInstant tickReason).trans (handleStateTransition_altered _ _)
    obtain ⟨made, makes, silent⟩ := perform_makes ticked
    refine ⟨made, moved.makes.trans makes, fun quiet => ?_⟩
    replace quiet : ¬ match s.row tickReason queued with
        | .closed27 => True
        | .normal5 | .intervalElapsed6 | .late10 | .keepAlive14 => ¬ s.Unmarked
        | _ => False :=
      fun draws => quiet ⟨fun timer => not_not.mp fun early => idle ⟨timer, early⟩, draws⟩
    refine silent (fun expires => ?_) fun returns => ?_
    · cases applies : s.row tickReason queued <;> rw [applies] at expires <;> cases expires
      rw [applies] at quiet
      exact quiet trivial
    · refine handleStateTransition_unmarked nowInstant tickReason _ ?_
      cases applies : s.row tickReason queued <;> rw [applies] at returns <;> cases returns <;>
        · rw [applies] at quiet
          exact not_not.mp quiet

/-- A tick that draws no number. -/
def Silent : TickCondition E :=
  fun s nowInstant reason queued => ¬ s.Numbers nowInstant reason queued

/-- **Whatever a subscription becomes,** it has made numbered messages; none in quiet ticks. -/
theorem Becomes.makes {P : TickCondition E} {taken : List (NotificationMessage E)}
    (becomes : s.Becomes P taken t) :
    ∃ made, s.Makes made taken t ∧ (P = Silent → made = []) := by
  induction becomes with
  | refl => exact ⟨[], (Altered.refl s).makes, fun _ => rfl⟩
  | alter _ altered ih =>
    obtain ⟨made, makes, quiet⟩ := ih
    have next := makes.trans altered.makes
    rw [append_nil, append_nil] at next
    exact ⟨made, next, quiet⟩
  | tick _ meets ticked ih =>
    obtain ⟨made, makes, quiet⟩ := ih
    obtain ⟨more, next, silent⟩ := tick_makes ticked
    have both := makes.trans next
    rw [append_nil] at both
    refine ⟨made ++ more, both, fun same => ?_⟩
    rw [quiet same, silent (by subst same; exact meets), nil_append]
  | take _ took ih =>
    obtain ⟨made, makes, quiet⟩ := ih
    rename_i t u message _
    have next : t.Makes [] [message] u := by
      unfold takeNotification at took
      split at took
      · cases took
      · rename_i oldest rest waiting
        cases took
        refine ⟨rfl, numbered_nil _, rfl, fun m there _ => inl ?_, fun m there _ => inl ?_⟩
        · rw [waiting]
          exact mem_cons_of_mem _ there
        · rw [waiting, mem_singleton.mp there]
          exact mem_cons_self
    have both := makes.trans next
    rw [append_nil] at both
    exact ⟨made, both, quiet⟩

end Subscription

namespace SessionSubscriptions

/-! ### One session -/

/-- **What a session makes of a subscription** in one operation: nothing, where it has no copy or
one that is staged for transfer. -/
structure Makes (id : ℕ) (s t : SessionSubscriptions E) (made : List (NotificationMessage E)) :
    Prop where
  idle : s.copy id = none ∨ id ∈ s.transferring → made = []
  numbered : ∀ sub, s.copy id = some sub → Numbered sub.sequenceNumber made
  copies : ∀ sub', t.copy id = some sub' → ∃ sub, s.copy id = some sub ∧ sub'.id = sub.id ∧
    sub'.sequenceNumber = sub.sequenceNumber.issues made.length ∧
    ∀ m ∈ sub'.notifications, m.CarriesData → m ∈ sub.notifications ∨ m ∈ made
  published : ∀ m ∈ t.published id, m.CarriesData → m ∈ s.published id ∨ m ∈ s.owed id ∨
    (∃ sub, s.copy id = some sub ∧ m ∈ sub.notifications) ∨ m ∈ made

/-- **Every operation that leaves the transfer alone** makes something of the subscription. -/
theorem makes_of_advances {P : Proviso E} {id : ℕ} {s t : SessionSubscriptions E}
    (advances : s.Advances P id t) :
    ∃ made, s.Makes id t made ∧ (P.ticks = Subscription.Silent → made = []) := by
  by_cases staged : id ∈ s.transferring
  · obtain ⟨-, published, altered⟩ := advances.staged staged
    refine ⟨[], ⟨fun _ => rfl, fun _ _ => numbered_nil _, fun sub' there => ?_,
      fun m there _ => (published m there).imp_right inl⟩, fun _ => rfl⟩
    obtain ⟨sub, before, altered⟩ := altered sub' there
    exact ⟨sub, before, altered.id, altered.sequenceNumber,
      fun m there _ => inl (altered.notifications ▸ there)⟩
  · cases before : s.copy id with
    | none =>
      obtain ⟨none, published⟩ := advances.absent before
      refine ⟨[], ⟨fun _ => rfl, fun _ _ => numbered_nil _, fun sub' there => ?_,
        fun m there _ => (published m there).imp_right fun due => inl due.2⟩, fun _ => rfl⟩
      cases none.symm.trans there
    | some sub =>
      obtain ⟨taken, sub', becomes, after, published⟩ := advances.present sub before
      obtain ⟨made, makes, quiet⟩ := becomes.makes
      refine ⟨made, ⟨fun idle => ?_, fun other same => ?_, fun other there => ?_,
        fun m there data => ?_⟩, quiet⟩
      · obtain none | staged' := idle
        · cases none.symm.trans before
        · exact absurd staged' staged
      · cases before.symm.trans same
        exact makes.numbered
      · obtain none | there' := after
        · cases none.symm.trans there
        · cases there'.symm.trans there
          exact ⟨sub, before, makes.id, makes.counter, makes.waiting⟩
      · obtain old | due | took := published m there
        · exact inl old
        · exact inr (inl due)
        · obtain waited | fresh := makes.taken m took data
          · exact inr (inr (inl ⟨sub, before, waited⟩))
          · exact inr (inr (inr fresh))

end SessionSubscriptions

end AsyncOpcua.Subscriptions
