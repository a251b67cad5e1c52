/-
**Notifications and the messages that carry them to the client.**

* `NotificationMessage.Carries` — a message carries one notification.
-/

import AsyncOpcua.Types.DataValue

namespace AsyncOpcua.Types

structure MonitoredItemNotification (E : Externals) where
  clientHandle : ℕ
  value : E.DataValue

/-- An entry of a monitored item's queue. -/
inductive Notification (E : Externals) where
  | monitoredItemNotification (notification : MonitoredItemNotification E)
  | event (fields : E.EventFieldList)

/-- One extension object in a message's notification data. -/
inductive NotificationData (E : Externals) where
  | dataChangeNotification (monitoredItems : List (MonitoredItemNotification E))
  | eventNotificationList (events : List E.EventFieldList)
  | statusChangeNotification (status : StatusCode)

structure NotificationMessage (E : Externals) where
  sequenceNumber : ℕ
  publishTime : ℤ
  notificationData : Option (List (NotificationData E))

variable {E : Externals}

namespace NotificationMessage

/-- `NotificationMessage::data_change`: data changes first, events second, empty groups left out. -/
def dataChange (sequenceNumber : ℕ) (publishTime : ℤ)
    (dataChangeNotifications : List (MonitoredItemNotification E))
    (eventNotifications : List E.EventFieldList) : NotificationMessage E where
  sequenceNumber := sequenceNumber
  publishTime := publishTime
  notificationData := some
    ((if dataChangeNotifications.isEmpty then []
      else [.dataChangeNotification dataChangeNotifications]) ++
     (if eventNotifications.isEmpty then [] else [.eventNotificationList eventNotifications]))

def statusChange (sequenceNumber : ℕ) (publishTime : ℤ) (status : StatusCode) :
    NotificationMessage E where
  sequenceNumber := sequenceNumber
  publishTime := publishTime
  notificationData := some [.statusChangeNotification status]

def keepAlive (sequenceNumber : ℕ) (publishTime : ℤ) : NotificationMessage E where
  sequenceNumber := sequenceNumber
  publishTime := publishTime
  notificationData := none

def CarriesData (message : NotificationMessage E) : Prop := message.notificationData ≠ none

instance (message : NotificationMessage E) : Decidable message.CarriesData :=
  match data : message.notificationData with
  | none => isFalse fun carries => carries data
  | some _ => isTrue (by rw [CarriesData, data]; exact Option.some_ne_none _)

def Carries (message : NotificationMessage E) : Notification E → Prop
  | .monitoredItemNotification notification => ∃ data ∈ message.notificationData, ∃ monitoredItems,
      .dataChangeNotification monitoredItems ∈ data ∧ notification ∈ monitoredItems
  | .event fields => ∃ data ∈ message.notificationData, ∃ events,
      .eventNotificationList events ∈ data ∧ fields ∈ events

theorem dataChange_carries {sequenceNumber : ℕ} {publishTime : ℤ}
    {dataChangeNotifications : List (MonitoredItemNotification E)}
    {eventNotifications : List E.EventFieldList} {notification : Notification E}
    (listed : match notification with
      | .monitoredItemNotification change => change ∈ dataChangeNotifications
      | .event fields => fields ∈ eventNotifications) :
    (dataChange sequenceNumber publishTime dataChangeNotifications eventNotifications).Carries
      notification := by
  cases notification with
  | monitoredItemNotification change =>
    have some : dataChangeNotifications.isEmpty = false := by
      cases dataChangeNotifications with
      | nil => cases listed
      | cons => rfl
    exact ⟨_, rfl, dataChangeNotifications, by simp [some], listed⟩
  | event fields =>
    have some : eventNotifications.isEmpty = false := by
      cases eventNotifications with
      | nil => cases listed
      | cons => rfl
    exact ⟨_, rfl, eventNotifications, by simp [some], listed⟩

end NotificationMessage

end AsyncOpcua.Types
