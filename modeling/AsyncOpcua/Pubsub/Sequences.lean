/-
**The sequence numbers of a writer group, as a reader judges them.**

The dataset messages of all writers of a group are numbered with one counter. A reader takes the
messages of one dataset writer, and expects each number to be the next after the last one it took.
Each message is delivered once and in order. Whether a dataset message can be applied once it is
matched is given, for each one that is sent.

* `lossless_iff` — when a reader counts no gap, no duplicate and nothing out of order.
-/

import AsyncOpcua.Pubsub.Uadp

namespace AsyncOpcua.Pubsub

open Types hiding Variant DataValue

/-! ### What is published -/

inductive MessageEncoding
  | json
  | uadp
  deriving DecidableEq

/-- What a reader sees of a dataset message before it applies it. -/
structure SentDataSet where
  datasetWriterId : UInt16
  sequenceNumber : UInt16

structure SentMessage where
  encoding : MessageEncoding
  publisherId : String
  writerGroupId : UInt16
  datasetMessages : List SentDataSet

structure WriterGroup where
  connectionId : String
  writerGroupId : UInt16
  encoding : MessageEncoding
  datasetWriters : List UInt16

namespace WriterGroup

/-- The dataset messages of one cycle, and the counter after it. -/
def datasetMessages (sequenceNumber : UInt16) : List UInt16 → List SentDataSet × UInt16
  | [] => ([], sequenceNumber)
  | writer :: writers =>
    let next := sequenceNumber + 1
    let (others, last) := datasetMessages next writers
    (⟨writer, next⟩ :: others, last)

/-- The loop of `start_publishing`, with the counter it has reached. -/
def publishFrom (group : WriterGroup) (sequenceNumber : UInt16) : ℕ → List SentMessage
  | 0 => []
  | cycles + 1 =>
    let (messages, next) := datasetMessages sequenceNumber group.datasetWriters
    ⟨group.encoding, group.connectionId, group.writerGroupId, messages⟩ ::
      group.publishFrom next cycles

def publish (group : WriterGroup) (cycles : ℕ) : List SentMessage := group.publishFrom 0 cycles

end WriterGroup

/-! ### Which messages a reader takes -/

structure DataSetReader where
  datasetWriterId : UInt16
  publisherId : Option PublisherId
  writerGroupId : Option UInt16
  networkMessageNumber : Option UInt16
  messageEncoding : MessageEncoding

def PublisherId.isWildcard : PublisherId → Bool
  | .none => true
  | .byte value => value == 0
  | .uint16 value => value == 0
  | .uint32 value => value == 0
  | .uint64 value => value == 0
  | .string value => value == ""

def publisherMatches (expected : Option PublisherId) (actual : PublisherId) : Bool :=
  match expected with
  | none => true
  | some expected => expected.isWildcard || expected == actual

def publisherIdToJsonString : PublisherId → String
  | .none => ""
  | .byte value => toString value.toNat
  | .uint16 value => toString value.toNat
  | .uint32 value => toString value.toNat
  | .uint64 value => toString value.toNat
  | .string value => value

def jsonPublisherMatches (expected : Option PublisherId) (actual : String) : Bool :=
  match expected with
  | none => true
  | some expected => expected.isWildcard || publisherIdToJsonString expected == actual

def optionalU16Matches (expected : Option UInt16) (actual : UInt16) : Bool :=
  match expected with
  | some expected => expected == actual
  | none => true

def datasetWriterMatches (expected actual : UInt16) : Bool := expected == 0 || expected == actual

namespace DataSetReader

def takes (reader : DataSetReader) (message : SentMessage) (sent : SentDataSet) : Bool :=
  match message.encoding with
  | .uadp => reader.messageEncoding == .uadp &&
    publisherMatches reader.publisherId (.string message.publisherId) &&
    optionalU16Matches reader.writerGroupId message.writerGroupId &&
    optionalU16Matches reader.networkMessageNumber 0 &&
    datasetWriterMatches reader.datasetWriterId sent.datasetWriterId
  | .json => reader.messageEncoding == .json &&
    jsonPublisherMatches reader.publisherId message.publisherId &&
    optionalU16Matches reader.writerGroupId message.writerGroupId &&
    datasetWriterMatches reader.datasetWriterId sent.datasetWriterId

end DataSetReader

/-! ### What a reader counts -/

structure DataSetReaderStatus where
  lastSequenceNumber : Option ℕ
  sequenceGapCount : ℕ
  duplicateCount : ℕ
  outOfOrderCount : ℕ

namespace DataSetReaderStatus

def initial : DataSetReaderStatus := ⟨none, 0, 0, 0⟩

/-- **Nothing was missed, repeated or out of order.** -/
def Lossless (status : DataSetReaderStatus) : Prop :=
  status.sequenceGapCount = 0 ∧ status.outOfOrderCount = 0 ∧ status.duplicateCount = 0

instance (status : DataSetReaderStatus) : Decidable status.Lossless :=
  inferInstanceAs (Decidable (_ ∧ _))

def judge (status : DataSetReaderStatus) (last sequenceNumber : UInt16) : DataSetReaderStatus :=
  if sequenceNumber = last then { status with duplicateCount := status.duplicateCount + 1 }
  else if sequenceNumber = last + 1 then status
  else if (sequenceNumber - last).toNat < 65535 / 2 then
    { status with sequenceGapCount := status.sequenceGapCount + 1 }
  else { status with outOfOrderCount := status.outOfOrderCount + 1 }

end DataSetReaderStatus

/-- The first number is not judged. Whether the number is new is of no interest here. -/
def updateSequenceStatus (status : DataSetReaderStatus) (sequenceNumber : UInt16) :
    DataSetReaderStatus :=
  let judged :=
    match status.lastSequenceNumber with
    | none => status
    | some last => status.judge (.ofNat last) sequenceNumber
  { judged with lastSequenceNumber := some sequenceNumber.toNat }

namespace DataSetReader

variable (reader : DataSetReader) (applies : ℕ → Bool)

/-- The dataset messages of a network message, of which the first is the `n`-th that was sent. -/
def receiveDataSets (message : SentMessage) :
    ℕ → List SentDataSet → DataSetReaderStatus → DataSetReaderStatus
  | _, [], status => status
  | n, sent :: others, status =>
    receiveDataSets message (n + 1) others
      (if reader.takes message sent && applies n then
        updateSequenceStatus status sent.sequenceNumber else status)

/-- **All messages, one after another.** -/
def receive : ℕ → List SentMessage → DataSetReaderStatus → DataSetReaderStatus
  | _, [], status => status
  | n, message :: others, status =>
    receive (n + message.datasetMessages.length) others
      (reader.receiveDataSets applies message n message.datasetMessages status)

end DataSetReader

/-! ### The messages by their numbers -/

namespace WriterGroup

/-- The counter after some messages. -/
def counter (n : ℕ) : UInt16 := UInt16.ofNat n

theorem counter_succ (n : ℕ) : counter n + 1 = counter (n + 1) := (UInt16.ofNat_add n 1).symm

theorem datasetMessages_eq : ∀ (n : ℕ) (writers : List UInt16),
    datasetMessages (counter n) writers =
      ((writers.zipIdx n).map fun entry => ⟨entry.1, counter (entry.2 + 1)⟩,
        counter (n + writers.length))
  | n, [] => rfl
  | n, writer :: writers => by
    rw [datasetMessages, counter_succ, datasetMessages_eq (n + 1) writers, List.zipIdx_cons,
      List.map_cons, List.length_cons]
    rw [show n + 1 + writers.length = n + (writers.length + 1) by omega]

end WriterGroup

namespace DataSetReader

variable (reader : DataSetReader) (applies : ℕ → Bool) (group : WriterGroup)

def takesWriter (datasetWriterId : UInt16) : Bool :=
  reader.takes ⟨group.encoding, group.connectionId, group.writerGroupId, []⟩ ⟨datasetWriterId, 0⟩

def applied (n : ℕ) : Bool :=
  match group.datasetWriters[n % group.datasetWriters.length]? with
  | some datasetWriterId => reader.takesWriter group datasetWriterId && applies n
  | none => false

def statusAfter : ℕ → DataSetReaderStatus
  | 0 => .initial
  | n + 1 =>
    if reader.applied applies group n then
      updateSequenceStatus (statusAfter n) (WriterGroup.counter (n + 1))
    else statusAfter n

variable {reader applies group}

theorem receiveDataSets_eq {message : SentMessage} (encoding : message.encoding = group.encoding)
    (publisherId : message.publisherId = group.connectionId)
    (writerGroupId : message.writerGroupId = group.writerGroupId) (cycle : ℕ) :
    ∀ (writers : List UInt16) (i : ℕ), i + writers.length = group.datasetWriters.length →
      (∀ j, writers[j]? = group.datasetWriters[i + j]?) →
      let n := cycle * group.datasetWriters.length + i
      reader.receiveDataSets applies message n
        ((writers.zipIdx n).map fun entry => ⟨entry.1, WriterGroup.counter (entry.2 + 1)⟩)
        (reader.statusAfter applies group n) =
      reader.statusAfter applies group (n + writers.length)
  | [], i, _, _ => rfl
  | writer :: writers, i, length, same => by
    intro n
    rw [List.length_cons] at length
    have place : n % group.datasetWriters.length = i := by
      rw [Nat.mul_add_mod_self_right, Nat.mod_eq_of_lt (by omega)]
    have here : group.datasetWriters[n % group.datasetWriters.length]? = some writer := by
      rw [place]
      exact (same 0).symm
    have takes : reader.takes message ⟨writer, WriterGroup.counter (n + 1)⟩ =
        reader.takesWriter group writer := by
      unfold takesWriter takes
      rw [encoding, publisherId, writerGroupId]
    have step : (if reader.takes message ⟨writer, WriterGroup.counter (n + 1)⟩ && applies n then
        updateSequenceStatus (reader.statusAfter applies group n) (WriterGroup.counter (n + 1))
        else reader.statusAfter applies group n) = reader.statusAfter applies group (n + 1) := by
      rw [statusAfter, applied, here, takes]
    rw [List.zipIdx_cons, List.map_cons, receiveDataSets, step]
    have rest := receiveDataSets_eq encoding publisherId writerGroupId cycle writers (i + 1)
      (by omega) fun j => by
        have next := same (j + 1)
        rwa [List.getElem?_cons_succ, show i + (j + 1) = i + 1 + j by omega] at next
    rw [List.length_cons, show n + (writers.length + 1) = n + 1 + writers.length by omega]
    exact rest

theorem receive_publish (cycles : ℕ) :
    reader.receive applies 0 (group.publish cycles) .initial =
      reader.statusAfter applies group (cycles * group.datasetWriters.length) := by
  have from_ : ∀ cycles cycle,
      reader.receive applies (cycle * group.datasetWriters.length)
        (group.publishFrom (WriterGroup.counter (cycle * group.datasetWriters.length)) cycles)
        (reader.statusAfter applies group (cycle * group.datasetWriters.length)) =
      reader.statusAfter applies group ((cycle + cycles) * group.datasetWriters.length) := by
    intro cycles
    induction cycles with
    | zero => exact fun cycle => rfl
    | succ cycles ih =>
      intro cycle
      rw [WriterGroup.publishFrom, WriterGroup.datasetMessages_eq]
      have one : ∀ messages, reader.receiveDataSets applies
          ⟨group.encoding, group.connectionId, group.writerGroupId, messages⟩
          (cycle * group.datasetWriters.length)
          ((group.datasetWriters.zipIdx (cycle * group.datasetWriters.length)).map fun entry =>
            ⟨entry.1, WriterGroup.counter (entry.2 + 1)⟩)
          (reader.statusAfter applies group (cycle * group.datasetWriters.length)) =
            reader.statusAfter applies group
              (cycle * group.datasetWriters.length + group.datasetWriters.length) :=
        fun messages => receiveDataSets_eq rfl rfl rfl cycle group.datasetWriters 0
          (Nat.zero_add _) fun j => by rw [Nat.zero_add]
      rw [receive]
      rw [one, List.length_map, List.length_zipIdx, ← Nat.succ_mul, ih (cycle + 1)]
      rw [show cycle + 1 + cycles = cycle + (cycles + 1) by omega]
  have whole := from_ cycles 0
  rw [Nat.zero_mul, Nat.zero_add] at whole
  exact whole

end DataSetReader

/-! ### When nothing is counted -/

namespace DataSetReaderStatus

theorem judge_lossless {status : DataSetReaderStatus} {last sequenceNumber : UInt16} :
    (status.judge last sequenceNumber).Lossless ↔
      status.Lossless ∧ sequenceNumber = last + 1 := by
  unfold judge Lossless
  split_ifs with same next ahead
  · subst same
    have moved : sequenceNumber ≠ sequenceNumber + 1 := by
      intro equal
      have numbers := congrArg UInt16.toNat equal
      rw [UInt16.toNat_add] at numbers
      have one : (1 : UInt16).toNat = 1 := rfl
      omega
    simp [moved]
  · simp [next]
  · simp [next]
  · simp [next]

end DataSetReaderStatus

theorem updateSequenceStatus_last (status : DataSetReaderStatus) (sequenceNumber : UInt16) :
    (updateSequenceStatus status sequenceNumber).lastSequenceNumber = some sequenceNumber.toNat :=
  rfl

theorem updateSequenceStatus_lossless {status : DataSetReaderStatus} {sequenceNumber : UInt16} :
    (updateSequenceStatus status sequenceNumber).Lossless ↔ status.Lossless ∧
      ∀ last, status.lastSequenceNumber = some last → sequenceNumber = .ofNat last + 1 := by
  show (match status.lastSequenceNumber with
    | none => status
    | some last => status.judge (.ofNat last) sequenceNumber).Lossless ↔ _
  cases status.lastSequenceNumber with
  | none => exact ⟨fun lossless => ⟨lossless, nofun⟩, fun both => both.1⟩
  | some last =>
    rw [DataSetReaderStatus.judge_lossless]
    constructor
    · rintro ⟨lossless, next⟩
      refine ⟨lossless, ?_⟩
      rintro _ ⟨⟩
      exact next
    · rintro ⟨lossless, next⟩
      exact ⟨lossless, next last rfl⟩

namespace DataSetReader

variable {reader : DataSetReader} {applies : ℕ → Bool} {group : WriterGroup}

/-- The last message that was applied before the `n`-th. -/
def LastApplied (reader : DataSetReader) (applies : ℕ → Bool) (group : WriterGroup) (n m : ℕ) :
    Prop :=
  m < n ∧ reader.applied applies group m = true ∧
    ∀ l, m < l → l < n → reader.applied applies group l = false

/-- **What the reader applies is numbered without seams:** the numbers of two messages that are
applied one after the other follow each other as `u16` values. -/
def Seamless (reader : DataSetReader) (applies : ℕ → Bool) (group : WriterGroup) : Prop :=
  ∀ m n, reader.applied applies group n = true → reader.LastApplied applies group n m →
    n % 65536 = (m + 1) % 65536

theorem LastApplied.unique {n m m' : ℕ} (first : reader.LastApplied applies group n m)
    (second : reader.LastApplied applies group n m') : m = m' := by
  obtain ⟨below, here, between⟩ := first
  obtain ⟨below', here', between'⟩ := second
  obtain lower | same | higher := Nat.lt_trichotomy m m'
  · exact absurd here' (by rw [between m' lower below']; decide)
  · exact same
  · exact absurd here (by rw [between' m higher below]; decide)

theorem LastApplied.skip {n m : ℕ} (skipped : reader.applied applies group n = false) :
    reader.LastApplied applies group (n + 1) m ↔ reader.LastApplied applies group n m := by
  constructor
  · rintro ⟨below, here, between⟩
    have other : m ≠ n := by
      rintro rfl
      rw [here] at skipped
      cases skipped
    exact ⟨by omega, here, fun l above under => between l above (by omega)⟩
  · rintro ⟨below, here, between⟩
    refine ⟨by omega, here, fun l above under => ?_⟩
    obtain inside | rfl := Nat.lt_or_eq_of_le (Nat.le_of_lt_succ under)
    · exact between l above inside
    · exact skipped

theorem statusAfter_last (n last : ℕ) :
    (reader.statusAfter applies group n).lastSequenceNumber = some last ↔
      ∃ m, reader.LastApplied applies group n m ∧ (WriterGroup.counter (m + 1)).toNat = last := by
  induction n with
  | zero => exact ⟨nofun, fun ⟨_, ⟨below, _⟩, _⟩ => absurd below (Nat.not_lt_zero _)⟩
  | succ n ih =>
    rw [statusAfter]
    cases here : reader.applied applies group n with
    | true =>
      rw [if_pos rfl, updateSequenceStatus_last, Option.some.injEq]
      have mine : reader.LastApplied applies group (n + 1) n :=
        ⟨Nat.lt_succ_self n, here, fun l above below => by omega⟩
      exact ⟨fun same => ⟨n, mine, same⟩, fun ⟨m, it, same⟩ => it.unique mine ▸ same⟩
    | false =>
      rw [if_neg (by decide), ih]
      simp [LastApplied.skip here]

/-- **Nothing is counted** as long as the numbers that are applied follow each other. -/
theorem statusAfter_lossless (n : ℕ) : (reader.statusAfter applies group n).Lossless ↔
    ∀ k < n, reader.applied applies group k = true → ∀ m, reader.LastApplied applies group k m →
      k % 65536 = (m + 1) % 65536 := by
  induction n with
  | zero => exact ⟨fun _ k below => absurd below (Nat.not_lt_zero k), fun _ => ⟨rfl, rfl, rfl⟩⟩
  | succ n ih =>
    have next : ∀ m, WriterGroup.counter (n + 1) = .ofNat (WriterGroup.counter (m + 1)).toNat + 1 ↔
        n % 65536 = (m + 1) % 65536 := by
      intro m
      unfold WriterGroup.counter
      rw [UInt16.ofNat_toNat, ← UInt16.toNat_inj, UInt16.toNat_add, UInt16.toNat_ofNat',
        UInt16.toNat_ofNat']
      have one : (1 : UInt16).toNat = 1 := rfl
      omega
    rw [statusAfter]
    cases here : reader.applied applies group n with
    | true =>
      rw [if_pos rfl, updateSequenceStatus_lossless, ih]
      constructor
      · rintro ⟨before, follows⟩ k below applied m last
        obtain under | rfl := Nat.lt_or_eq_of_le (Nat.le_of_lt_succ below)
        · exact before k under applied m last
        · exact (next m).mp (follows _ ((statusAfter_last k _).mpr ⟨m, last, rfl⟩))
      · intro all
        refine ⟨fun k below => all k (by omega), fun last found => ?_⟩
        obtain ⟨m, applied, rfl⟩ := (statusAfter_last n last).mp found
        exact (next m).mpr (all n (Nat.lt_succ_self n) here m applied)
    | false =>
      rw [if_neg (by decide), ih]
      refine ⟨fun before k below applied => ?_, fun all k below => all k (by omega)⟩
      obtain under | rfl := Nat.lt_or_eq_of_le (Nat.le_of_lt_succ below)
      · exact before k under applied
      · rw [here] at applied
        cases applied

theorem writers_of_applied {n : ℕ} (applied : reader.applied applies group n = true) :
    0 < group.datasetWriters.length := by
  unfold DataSetReader.applied at applied
  split at applied
  · have inside := (List.getElem?_eq_some_iff.mp ‹_›).1
    omega
  · cases applied

theorem lossless_iff_seamless :
    (∀ cycles, (reader.receive applies 0 (group.publish cycles) .initial).Lossless) ↔
      reader.Seamless applies group := by
  simp only [receive_publish, statusAfter_lossless]
  constructor
  · intro lossless m n applied last
    have some_ := writers_of_applied applied
    exact lossless (n + 1) n (Nat.lt_of_lt_of_le (Nat.lt_succ_self n)
      (Nat.le_mul_of_pos_right _ some_)) applied m last
  · intro seamless cycles n _ applied m last
    exact seamless m n applied last

/-! ### Groups of several writers -/

theorem applied_iff (all : ∀ n, applies n = true) {n i : ℕ} {datasetWriterId : UInt16}
    (place : n % group.datasetWriters.length = i)
    (here : group.datasetWriters[i]? = some datasetWriterId) :
    reader.applied applies group n = reader.takesWriter group datasetWriterId := by
  unfold applied
  rw [place, here, all n]
  exact Bool.and_true _

theorem applied_add (all : ∀ n, applies n = true) (n : ℕ) :
    reader.applied applies group (n + group.datasetWriters.length) =
      reader.applied applies group n := by
  unfold applied
  rw [Nat.add_mod_right, all (n + group.datasetWriters.length), all n]

theorem exists_lastApplied {a n : ℕ} (below : a < n)
    (here : reader.applied applies group a = true) :
    ∃ m, a ≤ m ∧ reader.LastApplied applies group n m := by
  induction n with
  | zero => exact absurd below (Nat.not_lt_zero a)
  | succ n ih =>
    cases last : reader.applied applies group n with
    | true => exact ⟨n, by omega, Nat.lt_succ_self n, last, fun l above under => by omega⟩
    | false =>
      have other : a ≠ n := by
        rintro rfl
        rw [here] at last
        cases last
      obtain ⟨m, from_, found⟩ := ih (by omega)
      exact ⟨m, from_, (LastApplied.skip last).mpr found⟩

/-- **A reader of a group sees no seams exactly if it takes all writers of the group,** if all that
is matched is applied and at least one writer is taken. -/
theorem seamless_iff (all : ∀ n, applies n = true)
    (few : group.datasetWriters.length ≤ 65536)
    (bound : ∃ datasetWriterId ∈ group.datasetWriters, reader.takesWriter group datasetWriterId) :
    reader.Seamless applies group ↔
      ∀ datasetWriterId ∈ group.datasetWriters, reader.takesWriter group datasetWriterId := by
  obtain ⟨mine, mem, takes⟩ := bound
  obtain ⟨i, inside, here⟩ := List.mem_iff_getElem.mp mem
  have at_i : group.datasetWriters[i]? = some mine := List.getElem?_eq_some_iff.mpr ⟨inside, here⟩
  set k := group.datasetWriters.length with size
  have applied_i : ∀ cycle, reader.applied applies group (cycle * k + i) = true := by
    intro cycle
    have place : (cycle * k + i) % k = i := by
      rw [Nat.mul_add_mod_self_right, Nat.mod_eq_of_lt inside]
    rw [applied_iff all place at_i]
    exact takes
  constructor
  · intro seamless other mem'
    by_contra refused
    obtain ⟨j, inside', there⟩ := List.mem_iff_getElem.mp mem'
    have at_j : group.datasetWriters[j]? = some other :=
      List.getElem?_eq_some_iff.mpr ⟨inside', there⟩
    have skipped : reader.applied applies group (1 * k + j) = false := by
      have place : (1 * k + j) % k = j := by
        rw [Nat.mul_add_mod_self_right, Nat.mod_eq_of_lt inside']
      rw [applied_iff all place at_j]
      exact Bool.eq_false_iff.mpr refused
    -- The last message applied before the one that is skipped, and the first one after it.
    obtain ⟨m, -, last⟩ := exists_lastApplied (n := 1 * k + j) (by omega) (applied_i 0)
    have later : ∃ n, 1 * k + j < n ∧ reader.applied applies group n = true :=
      ⟨2 * k + i, by omega, applied_i 2⟩
    obtain ⟨n, ⟨after, applied⟩, first⟩ : ∃ n, (1 * k + j < n ∧
        reader.applied applies group n = true) ∧
        ∀ l < n, ¬ (1 * k + j < l ∧ reader.applied applies group l = true) :=
      ⟨Nat.find later, Nat.find_spec later, fun l => Nat.find_min later⟩
    have between : reader.LastApplied applies group n m := by
      refine ⟨Nat.lt_trans last.1 after, last.2.1, fun l above under => ?_⟩
      obtain lower | same | higher := Nat.lt_trichotomy l (1 * k + j)
      · exact last.2.2 l above lower
      · exact same ▸ skipped
      · exact Bool.eq_false_iff.mpr fun here => first l under ⟨higher, here⟩
    -- A cycle after the last one at the latest there is another one.
    have soon : n ≤ m + k := by
      by_contra far
      have again : reader.applied applies group (m + k) = true :=
        (applied_add all m).trans last.2.1
      have apart := between.2.2 (m + k) (by omega) (by omega)
      rw [again] at apart
      cases apart
    have close := seamless m n applied between
    have before := last.1
    omega
  · intro every m n _ ⟨below, _, between⟩
    have next : n = m + 1 := by
      by_contra apart
      have gap := between (m + 1) (Nat.lt_succ_self m) (by omega)
      have inside' : (m + 1) % k < k := Nat.mod_lt _ (by omega)
      rw [applied_iff all rfl (List.getElem?_eq_getElem inside'),
        every _ (List.getElem_mem inside')] at gap
      cases gap
    rw [next]

/-- **Lossless delivery is seen as lossless,** after any number of cycles, exactly if what the
reader applies is numbered without seams; if all that is matched is applied, exactly if the reader
takes all writers of the group. -/
theorem lossless_iff (reader : DataSetReader) (applies : ℕ → Bool) (group : WriterGroup) :
    ((∀ cycles, (reader.receive applies 0 (group.publish cycles) .initial).Lossless) ↔
      reader.Seamless applies group) ∧
    ((∀ n, applies n = true) → group.datasetWriters.length ≤ 65536 →
      (∃ datasetWriterId ∈ group.datasetWriters, reader.takesWriter group datasetWriterId) →
      ((∀ cycles, (reader.receive applies 0 (group.publish cycles) .initial).Lossless) ↔
        ∀ datasetWriterId ∈ group.datasetWriters, reader.takesWriter group datasetWriterId)) :=
  ⟨lossless_iff_seamless, fun all few bound =>
    lossless_iff_seamless.trans (seamless_iff all few bound)⟩

def pressGroup (datasetWriters : List UInt16) : WriterGroup :=
  ⟨"press", 1, .uadp, datasetWriters⟩

def pressReader : DataSetReader := ⟨10, some (.string "press"), some 1, none, .uadp⟩

theorem pressReader_lossless (cycles : ℕ) :
    (pressReader.receive (fun _ => true) 0
      ((pressGroup [10]).publish cycles) .initial).Lossless := by
  have iff := (lossless_iff pressReader (fun _ => true) (pressGroup [10])).2 (fun _ => rfl)
    (by decide) ⟨10, by decide, by decide⟩
  exact iff.mpr (List.forall_mem_singleton.mpr (by decide)) cycles

/-- **A second writer in the group is a gap in each cycle.** -/
theorem pressReader_gap : ¬ ∀ cycles,
    (pressReader.receive (fun _ => true) 0 ((pressGroup [10, 11]).publish cycles)
      .initial).Lossless := by
  intro lossless
  exact absurd (lossless 2) (by decide)

end DataSetReader

end AsyncOpcua.Pubsub
