import ClusterChat.Client.Login
import ClusterChat.Orderer.Batch
import ClusterChat.Orderer.Guarantees
import ClusterChat.Server.OfflineMessages

/-
  Stored messages from the server's table to the client's
  screen: the login sorts them, the client replays them as
  one batch on a fresh orderer.

  The batch is sorted by conversation and number, so each
  channel sees ascending numbers.  It displays their first
  run at once and the second when the batch ends; a third
  run stays pending.

  Main declarations:
    * `StoredMessage`
    * `Delivered`
    * `batch_channel`
    * `offline_delivery_complete_iff`
-/

------------------------------------------------------------
-- Stored Messages
------------------------------------------------------------

namespace ClusterChat

open ConsecutiveRun

open ConversationOrderer

/- A message that a chat handler stamped and stored. -/
structure StoredMessage where
  conv : String
  seq : Nat
  time : Timestamp
  frame : JsonObject

namespace StoredMessage

/- The stamped message. -/
def message (m : StoredMessage) : Json :=
  .object (ChatService.stamp m.conv m.seq m.time m.frame)

/- What identifies a message. -/
def key (m : StoredMessage) : String × Nat :=
  (m.conv, m.seq)

/- The text in the table. -/
def payload
    (codec : JsonCodec)
    (m : StoredMessage) : String :=
  codec.dump m.message

/- The message as the client reads it. -/
def delivered (m : StoredMessage) : Json :=
  m.message.normalize

@[simp] theorem numbered?_delivered (m : StoredMessage) :
    m.delivered.numbered? = some m.key :=
  Json.numbered?_normalize
    (ChatService.numbered?_stamp _ _ _ _)

/- The item that sorting reads from the payload. -/
def item
    (codec : JsonCodec)
    (m : StoredMessage) : ChatService.Item where
  raw := m.payload codec
  conv := m.conv
  seq := m.seq
  ok := true

/- The order in which messages are handed over. -/
def NotAfter (a b : StoredMessage) : Prop :=
  a.conv < b.conv ∨ a.conv = b.conv ∧ a.seq ≤ b.seq

instance : DecidableRel NotAfter :=
  fun a b =>
    inferInstanceAs
      (Decidable
        (a.conv < b.conv ∨ a.conv = b.conv ∧ a.seq ≤ b.seq))

instance : Std.Total NotAfter where
  total a b := by
    unfold NotAfter
    rcases lt_trichotomy a.conv b.conv with h | h | h
    · exact Or.inl (Or.inl h)
    · rcases Nat.le_total a.seq b.seq with hLe | hLe
      · exact Or.inl (Or.inr ⟨h, hLe⟩)
      · exact Or.inr (Or.inr ⟨h.symm, hLe⟩)
    · exact Or.inr (Or.inl h)

instance : IsTrans StoredMessage NotAfter where
  trans a b c hFirst hSecond := by
    unfold NotAfter at hFirst hSecond ⊢
    rcases hFirst with hLess | ⟨hSame, hLe⟩
    · rcases hSecond with hLess' | ⟨hSame', _⟩
      · exact Or.inl (hLess.trans hLess')
      · exact Or.inl (hSame' ▸ hLess)
    · rcases hSecond with hLess' | ⟨hSame', hLe'⟩
      · exact Or.inl (hSame ▸ hLess')
      · exact
          Or.inr ⟨hSame.trans hSame', hLe.trans hLe'⟩

theorem itemBefore_eq_false_iff
    (codec : JsonCodec)
    (a b : StoredMessage) :
    ChatService.itemBefore (b.item codec) (a.item codec) =
        false ↔
      a.NotAfter b := by
  unfold ChatService.itemBefore NotAfter item
  by_cases hConv : a.conv = b.conv
  · simp [hConv]
  · have hNe : b.conv ≠ a.conv := Ne.symm hConv
    simp only [ne_eq, not_true_eq_false, if_false,
      Bool.true_eq_false, and_self, hNe, not_false_eq_true,
      if_true, decide_eq_false_iff_not, not_lt, hConv,
      false_and, or_false]
    exact ⟨fun hLe => lt_of_le_of_ne hLe hConv, le_of_lt⟩

/- The stored messages in the order of the login answer. -/
def sorted (stored : List StoredMessage) :
    List StoredMessage :=
  stored.insertionSort NotAfter

theorem sorted_perm (stored : List StoredMessage) :
    (sorted stored).Perm stored :=
  List.perm_insertionSort _ _

theorem mem_sorted_iff
    {stored : List StoredMessage}
    {m : StoredMessage} :
    m ∈ sorted stored ↔ m ∈ stored :=
  (sorted_perm stored).mem_iff

/- Sorting the payloads sorts the messages. -/
theorem sortOfflineMessages_payloads
    {codec : JsonCodec}
    {stored : List StoredMessage}
    (hRoundTrips :
      ∀ m ∈ stored, codec.RoundTrips m.message) :
    ChatService.sortOfflineMessages codec
        (stored.map (payload codec)) =
      (sorted stored).map (payload codec) := by
  have hItems :
      (stored.map (payload codec)).map
          (ChatService.readItem codec) =
        stored.map (item codec) := by
    rw [List.map_map]
    apply List.map_congr_left
    intro m hMember
    exact
      ChatService.readItem_of_numbered
        (hRoundTrips m hMember)
        (ChatService.numbered?_stamp _ _ _ _)
  have hSort :
      (stored.map (item codec)).insertionSort
          (fun a b => ChatService.itemBefore b a = false) =
        (sorted stored).map (item codec) := by
    symm
    apply List.map_insertionSort
    intro a _ b _
    exact (itemBefore_eq_false_iff codec a b).symm
  unfold ChatService.sortOfflineMessages
  rw [hItems, hSort, List.map_map]
  rfl

/- The client reads back the messages in this order. -/
theorem parse_payloads
    {codec : JsonCodec}
    {messages : List StoredMessage}
    (hRoundTrips :
      ∀ m ∈ messages, codec.RoundTrips m.message) :
    (messages.map (payload codec)).filterMap codec.parse =
      messages.map delivered := by
  rw [List.filterMap_map, ← List.filterMap_eq_map]
  apply List.filterMap_congr
  intro m hMember
  exact hRoundTrips m hMember

/- The numbered entries of one conversation, in order. -/
def entriesIn
    (conv : String)
    (messages : List StoredMessage) : List (Nat × Json) :=
  (messages.filter fun m => m.conv = conv).map fun m =>
    (m.seq, m.delivered)

theorem mem_entriesIn_iff
    {conv : String}
    {messages : List StoredMessage}
    {entry : Nat × Json} :
    entry ∈ entriesIn conv messages ↔
      ∃ m ∈ messages,
        m.conv = conv ∧ (m.seq, m.delivered) = entry := by
  simp [entriesIn, and_assoc]

/- The numbers stored in one conversation. -/
def numbersStored
    (conv : String)
    (messages : List StoredMessage) : List Nat :=
  (messages.filter fun m => m.conv = conv).map
    StoredMessage.seq

theorem map_fst_entriesIn
    (conv : String)
    (messages : List StoredMessage) :
    (entriesIn conv messages).map Prod.fst =
      numbersStored conv messages := by
  simp [entriesIn, numbersStored, Function.comp_def]

/- Distinct stored numbers are handed over in strictly
ascending order. -/
theorem entriesIn_sorted
    {stored : List StoredMessage}
    (hDistinct : (stored.map key).Nodup)
    (conv : String) :
    (entriesIn conv (sorted stored)).Pairwise
      (fun a b => a.1 < b.1) := by
  have hOrder :
      (sorted stored).Pairwise NotAfter :=
    List.pairwise_insertionSort NotAfter stored
  have hKeys :
      (sorted stored).Pairwise
        (fun a b => a.key ≠ b.key) := by
    apply List.pairwise_map.mp
    exact
      (((sorted_perm stored).map key).nodup_iff).mpr
        hDistinct
  have hBoth := hOrder.and hKeys
  unfold entriesIn
  apply List.pairwise_map.mpr
  apply List.Pairwise.imp_of_mem _ (hBoth.filter _)
  intro a b hA hB hRelated
  have hConvA : a.conv = conv := by
    simpa using List.of_mem_filter hA
  have hConvB : b.conv = conv := by
    simpa using List.of_mem_filter hB
  rcases hRelated with ⟨hLess | ⟨_, hLe⟩, hNe⟩
  · rw [hConvA, hConvB] at hLess
    exact absurd hLess (lt_irrefl conv)
  · apply Nat.lt_of_le_of_ne hLe
    intro hSeq
    apply hNe
    unfold key
    rw [hConvA, hConvB, hSeq]

end StoredMessage

------------------------------------------------------------
-- The Batch on One Channel
------------------------------------------------------------

open StoredMessage

/- The events of a batch that ends with a flush. -/
def batchEvents
    (batch : List (Json × TimePoint))
    (visits : Visits) : List OrdererEvent :=
  (Call.onOfflineBatch batch visits).events

theorem receivedMessages_batchEvents
    (batch : List (Json × TimePoint))
    (visits : Visits) :
    receivedMessages (batchEvents batch visits) =
      batch.map Prod.fst :=
  receivedMessages_call (.onOfflineBatch batch visits)

/- The arrivals that a batch brings to one channel. -/
def arrivalsIn
    (gapTimeoutMs : Int)
    (conv : String)
    (batch : List (Json × TimePoint)) :
    List ChannelEvent :=
  (batch.map fun m => OrdererEvent.message m.1 m.2).flatMap
    (select gapTimeoutMs conv)

theorem arrivalsIn_brings
    (gapTimeoutMs : Int)
    (conv : String)
    {messages : List StoredMessage}
    {batch : List (Json × TimePoint)}
    (hBatch :
      batch.map Prod.fst = messages.map delivered) :
    Channel.Brings (arrivalsIn gapTimeoutMs conv batch)
      (entriesIn conv messages) := by
  unfold arrivalsIn
  induction messages generalizing batch with
  | nil =>
      have hNil : batch = [] := by simpa using hBatch
      rw [hNil]
      rfl
  | cons m messages ih =>
      cases batch with
      | nil => simp at hBatch
      | cons timed batch =>
          rcases List.cons.inj hBatch with ⟨hHead, hTail⟩
          have hRest := ih hTail
          have hSeqIn :
              timed.1.seqIn conv =
                if m.conv = conv then
                  some m.seq
                else
                  none := by
            simp [Json.seqIn, hHead, key]
          unfold Channel.Brings entriesIn at hRest ⊢
          rw [List.map_cons, List.flatMap_cons,
            List.map_append, hRest]
          by_cases hConv : m.conv = conv
          · rw [if_pos hConv] at hSeqIn
            rw [List.filter_cons_of_pos (by simpa)]
            simp [select, hSeqIn, ChannelEvent.arrival?]
            exact hHead
          · rw [if_neg hConv] at hSeqIn
            rw [List.filter_cons_of_neg (by simpa)]
            simp [select, hSeqIn]

/- Messages bring nothing but arrivals. -/
theorem arrivalsIn_arrive
    (gapTimeoutMs : Int)
    (conv : String)
    (batch : List (Json × TimePoint)) :
    ∀ event ∈ arrivalsIn gapTimeoutMs conv batch,
      event.arrival? ≠ none := by
  intro event hEvent
  rcases List.mem_flatMap.mp hEvent with
    ⟨source, hSource, hSelected⟩
  rcases List.mem_map.mp hSource with ⟨m, _, hMade⟩
  rw [← hMade] at hSelected
  cases hSeq : m.1.seqIn conv with
  | none => simp [select, hSeq] at hSelected
  | some seq =>
      have hSelf : event = .receive m.1 seq m.2 := by
        simpa [select, hSeq] using hSelected
      rw [hSelf]
      simp [ChannelEvent.arrival?]

/- A channel that some message reached is initialized. -/
theorem initialized_of_arrivals
    {gapTimeoutMs : Int}
    {conv : String}
    {batch : List (Json × TimePoint)}
    (hAdmits :
      ∀ event ∈ arrivalsIn gapTimeoutMs conv batch,
        Channel.Admits conv event)
    (hNonempty : arrivalsIn gapTimeoutMs conv batch ≠ []) :
    (Channel.runFresh
      (arrivalsIn gapTimeoutMs conv batch)).1.initialized =
        true := by
  have hArrive :=
    arrivalsIn_arrive gapTimeoutMs conv batch
  cases hEvents : arrivalsIn gapTimeoutMs conv batch with
  | nil => exact absurd hEvents hNonempty
  | cons first events =>
      rw [hEvents] at hAdmits hArrive
      rcases Option.ne_none_iff_exists'.mp
          (hArrive first List.mem_cons_self) with
        ⟨⟨seq, js⟩, hFirst⟩
      exact
        (Channel.run_receives_contiguous hAdmits hFirst
          (fun event hMember =>
            hArrive event
              (List.mem_cons_of_mem _ hMember))).1

/-
  After a batch of ascending numbers, a channel has displayed
  the first two runs and keeps the rest pending.
-/
theorem batch_channel
    {gapTimeoutMs : Int}
    {conv : String}
    {entries : List (Nat × Json)}
    {batch : List (Json × TimePoint)}
    {visits : Visits}
    (hBrings :
      Channel.Brings (arrivalsIn gapTimeoutMs conv batch)
        entries)
    (hSorted : entries.Pairwise (fun a b => a.1 < b.1))
    (hAdmits :
      ∀ event ∈ arrivalsIn gapTimeoutMs conv batch,
        Channel.Admits conv event)
    (hNodup : (visits.map Prod.fst).Nodup)
    (hListed :
      conv ∈ visits.map Prod.fst ↔
        (Channel.runFresh
          (arrivalsIn gapTimeoutMs conv
            batch)).1.initialized = true) :
    let result :=
      Channel.runFresh
        ((batchEvents batch visits).flatMap
          (select gapTimeoutMs conv))
    result.1.pending.entries =
        dropFirstRun (dropFirstRun entries) ∧
      emitted result.2 =
        (takeFirstRun entries ++
          takeFirstRun (dropFirstRun entries)).map
            Prod.snd := by
  rcases Channel.runFresh_ascending hBrings hAdmits hSorted
    with ⟨hPending, hShown⟩
  have hEvents :
      (batchEvents batch visits).flatMap
          (select gapTimeoutMs conv) =
        arrivalsIn gapTimeoutMs conv batch ++
          (visits.filter fun visit => visit.1 = conv).map
            fun visit => .flush visit.2 := by
    unfold batchEvents Call.events arrivalsIn
    rw [List.flatMap_append, List.flatMap_singleton]
    rfl
  rw [hEvents]
  by_cases hVisited : conv ∈ visits.map Prod.fst
  · rcases visit_once hNodup hVisited with ⟨now, hOne⟩
    rw [hOne, List.map_singleton]
    unfold Channel.runFresh at hPending hShown ⊢
    rw [Transducer.run_snoc]
    have hFlush :=
      Channel.flush_first_run
        (Channel.runFresh_ordered hAdmits) now
    unfold Channel.runFresh at hFlush
    rw [hPending] at hFlush
    refine ⟨hFlush.1, ?_⟩
    rw [emitted_append, hShown, hFlush.2, List.map_append]
  · -- no message of this conversation came
    have hNone :
        (visits.filter fun visit => visit.1 = conv) = [] := by
      apply List.filter_eq_nil_iff.mpr
      intro visit hMember hSame
      apply hVisited
      rw [← of_decide_eq_true hSame]
      exact List.mem_map_of_mem hMember
    have hEmpty : entries = [] := by
      by_contra hSome
      apply hVisited
      apply hListed.mpr
      apply initialized_of_arrivals hAdmits
      intro hNoArrivals
      rw [hNoArrivals] at hBrings
      apply hSome
      simpa [Channel.Brings] using hBrings.symm
    rw [hNone, List.map_nil, List.append_nil]
    dsimp only
    rw [hPending, hShown, hEmpty]
    simp [takeFirstRun, dropFirstRun]

------------------------------------------------------------
-- Complete Delivery
------------------------------------------------------------

/-
  Every message is displayed once and in ascending order, and
  nothing stays pending.
-/
structure Delivered
    (messages : List Json)
    (result : ConversationOrderer × List Effect) :
    Prop where
  once : (emitted result.2).Perm messages
  ascending :
    ∀ conv,
      (numbersIn conv (emitted result.2)).Pairwise (· < ·)
  cleared :
    ∀ conv, (result.1.channels conv).pending.entries = []

/- Distinct numbered messages that are displayed ascending
are displayed without repetition. -/
theorem nodup_of_ascending
    {messages : List Json}
    (hNumbered : ∀ js ∈ messages, js.numbered? ≠ none)
    (hAscending :
      ∀ conv,
        (numbersIn conv messages).Pairwise (· < ·)) :
    messages.Nodup := by
  apply List.nodup_iff_sublist.mpr
  intro js hTwice
  have hMember : js ∈ messages :=
    hTwice.subset List.mem_cons_self
  rcases Option.ne_none_iff_exists'.mp
      (hNumbered js hMember) with ⟨⟨conv, seq⟩, hStamp⟩
  have hNumbers :
      (numbersIn conv [js, js]).Sublist
        (numbersIn conv messages) :=
    hTwice.filterMap _
  have hPair : numbersIn conv [js, js] = [seq, seq] := by
    simp [numbersIn, Json.seqIn_eq_some_iff.mpr hStamp]
  have hSorted := (hAscending conv).sublist hNumbers
  rw [hPair] at hSorted
  simp at hSorted

theorem nodup_delivered
    {stored : List StoredMessage}
    (hDistinct : (stored.map key).Nodup) :
    (stored.map delivered).Nodup := by
  have hNumbers :
      (stored.map delivered).map Json.numbered? =
        (stored.map key).map some := by
    simp [Function.comp_def]
  apply List.Nodup.of_map Json.numbered?
  rw [hNumbers]
  exact hDistinct.map (Option.some_injective _)

/- Two runs displayed and none left are the whole list. -/
theorem two_runs_eq
    {entries : List (Nat × Json)}
    (hLeft : dropFirstRun (dropFirstRun entries) = []) :
    takeFirstRun entries ++
        takeFirstRun (dropFirstRun entries) = entries := by
  have hSecond :=
    takeFirstRun_append_dropFirstRun (dropFirstRun entries)
  rw [hLeft, List.append_nil] at hSecond
  rw [hSecond, takeFirstRun_append_dropFirstRun]

/-
  When every channel has displayed the first two runs and
  keeps the rest, delivery is complete if and only if there
  is no rest.
-/
theorem delivered_iff_no_rest
    (gapTimeoutMs : Int)
    {stored : List StoredMessage}
    (hDistinct : (stored.map key).Nodup)
    {events : List OrdererEvent}
    (hReceived :
      receivedMessages events =
        (sorted stored).map delivered)
    (hDeliverable :
      ∀ js ∈ receivedMessages events, js.Deliverable)
    (hChannel :
      ∀ conv,
        let result :=
          Channel.runFresh
            (events.flatMap (select gapTimeoutMs conv))
        result.1.pending.entries =
            dropFirstRun
              (dropFirstRun
                (entriesIn conv (sorted stored))) ∧
          emitted result.2 =
            (takeFirstRun
                (entriesIn conv (sorted stored)) ++
              takeFirstRun
                (dropFirstRun
                  (entriesIn conv (sorted stored)))).map
              Prod.snd) :
    Delivered (stored.map delivered)
        ((fresh gapTimeoutMs).runFrom events) ↔
      ∀ conv,
        dropFirstRun
            (dropFirstRun
              (entriesIn conv (sorted stored))) = [] := by
  have hPending :
      ∀ conv,
        (((fresh gapTimeoutMs).runFrom events).1.channels
            conv).pending.entries =
          dropFirstRun
            (dropFirstRun
              (entriesIn conv (sorted stored))) := by
    intro conv
    have hEntries := (hChannel conv).1
    rw [run_projects] at hEntries
    exact hEntries
  constructor
  · intro hDelivered conv
    rw [← hPending]
    exact hDelivered.cleared conv
  · intro hRest
    have hAscending :
        ∀ conv,
          (numbersIn conv
            (emitted
              ((fresh gapTimeoutMs).runFrom
                events).2)).Pairwise (· < ·) := by
      intro conv
      rw [displayed_eq_channel]
      exact
        (Channel.run_numbers_sorted
          (select_admits (numbers_bounded hDeliverable))).1
    have hMember :
        ∀ js,
          js ∈ emitted
              ((fresh gapTimeoutMs).runFrom events).2 ↔
            js ∈ stored.map delivered := by
      intro js
      rw [← ((sorted_perm stored).map delivered).mem_iff,
        ← hReceived]
      constructor
      · exact received_of_displayed
      · intro hJs
        rw [hReceived] at hJs
        rcases List.mem_map.mp hJs with
          ⟨m, hStored, hMessage⟩
        have hEntry :
            (m.seq, m.delivered) ∈
              entriesIn m.conv (sorted stored) :=
          mem_entriesIn_iff.mpr ⟨m, hStored, rfl, rfl⟩
        rw [← hMessage,
          displayed_by_channel m.numbered?_delivered,
          (hChannel m.conv).2, two_runs_eq (hRest m.conv)]
        exact List.mem_map_of_mem hEntry
    have hNumbered :
        ∀ js ∈ emitted
            ((fresh gapTimeoutMs).runFrom events).2,
          js.numbered? ≠ none := by
      intro js hJs
      rcases List.mem_map.mp ((hMember js).mp hJs) with
        ⟨m, _, hMessage⟩
      rw [← hMessage, m.numbered?_delivered]
      simp
    refine ⟨?_, hAscending, ?_⟩
    · apply (List.perm_ext_iff_of_nodup
        (nodup_of_ascending hNumbered hAscending)
        (nodup_delivered hDistinct)).mpr
      exact hMember
    · intro conv
      rw [hPending]
      exact hRest conv

/-
  The batch of a login is delivered completely if and only if
  every conversation has at most two runs of numbers.
-/
theorem batch_delivered_iff
    (gapTimeoutMs : Int)
    {stored : List StoredMessage}
    (hDistinct : (stored.map key).Nodup)
    (hBound : ∀ m ∈ stored, m.seq < seqBound)
    {batch : List (Json × TimePoint)}
    (hBatch :
      batch.map Prod.fst = (sorted stored).map delivered)
    {visits : Visits}
    (hVisits :
      ∀ received,
        (fresh gapTimeoutMs).onMessages batch =
            .ok received →
          received.1.Enumerates visits) :
    ∃ result,
      (fresh gapTimeoutMs).onOfflineBatch batch visits =
          .ok result ∧
        (Delivered (stored.map delivered) result ↔
          ∀ conv,
            (runEnds (numbersStored conv stored)).length ≤
              2) := by
  have hDeliverable :
      ∀ js ∈ batch.map Prod.fst, js.Deliverable := by
    rw [hBatch]
    intro js hMember
    rcases List.mem_map.mp hMember with
      ⟨m, hSource, hMessage⟩
    rw [← hMessage]
    exact
      Json.deliverable_of_numbered m.numbered?_delivered
        (hBound m (mem_sorted_iff.mp hSource))
  have hMessages :=
    onMessages_eq_run (fresh gapTimeoutMs)
      (fun m hMember =>
        (hDeliverable m.1 (List.mem_map_of_mem hMember)).1)
  have hCall :=
    call_eq_run (fresh gapTimeoutMs)
      (.onOfflineBatch batch visits)
      (fun js hMember => (hDeliverable js hMember).1)
  refine ⟨_, hCall, ?_⟩
  have hEnumerates := hVisits _ hMessages
  have hReceived := receivedMessages_batchEvents batch visits
  rw [← hReceived] at hDeliverable
  have hRest :=
    delivered_iff_no_rest gapTimeoutMs hDistinct
      (hReceived.trans hBatch) hDeliverable
      (fun conv =>
        batch_channel
          (arrivalsIn_brings gapTimeoutMs conv hBatch)
          (entriesIn_sorted hDistinct conv)
          (by
            apply select_admits
            apply numbers_bounded
            intro js hMember
            apply hDeliverable
            unfold batchEvents Call.events receivedMessages
            rw [List.filterMap_append]
            exact List.mem_append_left _ hMember)
          hEnumerates.1
          (by
            rw [hEnumerates.2, arrivalsIn, run_projects]))
  apply hRest.trans
  apply forall_congr'
  intro conv
  have hPerm :
      (numbersStored conv (sorted stored)).Perm
        (numbersStored conv stored) :=
    ((sorted_perm stored).filter _).map _
  rw [dropFirstRun_twice_eq_nil_iff
      (entriesIn_sorted hDistinct conv),
    map_fst_entriesIn, length_runEnds_of_perm hPerm]

------------------------------------------------------------
-- Login
------------------------------------------------------------

/-
  An answer to a login with these rows in the table.  Friends
  and groups may be among its members, too.
-/
def AnswersLogin
    (codec : JsonCodec)
    (rows : List String)
    (answer : JsonObject) : Prop :=
  ∃ id name,
    JsonObject.find? "offlinemsg" answer =
      JsonObject.find? "offlinemsg"
        (ChatService.withOfflineMessages codec rows
          (ChatService.loginAccepted id name))

theorem find?_loginAccepted (id : Int) (name : String) :
    JsonObject.find? "offlinemsg"
      (ChatService.loginAccepted id name) = none := by
  unfold ChatService.loginAccepted
  rw [JsonObject.find?_assign_of_ne (by decide),
    JsonObject.find?_assign_of_ne (by decide),
    JsonObject.find?_assign_of_ne (by decide),
    JsonObject.find?_assign_of_ne (by decide)]
  rfl

/- The client decodes the stored messages in sorted order. -/
theorem offlineMessages_of_answer
    {codec : JsonCodec}
    {stored : List StoredMessage}
    (hRoundTrips :
      ∀ m ∈ stored, codec.RoundTrips m.message)
    {answer : JsonObject}
    (hAnswers :
      AnswersLogin codec (stored.map (payload codec))
        answer) :
    Client.offlineMessages codec
        (Json.object answer).normalize =
      .ok (if stored = [] then
          none
        else
          some ((sorted stored).map delivered)) := by
  rcases hAnswers with ⟨id, name, hField⟩
  unfold ChatService.withOfflineMessages at hField
  by_cases hEmpty : stored = []
  · rw [if_pos hEmpty]
    rw [hEmpty, List.map_nil, List.isEmpty_nil,
      if_pos rfl, find?_loginAccepted] at hField
    unfold Client.offlineMessages
    rw [Json.find?_normalize, Json.find?_object, hField]
    rfl
  · have hRows :
        (stored.map (payload codec)).isEmpty = false := by
      simpa using hEmpty
    rw [hRows, if_neg (by decide),
      JsonObject.find?_assign_self] at hField
    have hSent :
        (Json.object answer).find? "offlinemsg" =
          some (.array ((ChatService.sortOfflineMessages codec
            (stored.map (payload codec))).map .string)) :=
      hField
    rw [if_neg hEmpty,
      Client.offlineMessages_of_strings codec hSent,
      sortOfflineMessages_payloads hRoundTrips,
      parse_payloads (fun m hMember =>
        hRoundTrips m (mem_sorted_iff.mp hMember))]

/-
  From the table to the screen: the stored messages of a
  login are all displayed once and in order, with nothing
  left pending, if and only if every conversation has at most
  two runs of consecutive numbers.
-/
theorem offline_delivery_complete_iff
    (codec : JsonCodec)
    (gapTimeoutMs : Int)
    {stored : List StoredMessage}
    (hRoundTrips :
      ∀ m ∈ stored, codec.RoundTrips m.message)
    (hDistinct : (stored.map key).Nodup)
    (hBound : ∀ m ∈ stored, m.seq < seqBound)
    {answer : JsonObject}
    (hAnswers :
      AnswersLogin codec (stored.map (payload codec)) answer)
    (hAnswer : codec.RoundTrips (.object answer)) :
    ∃ response offline,
      codec.parse (codec.dump (.object answer)) =
          some response ∧
        Client.offlineMessages codec response =
          .ok offline ∧
        ∀ (timed : Option (List (Json × TimePoint)))
          (visits : Visits),
          timed.map (List.map Prod.fst) = offline →
            (∀ received,
              (fresh gapTimeoutMs).onMessages
                    (timed.getD []) = .ok received →
                received.1.Enumerates visits) →
            ∃ result,
              Client.showOffline (fresh gapTimeoutMs) timed
                  visits = .ok result ∧
                (Delivered (stored.map delivered) result ↔
                  ∀ conv,
                    (runEnds
                      (numbersStored conv stored)).length ≤
                        2) := by
  refine
    ⟨_, _, hAnswer,
      offlineMessages_of_answer hRoundTrips hAnswers, ?_⟩
  intro timed visits hTimed hVisits
  by_cases hEmpty : stored = []
  · -- nothing was stored, and nothing is replayed
    rw [if_pos hEmpty] at hTimed
    have hNone : timed = none := by simpa using hTimed
    subst hNone
    refine ⟨_, rfl, ?_⟩
    rw [hEmpty]
    constructor
    · intro _ conv
      simp [numbersStored, runEnds]
    · intro _
      exact
        ⟨List.Perm.nil, fun conv => List.Pairwise.nil,
          fun conv => rfl⟩
  · rw [if_neg hEmpty] at hTimed
    rcases Option.map_eq_some_iff.mp hTimed with
      ⟨batch, hSome, hBatch⟩
    subst hSome
    exact
      batch_delivered_iff gapTimeoutMs hDistinct hBound
        hBatch hVisits

/- After messages of one conversation, the table holds that
conversation alone. -/
theorem enumerates_single
    {gapTimeoutMs : Int}
    {conv : String}
    {batch : List (Json × TimePoint)}
    (hNonempty : batch ≠ [])
    (hConv :
      ∀ m ∈ batch,
        ∃ seq,
          m.1.numbered? = some (conv, seq) ∧
            seq < seqBound)
    (now : TimePoint) :
    ∀ received,
      (fresh gapTimeoutMs).onMessages batch =
          .ok received →
        received.1.Enumerates [(conv, now)] := by
  intro received hReceived
  have hRun :=
    onMessages_eq_run (fresh gapTimeoutMs)
      (fun m hMember => by
        rcases hConv m hMember with
          ⟨seq, hNumbered, hBound⟩
        exact
          (Json.deliverable_of_numbered hNumbered hBound).1)
  rw [hRun] at hReceived
  rw [← Except.ok.inj hReceived]
  refine ⟨by simp, ?_⟩
  intro other
  have hChannel :=
    congrArg Prod.fst
      (run_projects gapTimeoutMs
        (batch.map fun m => .message m.1 m.2) other)
  dsimp only at hChannel
  rw [← hChannel, List.map_singleton, List.mem_singleton]
  constructor
  · intro hSame
    subst hSame
    apply initialized_of_arrivals
    · apply select_admits
      intro seq hSeq
      rcases mem_numbersIn_iff.mp hSeq with
        ⟨js, hReceived, hNumbered⟩
      rcases List.mem_filterMap.mp hReceived with
        ⟨event, hEvent, hMessage⟩
      rcases List.mem_map.mp hEvent with ⟨m, hMember, rfl⟩
      rcases hConv m hMember with ⟨number, hStamp, hBound⟩
      rw [← Option.some.inj hMessage, hStamp] at hNumbered
      have hSame : number = seq := by simpa using hNumbered
      omega
    · rcases List.exists_mem_of_ne_nil batch hNonempty with
        ⟨m, hMember⟩
      rcases hConv m hMember with ⟨seq, hNumbered, _⟩
      apply List.ne_nil_of_mem (a := .receive m.1 seq m.2)
      apply List.mem_flatMap.mpr
      refine ⟨_, List.mem_map_of_mem hMember, ?_⟩
      simp [select, Json.seqIn, hNumbered]
  · intro hInitialized
    by_contra hOther
    have hNone :
        (batch.map fun m =>
          OrdererEvent.message m.1 m.2).flatMap
            (select gapTimeoutMs other) = [] := by
      apply List.flatMap_eq_nil_iff.mpr
      intro event hEvent
      rcases List.mem_map.mp hEvent with
        ⟨m, hMember, hMade⟩
      rcases hConv m hMember with ⟨seq, hNumbered, _⟩
      rw [← hMade]
      simp [select, Json.seqIn, hNumbered, Ne.symm hOther]
    rw [hNone] at hInitialized
    simp [Channel.runFresh] at hInitialized

/- A private message as the shipped client sends it. -/
def exampleFrame : JsonObject :=
  [("id", .unsigned 1), ("msg", .string "hello"),
    ("msgid", .unsigned 6), ("name", .string "zhang san"),
    ("time", .string "2024-01-01 10:00:00"),
    ("toid", .unsigned 2)]

/- It was stored under one of the given numbers. -/
def exampleStored (seqs : List Nat) : List StoredMessage :=
  seqs.map fun seq =>
    { conv := conv.p2p 1 2, seq := seq,
      time := 1704103200000000, frame := exampleFrame }

/- The answer that hands them over to user 2. -/
def exampleAnswer (stored : List StoredMessage) :
    JsonObject :=
  JsonObject.assign "offlinemsg"
    (.array ((sorted stored).map fun m =>
      .string m.message.text))
    (ChatService.loginAccepted 2 "li si")

/- A codec for the messages and the answer. -/
def exampleCodec (stored : List StoredMessage) : JsonCodec :=
  .ofTable
    (.object (exampleAnswer stored) ::
      stored.map StoredMessage.message)

/- What the client replays, each message at time 10. -/
def exampleBatch (stored : List StoredMessage) :
    List (Json × TimePoint) :=
  (sorted stored).map fun m => (m.delivered, 10)

theorem exampleBatch_messages
    (stored : List StoredMessage) :
    (exampleBatch stored).map Prod.fst =
      (sorted stored).map delivered := by
  simp [exampleBatch, Function.comp_def]

theorem exampleCodec_roundTrips
    (stored : List StoredMessage)
    (hTexts :
      ((.object (exampleAnswer stored) ::
        stored.map StoredMessage.message).map
          Json.text).Nodup) :
    (∀ m ∈ stored,
        (exampleCodec stored).RoundTrips m.message) ∧
      (exampleCodec stored).RoundTrips
        (.object (exampleAnswer stored)) := by
  constructor
  · intro m hMember
    apply JsonCodec.roundTrips_ofTable hTexts
    exact
      List.mem_cons_of_mem _ (List.mem_map_of_mem hMember)
  · apply JsonCodec.roundTrips_ofTable hTexts
    exact List.mem_cons_self

theorem exampleAnswer_answers
    {stored : List StoredMessage}
    (hNonempty : stored ≠ [])
    (hRoundTrips :
      ∀ m ∈ stored,
        (exampleCodec stored).RoundTrips m.message) :
    AnswersLogin (exampleCodec stored)
      (stored.map (payload (exampleCodec stored)))
      (exampleAnswer stored) := by
  refine ⟨2, "li si", ?_⟩
  unfold ChatService.withOfflineMessages exampleAnswer
  rw [if_neg (by simpa using hNonempty),
    JsonObject.find?_assign_self,
    JsonObject.find?_assign_self,
    sortOfflineMessages_payloads hRoundTrips, List.map_map]
  rfl

theorem exampleBatch_enumerates
    (seqs : List Nat)
    (hNonempty : seqs ≠ [])
    (hBound : ∀ seq ∈ seqs, seq < seqBound) :
    ∀ received,
      (fresh 3000).onMessages
            (exampleBatch (exampleStored seqs)) =
          .ok received →
        received.1.Enumerates [(conv.p2p 1 2, 20)] := by
  apply enumerates_single
  · intro hNil
    have hSorted :
        sorted (exampleStored seqs) = [] := by
      simpa [exampleBatch] using hNil
    have hPerm := sorted_perm (exampleStored seqs)
    rw [hSorted] at hPerm
    apply hNonempty
    simpa [exampleStored] using hPerm.nil_eq.symm
  · intro timed hTimed
    rcases List.mem_map.mp hTimed with ⟨m, hSorted, rfl⟩
    rcases List.mem_map.mp (mem_sorted_iff.mp hSorted) with
      ⟨seq, hSeq, rfl⟩
    exact
      ⟨seq, StoredMessage.numbered?_delivered _,
        hBound seq hSeq⟩

/- Numbers 3, 1 and 4 were stored: two runs, all displayed. -/
theorem two_runs_are_delivered :
    ∃ response offline,
      (exampleCodec (exampleStored [3, 1, 4])).parse
            ((exampleCodec (exampleStored [3, 1, 4])).dump
              (.object
                (exampleAnswer (exampleStored [3, 1, 4])))) =
          some response ∧
        Client.offlineMessages
            (exampleCodec (exampleStored [3, 1, 4]))
            response = .ok offline ∧
        ∀ (timed : Option (List (Json × TimePoint)))
          (visits : Visits),
          timed.map (List.map Prod.fst) = offline →
            (∀ received,
              (fresh 3000).onMessages (timed.getD []) =
                  .ok received →
                received.1.Enumerates visits) →
            ∃ result,
              Client.showOffline (fresh 3000) timed visits =
                  .ok result ∧
                (Delivered
                    ((exampleStored [3, 1, 4]).map delivered)
                    result ↔
                  ∀ conv,
                    (runEnds
                      (numbersStored conv
                        (exampleStored
                          [3, 1, 4]))).length ≤ 2) := by
  have hCodec :=
    exampleCodec_roundTrips (exampleStored [3, 1, 4])
      (by decide)
  exact
    offline_delivery_complete_iff
      (exampleCodec (exampleStored [3, 1, 4])) 3000
      hCodec.1 (by decide) (by decide)
      (exampleAnswer_answers (by decide) hCodec.1) hCodec.2

/-
  Numbers 5, 1 and 3 were stored: with two holes between
  them, the client is left with a pending message.
-/
theorem third_run_stays_pending :
    ∃ result,
      Client.offlineMessages
            (exampleCodec (exampleStored [5, 1, 3]))
            (Json.object
              (exampleAnswer
                (exampleStored [5, 1, 3]))).normalize =
          .ok (some
            ((exampleBatch
              (exampleStored [5, 1, 3])).map Prod.fst)) ∧
        (∀ received,
          (fresh 3000).onMessages
                (exampleBatch (exampleStored [5, 1, 3])) =
              .ok received →
            received.1.Enumerates [(conv.p2p 1 2, 20)]) ∧
        Client.showOffline (fresh 3000)
            (some (exampleBatch (exampleStored [5, 1, 3])))
            [(conv.p2p 1 2, 20)] = .ok result ∧
        ¬ Delivered
          ((exampleStored [5, 1, 3]).map delivered)
          result := by
  have hCodec :=
    exampleCodec_roundTrips (exampleStored [5, 1, 3])
      (by decide)
  have hDecoded :=
    offlineMessages_of_answer hCodec.1
      (exampleAnswer_answers (by decide) hCodec.1)
  have hVisits :=
    exampleBatch_enumerates [5, 1, 3] (by decide)
      (by decide)
  have hDistinct :
      ((exampleStored [5, 1, 3]).map key).Nodup := by
    decide
  rcases batch_delivered_iff 3000 hDistinct (by decide)
      (exampleBatch_messages _) hVisits with
    ⟨result, hResult, hIff⟩
  refine ⟨result, ?_, hVisits, hResult, ?_⟩
  · rw [exampleBatch_messages]
    exact hDecoded
  · intro hDelivered
    have hRuns := hIff.mp hDelivered (conv.p2p 1 2)
    exact absurd hRuns (by decide)

end ClusterChat
