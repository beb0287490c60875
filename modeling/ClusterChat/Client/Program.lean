import ClusterChat.Client.Console
import ClusterChat.Client.LoginResponse
import ClusterChat.Client.Render
import ClusterChat.Library.Transducer

/-
  The client as a program with two threads, translated from
  `main`, `mainMenu`, and `readTaskHandler` in `main.cpp` of
  the client.

  The thread of `main` is in the start menu until a login is
  accepted.  Then it starts the receive thread and reads
  commands for good: nothing leads back to the start menu.

  Main declarations:
    * `Program` and `Program.turn`
    * `Program.Accepted` and `Program.LogsInOnce`
    * `Program.sends_for_one_user`
    * `Program.idle_without_input`
-/

------------------------------------------------------------
-- The Program
------------------------------------------------------------

namespace ClusterChat

namespace Client

/- Where the thread of `main` is.  An exception that nothing
catches aborts the program, and so does `exit(-1)`. -/
inductive Place where
| startMenu
| mainMenu
| ended
| aborted
deriving DecidableEq, Repr

/- The state that the threads share. -/
structure Program where
  place : Place
  cin : IStream
  session : Session
  orderer : ConversationOrderer

/-
  What a turn of the main thread meets: whether `sendFrame`
  gets the frame out, what `recvFrame` returns, the time, and
  the clock readings of `onOfflineBatch`.
-/
structure Moment where
  sent : Bool
  received : Option String
  time : String
  clock : Nat → TimePoint
  visits : Visits

/- A turn of the main thread or of the receive thread, or a
`recvFrame` of the latter that fails. -/
inductive Event where
| main (moment : Moment)
| arrival (arrival : Arrival)
| hangUp

/- The exception of the answer to a registration. -/
def readReg
    (codec : JsonCodec)
    (responseStr : String) : Except JsonException Int := do
  let response ← parseOrThrow codec responseStr
  (member response "errno").getInt

namespace Program

/- The default constructor of `User`, and empty lists. -/
def start
    (gapTimeoutMs : Int)
    (input : Bytes) : Program where
  place := .startMenu
  cin := { input := input }
  session := ⟨-1, "", .offline, [], []⟩
  orderer := ConversationOrderer.fresh gapTimeoutMs

/- `g_currentUser` for the commands. -/
def user (program : Program) : CurrentUser where
  id := program.session.id
  name := program.session.name

def abort (program : Program) : Program :=
  { program with place := .aborted }

variable (codec : JsonCodec)

------------------------------------------------------------
-- The Main Thread
------------------------------------------------------------

/- `onOfflineBatch` on the offline messages, if the answer
has some. -/
def replay
    (program : Program)
    (moment : Moment)
    (offline : Option (List Json)) :
    Except ClientFailure ConversationOrderer := do
  let batch := offline.map fun messages =>
    messages.mapIdx fun index js => (js, moment.clock index)
  let replayed ←
    uncaught
      (showOffline program.orderer batch moment.visits)
  let _ ← render codec replayed.2
  return replayed.1

/- The rest of `case 1` for an accepted login. -/
def enter
    (program : Program)
    (moment : Moment)
    (session : Session)
    (offline : Option (List Json)) : Program :=
  match program.replay codec moment offline with
  | .ok orderer =>
      { program with
        place := .mainMenu
        session := session
        orderer := orderer }
  | .error _ => program.abort

/- What the start menu makes of the answer. -/
def answered
    (program : Program)
    (moment : Moment)
    (responseStr : String) : Typed → Program
| .login _ _ =>
    match readLogin codec program.session responseStr with
    | .ok (.accepted session offline) =>
        program.enter codec moment session offline
    | .ok (.refused _) => program
    | .error _ => program.abort
| .register _ _ =>
    match readReg codec responseStr with
    | .ok _ => program
    | .error _ => program.abort
| .command _ _ _ _ => program

/- A request of the start menu. -/
def exchange
    (program : Program)
    (moment : Moment)
    (typed : Typed) : Program × Option JsonObject :=
  match typed.sent with
  | .error _ => (program.abort, none)
  | .ok none => (program, none)
  | .ok (some js) =>
      match moment.sent, moment.received with
      | true, some responseStr =>
          (program.answered codec moment responseStr typed,
            some js)
      | _, _ => (program, some js)

/- A turn of the start menu. -/
def startTurn
    (program : Program)
    (moment : Moment) : Program × Option JsonObject :=
  let (choice, cin) := choose program.cin
  let program := { program with cin := cin }
  match choice with
  | .login name password =>
      program.exchange codec moment (.login name password)
  | .register name password =>
      program.exchange codec moment (.register name password)
  | .quit => ({ program with place := .ended }, none)
  | .invalid => (program, none)

/- A turn of `mainMenu`: at most one handler is called. -/
def menuTurn
    (program : Program)
    (time : String) : Program × Option JsonObject :=
  let menu :=
    MainMenu.round program.user { cin := program.cin } time
  ({ program with
      cin := menu.cin
      place := if menu.threw then .aborted else .mainMenu },
    menu.calls.head?.bind fun call =>
      match call.1.handle program.user time call.2 with
      | .ok js => js
      | .error _ => none)

------------------------------------------------------------
-- Both Threads
------------------------------------------------------------

/- A turn of the receive thread. -/
def receiveTurn
    (program : Program)
    (arrival : Arrival) : Program :=
  let client : Client :=
    { orderer := program.orderer
      userId := program.session.id
      state := program.session.state }
  match client.process codec (.frame arrival) with
  | .ok (client, _) =>
      { program with
        orderer := client.orderer
        session :=
          { program.session with state := client.state } }
  | .error _ => program.abort

/- A turn of one of the threads, with the frame that it tries
to send. -/
def turn
    (program : Program)
    (event : Event) : Program × Option JsonObject :=
  match program.place, event with
  | .startMenu, .main moment =>
      program.startTurn codec moment
  | .mainMenu, .main moment => program.menuTurn moment.time
  | .mainMenu, .arrival arrival =>
      (program.receiveTurn codec arrival, none)
  | .mainMenu, .hangUp => (program.abort, none)
  | _, _ => (program, none)

/- The turns of a run, with the frames in their order. -/
def step
    (program : Program)
    (event : Event) : Program × List JsonObject :=
  let next := program.turn codec event
  (next.1, next.2.toList)

------------------------------------------------------------
-- What a Turn Can Do
------------------------------------------------------------

end Program

/- A login or a registration. -/
def Typed.IsCredentials : Typed → Prop
| .command _ _ _ _ => False
| _ => True

namespace Program

variable (codec : JsonCodec)

/-
  A turn of the start menu: it sends nothing, or the frame of
  a login or registration, which is answered or not.
-/
inductive StartTurn
    (program : Program)
    (moment : Moment) : Program × Option JsonObject → Prop where
| silent
    {place : Place} (cin : IStream)
    (stays : place ≠ .mainMenu) :
    StartTurn program moment
      ({ program with place := place, cin := cin }, none)
| unanswered
    {typed : Typed} {js : JsonObject} (cin : IStream)
    (kind : typed.IsCredentials)
    (frame : typed.sent = .ok (some js))
    (lost : moment.sent = false ∨ moment.received = none) :
    StartTurn program moment
      ({ program with cin := cin }, some js)
| answered
    {typed : Typed} {js : JsonObject} {responseStr : String}
    (cin : IStream)
    (kind : typed.IsCredentials)
    (frame : typed.sent = .ok (some js))
    (out : moment.sent = true)
    (received : moment.received = some responseStr) :
    StartTurn program moment
      (({ program with cin := cin } : Program).answered codec
        moment responseStr typed, some js)

theorem startTurn_exchange
    {program : Program}
    {moment : Moment}
    {typed : Typed}
    (hPlace : program.place = .startMenu)
    (hKind : typed.IsCredentials)
    (cin : IStream) :
    StartTurn codec program moment
      (({ program with cin := cin } : Program).exchange codec
        moment typed) := by
  unfold exchange
  split
  · exact .silent cin (by decide)
  · have hSame :
        ({ program with cin := cin } : Program) =
          { program with place := .startMenu, cin := cin } := by
      rw [← hPlace]
    rw [hSame]
    exact .silent cin (by decide)
  · rename_i js hSent
    split
    · rename_i responseStr hOut hReceived
      exact .answered cin hKind hSent hOut hReceived
    · rename_i hOther
      refine .unanswered cin hKind hSent ?_
      cases hOut : moment.sent with
      | false => exact Or.inl rfl
      | true =>
          cases hReceived : moment.received with
          | none => exact Or.inr rfl
          | some responseStr =>
              exact absurd hReceived (hOther responseStr hOut)

theorem startTurn_cases
    {program : Program}
    (hPlace : program.place = .startMenu)
    (moment : Moment) :
    StartTurn codec program moment
      (program.startTurn codec moment) := by
  unfold startTurn
  dsimp only
  split
  · refine startTurn_exchange codec hPlace ?_ _
    exact trivial
  · refine startTurn_exchange codec hPlace ?_ _
    exact trivial
  · exact .silent _ (by decide)
  · have hSame :
        ({ program with cin := (choose program.cin).2 } :
            Program) =
          { program with
            place := .startMenu
            cin := (choose program.cin).2 } := by
      rw [← hPlace]
    rw [hSame]
    exact .silent _ (by decide)

/- What an answered login leads to. -/
theorem answered_login
    (program : Program)
    (moment : Moment)
    (responseStr : String)
    (name password : Bytes) :
    let next :=
      program.answered codec moment responseStr
        (.login name password)
    next.place = .aborted ∨
      (next = program ∧
        ∃ errmsg,
          readLogin codec program.session responseStr =
            .ok (.refused errmsg)) ∨
        ∃ session offline,
          readLogin codec program.session responseStr =
              .ok (.accepted session offline) ∧
            next.place = .mainMenu ∧
              next.session = session := by
  dsimp only [answered]
  cases hRead :
      readLogin codec program.session responseStr with
  | error error => exact Or.inl rfl
  | ok outcome =>
      cases outcome with
      | refused errmsg =>
          exact Or.inr (Or.inl ⟨rfl, errmsg, rfl⟩)
      | accepted session offline =>
          dsimp only
          unfold enter
          split
          · exact
              Or.inr (Or.inr
                ⟨session, offline, rfl, rfl, rfl⟩)
          · exact Or.inl rfl

/- An answered registration changes nothing. -/
theorem answered_register
    (program : Program)
    (moment : Moment)
    (responseStr : String)
    (name password : Bytes) :
    let next :=
      program.answered codec moment responseStr
        (.register name password)
    next.place = .aborted ∨ next = program := by
  dsimp only [answered]
  split
  · exact Or.inr rfl
  · exact Or.inl rfl

/- A turn of `mainMenu` stays there or aborts. -/
theorem menuTurn_cases
    (program : Program)
    (time : String) :
    ((program.menuTurn time).1.place = .mainMenu ∨
      (program.menuTurn time).1.place = .aborted) ∧
      (program.menuTurn time).1.session = program.session ∧
        ∀ js,
          (program.menuTurn time).2 = some js →
            ∃ handler args,
              (Typed.command program.user time handler
                args).sent = .ok (some js) := by
  refine ⟨?_, rfl, ?_⟩
  · unfold menuTurn
    dsimp only
    split
    · exact Or.inr rfl
    · exact Or.inl rfl
  · intro js hFrame
    unfold menuTurn at hFrame
    dsimp only at hFrame
    rcases Option.bind_eq_some_iff.mp hFrame with
      ⟨call, _, hCall⟩
    refine ⟨call.1, call.2, ?_⟩
    split at hCall
    · rename_i sent hSent
      rw [hCall] at hSent
      exact hSent
    · cases hCall

/- The receive thread leaves the user alone. -/
theorem receiveTurn_cases
    (program : Program)
    (arrival : Arrival) :
    ((program.receiveTurn codec arrival).place = .aborted ∨
      (program.receiveTurn codec arrival).place =
        program.place) ∧
      (program.receiveTurn codec arrival).user =
        program.user := by
  unfold receiveTurn
  dsimp only
  split
  · exact ⟨Or.inr rfl, rfl⟩
  · exact ⟨Or.inl rfl, rfl⟩

/- Where nothing happens. -/
theorem turn_idle
    {program : Program}
    {event : Event}
    (hIdle :
      program.place = .ended ∨
        program.place = .aborted ∨
          program.place = .startMenu ∧
            ∀ moment, event ≠ .main moment) :
    program.turn codec event = (program, none) := by
  unfold turn
  rcases hIdle with hEnded | hAborted | ⟨hStart, hOther⟩
  · rw [hEnded]
  · rw [hAborted]
  · rw [hStart]
    cases event with
    | main moment => exact absurd rfl (hOther moment)
    | arrival arrival => rfl
    | hangUp => rfl

theorem turn_start
    {program : Program}
    (hPlace : program.place = .startMenu)
    (moment : Moment) :
    program.turn codec (.main moment) =
      program.startTurn codec moment := by
  unfold turn
  rw [hPlace]

section MainMenu

variable {program : Program}

theorem turn_menu
    (hPlace : program.place = .mainMenu)
    (moment : Moment) :
    program.turn codec (.main moment) =
      program.menuTurn moment.time := by
  unfold turn
  rw [hPlace]

theorem turn_arrival
    (hPlace : program.place = .mainMenu)
    (arrival : Arrival) :
    program.turn codec (.arrival arrival) =
      (program.receiveTurn codec arrival, none) := by
  unfold turn
  rw [hPlace]

theorem turn_hangUp
    (hPlace : program.place = .mainMenu) :
    program.turn codec .hangUp = (program.abort, none) := by
  unfold turn
  rw [hPlace]

end MainMenu

/- Where a frame comes from. -/
theorem turn_frame
    {program : Program}
    {event : Event}
    {js : JsonObject}
    (hFrame : (program.turn codec event).2 = some js) :
    (program.place = .startMenu ∧
      ∃ typed : Typed,
        typed.IsCredentials ∧ typed.sent = .ok (some js)) ∨
      (program.place = .mainMenu ∧
        ∃ time handler args,
          (Typed.command program.user time handler
            args).sent = .ok (some js)) := by
  cases hPlace : program.place with
  | startMenu =>
      refine Or.inl ⟨rfl, ?_⟩
      cases event with
      | main moment =>
          have hCases := startTurn_cases codec hPlace moment
          rw [turn_start codec hPlace] at hFrame
          generalize
            program.startTurn codec moment = result
              at hCases hFrame
          cases hCases with
          | silent cin hStays => cases hFrame
          | unanswered cin hKind hSent hLost =>
              cases hFrame
              exact ⟨_, hKind, hSent⟩
          | answered cin hKind hSent hOut hReceived =>
              cases hFrame
              exact ⟨_, hKind, hSent⟩
      | arrival arrival =>
          unfold turn at hFrame
          rw [hPlace] at hFrame
          cases hFrame
      | hangUp =>
          unfold turn at hFrame
          rw [hPlace] at hFrame
          cases hFrame
  | mainMenu =>
      refine Or.inr ⟨rfl, ?_⟩
      cases event with
      | main moment =>
          rw [turn_menu codec hPlace] at hFrame
          exact
            ⟨moment.time,
              (menuTurn_cases program moment.time).2.2 js
                hFrame⟩
      | arrival arrival =>
          rw [turn_arrival codec hPlace] at hFrame
          cases hFrame
      | hangUp =>
          rw [turn_hangUp codec hPlace] at hFrame
          cases hFrame
  | ended =>
      rw [turn_idle codec (Or.inl hPlace)] at hFrame
      cases hFrame
  | aborted =>
      rw [turn_idle codec (Or.inr (Or.inl hPlace))] at hFrame
      cases hFrame

------------------------------------------------------------
-- One User
------------------------------------------------------------

/- The main thread has accepted a login of this user. -/
def Accepted
    (events : List Event)
    (user : CurrentUser) : Prop :=
  ∃ moment responseStr old session offline,
    Event.main moment ∈ events ∧
      moment.received = some responseStr ∧
        readLogin codec old responseStr =
            .ok (.accepted session offline) ∧
          user = ⟨session.id, session.name⟩

/-
  The frames of a run: those of the start menu, and behind
  them those of the commands of one user.
-/
structure LogsInOnce
    (events : List Event)
    (result : Program × List JsonObject)
    (before after : List JsonObject) : Prop where
  frames : result.2 = before ++ after
  credentials :
    ∀ js ∈ before, ∃ typed : Typed,
      typed.IsCredentials ∧ typed.sent = .ok (some js)
  commands :
    ∀ js ∈ after, ∃ time handler args,
      (Typed.command result.1.user time handler args).sent =
        .ok (some js)
  login : after ≠ [] → Accepted codec events result.1.user
  startMenu : result.1.place = .startMenu → after = []
  mainMenu :
    result.1.place = .mainMenu →
      Accepted codec events result.1.user

theorem Accepted.snoc
    {codec : JsonCodec}
    {events : List Event}
    {user : CurrentUser}
    (hAccepted : Accepted codec events user)
    (event : Event) :
    Accepted codec (events ++ [event]) user := by
  rcases hAccepted with
    ⟨moment, responseStr, old, session, offline, hEvent,
      hRest⟩
  exact
    ⟨moment, responseStr, old, session, offline,
      List.mem_append_left _ hEvent, hRest⟩

section Turns

variable {codec}
variable {events : List Event}
variable {program : Program}
variable {frames before after : List JsonObject}

/- Nothing happens but that the program may stop. -/
theorem LogsInOnce.quiet
    (hOnce :
      LogsInOnce codec events (program, frames) before after)
    {next : Program}
    (event : Event)
    (hPlace :
      next.place ≠ .mainMenu ∨ next.place = program.place)
    (hStart :
      next.place = .startMenu → program.place = .startMenu)
    (hUser : after ≠ [] → next.user = program.user)
    (hSame :
      next.place = .mainMenu → next.user = program.user) :
    LogsInOnce codec (events ++ [event]) (next, frames)
      before after where
  frames := hOnce.frames
  credentials := hOnce.credentials
  commands := by
    intro js hFrame
    have hSome : after ≠ [] := List.ne_nil_of_mem hFrame
    rw [hUser hSome]
    exact hOnce.commands js hFrame
  login := by
    intro hSome
    rw [hUser hSome]
    exact (hOnce.login hSome).snoc event
  startMenu := fun hNext => hOnce.startMenu (hStart hNext)
  mainMenu := by
    intro hNext
    rw [hSame hNext]
    rcases hPlace with hOther | hStays
    · exact absurd hNext hOther
    · rw [hStays] at hNext
      exact (hOnce.mainMenu hNext).snoc event

/- A frame of the start menu. -/
theorem LogsInOnce.request
    (hOnce :
      LogsInOnce codec events (program, frames) before after)
    (hPlace : program.place = .startMenu)
    {typed : Typed}
    {js : JsonObject}
    (hKind : typed.IsCredentials)
    (hFrame : typed.sent = .ok (some js))
    {next : Program}
    {event : Event}
    (hNext :
      next.place = .mainMenu →
        Accepted codec (events ++ [event]) next.user) :
    LogsInOnce codec (events ++ [event])
      (next, frames ++ [js]) (before ++ [js]) [] where
  frames := by
    have hFrames : frames = before ++ after := hOnce.frames
    rw [hFrames, hOnce.startMenu hPlace, List.append_nil,
      List.append_nil]
  credentials := by
    intro other hOther
    rcases List.mem_append.mp hOther with hOld | hNew
    · exact hOnce.credentials other hOld
    · rw [List.mem_singleton.mp hNew]
      exact ⟨typed, hKind, hFrame⟩
  commands := List.forall_mem_nil _
  login := fun hSome => absurd rfl hSome
  startMenu := fun _ => rfl
  mainMenu := hNext

/- A turn of `mainMenu`. -/
theorem LogsInOnce.command
    (hOnce :
      LogsInOnce codec events (program, frames) before after)
    (hPlace : program.place = .mainMenu)
    (moment : Moment) :
    LogsInOnce codec (events ++ [.main moment])
      ((program.menuTurn moment.time).1,
        frames ++ (program.menuTurn moment.time).2.toList)
      before
      (after ++
        (program.menuTurn moment.time).2.toList) := by
  rcases menuTurn_cases program moment.time with
    ⟨hNext, hSession, hFrame⟩
  have hUser :
      (program.menuTurn moment.time).1.user =
        program.user := by
    unfold user
    rw [hSession]
  have hAccepted :
      Accepted codec (events ++ [.main moment])
        (program.menuTurn moment.time).1.user := by
    rw [hUser]
    exact (hOnce.mainMenu hPlace).snoc _
  have hFrames : frames = before ++ after := hOnce.frames
  constructor
  · rw [hFrames, List.append_assoc]
  · exact hOnce.credentials
  · intro js hSent
    dsimp only
    rw [hUser]
    rcases List.mem_append.mp hSent with hOld | hNew
    · exact hOnce.commands js hOld
    · rcases hFrame js (Option.mem_toList.mp hNew) with
        ⟨handler, args, hCommand⟩
      exact ⟨moment.time, handler, args, hCommand⟩
  · exact fun _ => hAccepted
  · intro hStart
    dsimp only at hStart
    rcases hNext with hMenu | hAborted
    · rw [hMenu] at hStart
      cases hStart
    · rw [hAborted] at hStart
      cases hStart
  · exact fun _ => hAccepted

/- An answer after which commands are read is the one of an
accepted login. -/
theorem accepted_of_answered
    {typed : Typed}
    (hKind : typed.IsCredentials)
    {moment : Moment}
    {responseStr : String}
    (hPlace : program.place = .startMenu)
    (hReceived : moment.received = some responseStr)
    (hMenu :
      (program.answered codec moment responseStr
        typed).place = .mainMenu) :
    Accepted codec (events ++ [.main moment])
      (program.answered codec moment responseStr
        typed).user := by
  cases typed with
  | login name password =>
      rcases answered_login codec program moment responseStr
          name password with
        hAborted | ⟨hSame, _⟩ |
          ⟨session, offline, hRead, _, hSession⟩
      · rw [hAborted] at hMenu
        cases hMenu
      · rw [hSame, hPlace] at hMenu
        cases hMenu
      · refine
          ⟨moment, responseStr, _, session, offline,
            List.mem_append_right _ List.mem_cons_self,
            hReceived, hRead, ?_⟩
        unfold user
        rw [hSession]
  | register name password =>
      rcases answered_register codec program moment
          responseStr name password with hAborted | hSame
      · rw [hAborted] at hMenu
        cases hMenu
      · rw [hSame, hPlace] at hMenu
        cases hMenu
  | command user time handler args => exact hKind.elim

/- Nothing happens. -/
theorem LogsInOnce.idle
    (hOnce :
      LogsInOnce codec events (program, frames) before after)
    (event : Event) :
    LogsInOnce codec (events ++ [event]) (program, frames)
      before after :=
  hOnce.quiet event (Or.inr rfl) (fun hStart => hStart)
    (fun _ => rfl) fun _ => rfl

/- A turn of the receive thread. -/
theorem LogsInOnce.receive
    (hOnce :
      LogsInOnce codec events (program, frames) before after)
    (arrival : Arrival) :
    LogsInOnce codec (events ++ [.arrival arrival])
      (program.receiveTurn codec arrival, frames)
      before after := by
  rcases receiveTurn_cases codec program arrival with
    ⟨hNext, hUser⟩
  refine
    hOnce.quiet _ ?_ ?_ (fun _ => hUser) fun _ => hUser
  · rcases hNext with hAborted | hStays
    · rw [hAborted]
      exact Or.inl (by decide)
    · exact Or.inr hStays
  · intro hStart
    rcases hNext with hAborted | hStays
    · rw [hAborted] at hStart
      cases hStart
    · rw [hStays] at hStart
      exact hStart

/- One turn of a thread. -/
theorem LogsInOnce.turn
    (hOnce :
      LogsInOnce codec events (program, frames) before after)
    (event : Event) :
    ∃ before after,
      LogsInOnce codec (events ++ [event])
        ((program.turn codec event).1,
          frames ++ (program.turn codec event).2.toList)
        before after := by
  have hSilent :
      ∀ next : Program,
        program.turn codec event = (next, none) →
          LogsInOnce codec (events ++ [event]) (next, frames)
              before after →
            ∃ before after,
              LogsInOnce codec (events ++ [event])
                ((program.turn codec event).1,
                  frames ++
                    (program.turn codec event).2.toList)
                before after := by
    intro next hTurn hNext
    rw [hTurn, Option.toList_none, List.append_nil]
    exact ⟨before, after, hNext⟩
  cases hPlace : program.place with
  | startMenu =>
      have hIdle :
          (∀ moment, event ≠ .main moment) →
            program.turn codec event = (program, none) := by
        intro hOther
        exact
          turn_idle codec (Or.inr (Or.inr ⟨hPlace, hOther⟩))
      cases event with
      | main moment =>
          have hCases := startTurn_cases codec hPlace moment
          rw [turn_start codec hPlace]
          generalize
            program.startTurn codec moment = result
              at hCases ⊢
          cases hCases with
          | silent cin hStays =>
              refine ⟨before, after, ?_⟩
              rw [Option.toList_none, List.append_nil]
              exact
                hOnce.quiet (.main moment) (Or.inl hStays)
                  (fun _ => hPlace) (fun _ => rfl)
                  fun _ => rfl
          | unanswered cin hKind hFrame hLost =>
              refine
                ⟨_, _, hOnce.request hPlace hKind hFrame ?_⟩
              intro hMenu
              dsimp only at hMenu
              rw [hPlace] at hMenu
              cases hMenu
          | answered cin hKind hFrame hOut hReceived =>
              refine
                ⟨_, _, hOnce.request hPlace hKind hFrame ?_⟩
              intro hMenu
              exact
                accepted_of_answered hKind hPlace hReceived
                  hMenu
      | arrival arrival =>
          refine hSilent program (hIdle ?_) (hOnce.idle _)
          intro moment hSame
          cases hSame
      | hangUp =>
          refine hSilent program (hIdle ?_) (hOnce.idle _)
          intro moment hSame
          cases hSame
  | mainMenu =>
      cases event with
      | main moment =>
          rw [turn_menu codec hPlace]
          exact ⟨_, _, hOnce.command hPlace moment⟩
      | arrival arrival =>
          exact
            hSilent _ (turn_arrival codec hPlace arrival)
              (hOnce.receive arrival)
      | hangUp =>
          refine
            hSilent program.abort (turn_hangUp codec hPlace)
              ?_
          have hAborted : program.abort.place = .aborted :=
            rfl
          refine
            hOnce.quiet _ (Or.inl ?_) ?_ (fun _ => rfl)
              fun _ => rfl
          · rw [hAborted]
            decide
          · intro hStart
            cases hStart
  | ended =>
      exact
        hSilent program (turn_idle codec (Or.inl hPlace))
          (hOnce.idle _)
  | aborted =>
      exact
        hSilent program
          (turn_idle codec (Or.inr (Or.inl hPlace)))
          (hOnce.idle _)

/- Every run of the two threads. -/
theorem logsInOnce_run
    (gapTimeoutMs : Int)
    (input : Bytes)
    (events : List Event) :
    ∃ before after,
      LogsInOnce codec events
        (Transducer.run (step codec)
          (start gapTimeoutMs input) events)
        before after := by
  induction events using List.reverseRecOn with
  | nil =>
      refine ⟨[], [], ?_⟩
      exact
        { frames := rfl
          credentials := List.forall_mem_nil _
          commands := List.forall_mem_nil _
          login := fun hSome => absurd rfl hSome
          startMenu := fun _ => rfl
          mainMenu := by
            intro hMenu
            cases hMenu }
  | append_singleton events event ih =>
      rcases ih with ⟨before, after, hOnce⟩
      rw [Transducer.run_snoc]
      exact hOnce.turn event

end Turns

------------------------------------------------------------
-- The End of the Input
------------------------------------------------------------

/- The input is used up. -/
def Exhausted (program : Program) : Prop :=
  program.cin.input = []

/- `mainMenu` reads empty lines. -/
theorem round_exhausted
    (user : CurrentUser)
    {cin : IStream}
    (hEnd : cin.input = [])
    (time : String) :
    MainMenu.round user { cin := cin } time =
      { cin := (cin.getline bufferSize).2 } ∧
      (cin.getline bufferSize).2.input = [] := by
  have hLine :
      (cin.getline bufferSize).1 = [] ∧
        (cin.getline bufferSize).2.input = [] := by
    unfold IStream.getline
    split
    · exact ⟨rfl, hEnd⟩
    · rw [hEnd]
      exact ⟨rfl, rfl⟩
  refine ⟨?_, hLine.2⟩
  unfold MainMenu.round
  dsimp only
  rw [hLine.1]
  rfl

/- The main thread goes on and does nothing. -/
theorem mainTurn_exhausted
    {program : Program}
    (hEnd : program.Exhausted)
    (moment : Moment) :
    (program.turn codec (.main moment)).1.Exhausted ∧
      (program.turn codec (.main moment)).2 = none ∧
        (program.turn codec (.main moment)).1.place =
          program.place := by
  unfold turn
  cases hPlace : program.place with
  | startMenu =>
      have hChoice := choose_exhausted hEnd
      have hQuiet :
          program.startTurn codec moment =
            ({ program with cin := (choose program.cin).2 },
              none) := by
        unfold startTurn
        dsimp only
        rw [hChoice.1]
      dsimp only
      rw [hQuiet]
      exact ⟨hChoice.2, rfl, hPlace⟩
  | mainMenu =>
      have hRound :=
        round_exhausted program.user hEnd moment.time
      dsimp only
      unfold menuTurn
      rw [hRound.1]
      exact ⟨hRound.2, rfl, rfl⟩
  | ended => exact ⟨hEnd, rfl, hPlace⟩
  | aborted => exact ⟨hEnd, rfl, hPlace⟩

/- The receive thread does not read the input. -/
theorem receiveTurn_exhausted
    {program : Program}
    (hEnd : program.Exhausted)
    (arrival : Arrival) :
    (program.receiveTurn codec arrival).Exhausted := by
  unfold receiveTurn
  dsimp only
  split
  · exact hEnd
  · exact hEnd

theorem turn_exhausted
    {program : Program}
    (hEnd : program.Exhausted)
    (event : Event) :
    (program.turn codec event).1.Exhausted ∧
      (program.turn codec event).2 = none ∧
        ((program.turn codec event).1.place =
            program.place ∨
          program.place = .mainMenu ∧
            (program.turn codec event).1.place = .aborted ∧
              ∀ moment, event ≠ .main moment) := by
  have hOther :
      (∀ moment, event ≠ .main moment) →
        program.place ≠ .mainMenu →
          program.turn codec event = (program, none) := by
    intro hEvent hMenu
    refine turn_idle codec ?_
    cases hPlace : program.place with
    | startMenu => exact Or.inr (Or.inr ⟨rfl, hEvent⟩)
    | mainMenu => exact absurd hPlace hMenu
    | ended => exact Or.inl rfl
    | aborted => exact Or.inr (Or.inl rfl)
  cases event with
  | main moment =>
      rcases mainTurn_exhausted codec hEnd moment with
        ⟨hNext, hFrame, hPlace⟩
      exact ⟨hNext, hFrame, Or.inl hPlace⟩
  | arrival arrival =>
      by_cases hMenu : program.place = .mainMenu
      · have hCases := receiveTurn_cases codec program arrival
        rw [turn_arrival codec hMenu]
        refine
          ⟨receiveTurn_exhausted codec hEnd arrival, rfl, ?_⟩
        rcases hCases.1 with hAborted | hStays
        · refine Or.inr ⟨hMenu, hAborted, ?_⟩
          intro moment hSame
          cases hSame
        · exact Or.inl hStays
      · rw [hOther (fun _ hSame => by cases hSame) hMenu]
        exact ⟨hEnd, rfl, Or.inl rfl⟩
  | hangUp =>
      by_cases hMenu : program.place = .mainMenu
      · rw [turn_hangUp codec hMenu]
        refine ⟨hEnd, rfl, Or.inr ⟨hMenu, rfl, ?_⟩⟩
        intro moment hSame
        cases hSame
      · rw [hOther (fun _ hSame => by cases hSame) hMenu]
        exact ⟨hEnd, rfl, Or.inl rfl⟩

/-
  Once the input is used up, the program never sends a frame
  again, and the main thread goes on for ever: only the
  receive thread can end the program.
-/
theorem idle_without_input
    {program : Program}
    (hEnd : program.Exhausted)
    (events : List Event) :
    (Transducer.run (step codec) program events).2 = [] ∧
      ((Transducer.run (step codec) program
          events).1.place = program.place ∨
        program.place = .mainMenu ∧
          (Transducer.run (step codec) program
            events).1.place = .aborted ∧
            ∃ event ∈ events,
              ∀ moment, event ≠ .main moment) := by
  induction events generalizing program with
  | nil => exact ⟨rfl, Or.inl rfl⟩
  | cons event events ih =>
      rcases turn_exhausted codec hEnd event with
        ⟨hNext, hFrame, hPlace⟩
      rcases ih hNext with ⟨hFrames, hFinal⟩
      rw [Transducer.run_cons]
      have hStep :
          program.step codec event =
            ((program.turn codec event).1, []) := by
        unfold step
        dsimp only
        rw [hFrame]
        rfl
      rw [hStep]
      refine ⟨hFrames, ?_⟩
      dsimp only
      rcases hFinal with hStays | ⟨hMenu, hAborted, hSome⟩
      · rw [hStays]
        rcases hPlace with hSame | ⟨hHere, hGone, hOther⟩
        · exact Or.inl hSame
        · exact
            Or.inr
              ⟨hHere, hGone, event, List.mem_cons_self,
                hOther⟩
      · rcases hPlace with hSame | ⟨_, hGone, _⟩
        · rcases hSome with ⟨other, hOther, hKind⟩
          rw [hSame] at hMenu
          exact
            Or.inr
              ⟨hMenu, hAborted, other,
                List.mem_cons_of_mem _ hOther, hKind⟩
        · rw [hGone] at hMenu
          cases hMenu

def noAnswer : Moment where
  sent := true
  received := none
  time := "noon"
  clock := fun _ => 0
  visits := []

/- The answer to the login of user 1. -/
def sampleAnswer : Json :=
  .object
    [("errno", .unsigned 0), ("id", .unsigned 1),
      ("msgid", .unsigned EnMsgType.loginAckMsg.code),
      ("name", .string "ann")]

def answerCodec : JsonCodec := .ofTable [sampleAnswer]

/- A client in the main menu whose lines have been read: it
has logged in. -/
def linesRead : Program :=
  (Transducer.run (step answerCodec)
    (start 800 (utf8 "1\nann\nsecret\n"))
    [.main
        { noAnswer with received := some sampleAnswer.text },
      .main noAnswer]).1

/- Two more turns of this client. -/
theorem mainMenu_without_input :
    linesRead.place = .mainMenu ∧
      let final :=
        Transducer.run (step answerCodec) linesRead
          [.main noAnswer, .main noAnswer]
      final.2 = [] ∧ final.1.place = .mainMenu := by
  have hMenu : linesRead.place = .mainMenu := by
    decide +kernel
  have hEnd : linesRead.Exhausted :=
    show linesRead.cin.input = [] by decide +kernel
  have hIdle :=
    idle_without_input answerCodec hEnd
      [.main noAnswer, .main noAnswer]
  refine ⟨hMenu, hIdle.1, ?_⟩
  rcases hIdle.2 with hStays | ⟨_, _, event, hEvent, hOther⟩
  · rw [hStays, hMenu]
  · rcases List.mem_pair.mp hEvent with hFirst | hSecond
    · exact absurd hFirst (hOther noAnswer)
    · exact absurd hSecond (hOther noAnswer)

end Program

end Client

end ClusterChat
