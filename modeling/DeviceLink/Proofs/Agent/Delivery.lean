import DeviceLink.Agent.Run
import DeviceLink.Proofs.Link.Routes
/-!
# When the agent hears messages

The routes of the agent are made by its own subscriptions. It makes them when it handles a
connection that comes without a session, so until then it hears nothing, also where the broker has
kept the session of an earlier agent and sends its messages.
-/

namespace DeviceLink.Agent

open Mqtt

/-! ## Fresh agents -/

theorem routes_ofConfig {config : Config} {c : Link.Connection Unit}
    (h : Link.Connection.ofConfig config = .ok c) : c.routes = [] := by
  unfold Link.Connection.ofConfig at h
  split at h
  · cases h
  · cases h
    rfl

theorem routes_start (c : Link.Connection Unit) (config : ClientConfig) :
    (Client.start c () config).1.routes = c.routes := by
  unfold Client.start
  dsimp only
  split <;> exact Link.Connection.routes_connect _ _

theorem routes_dial {config : ClientConfig} {c : Link.Connection Unit} (h : dial config = .ok c) :
    c.routes = [] := by
  unfold dial at h
  cases hconfig : config.config with
  | error e => rw [hconfig] at h; cases h
  | ok checked =>
    rw [hconfig] at h
    simp only [bind, Except.bind, throw, throwThe, MonadExceptOf.throw, pure, Except.pure] at h
    split at h
    · cases h
    · rename_i c' hc'
      split at h
      · cases h
      · cases h
        rw [routes_start, routes_ofConfig hc']

/-- An agent that was just started has heard nothing and subscribed to nothing. -/
theorem State.fresh_of_start {files : Files} {path : String} {draw : Draw} {a : State}
    (h : State.start files path draw = .ok a) : a.session = {} ∧ a.connection.routes = [] := by
  simp only [State.start, bind, Except.bind, pure, Except.pure] at h
  split at h
  · cases h
  · split at h
    · cases h
    · split at h
      · cases h
      · rename_i c hdial
        cases h
        refine ⟨rfl, ?_⟩
        generalize hresult : dial _ = result at hdial
        cases result with
        | error e => cases hdial
        | ok c' =>
          cases hdial
          exact routes_dial hresult

/-! ## One move -/

/-- An open session keeps an event for every callback. -/
theorem foldl_tell (callbacks : List Callback) (s : Session) (h : s.isOpen = true) :
    (callbacks.foldl Session.tell s).isOpen = true ∧
      (callbacks.foldl Session.tell s).mailbox = s.mailbox ++ callbacks.map Event.ofCallback := by
  induction callbacks generalizing s with
  | nil => exact ⟨h, (List.append_nil _).symm⟩
  | cons c callbacks ih =>
    obtain ⟨hopen, hmailbox⟩ := ih (s.tell c) h
    refine ⟨hopen, ?_⟩
    rw [List.foldl_cons, hmailbox]
    simp [Session.tell, h]

/-- An event that tells of a connection for which the broker had no session. -/
def Event.Sessionless (e : Event) : Prop := e = .connected false ∨ ∃ code, e = .resumed code false

theorem Event.wantsTopics_iff (e : Event) : e.wantsTopics = true ↔ e.Sessionless := by
  cases e <;> simp [wantsTopics, Sessionless]

/-- Handling an event puts the topics into the routes if it calls for them and the request is
accepted. -/
theorem mem_filters_handle (a : State) (e : Event)
    (hgrants : e.Sessionless → a.settings.topics ≠ [] →
      (Client.subscribeMany a.connection () a.settings.topics a.settings.qos).answer.isSome = true)
    (f : String) : f ∈ (a.handle e).connection.routes.map (·.1) ↔
      e.Sessionless ∧ f ∈ a.settings.topics ∨ f ∈ a.connection.routes.map (·.1) := by
  rw [← e.wantsTopics_iff] at hgrants ⊢
  by_cases hwants : e.wantsTopics = true
  · by_cases htopics : a.settings.topics = []
    · simp [State.handle, Agent.handle, subscribeAll, hwants, htopics]
    · have hroutes := a.connection.routes_subscribeMany (a.settings.topics.map (·, ()))
        a.settings.qos ()
      have haccepted : (a.connection.subscribeMany (a.settings.topics.map (·, ()))
          a.settings.qos ()).2.isSome = true := hgrants hwants htopics
      rw [if_pos haccepted] at hroutes
      have hconnection : (a.handle e).connection =
          (a.connection.subscribeMany (a.settings.topics.map (·, ())) a.settings.qos ()).1 := by
        simp only [State.handle, Agent.handle, subscribeAll, hwants, if_true, List.isEmpty_iff,
          htopics, if_false]
        rfl
      rw [hconnection, hroutes, Link.Routes.mem_filters_putAll]
      simp [hwants]
  · simp [State.handle, Agent.handle, hwants]

/-! ## Runs -/

/-- What may happen to the agent: a poll of the event loop, a change of the event loop, handling
the next event, and starting to close the connection. -/
inductive Move
  | poll (result : Link.Poll)
  | loop (state : Option Link.Loop)
  | take
  | disconnect

/-- An agent and the events it has handled. -/
structure Run where
  state : State
  handled : List Event := []

namespace Run

/-- The agent after a poll of its event loop. -/
def polled (r : Run) (result : Link.Poll) : Run :=
  let (connection, deliveries) := r.state.connection.react result
  { r with state := { r.state with connection }.hear deliveries }

/-- The agent after a move. -/
def step (r : Run) : Move → Run
  | .poll result => r.polled result
  | .loop state => { r with state.connection.loop := state }
  | .take =>
    match r.state.session.mailbox with
    | [] => r
    | e :: rest =>
      { state := { r.state with session.mailbox := rest }.handle e
        handled := r.handled ++ [e] }
  | .disconnect => { r with state := r.state.disconnect.1 }

/-- The agent after some moves. -/
def after (r : Run) (moves : List Move) : Run := moves.foldl step r

/-- Whether a subscribe request that a move issues is accepted. -/
def Grants (r : Run) : Move → Prop
  | .take => ∀ e ∈ r.state.session.mailbox.head?, e.Sessionless →
      r.state.settings.topics ≠ [] →
        (Client.subscribeMany r.state.connection () r.state.settings.topics
          r.state.settings.qos).answer.isSome = true
  | .poll _ | .loop _ | .disconnect => True

/-- Whether all subscribe requests along some moves are accepted. -/
def Granted (r : Run) : List Move → Prop
  | [] => True
  | m :: moves => r.Grants m ∧ (r.step m).Granted moves

/-- Whether the agent has handled an event that made it subscribe its topics. -/
def Subscribed (r : Run) : Prop := ∃ e ∈ r.handled, e.Sessionless

/-- The routes are the topics once the agent has subscribed, and none before. -/
structure Served (r : Run) : Prop where
  isOpen : r.state.session.isOpen = true
  routes : ∀ f, f ∈ r.state.connection.routes.map (·.1) ↔ f ∈ r.state.settings.topics ∧ r.Subscribed

variable {r : Run}

theorem polled_session (r : Run) (result : Link.Poll) (h : r.state.session.isOpen = true) :
    (r.polled result).state.session.isOpen = true ∧
      (r.polled result).state.session.mailbox = r.state.session.mailbox ++
        ((r.state.connection.react result).2.flatMap fun d => d.signal.callbacks).map
          Event.ofCallback :=
  foldl_tell _ _ h

/-- A message is an event for every route that matches its topic. -/
theorem polled_publish (r : Run) (m : Message) (h : r.state.session.isOpen = true) :
    (r.polled (.incoming (.publish m))).state.session.mailbox = r.state.session.mailbox ++
      List.replicate (r.state.connection.routes.receivers m.topic).length
        (.message m.topic m.payload m.qos m.retain) := by
  rw [(r.polled_session _ h).2]
  congr 1
  show (((r.state.connection.routes.receivers m.topic).map fun receiver =>
    (⟨receiver, .message m⟩ : Delivery Unit)).flatMap fun d => d.signal.callbacks).map
      Event.ofCallback = _
  induction r.state.connection.routes.receivers m.topic with
  | nil => rfl
  | cons receiver receivers ih =>
    rw [List.map_cons, List.flatMap_cons, List.map_append, ih, List.length_cons,
      List.replicate_succ]
    rfl

theorem exists_mem_snoc {α : Type} {p : α → Prop} {l : List α} {x : α} :
    (∃ y ∈ l ++ [x], p y) ↔ (∃ y ∈ l, p y) ∨ p x := by
  simp only [List.mem_append, List.mem_singleton, or_and_right, exists_or, exists_eq_left]

theorem Served.step (h : r.Served) {m : Move} (hgrants : r.Grants m) : (r.step m).Served := by
  cases m with
  | poll result =>
    refine ⟨(r.polled_session result h.isOpen).1, fun f => ?_⟩
    have hroutes := r.state.connection.routes_react result
    show f ∈ (r.state.connection.react result).1.routes.map (·.1) ↔ _
    rw [hroutes]
    exact h.routes f
  | loop state => exact ⟨h.isOpen, h.routes⟩
  | take =>
    cases hmailbox : r.state.session.mailbox with
    | nil => simpa only [Run.step, hmailbox] using h
    | cons e rest =>
      have hstep : r.step .take =
          { state := { r.state with session.mailbox := rest }.handle e
            handled := r.handled ++ [e] } := by
        simp only [Run.step, hmailbox]
      have hfilters := mem_filters_handle { r.state with session.mailbox := rest } e
        (hgrants e (by rw [hmailbox]; rfl))
      rw [hstep]
      refine ⟨h.isOpen, fun f => ?_⟩
      rw [hfilters f, h.routes f]
      show e.Sessionless ∧ f ∈ r.state.settings.topics ∨
        f ∈ r.state.settings.topics ∧ r.Subscribed ↔
          f ∈ r.state.settings.topics ∧ ∃ e' ∈ r.handled ++ [e], e'.Sessionless
      rw [exists_mem_snoc, and_or_left, or_comm, and_comm (a := e.Sessionless)]
      rfl
  | disconnect =>
    refine ⟨h.isOpen, fun f => ?_⟩
    have hroutes := r.state.connection.routes_disconnect
    show f ∈ r.state.connection.disconnect.1.routes.map (·.1) ↔ _
    rw [hroutes]
    exact h.routes f

theorem Served.after (moves : List Move) : ∀ r : Run, r.Served → r.Granted moves →
    (r.after moves).Served := by
  induction moves with
  | nil => exact fun r h _ => h
  | cons m moves ih => exact fun r h hgranted => ih _ (h.step hgranted.1) hgranted.2

theorem settings_step (r : Run) (m : Move) : (r.step m).state.settings = r.state.settings := by
  cases m with
  | poll result => rfl
  | loop state => rfl
  | take =>
    simp only [Run.step]
    split <;> rfl
  | disconnect => rfl

theorem settings_after (moves : List Move) (r : Run) :
    (r.after moves).state.settings = r.state.settings := by
  induction moves generalizing r with
  | nil => rfl
  | cons m moves ih => exact (ih (r.step m)).trans (r.settings_step m)

theorem receivers_length_pos (table : Link.Routes Unit) (topic : String) :
    0 < (table.receivers topic).length ↔
      ∃ f ∈ table.map (·.1), Topic.matchesFilter f topic = true := by
  rw [List.length_pos_iff_exists_mem, Link.Routes.receivers]
  simp

theorem served_start {files : Files} {path : String} {draw : Draw} {a : State}
    (h : State.start files path draw = .ok a) : Run.Served { state := a } := by
  obtain ⟨hsession, hroutes⟩ := State.fresh_of_start h
  refine ⟨by rw [hsession], fun f => ?_⟩
  simp [hroutes, Subscribed]

/-- From its start on, as long as its subscriptions are accepted, the agent hears a message for its
topics if and only if it has handled a connection that came without a session. -/
theorem hears_iff_subscribed {files : Files} {path : String} {draw : Draw} {a : State}
    (hstart : State.start files path draw = .ok a) (moves : List Move)
    (hgranted : Run.Granted { state := a } moves) (m : Message)
    (hm : ∃ f ∈ a.settings.topics, Topic.matchesFilter f m.topic = true) :
    let r := Run.after { state := a } moves
    ∃ n, (r.polled (.incoming (.publish m))).state.session.mailbox =
        r.state.session.mailbox ++ List.replicate n (.message m.topic m.payload m.qos m.retain) ∧
      (0 < n ↔ ∃ e ∈ r.handled, e.Sessionless) := by
  intro r
  have hserved : r.Served := Served.after moves _ (served_start hstart) hgranted
  have hsettings : r.state.settings = a.settings := settings_after moves _
  refine ⟨_, r.polled_publish m hserved.isOpen, ?_⟩
  rw [receivers_length_pos]
  constructor
  · rintro ⟨f, hf, -⟩
    exact ((hserved.routes f).1 hf).2
  · intro hsubscribed
    obtain ⟨f, hf, hmatches⟩ := hm
    exact ⟨f, (hserved.routes f).2 ⟨hsettings ▸ hf, hsubscribed⟩, hmatches⟩

/-- The settings file of an agent with one topic that asks the broker to keep its session. -/
def sampleFiles : Files := fun _ => .ok (Utf8.encode <|
  "thing_name = \"sensor\"\ntopics = [\"t/#\"]\n[mqtt]\nendpoint = \"broker\"\n" ++
  "client_id = \"sensor\"\nclean_session = false\nusername = \"user\"\npassword = \"word\"\n" ++
  "use_tls = false\n")

/-- That agent at its start. -/
def sampleAgent : State where
  settings :=
    { thingName := "sensor"
      mqtt :=
        { endpoint := "broker"
          clientId := some "sensor"
          cleanSession := false
          username := some "user"
          password := some "word"
          useTls := false }
      topics := ["t/#"] }
  connection :=
    { config := ⟨"broker", some 8883, .password "user" "word", none, false⟩
      lifecycle := .all ()
      client := true
      loop := some
        { options := ⟨"sensor", false, 30, 3000⟩
          credentials := some ("user", "word") } }

theorem start_sampleFiles : State.start sampleFiles "" ⟨0, 0⟩ = .ok sampleAgent := by
  -- Traces have no decidable equality, so it is their number that is computed.
  have hstart : (State.start sampleFiles "" ⟨0, 0⟩).toOption.map
      (fun a => (a.settings, a.connection, a.session, a.traces.length)) =
        some (sampleAgent.settings, sampleAgent.connection, {}, 0) := by
    decide +kernel
  cases h : State.start sampleFiles "" ⟨0, 0⟩ with
  | error e => rw [h] at hstart; cases hstart
  | ok a =>
    rw [h] at hstart
    obtain ⟨settings, connection, session, traces⟩ := a
    simp only [Except.toOption, Option.map_some, Option.some.injEq, Prod.mk.injEq,
      List.length_eq_zero_iff] at hstart
    obtain ⟨rfl, rfl, rfl, rfl⟩ := hstart
    rfl

/-- An agent with room for its subscription hears a message after its first connection. -/
theorem hears_iff_subscribed_fresh :
    let moves : List Move := [.poll (.incoming (.connAck .accepted false)), .take]
    let m : Message := ⟨"t/x", [], false, .atMostOnce, false⟩
    State.start sampleFiles "" ⟨0, 0⟩ = .ok sampleAgent ∧
      Run.Granted { state := sampleAgent } moves ∧
      (∃ f ∈ sampleAgent.settings.topics, Topic.matchesFilter f m.topic = true) ∧
      let r := Run.after { state := sampleAgent } moves
      ∃ n, (r.polled (.incoming (.publish m))).state.session.mailbox = r.state.session.mailbox ++
        List.replicate n (.message "t/x" [] .atMostOnce false) ∧ 0 < n := by
  intro moves m
  have hgranted : Run.Granted { state := sampleAgent } moves :=
    ⟨trivial, fun _ _ _ _ => rfl, trivial⟩
  have hm : ∃ f ∈ sampleAgent.settings.topics, Topic.matchesFilter f m.topic = true :=
    ⟨"t/#", List.mem_cons_self, by decide⟩
  obtain ⟨n, hmailbox, hpos⟩ := hears_iff_subscribed start_sampleFiles moves hgranted m hm
  exact ⟨start_sampleFiles, hgranted, hm, n, hmailbox,
    hpos.2 ⟨.connected false, List.mem_cons_self, .inl rfl⟩⟩

/-- An agent whose first connection finds a session of an earlier one does not hear the messages
of that session. -/
theorem kept_session_unheard :
    let moves : List Move := [.poll (.incoming (.connAck .accepted true)), .take]
    let m : Message := ⟨"t/x", [], false, .atMostOnce, false⟩
    State.start sampleFiles "" ⟨0, 0⟩ = .ok sampleAgent ∧
      Run.Granted { state := sampleAgent } moves ∧
      (∃ f ∈ sampleAgent.settings.topics, Topic.matchesFilter f m.topic = true) ∧
      let r := Run.after { state := sampleAgent } moves
      r.handled = [.connected true] ∧
        (r.polled (.incoming (.publish m))).state.session.mailbox = [] := by
  intro moves m
  refine ⟨start_sampleFiles, ⟨trivial, fun e he hsessionless => ?_, trivial⟩,
    ⟨"t/#", List.mem_cons_self, by decide⟩, rfl, rfl⟩
  cases he
  obtain h | ⟨_, h⟩ := hsessionless <;> cases h

end Run

end DeviceLink.Agent
