import DeviceLink.Proofs.Bench.Apart
/-!
# Tunnels and their listeners

What the native events of tunnels and the reports of opened ones come to: one callback each, or one
error where a report cannot be passed on. And what a tunnel has sent after calls on it: the messages
whose sending was answered zero, which is while the tunnel is started and operations are accepted.
-/

namespace DeviceLink.Tunnel

/-! ## Events and their callbacks -/

/-- Whether a buffer lends the bytes of an event: no bytes where they are absent. -/
structure Lends (bytes : Option (List UInt8)) (b : Buffer) : Prop where
  bytes : b.bytes = bytes.getD []
  lent : b.owned = false

/-- The callback that tells of an event: the one of its kind, with the error code and the connection
id unchanged and the bytes lent. -/
inductive Told : Event → Callback → Prop
  | connectionSuccess {id1 id2 id3 : Option (List UInt8)} {b1 b2 b3 : Buffer} (h1 : Lends id1 b1)
    (h2 : Lends id2 b2) (h3 : Lends id3 b3) :
    Told (.connectionSuccess id1 id2 id3) (.connectionSuccess b1 b2 b3)
  | connectionFailure (code : ℤ) : Told (.connectionFailure code) (.connectionFailure code)
  | connectionShutdown : Told .connectionShutdown .connectionShutdown
  | connectionReset (code : ℤ) (connectionId : ℕ) {serviceId : Option (List UInt8)} {b : Buffer}
    (h : Lends serviceId b) :
    Told (.connectionReset code connectionId serviceId) (.connectionReset code connectionId b)
  | sessionReset : Told .sessionReset .sessionReset
  | sendMessageComplete (code : ℤ) {messageType : List UInt8} {b : Buffer}
    (h : Lends (some messageType) b) :
    Told (.sendMessageComplete code messageType) (.sendMessageComplete code b)
  | messageReceived (connectionId : ℕ) {payload serviceId : Option (List UInt8)} {b c : Buffer}
    (hpayload : Lends payload b) (hservice : Lends serviceId c) :
    Told (.messageReceived connectionId payload serviceId) (.messageReceived connectionId b c)
  | streamStarted (code : ℤ) (connectionId : ℕ) {serviceId : Option (List UInt8)} {b : Buffer}
    (h : Lends serviceId b) :
    Told (.streamStarted code connectionId serviceId) (.streamStarted code connectionId b)
  | streamStopped {serviceId : Option (List UInt8)} {b : Buffer} (h : Lends serviceId b) :
    Told (.streamStopped serviceId) (.streamStopped b)

theorem lends_lend (bytes : Option (List UInt8)) : Lends bytes (lend bytes) := by
  cases bytes <;> exact ⟨rfl, rfl⟩

theorem told_callback (e : Event) : Told e e.callback := by
  cases e with
  | connectionSuccess => exact .connectionSuccess (lends_lend _) (lends_lend _) (lends_lend _)
  | connectionFailure code => exact .connectionFailure code
  | connectionShutdown => exact .connectionShutdown
  | connectionReset code connectionId => exact .connectionReset code connectionId (lends_lend _)
  | sessionReset => exact .sessionReset
  | sendMessageComplete code => exact .sendMessageComplete code ⟨rfl, rfl⟩
  | messageReceived connectionId =>
    exact .messageReceived connectionId (lends_lend _) (lends_lend _)
  | streamStarted code connectionId => exact .streamStarted code connectionId (lends_lend _)
  | streamStopped => exact .streamStopped (lends_lend _)

/-! ## Reports of opened tunnels -/

/-- Whether a report can be passed on: there is no error, and nothing that is needed is left out. -/
structure Complete (response : Option Opened) (ioError : ℤ) : Prop where
  noError : ioError = 0
  opened : ∃ o, response = some o ∧ o.accessToken.isSome ∧ o.region.isSome ∧ o.clientMode.isSome

/-- Whether a notice has every field of what was opened. -/
structure Notice.Mirrors (n : Notice) (o : Opened) : Prop where
  accessToken : o.accessToken = some n.accessToken
  region : o.region = some n.region
  clientMode : o.clientMode = some n.clientMode
  services : n.services = o.services.getD []

/-- A report is passed on exactly when it is complete. -/
theorem ofReport_cases (response : Option Opened) (ioError : ℤ) :
    (ioError = 0 ∧ ∃ o n, response = some o ∧ Complete (some o) 0 ∧ n.Mirrors o ∧
      Notice.ofReport response ioError = .ok n) ∨
    ¬Complete response ioError ∧ ∃ fault, Notice.ofReport response ioError = .error fault := by
  by_cases herror : ioError = 0
  · subst herror
    cases response with
    | none =>
      refine .inr ⟨fun h => ?_, .noResponse, rfl⟩
      obtain ⟨o, ho, -⟩ := h.opened
      cases ho
    | some o =>
      -- In the order in which they are missed: the token, the region, the mode.
      have hneeded (hmissing : ¬(o.accessToken.isSome ∧ o.region.isSome ∧ o.clientMode.isSome)) :
          ¬Complete (some o) 0 := fun h => by
        obtain ⟨_, ho, hall⟩ := h.opened
        exact hmissing (Option.some.inj ho ▸ hall)
      obtain ⟨region, clientMode, services, accessToken⟩ := o
      cases accessToken with
      | none => exact .inr ⟨hneeded nofun, _, rfl⟩
      | some accessToken =>
        cases region with
        | none => exact .inr ⟨hneeded nofun, _, rfl⟩
        | some region =>
          cases clientMode with
          | none => exact .inr ⟨hneeded nofun, _, rfl⟩
          | some clientMode =>
            exact .inl ⟨rfl, _, ⟨accessToken, region, clientMode, services.getD []⟩, rfl,
              ⟨rfl, _, rfl, rfl, rfl, rfl⟩, ⟨rfl, rfl, rfl, rfl⟩, rfl⟩
  · refine .inr ⟨fun h => herror h.noError, .ioError ioError, ?_⟩
    unfold Notice.ofReport
    rw [if_pos herror]
    rfl

/-! ## Drafts -/

/-- A receiver that is registered in every slot. -/
theorem Draft.lookup_registerAll {ρ : Type} (endpoint accessToken : String) (mode : Mode) (r : ρ)
    (slot : Slot) :
    (({ endpoint, accessToken, mode } : Draft ρ).registerAll Slot.all r).slots.lookup slot =
      some r := by
  cases slot <;> rfl

end DeviceLink.Tunnel

namespace DeviceLink.Bench

open Mqtt Simulated Library

/-! ## Who is registered -/

/-- Whether the user of a handle is registered where it belongs: in every slot of a tunnel, and once
with the client that tells of opened ones. -/
def Equipped (name : String) : Holding → Native Receiver → Prop
  | .tunnel _, .tunnel t => ∀ slot, t.draft.slots.lookup slot = some (.tunnel name)
  | .listener .., .tunnelingClient c => c.handlers = [.listener name]
  | _, _ => True

theorem Equipped.act {name : String} {holding : Holding} {x : Native Receiver}
    (h : Equipped name holding x) (faults : Faults) (r : Receiver) (d : Deed) :
    Equipped name holding (x.act faults r d).1 := by
  cases x with
  | tunnel t =>
    have hslots : (t.act faults d).1.draft = t.draft := by
      cases d with
      | start =>
        simp only [Simulated.Tunnel.act, Simulated.Tunnel.start]
        split <;> rfl
      | send m =>
        simp only [Simulated.Tunnel.act, Simulated.Tunnel.send]
        split <;> rfl
      | _ => rfl
    cases holding with
    | tunnel i =>
      intro slot
      show (t.act faults d).1.draft.slots.lookup slot = _
      rw [hslots]
      exact h slot
    | _ => trivial
  | tunnelingClient c =>
    have hhandlers : (c.act d).1.handlers = c.handlers := by
      cases d <;> rfl
    cases holding with
    | listener => exact hhandlers.trans h
    | _ => trivial
  | connection | jobsClient => cases holding <;> trivial

theorem Equipped.does {name : String} {holding : Holding} {x : Native Receiver}
    (h : Equipped name holding x) (faults : Faults) (r : Receiver) (ds : List Deed) :
    Equipped name holding (x.does faults r ds).1 := by
  induction ds generalizing x with
  | nil => exact h
  | cons d ds ih => exact ih (h.act faults r d)

theorem equipped_product {st : Step} {name : String} {holding : Holding} {x : Native Receiver}
    (h : st.product? name = some (holding.plain, x)) : Equipped name holding x := by
  unfold Step.product? at h
  split at h
  case h_6 m thing code reporting =>
    -- A listener.
    split at h
    · obtain ⟨hholding, rfl⟩ := Prod.mk.inj (Option.some.inj h)
      cases holding with
      | listener => rfl
      | _ => cases hholding
    · cases h
  case h_7 endpoint accessToken mode reporting =>
    split at h
    · next mode =>
      obtain ⟨hholding, rfl⟩ := Prod.mk.inj (Option.some.inj h)
      cases holding with
      | tunnel =>
        intro slot
        simp only [Tunnel.Draft.lookup_registerAll]
      | _ => cases hholding
    · cases h
  -- The other handles are neither on a listener nor on a tunnel of a user.
  all_goals
    try split at h
    all_goals first
      | obtain ⟨hholding, -⟩ := Prod.mk.inj (Option.some.inj h)
        cases holding with
        | tunnel | listener => cases hholding
        | _ => trivial
      | cases h

/-! ## Firings -/

/-- A native event of the tunnel behind a handle, or a report of an opened one to a listener. -/
inductive TunnelFiring
  | event (handle : String) (e : Tunnel.Event)
  | opened (handle : String) (response : Option Tunnel.Opened) (ioError : ℤ)

/-- The firing as a step. -/
def TunnelFiring.step : TunnelFiring → Step
  | event handle e => .fireTunnel handle (.ok e)
  | opened handle response ioError => .fireOpened handle response ioError

/-! ## Calls -/

/-- A call on a tunnel, or a change of the faults in force between calls. -/
inductive TunnelCall
  | start
  | stop
  | send (m : Tunnel.Outbound)
  | fault (change : FaultChange)

namespace TunnelCall

/-- The call as a step. -/
def step (name : String) : TunnelCall → Step
  | start => .start name
  | stop => .stop name
  | send m => .send name m
  | fault change => change.step

/-- The answer to a call, by whether the tunnel is started and operations are refused. -/
def reply (started refused : Bool) : TunnelCall → Answer
  | start => .number (if refused then -1 else 0)
  | stop => .number (if started then 0 else -1)
  | send _ => .number (if started && !refused then 0 else -1)
  | fault _ => .nothing

/-- Whether operations are refused after it, by whether they were before it. -/
def refuses (refused : Bool) : TunnelCall → Bool
  | fault change => change.refuses refused
  | start | stop | send _ => refused

/-- The message of a call that was answered zero. -/
def sent? : TunnelCall × Answer → Option Tunnel.Outbound
  | (send m, .number 0) => some m
  | _ => none

/-- Whether a start, rather than a stop, was answered zero. -/
def switch? : TunnelCall × Answer → Option Bool
  | (start, .number 0) => some true
  | (stop, .number 0) => some false
  | _ => none

end TunnelCall

/-- The messages of the calls that were answered zero. -/
def sentIn (log : List (TunnelCall × Answer)) : List Tunnel.Outbound :=
  log.filterMap TunnelCall.sent?

/-- Whether the last start or stop that was answered zero is a start. -/
def startedIn (log : List (TunnelCall × Answer)) : Bool :=
  (log.filterMap TunnelCall.switch?).getLastD false

namespace State

variable {s s' : State} {name : String}

/-- Whether every handle on a tunnel or a listener is. -/
def Rigged (s : State) : Prop :=
  ∀ entry ∈ s.handles, ∀ x, s.library.native? entry.2.holding.own = some x →
    Equipped entry.1 entry.2.holding x

theorem Rigged.run (hrigged : s.Rigged) (h : s.Apart) (st : Step) : (s.run st).1.Rigged :=
  (step_effect h st).each h (fun _ _ _ hproduct _ => equipped_product hproduct)
    (fun _ _ _ ds _ hequipped => hequipped.does _ _ ds) hrigged

theorem Rigged.after (hrigged : s.Rigged) (h : s.Apart) (steps : List Step) :
    (s.after steps).Rigged := by
  induction steps generalizing s with
  | nil => exact hrigged
  | cons st steps ih => exact ih (hrigged.run h st) (h.run st)

theorem rigged_fresh (limits : Log.Limits) (reaction : Reaction) :
    Rigged { limits, reaction } := by
  intro entry hentry
  cases hentry

/-! ## Events one after the other -/

theorem tunnelOf_of_lookup {i : ℕ} {t : Simulated.Tunnel Receiver}
    (hlookup : s.handles.lookup name = some ⟨.tunnel i, false⟩)
    (hget : s.library.tunnels.get? i = some t) : s.tunnelOf name = .ok (i, t) := by
  simp [tunnelOf, object, lookUp, hlookup, Holding.tunnel?, hget, bind, Except.bind, pure,
    Except.pure]

/-- The tunnel of a handle that was not dropped, with its user in every slot. -/
theorem Apart.tunnel (h : s.Apart) (hrigged : s.Rigged) {i : ℕ}
    (hlookup : s.handles.lookup name = some ⟨.tunnel i, false⟩) :
    ∃ t, s.tunnelOf name = .ok (i, t) ∧
      ∀ e, t.fire e = some (.tunnel name, e) := by
  obtain ⟨t, hget⟩ := Shelf.get?_of_holders (s := s.library.tunnels) (h.sound.alive hlookup)
  refine ⟨t, tunnelOf_of_lookup hlookup hget, fun e => ?_⟩
  have hslots := hrigged _ (mem_of_lookup hlookup) (.tunnel t) (native?_tunnel hget)
  rw [Simulated.Tunnel.fire, hslots e.slot]
  rfl

/-- The client of a listener that was not dropped, with its user registered once. -/
theorem Apart.listener (h : s.Apart) (hrigged : s.Rigged) {n i : ℕ} {thing : String}
    (hlookup : s.handles.lookup name = some ⟨.listener n i thing, false⟩) :
    ∃ c, s.listenerOf name = .ok (n, c) ∧ c.handlers = [.listener name] := by
  obtain ⟨c, hget⟩ := Shelf.get?_of_holders (s := s.library.tunnelingClients)
    (h.sound.alive hlookup)
  have hget : s.library.tunnelingClients.get? n = some c := hget
  refine ⟨c, ?_, hrigged _ (mem_of_lookup hlookup) (.tunnelingClient c)
    (native?_tunnelingClient hget)⟩
  simp [listenerOf, object, lookUp, hlookup, Holding.listener?, hget, bind, Except.bind, pure,
    Except.pure]

theorem step_event (h : s.Apart) (hrigged : s.Rigged) {i : ℕ}
    (hlookup : s.handles.lookup name = some ⟨.tunnel i, false⟩) (e : Tunnel.Event) :
    s.step (.fireTunnel name (.ok e)) = (s.invoke name (.tunnel e.callback), .yes true) := by
  obtain ⟨t, htunnel, hfire⟩ := h.tunnel hrigged hlookup
  simp [step, attempt, htunnel, orRefuse, bind, Except.bind, pure, Except.pure, answerYes,
    State.fireTunnel, hfire, tellTunnel]

theorem step_opened (h : s.Apart) (hrigged : s.Rigged) {n i : ℕ} {thing : String}
    (hlookup : s.handles.lookup name = some ⟨.listener n i thing, false⟩)
    (response : Option Tunnel.Opened) (ioError : ℤ) :
    s.step (.fireOpened name response ioError) =
      (s.tellListener (.listener name) (.opened response ioError), .number 1) := by
  obtain ⟨c, hlistener, hhandlers⟩ := h.listener hrigged hlookup
  simp [step, attempt, hlistener, bind, Except.bind, pure, Except.pure, answerCount,
    State.fireOpened, TunnelingClient.fire, hhandlers, tellAllListener]

/-- An error that is noted changes the journal and nothing else. -/
theorem Sound.run_error (h : Sound s) {st : Step} {line : Log.Line} (hline : line.level = .error)
    {answer : Answer} (hstep : s.step st = (s.note line, answer)) :
    (s.run st).2 = { s.quietReport with answer, log := [line] } ∧ Untouched s (s.run st).1 ∧
      (s.run st).1.invocations = s.invocations := by
  have hnote : s.note line = { s with journal := { log := [line] } } := by
    rw [State.note, hline, s.limits.admits_error, if_pos rfl, h.journal]
  rw [hnote] at hstep
  refine ⟨h.report hstep rfl, ?_, ?_⟩
  · unfold State.run
    simp only [hstep]
    exact ⟨rfl, rfl, rfl, rfl⟩
  · unfold State.run
    simp only [hstep]

/-- Whether a firing is on the tunnel or the listener of a handle that was not dropped. -/
def reaches (s : State) : TunnelFiring → Bool
  | .event name _ =>
    match s.handles.lookup name with
    | some ⟨.tunnel _, false⟩ => true
    | _ => false
  | .opened name _ _ =>
    match s.handles.lookup name with
    | some ⟨.listener .., false⟩ => true
    | _ => false

/-- The reports of firings one after the other, and the numbers of callbacks made before and after
them. An event makes one callback, the next, which tells of it. A report of an opened tunnel makes
one with every field of it if it is complete, and otherwise adds an error to the log and nothing
else. -/
inductive Reported (s : State) : ℕ → List TunnelFiring → List Report → ℕ → Prop
  | done (n : ℕ) : Reported s n [] [] n
  | told {n m : ℕ} {name : String} {e : Tunnel.Event} {c : Tunnel.Callback}
    {fs : List TunnelFiring} {rs : List Report} (hc : Tunnel.Told e c)
    (rest : Reported s (n + 1) fs rs m) :
    Reported s n (.event name e :: fs)
      ({ s.callReport n name (.tunnel c) with answer := .yes true } :: rs) m
  | notified {n m : ℕ} {name : String} {o : Tunnel.Opened} {notice : Tunnel.Notice}
    {fs : List TunnelFiring} {rs : List Report} (hcomplete : Tunnel.Complete (some o) 0)
    (hnotice : notice.Mirrors o) (rest : Reported s (n + 1) fs rs m) :
    Reported s n (.opened name (some o) 0 :: fs)
      (s.callReport n name (.listener (.notify notice)) :: rs) m
  | noted {n m : ℕ} {name : String} {response : Option Tunnel.Opened} {ioError : ℤ}
    {line : Log.Line} {fs : List TunnelFiring} {rs : List Report}
    (hincomplete : ¬Tunnel.Complete response ioError) (hline : line.level = .error)
    (rest : Reported s n fs rs m) :
    Reported s n (.opened name response ioError :: fs)
      ({ s.quietReport with answer := .number 1, log := [line] } :: rs) m

theorem Untouched.reaches (h : Untouched s s') : s'.reaches = s.reaches := by
  funext f
  cases f <;> simp only [State.reaches, h.handles]

/-- Where nothing was touched the same reports are due. -/
theorem Reported.of_untouched (h : Untouched s s') {n m : ℕ} {fs : List TunnelFiring}
    {rs : List Report} (hreported : s'.Reported n fs rs m) : s.Reported n fs rs m := by
  induction hreported with
  | done n => exact .done n
  | told hc rest ih =>
    rw [h.callReport]
    exact .told hc ih
  | notified hcomplete hnotice rest ih =>
    rw [h.callReport]
    exact .notified hcomplete hnotice ih
  | noted hincomplete hline rest ih =>
    rw [h.quietReport]
    exact .noted hincomplete hline ih

/-- Firings one after the other, from a state between two steps. -/
theorem reported_reports (h : s.Apart) (hrigged : s.Rigged) {firings : List TunnelFiring}
    (hreaches : ∀ f ∈ firings, s.reaches f) :
    s.Reported s.invocations firings (s.reports (firings.map TunnelFiring.step))
        (s.after (firings.map TunnelFiring.step)).invocations ∧
      (s.after (firings.map TunnelFiring.step)).library = s.library := by
  induction firings generalizing s with
  | nil => exact ⟨.done _, rfl⟩
  | cons f firings ih =>
    have hrest (huntouched : Untouched s (s.run f.step).1) :
        s.Reported (s.run f.step).1.invocations firings
            ((s.run f.step).1.reports (firings.map TunnelFiring.step))
            (s.after ((f :: firings).map TunnelFiring.step)).invocations ∧
          (s.after ((f :: firings).map TunnelFiring.step)).library = s.library := by
      obtain ⟨hreported, hlibrary⟩ := ih (h.run f.step) (hrigged.run h f.step) fun g hg =>
        huntouched.reaches ▸ hreaches g (List.mem_cons_of_mem f hg)
      exact ⟨hreported.of_untouched huntouched, hlibrary.trans huntouched.library⟩
    have hf := hreaches f List.mem_cons_self
    rw [List.map_cons, reports]
    cases f with
    | event name e =>
      simp only [State.reaches] at hf
      split at hf
      · next i hlookup =>
        have hstep : s.step (TunnelFiring.event name e).step =
            (s.invoke name (.tunnel e.callback), .yes true) := step_event h hrigged hlookup e
        obtain ⟨hreport, huntouched, hinvocations⟩ := h.sound.run_invoke hstep
        obtain ⟨hafter, hlibrary⟩ := hrest huntouched
        rw [hinvocations] at hafter
        rw [hreport]
        exact ⟨.told (Tunnel.told_callback e) hafter, hlibrary⟩
      · cases hf
    | opened name response ioError =>
      simp only [State.reaches] at hf
      split at hf
      · next n i thing hlookup =>
        have hstep : s.step (TunnelFiring.opened name response ioError).step =
            (s.tellListener (.listener name) (.opened response ioError), .number 1) :=
          step_opened h hrigged hlookup response ioError
        obtain ⟨rfl, o, notice, rfl, hcomplete, hmirrors, hnotice⟩ | ⟨hincomplete, fault, hfault⟩ :=
          Tunnel.ofReport_cases response ioError
        · have htold : s.tellListener (.listener name) (.opened (some o) 0) =
              s.invoke name (.listener (.notify notice)) := by
            simp [tellListener, Tunnel.Listener.callback, hnotice]
          obtain ⟨hreport, huntouched, hinvocations⟩ := h.sound.run_invoke (htold ▸ hstep)
          obtain ⟨hafter, hlibrary⟩ := hrest huntouched
          rw [hinvocations] at hafter
          rw [hreport]
          exact ⟨.notified hcomplete hmirrors hafter, hlibrary⟩
        · have htold : s.tellListener (.listener name) (.opened response ioError) =
              s.note ⟨.error, fault.message⟩ := by
            simp [tellListener, Tunnel.Listener.callback, hfault]
          obtain ⟨hreport, huntouched, hinvocations⟩ := h.sound.run_error rfl (htold ▸ hstep)
          obtain ⟨hafter, hlibrary⟩ := hrest huntouched
          rw [hinvocations] at hafter
          rw [hreport]
          exact ⟨.noted hincomplete rfl hafter, hlibrary⟩
      · cases hf

/-! ## Calls one after the other -/

/-- The calls on the tunnel of a handle with their answers. -/
def tunnelLog (s : State) (name : String) (calls : List TunnelCall) : List (TunnelCall × Answer) :=
  calls.zip ((s.reports (calls.map (·.step name))).map (·.answer))

/-- The handle has a tunnel that has sent messages and is started or not, while operations are
refused or not. -/
structure Sends (s : State) (name : String) (sent : List Tunnel.Outbound) (started refused : Bool) :
    Prop where
  tunnel : ∃ i t, s.handles.lookup name = some ⟨.tunnel i, false⟩ ∧
    s.library.tunnels.get? i = some t ∧ t.sent = sent ∧ t.started = started
  faults : s.library.faults.isSet .operationsRejected = refused

section

variable {sent : List Tunnel.Outbound} {started refused : Bool}

/-- What is noted does not matter to it, nor what the users are told. -/
theorem Sends.of_eq (h : s.Sends name sent started refused) (hhandles : s'.handles = s.handles)
    (hlibrary : s'.library = s.library) : s'.Sends name sent started refused := by
  obtain ⟨⟨i, t, hlookup, hget, hsent, hstarted⟩, hfaults⟩ := h
  exact ⟨⟨i, t, hhandles ▸ hlookup, hlibrary ▸ hget, hsent, hstarted⟩, hlibrary ▸ hfaults⟩

/-- A call of the tunnel itself. -/
theorem Sends.onTunnel (h : s.Sends name sent started refused) :
    ∃ i t, s.lookUpLive name Holding.tunnel? = .ok (⟨.tunnel i, false⟩, i) ∧ t.sent = sent ∧
      t.started = started ∧ ∀ call : Simulated.Tunnel Receiver → Simulated.Tunnel Receiver × ℤ,
        (s.onTunnel i call).2 = (call t).2 ∧
          (s.onTunnel i call).1.Sends name (call t).1.sent (call t).1.started refused := by
  obtain ⟨⟨i, t, hlookup, hget, hsent, hstarted⟩, hfaults⟩ := h
  refine ⟨i, t, ?_, hsent, hstarted, fun call => ?_⟩
  · simp [lookUpLive, lookUp, hlookup, Holding.tunnel?, bind, Except.bind, pure, Except.pure]
  · rw [State.onTunnel, hget]
    exact ⟨rfl, ⟨i, _, hlookup, Shelf.get?_put hget _, rfl, rfl⟩, hfaults⟩

/-- One call: its answer, and what the tunnel has sent after it. -/
theorem Sends.step (h : s.Sends name sent started refused) (call : TunnelCall) :
    (s.step (call.step name)).2 = call.reply started refused ∧
      (s.step (call.step name)).1.Sends name
        (sent ++ (TunnelCall.sent? (call, call.reply started refused)).toList)
        ((TunnelCall.switch? (call, call.reply started refused)).getD started)
        (call.refuses refused) := by
  obtain ⟨i, t, hfound, rfl, rfl, htunnel⟩ := h.onTunnel
  have hrefused := h.faults
  have hnoted {s' : State} (lines : List Log.Line) {sent : List Tunnel.Outbound} {started : Bool}
      (h : s'.Sends name sent started refused) :
      (s'.noteAll lines).Sends name sent started refused :=
    h.of_eq (heard_noteAll ..).handles (heard_noteAll ..).library
  cases call with
  | start =>
    obtain ⟨lines, hlines⟩ := s.startTunnel_fst i true
    have hstep : s.step (TunnelCall.start.step name) =
        ((s.onTunnel i (·.start s.library.faults)).1.noteAll lines,
          .number (s.onTunnel i (·.start s.library.faults)).2) := by
      rw [← hlines]
      simp [State.step, TunnelCall.step, attempt, hfound, Holding.isRaw, bind, Except.bind, pure,
        Except.pure, answerStatus, startTunnel]
    obtain ⟨hstatus, hsends⟩ := htunnel (·.start s.library.faults)
    have hsends := hnoted lines hsends
    rw [hstep, hstatus]
    cases refused <;> simpa [Simulated.Tunnel.start, hrefused, TunnelCall.reply, TunnelCall.sent?,
      TunnelCall.switch?, TunnelCall.refuses, failedStatus] using hsends
  | stop =>
    obtain ⟨lines, hlines⟩ := s.stopTunnel_fst i true
    have hstep : s.step (TunnelCall.stop.step name) =
        ((s.onTunnel i (·.stop)).1.noteAll lines, .number (s.onTunnel i (·.stop)).2) := by
      rw [← hlines]
      simp [State.step, TunnelCall.step, attempt, hfound, Holding.isRaw, bind, Except.bind, pure,
        Except.pure, answerStatus, stopTunnel]
    obtain ⟨hstatus, hsends⟩ := htunnel (·.stop)
    have hsends := hnoted lines hsends
    rw [hstep, hstatus]
    cases hstarted : t.started <;> simpa [Simulated.Tunnel.stop, hstarted, TunnelCall.reply,
      TunnelCall.sent?, TunnelCall.switch?, TunnelCall.refuses, failedStatus] using hsends
  | send m =>
    have hstep : s.step ((TunnelCall.send m).step name) =
        ((s.onTunnel i (·.send s.library.faults m)).1,
          .number (s.onTunnel i (·.send s.library.faults m)).2) := by
      simp [State.step, TunnelCall.step, attempt, hfound, bind, Except.bind, pure, Except.pure,
        answerStatus, sendThroughTunnel]
    obtain ⟨hstatus, hsends⟩ := htunnel (·.send s.library.faults m)
    rw [hstep, hstatus]
    cases hstarted : t.started <;> cases refused <;>
      simpa [Simulated.Tunnel.send, hstarted, hrefused, TunnelCall.reply, TunnelCall.sent?,
        TunnelCall.switch?, TunnelCall.refuses, failedStatus] using hsends
  | fault change =>
    have hset := change.isSet_after s.library.faults
    rw [hrefused] at hset
    rw [show s.step ((TunnelCall.fault change).step name) = _ from change.step_eq s]
    refine ⟨rfl, ?_, hset⟩
    obtain ⟨j, t', hlookup, hget, hsent, hstarted⟩ := h.tunnel
    exact ⟨j, t', hlookup, hget, by simpa [TunnelCall.sent?] using hsent, hstarted⟩

theorem filterMap_cons_toList {α β : Type} (f : α → Option β) (a : α) (l : List α) :
    (a :: l).filterMap f = (f a).toList ++ l.filterMap f := by
  rw [List.filterMap_cons]
  cases f a <;> rfl

theorem getLastD_toList_append {α : Type} (o : Option α) (l : List α) (a : α) :
    (o.toList ++ l).getLastD a = l.getLastD (o.getD a) := by
  cases o with
  | none => rfl
  | some b => exact List.getLastD_cons ..

/-- Calls one after the other. -/
theorem Sends.after (h : s.Sends name sent started refused) (calls : List TunnelCall) :
    (s.after (calls.map (·.step name))).Sends name
      (sent ++ (s.tunnelLog name calls).filterMap TunnelCall.sent?)
      (((s.tunnelLog name calls).filterMap TunnelCall.switch?).getLastD started)
      (calls.foldl TunnelCall.refuses refused) := by
  induction calls generalizing s sent started refused with
  | nil =>
    have hlog : s.tunnelLog name [] = [] := rfl
    rw [hlog, List.filterMap_nil, List.append_nil]
    exact h
  | cons call calls ih =>
    obtain ⟨hanswer, hsends⟩ := h.step call
    have hrun : (s.run (call.step name)).1.Sends name _ _ _ := hsends.of_eq rfl rfl
    have hlog : s.tunnelLog name (call :: calls) = (call, call.reply started refused) ::
        (s.run (call.step name)).1.tunnelLog name calls := by
      rw [← hanswer]
      rfl
    rw [hlog, filterMap_cons_toList, filterMap_cons_toList, getLastD_toList_append,
      ← List.append_assoc]
    exact ih hrun

end

/-- A tunnel that was just made has sent nothing and is not started. -/
theorem sends_made (hnamed : s.Named) {endpoint accessToken : String} {mode : Tunnel.Mode}
    {reporting : Reporting}
    (hmade : (s.step (.newTunnel endpoint accessToken (.ok mode) reporting)).2 = .text name) :
    (s.step (.newTunnel endpoint accessToken (.ok mode) reporting)).1.Sends name [] false
      ((s.step (.newTunnel endpoint accessToken (.ok mode) reporting)).1.library.faults.isSet
        .operationsRejected) := by
  have hstep : s.step (.newTunnel endpoint accessToken (.ok mode) reporting) =
      answerMade reporting .text (s.newTunnel endpoint accessToken mode) := rfl
  have hnamed := hnamed.note (Tunnel.startNote endpoint mode)
  rw [hstep] at hmade ⊢
  unfold newTunnel at hmade ⊢
  generalize s.note (Tunnel.startNote endpoint mode) = s at hnamed hmade ⊢
  unfold Library.newTunnel at hmade ⊢
  cases hfault : s.library.faults.isSet .tunnelBuild with
  | true =>
    simp only [hfault, if_true] at hmade
    cases reporting <;> cases hmade
  | false =>
    simp only [hfault] at hmade ⊢
    obtain rfl : s.nextName "t" = name := by
      cases reporting <;> exact Answer.text.inj hmade
    exact ⟨⟨_, _, hnamed.lookup_addHandle _ rfl _, Shelf.get?_snoc _ _, rfl, rfl⟩, rfl⟩

/-- In every run of the bench, events fired one after the other on the tunnels behind handles make
one callback each and in order: the one of their kind, with the error code and the connection id
unchanged and the bytes lent. A report of an opened tunnel to a listener makes one with every field
of it if there is no error and nothing is missing, and otherwise adds one error to the log and makes
none. A new tunnel, whatever is called on it while operations come to be refused or accepted, has
sent the messages whose sending was answered zero, in order; and that is the answer whenever the
last start or stop that worked is a start and operations are accepted. -/
theorem tunnels_tell_and_send (limits : Log.Limits) (reaction : Reaction) (steps : List Step) :
    let s := State.after { limits, reaction } steps
    (∀ firings : List TunnelFiring, (∀ f ∈ firings, s.reaches f) →
      s.Reported s.invocations firings (s.reports (firings.map TunnelFiring.step))
          (s.after (firings.map TunnelFiring.step)).invocations ∧
        (s.after (firings.map TunnelFiring.step)).library = s.library) ∧
    ∀ (endpoint accessToken : String) (mode : Tunnel.Mode) (reporting : Reporting) (name : String)
      (calls : List TunnelCall),
      let made := s.run (.newTunnel endpoint accessToken (.ok mode) reporting)
      let t := made.1.after (calls.map (·.step name))
      let log := made.1.tunnelLog name calls
      let refused := calls.foldl TunnelCall.refuses
        (made.1.library.faults.isSet .operationsRejected)
      made.2.answer = .text name →
        (∃ i tunnel, t.tunnelOf name = .ok (i, tunnel) ∧ tunnel.sent = sentIn log) ∧
        ∀ call : TunnelCall,
          (t.run (call.step name)).2.answer = call.reply (startedIn log) refused := by
  intro s
  have hapart : s.Apart := (apart_fresh limits reaction).after steps
  have hrigged : s.Rigged :=
    (rigged_fresh limits reaction).after (apart_fresh limits reaction) steps
  refine ⟨fun firings hreaches => reported_reports hapart hrigged hreaches, ?_⟩
  intro endpoint accessToken mode reporting name calls made t log refused hmade
  have hmade : made.1.Sends name [] false (made.1.library.faults.isSet .operationsRejected) :=
    (sends_made hapart.sound.named hmade).of_eq rfl rfl
  have hsends : t.Sends name (sentIn log) (startedIn log) refused := hmade.after calls
  obtain ⟨i, tunnel, hlookup, hget, hsent, -⟩ := hsends.tunnel
  exact ⟨⟨i, tunnel, tunnelOf_of_lookup hlookup hget, hsent⟩, fun call => (hsends.step call).1⟩

/-- Two events and two reports on handles that were made; and a new tunnel that sends nothing before
it is started, while operations are refused, or after it is stopped. -/
theorem tunnels_tell_and_send_first :
    let steps : List Step := [.newClient .sample .logged false, .newListener "m0" "lamp" 1 .logged,
      .newTunnel "east" "token" (.ok .source) .logged]
    let opened : Tunnel.Opened :=
      { region := some "east", clientMode := some "source", services := none,
        accessToken := some "secret" }
    let firings : List TunnelFiring := [
      .event "t2" (.streamStarted 3 7 (some [65])),
      .opened "n1" (some opened) 0,
      .opened "n1" (some opened) 5,
      .event "t2" (.messageReceived 8 none none)]
    let calls : List TunnelCall := [
      .send ⟨1, [10]⟩,
      .start,
      .send ⟨2, [20]⟩,
      .fault (.inject .operationsRejected),
      .send ⟨3, [30]⟩,
      .fault (.clear .operationsRejected),
      .send ⟨4, []⟩,
      .stop]
    let s := State.after { limits := [], reaction := calm } steps
    let made := s.run (.newTunnel "west" "other" (.ok .destination) .answered)
    let t := made.1.after (calls.map (·.step "t3"))
    s.Reported s.invocations firings (s.reports (firings.map TunnelFiring.step))
        (s.after (firings.map TunnelFiring.step)).invocations ∧
      made.2.answer = .text "t3" ∧
      (∃ i tunnel, t.tunnelOf "t3" = .ok (i, tunnel) ∧ tunnel.sent = [⟨2, [20]⟩, ⟨4, []⟩]) ∧
      (t.run ((TunnelCall.send ⟨5, [50]⟩).step "t3")).2.answer = .number (-1) := by
  intro steps opened firings calls s made t
  have hreaches : ∀ f ∈ firings, s.reaches f := by decide
  have hname : "t" ++ toString 3 = "t3" := by decide
  have hmade : made.2.answer = .text "t3" := by
    rw [← hname]
    rfl
  obtain ⟨htold, hsends⟩ := tunnels_tell_and_send [] calm steps
  obtain ⟨⟨i, tunnel, hfound, hsent⟩, hreply⟩ := hsends "west" "other" .destination .answered "t3"
    calls hmade
  have hlog : sentIn (made.1.tunnelLog "t3" calls) = [⟨2, [20]⟩, ⟨4, []⟩] := by decide
  have hstopped : startedIn (made.1.tunnelLog "t3" calls) = false := by decide
  have hanswer := hreply (.send ⟨5, [50]⟩)
  rw [hstopped] at hanswer
  refine ⟨(htold firings hreaches).1, hmade, ⟨i, tunnel, hfound, hsent.trans hlog⟩, ?_⟩
  -- The names of the states hide that both speak of one run.
  subst t made s
  exact hanswer

end State

end DeviceLink.Bench
