import DeviceLink.Bench.Build
import DeviceLink.Proofs.Link.Operations
import DeviceLink.Agent.Run
import DeviceLink.Proofs.Mqtt.ClientConfigs
/-!
# How the agent proves who it is

From the settings and the files they name to the config of the connection. A certificate that is
named is used or nothing is: neither a file that is missing or empty nor a password beside it leads
to a connection that proves less. The trust anchor is read before the authentication is looked at.
-/

namespace DeviceLink

open Mqtt

/-! ## Building a client -/

/-- A connection error while a client is built is no fault of its config. -/
theorem Mqtt.Client.start_ne_badConfig {σ : Type → Type} {ρ : Type} [Backend σ] (c : σ ρ)
    (receiver : ρ) (config : ClientConfig) (reason : String) :
    (Client.start c receiver config).2 ≠ .error (.badConfig reason) := by
  unfold Client.start
  dsimp only
  split <;> simp

theorem Agent.dial_eq_badConfig (config : ClientConfig) :
    (∃ reason, Agent.dial config = .error (.badConfig reason)) ↔
      ∃ reason, config.config = .error (.badConfig reason) := by
  unfold Agent.dial
  cases config.config with
  | error e => simp [bind, Except.bind]
  | ok checked =>
    simp only [bind, Except.bind, reduceCtorEq, exists_false, iff_false, not_exists]
    intro reason
    cases Link.Connection.ofConfig (ρ := Unit) checked with
    | error e => simp [throw, throwThe, MonadExceptOf.throw, Client.connectionError]
    | ok c =>
      have hstart := Client.start_ne_badConfig c () config reason
      dsimp only
      cases hresult : (Client.start c () config).2 with
      | error e =>
        rw [hresult] at hstart
        simpa using hstart
      | ok u => simp [pure, Except.pure]

theorem Bench.State.newClient_eq_badConfig (s : Bench.State) (config : ClientConfig)
    (session : Bool) : (∃ reason, (s.newClient config session).2 = .error (.badConfig reason)) ↔
      ∃ reason, config.config = .error (.badConfig reason) := by
  unfold Bench.State.newClient
  cases config.config with
  | error e => simp
  | ok checked =>
    simp only [reduceCtorEq, exists_false, iff_false, not_exists]
    intro reason
    split
    next e he => simp [Client.connectionError]
    next library i hlibrary =>
      generalize (if session then Bench.Receiver.session _ else Bench.Receiver.client _) = receiver
      have hstart := Client.start_ne_badConfig (ρ := Bench.Receiver)
        (⟨{ config := checked }, library.faults⟩ : Simulated.Endpoint Bench.Receiver) receiver
        config reason
      split
      next e he =>
        rw [he] at hstart
        simpa using hstart
      next => simp

/-! ## The config of a link -/

namespace Link

variable {ρ : Type}

namespace Connection

variable (c : Connection ρ)

theorem config_connect (options : ConnectOptions) : (c.connect options).1.config = c.config := by
  unfold connect
  split
  · rfl
  · split <;> rfl

theorem config_disconnect : c.disconnect.1.config = c.config := by
  unfold disconnect
  split
  · rfl
  · split <;> rfl

theorem config_submit (kind : Kind) (qos : Qos) (completion : Completion) (onAck : ρ)
    (command : Command) : (c.submit kind qos completion onAck command).1.config = c.config := by
  unfold submit
  split
  · rfl
  · split
    · rfl
    · dsimp only
      split <;> rfl

theorem config_perform (op : Operation ρ) : (c.perform op).1.config = c.config := by
  rw [perform_eq]
  cases op.fault? with
  | some e => rfl
  | none => exact c.config_submit ..

theorem config_react (result : Poll) : (c.react result).1.config = c.config := by
  cases result with
  | incoming packet => cases packet <;> rfl
  | outgoing packet => cases packet <;> rfl
  | failed f =>
    simp only [react]
    split
    · rfl
    · split <;> rfl

/-- A link comes with the config that it was made for, and with a trust anchor if it uses TLS. -/
theorem config_ofConfig {config : Config} {c : Connection ρ} (h : ofConfig config = .ok c) :
    c.config = config ∧ (config.useTls = true → config.authority.isSome = true) := by
  unfold ofConfig at h
  split at h
  next => cases h
  next hanchored =>
    cases h
    refine ⟨rfl, fun htls => ?_⟩
    simpa [htls, Option.isSome_iff_ne_none] using hanchored

/-- A link that has what its config asks for fails to start for two reasons only. -/
theorem connect_eq_false (h : c.config.useTls = true → c.config.authority.isSome = true)
    (options : ConnectOptions) :
    (c.connect options).2 = false ↔ options.clientId = "" ∨ c.loop.isSome = true := by
  have hadmits : c.admits options = true ↔ options.clientId ≠ "" := by
    cases htls : c.config.useTls <;> simp_all [admits]
  unfold connect
  by_cases hclient : options.clientId = ""
  · rw [if_pos (fun h' => hadmits.1 h' hclient)]
    simp [hclient]
  · rw [if_neg (not_not.2 (hadmits.2 hclient))]
    split <;> simp_all

end Connection

theorem Trail.config_act (t : Trail ρ) (a : Act ρ) : (t.act a).link.config = t.link.config := by
  cases a with
  | perform op => exact t.link.config_perform op
  | poll result =>
    unfold act
    dsimp only
    split
    · exact t.link.config_react result
    · rfl
  | connect options => exact t.link.config_connect options
  | disconnect => exact t.link.config_disconnect
  | loop state => rfl

theorem Trail.config_after (t : Trail ρ) (acts : List (Act ρ)) :
    (t.after acts).link.config = t.link.config := by
  induction acts using List.reverseRecOn with
  | nil => rfl
  | append_singleton acts a ih => rw [after_snoc, config_act, ih]

end Link

/-! ## Reading the files -/

namespace Agent

/-- Whether bytes are those of a file that may not be named; a file that is named has some. -/
def Reads (files : Files) (path : Option String) (bytes : List UInt8) : Prop :=
  match path with
  | none => bytes = []
  | some path => files path = .ok bytes ∧ bytes ≠ []

theorem Reads.eq_nil_iff {files : Files} {path : Option String} {bytes : List UInt8}
    (h : Reads files path bytes) : bytes = [] ↔ path = none := by
  cases path with
  | none => exact iff_of_true h rfl
  | some path => exact iff_of_false h.2 (by simp)

theorem Reads.exists_path {files : Files} {path : Option String} {bytes : List UInt8}
    (h : Reads files path bytes) (hbytes : bytes ≠ []) :
    ∃ p, path = some p ∧ files p = .ok bytes := by
  cases path with
  | none => exact absurd h hbytes
  | some p => exact ⟨p, rfl, h.1⟩

namespace Credentials

theorem readFile_eq_ok {files : Files} {path : Option String} (what : String)
    {bytes : List UInt8} : readFile files path what = .ok bytes ↔ Reads files path bytes := by
  cases path with
  | none => exact ⟨fun h => (Except.ok.inj h).symm, fun h => congrArg _ (Eq.symm h)⟩
  | some path =>
    simp only [readFile, Reads]
    split
    next fault hfault => simp [hfault]
    next hempty =>
      rw [hempty]
      simp only [reduceCtorEq, Except.ok.injEq, false_iff, not_and, not_not]
      exact Eq.symm
    next read hread hsome =>
      rw [hsome]
      simp only [Except.ok.injEq, iff_self_and]
      rintro rfl
      simpa using hread

/-- What was loaded are the bytes of all files that are named, with a certificate and its key or
neither. -/
theorem load_eq_ok {files : Files} {s : MqttSettings} {c : Credentials} :
    load files s = .ok c ↔
      Reads files s.certPath c.certificate ∧ Reads files s.keyPath c.privateKey ∧
        Reads files s.caPath c.authority ∧ (c.certificate = [] ↔ c.privateKey = []) := by
  rw [← readFile_eq_ok "client cert", ← readFile_eq_ok "client key", ← readFile_eq_ok "CA cert",
    load]
  cases readFile files s.certPath "client cert" with
  | error e => simp [bind, Except.bind]
  | ok certificate =>
    cases readFile files s.keyPath "client key" with
    | error e => simp [bind, Except.bind]
    | ok privateKey =>
      cases readFile files s.caPath "CA cert" with
      | error e => simp [bind, Except.bind]
      | ok authority =>
        simp only [bind, Except.bind, Except.ok.injEq]
        have hboth : certificate.isEmpty ≠ privateKey.isEmpty ↔
            ¬(certificate = [] ↔ privateKey = []) := by
          cases certificate <;> cases privateKey <;> simp
        by_cases h : certificate = [] ↔ privateKey = []
        · rw [if_neg (fun h' => hboth.1 h' h)]
          constructor
          · rintro ⟨⟩
            exact ⟨rfl, rfl, rfl, h⟩
          · rintro ⟨rfl, rfl, rfl, -⟩
            rfl
        · rw [if_pos (hboth.2 h)]
          refine iff_of_false (by simp [throw, throwThe, MonadExceptOf.throw]) ?_
          rintro ⟨rfl, rfl, -, h'⟩
          exact h h'

/-- Loading fails with a text about a file, never for another reason. -/
theorem load_eq_error {files : Files} {s : MqttSettings} {e : AgentError}
    (h : load files s = .error e) : ∃ reason, e = .credentials reason := by
  have hread : ∀ path what e', readFile files path what = .error e' →
      ∃ reason, e' = .credentials reason := by
    intro path what e' h'
    unfold readFile at h'
    split at h'
    · cases h'
    · split at h' <;> cases h' <;> exact ⟨_, rfl⟩
  unfold load at h
  simp only [bind, Except.bind] at h
  split at h
  next e' he' => cases h; exact hread _ _ _ he'
  split at h
  next e' he' => cases h; exact hread _ _ _ he'
  split at h
  next e' he' => cases h; exact hread _ _ _ he'
  split at h
  · cases h
    exact ⟨_, rfl⟩
  · cases h

/-- Without a certificate the trust anchor alone decides whether loading succeeds. -/
theorem load_anchor {files : Files} {s : MqttSettings} (hcert : s.certPath = none)
    (hkey : s.keyPath = none) (authority : List UInt8) :
    load files s = .ok { authority } ↔ Reads files s.caPath authority := by
  rw [load_eq_ok, hcert, hkey]
  simp [Reads]

end Credentials

/-! ## From the settings to the connection -/

/-- Whether a certificate is meant, be it only half of one. -/
def MqttSettings.namesCertificate (s : MqttSettings) : Prop := s.certPath ≠ none ∨ s.keyPath ≠ none

/-- Whether there is a user name with a password, neither of them empty. -/
def MqttSettings.namesPassword (s : MqttSettings) : Prop :=
  s.username.getD "" ≠ "" ∧ s.password.getD "" ≠ ""

/-- The config of the connection of an agent. -/
def connectionConfig (files : Files) (s : MqttSettings) (clientId : String) :
    Except AgentError Config := do
  let credentials ← Credentials.load files s
  (credentials.clientConfig s clientId).config.mapError .client

/-- The start of an agent once its settings are known. -/
def startUp (files : Files) (s : MqttSettings) (clientId : String) :
    Except AgentError (Link.Connection Unit) := do
  let credentials ← Credentials.load files s
  (dial (credentials.clientConfig s clientId)).mapError .client

/-- The agent reads its settings and starts up with them. -/
theorem State.start_eq (files : Files) (path : String) (draw : Draw) :
    State.start files path draw = (do
      let settings ← (Settings.load files path).mapError .settings
      let connection ←
        (startUp files settings.mqtt (settings.mqtt.resolvedClientId draw)).mapError .start
      pure { settings, connection }) := by
  unfold State.start startUp
  cases (Settings.load files path).mapError Ending.settings with
  | error e => rfl
  | ok settings =>
    simp only [bind, Except.bind]
    cases Credentials.load files settings.mqtt with
    | error e => rfl
    | ok credentials =>
      simp only [Except.mapError]
      cases dial (credentials.clientConfig settings.mqtt
        (settings.mqtt.resolvedClientId draw)) <;> rfl

theorem dial_of_config_error {config : ClientConfig} {e : ClientError}
    (h : config.config = .error e) : dial config = .error e := by
  rw [dial, h]
  rfl

theorem config_start (c : Link.Connection Unit) (config : ClientConfig) :
    (Client.start c () config).1.config = c.config := by
  unfold Client.start
  dsimp only
  split <;> exact Link.Connection.config_connect _ _

/-- The link that was dialled has the config that was checked. -/
theorem config_dial {config : ClientConfig} {c : Link.Connection Unit} (h : dial config = .ok c) :
    config.config = .ok c.config := by
  unfold dial at h
  cases hconfig : config.config with
  | error e => rw [hconfig] at h; cases h
  | ok checked =>
    rw [hconfig] at h
    simp only [bind, Except.bind] at h
    split at h
    next => cases h
    next fresh hfresh =>
      rw [← (Link.Connection.config_ofConfig hfresh).1]
      cases hstart : (Client.start fresh () config).2 with
      | error e => rw [hstart] at h; cases h
      | ok u =>
        rw [hstart] at h
        cases h
        rw [config_start]

section

variable {files : Files} {s : MqttSettings} {clientId : String} {credentials : Credentials}

/-- Where loading succeeds, a certificate that is meant is there, and with its key. -/
theorem usesCertificate_clientConfig (h : Credentials.load files s = .ok credentials)
    (clientId : String) :
    (credentials.clientConfig s clientId).usesCertificate ↔ s.namesCertificate := by
  obtain ⟨hcert, hkey, -, hboth⟩ := Credentials.load_eq_ok.1 h
  show credentials.certificate ≠ [] ∧ credentials.privateKey ≠ [] ↔ _
  rw [MqttSettings.namesCertificate, ne_eq, ne_eq, ne_eq, ne_eq, ← hcert.eq_nil_iff,
    ← hkey.eq_nil_iff, hboth]
  tauto

theorem usesPassword_clientConfig :
    (credentials.clientConfig s clientId).usesPassword ↔ s.namesPassword :=
  Iff.rfl

theorem connectionConfig_of_load (h : Credentials.load files s = .ok credentials) :
    connectionConfig files s clientId =
      (credentials.clientConfig s clientId).config.mapError .client := by
  rw [connectionConfig, h]
  rfl

theorem connectionConfig_eq_ok {config : Config} :
    connectionConfig files s clientId = .ok config ↔ ∃ credentials,
      Credentials.load files s = .ok credentials ∧
        (credentials.clientConfig s clientId).config = .ok config := by
  constructor
  · intro h
    cases hload : Credentials.load files s with
    | error e => rw [connectionConfig, hload] at h; cases h
    | ok credentials =>
      refine ⟨credentials, rfl, ?_⟩
      rw [connectionConfig_of_load hload] at h
      cases hconfig : (credentials.clientConfig s clientId).config with
      | error e => rw [hconfig] at h; cases h
      | ok config => rw [hconfig] at h; cases h; rfl
  · rintro ⟨credentials, hload, hconfig⟩
    rw [connectionConfig_of_load hload, hconfig]
    rfl

/-- Nothing is dialled where there is no config for it. -/
theorem startUp_eq_error {e : AgentError} (h : connectionConfig files s clientId = .error e) :
    startUp files s clientId = .error e := by
  unfold startUp
  cases hload : Credentials.load files s with
  | error e' =>
    rw [connectionConfig, hload] at h
    cases h
    rfl
  | ok credentials =>
    rw [connectionConfig_of_load hload] at h
    cases hconfig : (credentials.clientConfig s clientId).config with
    | error e' =>
      rw [hconfig] at h
      cases h
      simp only [bind, Except.bind, dial_of_config_error hconfig]
      rfl
    | ok config => rw [hconfig] at h; cases h

theorem startUp_eq_ok {c : Link.Connection Unit} (h : startUp files s clientId = .ok c) :
    connectionConfig files s clientId = .ok c.config := by
  cases hload : Credentials.load files s with
  | error e => rw [startUp, hload] at h; cases h
  | ok credentials =>
    rw [startUp, hload] at h
    simp only [bind, Except.bind] at h
    cases hdial : dial (credentials.clientConfig s clientId) with
    | error e => rw [hdial] at h; cases h
    | ok link =>
      rw [hdial] at h
      cases h
      exact connectionConfig_eq_ok.2 ⟨credentials, hload, config_dial hdial⟩

end

/-- How the settings of an agent decide the way in which it proves who it is. -/
structure Decides (files : Files) (s : MqttSettings) (clientId : String) : Prop where
  /-- A certificate that is meant is used, byte for byte and with TLS, or there is no config. -/
  certificate : s.namesCertificate → ∀ config, connectionConfig files s clientId = .ok config →
    ∃ certPath keyPath certificate privateKey, s.certPath = some certPath ∧
      s.keyPath = some keyPath ∧ files certPath = .ok certificate ∧
      files keyPath = .ok privateKey ∧ config.auth = .certificate certificate privateKey ∧
      config.useTls = true
  /-- A trust anchor that is named and cannot be read, or is empty, ends the start before the
  authentication is looked at. -/
  anchor : (∀ authority, ¬Reads files s.caPath authority) →
    ∃ reason, startUp files s clientId = .error (.credentials reason)
  /-- Without a certificate a user name with a password is used as it is given. -/
  password : ¬s.namesCertificate → s.namesPassword → ∀ config,
    connectionConfig files s clientId = .ok config →
      config.auth = .password (s.username.getD "") (s.password.getD "")
  /-- That needs no more than an endpoint, and a trust anchor that can be read if one is named. -/
  reached : ¬s.namesCertificate → s.namesPassword → s.endpoint ≠ "" →
    (∃ authority, Reads files s.caPath authority) →
      ∃ config, connectionConfig files s clientId = .ok config
  /-- With neither there is no start. -/
  missing : ¬s.namesCertificate → ¬s.namesPassword →
    (∃ authority, Reads files s.caPath authority) →
      startUp files s clientId = .error (.client .missingAuth)
  tls : ∀ config, connectionConfig files s clientId = .ok config → config.useTls = s.useTls
  /-- The cases in which the config is refused as faulty. -/
  refused : (∃ reason, startUp files s clientId = .error (.client (.badConfig reason))) ↔
    (∃ credentials, Credentials.load files s = .ok credentials) ∧
      (s.namesCertificate ∨ s.namesPassword) ∧
      (s.endpoint = "" ∨ s.namesCertificate ∧ s.useTls = false)
  /-- An agent that has started uses that config. -/
  started : ∀ c, startUp files s clientId = .ok c →
    connectionConfig files s clientId = .ok c.config

section

variable {files : Files} {s : MqttSettings} {clientId : String}

theorem certificate_used (hs : s.namesCertificate) {config : Config}
    (h : connectionConfig files s clientId = .ok config) :
    ∃ certPath keyPath certificate privateKey, s.certPath = some certPath ∧
      s.keyPath = some keyPath ∧ files certPath = .ok certificate ∧
      files keyPath = .ok privateKey ∧ config.auth = .certificate certificate privateKey ∧
      config.useTls = true := by
  obtain ⟨credentials, hload, hconfig⟩ := connectionConfig_eq_ok.1 h
  obtain ⟨auth, hauth, hfault, rfl⟩ := ClientConfig.config_eq_ok.1 hconfig
  have huses := (usesCertificate_clientConfig hload clientId).2 hs
  obtain ⟨hcert, hkey, -, -⟩ := Credentials.load_eq_ok.1 hload
  obtain ⟨certPath, hcertPath, hcertFile⟩ := hcert.exists_path huses.1
  obtain ⟨keyPath, hkeyPath, hkeyFile⟩ := hkey.exists_path huses.2
  rw [ClientConfig.auth?, if_pos huses] at hauth
  refine ⟨certPath, keyPath, _, _, hcertPath, hkeyPath, hcertFile, hkeyFile,
    (Option.some.inj hauth).symm, ?_⟩
  have hnone : ¬(credentials.clientConfig s clientId).fault?.isSome = true := by simp [hfault]
  rw [ClientConfig.fault?_isSome] at hnone
  have htcp : (credentials.clientConfig s clientId).insecureTcp ≠ true :=
    fun h' => hnone (.inr ⟨huses, h'⟩)
  simpa [ClientConfig.checked] using htcp

theorem password_used (hs : ¬s.namesCertificate) (hp : s.namesPassword) {config : Config}
    (h : connectionConfig files s clientId = .ok config) :
    config.auth = .password (s.username.getD "") (s.password.getD "") := by
  obtain ⟨credentials, hload, hconfig⟩ := connectionConfig_eq_ok.1 h
  obtain ⟨auth, hauth, -, rfl⟩ := ClientConfig.config_eq_ok.1 hconfig
  rw [ClientConfig.auth?, if_neg (mt (usesCertificate_clientConfig hload clientId).1 hs),
    if_pos (usesPassword_clientConfig.2 hp)] at hauth
  exact (Option.some.inj hauth).symm

theorem anchor_refused (h : ∀ authority, ¬Reads files s.caPath authority) :
    ∃ reason, startUp files s clientId = .error (.credentials reason) := by
  cases hload : Credentials.load files s with
  | error e =>
    obtain ⟨reason, rfl⟩ := Credentials.load_eq_error hload
    exact ⟨reason, by rw [startUp, hload]; rfl⟩
  | ok credentials => exact absurd (Credentials.load_eq_ok.1 hload).2.2.1 (h _)

theorem load_of_anchor (hs : ¬s.namesCertificate)
    (h : ∃ authority, Reads files s.caPath authority) :
    ∃ credentials, Credentials.load files s = .ok credentials := by
  obtain ⟨authority, hauthority⟩ := h
  obtain ⟨hcert, hkey⟩ : s.certPath = none ∧ s.keyPath = none := by
    simpa [MqttSettings.namesCertificate] using hs
  exact ⟨_, (Credentials.load_anchor hcert hkey authority).2 hauthority⟩

theorem config_refused :
    (∃ reason, startUp files s clientId = .error (.client (.badConfig reason))) ↔
    (∃ credentials, Credentials.load files s = .ok credentials) ∧
      (s.namesCertificate ∨ s.namesPassword) ∧
      (s.endpoint = "" ∨ s.namesCertificate ∧ s.useTls = false) := by
  cases hload : Credentials.load files s with
  | error e =>
    obtain ⟨reason, rfl⟩ := Credentials.load_eq_error hload
    simp [startUp, hload, bind, Except.bind]
  | ok credentials =>
    have hbad := (dial_eq_badConfig (credentials.clientConfig s clientId)).trans
      (ClientConfig.config_eq_badConfig _)
    have htcp : (credentials.clientConfig s clientId).insecureTcp = true ↔ s.useTls = false := by
      simp [Credentials.clientConfig]
    rw [usesCertificate_clientConfig hload, htcp] at hbad
    have hstart : ∀ reason, startUp files s clientId = .error (.client (.badConfig reason)) ↔
        dial (credentials.clientConfig s clientId) = .error (.badConfig reason) := by
      intro reason
      simp only [startUp, hload, bind, Except.bind]
      cases dial (credentials.clientConfig s clientId) <;> simp [Except.mapError]
    simp only [hstart, Except.ok.injEq, exists_eq', true_and]
    exact hbad

theorem decides (files : Files) (s : MqttSettings) (clientId : String) :
    Decides files s clientId where
  certificate hs _ h := certificate_used hs h
  anchor := anchor_refused
  password hs hp _ h := password_used hs hp h
  reached hs hp hendpoint hanchor := by
    obtain ⟨credentials, hload⟩ := load_of_anchor hs hanchor
    have huses := mt (usesCertificate_clientConfig hload clientId).1 hs
    refine ⟨_, connectionConfig_eq_ok.2 ⟨credentials, hload, ClientConfig.config_eq_ok.2
      ⟨.password (s.username.getD "") (s.password.getD ""), ?_, ?_, rfl⟩⟩⟩
    · rw [ClientConfig.auth?, if_neg huses, if_pos (usesPassword_clientConfig.2 hp)]
      rfl
    · exact (if_neg hendpoint).trans (if_neg fun h => huses h.1)
  missing hs hp hanchor := by
    obtain ⟨credentials, hload⟩ := load_of_anchor hs hanchor
    refine startUp_eq_error ?_
    have hauth : (credentials.clientConfig s clientId).auth? = none := by
      rw [ClientConfig.auth?, if_neg (mt (usesCertificate_clientConfig hload clientId).1 hs),
        if_neg (mt usesPassword_clientConfig.1 hp)]
    rw [connectionConfig_of_load hload, ClientConfig.config_eq, hauth]
    rfl
  tls _ h := by
    obtain ⟨credentials, -, hconfig⟩ := connectionConfig_eq_ok.1 h
    obtain ⟨auth, -, -, rfl⟩ := ClientConfig.config_eq_ok.1 hconfig
    exact Bool.not_not _
  refused := config_refused
  started _ h := startUp_eq_ok h

end

/-- An agent never proves less than its settings mean. Its config is faulty in two cases, with
either library, and a link that was made never lacks its trust anchor when it connects. -/
theorem authentication_as_configured (files : Files) (s : MqttSettings) (clientId : String) :
    Decides files s clientId ∧
      (∀ config : ClientConfig,
        let faulty := (config.usesCertificate ∨ config.usesPassword) ∧
          (config.endpoint = "" ∨ config.usesCertificate ∧ config.insecureTcp = true)
        ((∃ reason, dial config = .error (.badConfig reason)) ↔ faulty) ∧
          ∀ (bench : Bench.State) (session : Bool),
            (∃ reason, (bench.newClient config session).2 = .error (.badConfig reason)) ↔
              faulty) ∧
      ∀ (ρ : Type) (config : Config) (link : Link.Connection ρ) (lifecycle : Lifecycle ρ)
        (acts : List (Link.Act ρ)) (options : ConnectOptions),
        Link.Connection.ofConfig config = .ok link →
          let later := (({ link := link.setHandlers lifecycle } : Link.Trail ρ).after acts).link
          ((later.connect options).2 = false ↔
            options.clientId = "" ∨ later.loop.isSome = true) := by
  refine ⟨decides files s clientId, fun config => ⟨?_, fun bench session => ?_⟩, ?_⟩
  · exact (dial_eq_badConfig config).trans config.config_eq_badConfig
  · exact (bench.newClient_eq_badConfig config session).trans config.config_eq_badConfig
  · intro ρ config link lifecycle acts options hlink
    obtain ⟨hconfig, hanchored⟩ := Link.Connection.config_ofConfig hlink
    refine Link.Connection.connect_eq_false _ ?_ options
    rw [Link.Trail.config_after]
    show link.config.useTls = true → link.config.authority.isSome = true
    rw [hconfig]
    exact hanchored

/-- A certificate is used with a password beside it, a password alone is used, and a link made for
the certificate connects. -/
theorem authentication_as_configured_both :
    let files : Files := fun path =>
      if path = "c" then .ok [1] else if path = "k" then .ok [2]
      else if path = "a" then .ok [3] else .error .notFound
    let password : MqttSettings :=
      { endpoint := "h", caPath := some "a", username := some "u", password := some "p" }
    let both : MqttSettings := { password with certPath := some "c", keyPath := some "k" }
    let gone : MqttSettings := { password with caPath := some "b" }
    let nothing : MqttSettings := { password with password := none }
    let link : Link.Connection Unit := { config :=
      { endpoint := "h", port := some 8883, auth := .certificate [1] [2], authority := some [3]
        useTls := true } }
    both.namesCertificate ∧
      connectionConfig files both "id" = .ok link.config ∧ link.config.useTls = true ∧
      ((link.setHandlers {}).connect ⟨"id", true, 30, 3000⟩).2 = true ∧
      ¬password.namesCertificate ∧ password.namesPassword ∧
      (∃ config, connectionConfig files password "id" = .ok config ∧
        config.auth = .password "u" "p") ∧
      (∃ reason, startUp files gone "id" = .error (.credentials reason)) ∧
      startUp files nothing "id" = .error (.client .missingAuth) := by
  intro files password both gone nothing link
  have hboth : both.namesCertificate := .inl (by simp [both])
  have hpassword : ¬password.namesCertificate := by simp [MqttSettings.namesCertificate, password]
  have hnames : password.namesPassword := by simp [MqttSettings.namesPassword, password]
  have hanchor : ∃ authority, Reads files (some "a") authority := ⟨[3], by decide, by simp⟩
  have hcertificate : connectionConfig files both "id" = .ok link.config := rfl
  have hmeant := (authentication_as_configured files both "id").1.certificate hboth _ hcertificate
  obtain ⟨config, hconfig⟩ := (authentication_as_configured files password "id").1.reached
    hpassword hnames (by simp [password]) hanchor
  refine ⟨hboth, hcertificate, ?_, ?_, hpassword, hnames, ⟨config, hconfig, ?_⟩, ?_, ?_⟩
  · obtain ⟨-, -, -, -, -, -, -, -, -, htls⟩ := hmeant
    exact htls
  · have hconnect := (authentication_as_configured files both "id").2.2 Unit link.config link {} []
      ⟨"id", true, 30, 3000⟩ rfl
    have hstarted := mt hconnect.1 (by simp [link, Link.Trail.after, Link.Connection.setHandlers])
    exact eq_true_of_ne_false hstarted
  · exact (authentication_as_configured files password "id").1.password hpassword hnames _ hconfig
  · refine (authentication_as_configured files gone "id").1.anchor ?_
    rintro authority ⟨hread, -⟩
    cases hread
  · refine (authentication_as_configured files nothing "id").1.missing ?_ ?_ hanchor
    · simp [MqttSettings.namesCertificate, nothing, password]
    · simp [MqttSettings.namesPassword, nothing, password]

/-- Without any authentication it is still the trust anchor that is complained of first. -/
theorem anchor_before_authentication :
    ¬∀ (files : Files) (s : MqttSettings) (clientId : String), ¬s.namesCertificate →
      ¬s.namesPassword → startUp files s clientId = .error (.client .missingAuth) := by
  intro h
  have hmissing := h (fun _ => .error .notFound) { endpoint := "127.0.0.1", caPath := some "c" }
    "id" (by simp [MqttSettings.namesCertificate]) (by simp [MqttSettings.namesPassword])
  cases hmissing

end Agent

end DeviceLink
