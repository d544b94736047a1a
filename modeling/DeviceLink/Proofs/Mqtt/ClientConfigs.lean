import DeviceLink.Mqtt.Client
/-!
# What a client config comes to

A certificate with its key goes before a user with a password, and a config that names neither is
refused before anything else about it is looked at.
-/

namespace DeviceLink.Mqtt.ClientConfig

/-- Whether a certificate and its key are both there. -/
def usesCertificate (c : ClientConfig) : Prop :=
  c.certificate.bytes ≠ [] ∧ c.privateKey.bytes ≠ []

/-- Whether a user name and a password are both there. -/
def usesPassword (c : ClientConfig) : Prop := c.username ≠ "" ∧ c.password ≠ ""

instance (c : ClientConfig) : Decidable c.usesCertificate := inferInstanceAs (Decidable (_ ∧ _))

instance (c : ClientConfig) : Decidable c.usesPassword := inferInstanceAs (Decidable (_ ∧ _))

/-- The authentication that a config calls for: a certificate goes before a password. -/
def auth? (c : ClientConfig) : Option Auth :=
  if c.usesCertificate then some (.certificate c.certificate.bytes c.privateKey.bytes)
  else if c.usesPassword then some (.password c.username c.password)
  else none

/-- What is wrong with a config that calls for an authentication. -/
def fault? (c : ClientConfig) : Option ConfigFault :=
  if c.endpoint = "" then some .endpointRequired
  else if c.usesCertificate ∧ c.insecureTcp = true then some .certificateNeedsTls
  else none

/-- The config of the connection, with an authentication. -/
def checked (c : ClientConfig) (auth : Auth) : Config :=
  { endpoint := c.endpoint
    port := if c.port = 0 then none else some c.port
    auth
    authority := if c.authority.bytes = [] then none else some c.authority.bytes
    useTls := !c.insecureTcp }

/-- The refusal of a faulty config. -/
def refusal (fault : ConfigFault) : ClientError :=
  .badConfig s!"couldn't build a config for internal mqtt client: {fault.toLibraryError.message}"

/-- The draft with an authentication filled in. -/
def drafted (c : ClientConfig) (auth : Auth) : Draft :=
  let proof : Draft :=
    match auth with
    | .certificate certificate privateKey =>
      { certificate := some certificate, privateKey := some privateKey }
    | .password username password => { username := some username, password := some password }
  { proof with
    endpoint := some c.endpoint
    port := if c.port = 0 then none else some c.port
    authority := if c.authority.bytes = [] then none else some c.authority.bytes
    useTls := !c.insecureTcp }

theorem draft_eq (c : ClientConfig) : c.draft =
    match c.auth? with
    | none => .error .missingAuth
    | some auth => .ok (c.drafted auth) := by
  simp only [draft, auth?, Buffer.isEmpty, List.isEmpty_iff]
  by_cases hcertificate : c.usesCertificate
  · rw [if_pos hcertificate, if_pos (show _ ∧ _ from hcertificate)]
    rfl
  · rw [if_neg hcertificate, if_neg (show ¬(_ ∧ _) from hcertificate)]
    by_cases hpassword : c.usesPassword
    · rw [if_pos hpassword, if_pos (show _ ∧ _ from hpassword)]
      rfl
    · rw [if_neg hpassword, if_neg (show ¬(_ ∧ _) from hpassword)]
      rfl

theorem auth_drafted {c : ClientConfig} {auth : Auth} (h : c.auth? = some auth) :
    (c.drafted auth).auth =
      if c.usesCertificate ∧ c.insecureTcp = true then .error .certificateNeedsTls
      else .ok auth := by
  unfold auth? at h
  by_cases hcertificate : c.usesCertificate
  · rw [if_pos hcertificate] at h
    cases h
    obtain ⟨hcert, hkey⟩ := id hcertificate
    cases htcp : c.insecureTcp <;>
      simp [drafted, Draft.auth, hcertificate, Option.filter_some, hcert, hkey, htcp]
  · rw [if_neg hcertificate] at h
    split at h
    next hpassword =>
      cases h
      simp [drafted, Draft.auth, Option.filter_some, hcertificate, hpassword.1]
    next => cases h

theorem build_drafted {c : ClientConfig} {auth : Auth} (h : c.auth? = some auth) :
    (c.drafted auth).build =
      match c.fault? with
      | some fault => .error fault
      | none => .ok (c.checked auth) := by
  have hport : (c.drafted auth).port.filter (· ≠ 0) = (c.checked auth).port := by
    by_cases h : c.port = 0 <;> simp [drafted, checked, h]
  have hauthority : (c.drafted auth).authority.filter (· ≠ []) = (c.checked auth).authority := by
    by_cases h : c.authority.bytes = [] <;> simp [drafted, checked, h]
  have hendpoint : (c.drafted auth).endpoint = some c.endpoint := rfl
  simp only [Draft.build, auth_drafted h, hport, hauthority, hendpoint, fault?]
  by_cases hempty : c.endpoint = ""
  · simp [hempty, Option.filter_some]
    rfl
  · by_cases hfault : c.usesCertificate ∧ c.insecureTcp = true <;>
      simp [hempty, hfault, Option.filter_some, bind, Except.bind, pure, Except.pure, checked,
        drafted]

/-- A config is refused for the lack of an authentication, else for its first fault. -/
theorem config_eq (c : ClientConfig) : c.config =
    match c.auth?, c.fault? with
    | none, _ => .error .missingAuth
    | some _, some fault => .error (refusal fault)
    | some auth, none => .ok (c.checked auth) := by
  rw [config, draft_eq]
  cases hauth : c.auth? with
  | none => rfl
  | some auth =>
    simp only [bind, Except.bind, build_drafted hauth]
    cases c.fault? <;> rfl

theorem config_eq_ok {c : ClientConfig} {config : Config} : c.config = .ok config ↔
    ∃ auth, c.auth? = some auth ∧ c.fault? = none ∧ config = c.checked auth := by
  rw [config_eq]
  cases c.auth? with
  | none => simp
  | some auth => cases c.fault? <;> simp [eq_comm]

/-- A client is refused for its config in two cases, and only where an authentication is there. -/
theorem fault?_isSome (c : ClientConfig) : c.fault?.isSome = true ↔
    c.endpoint = "" ∨ c.usesCertificate ∧ c.insecureTcp = true := by
  unfold fault?
  by_cases hempty : c.endpoint = ""
  · simp [hempty]
  · by_cases hplain : c.usesCertificate ∧ c.insecureTcp = true <;> simp [hempty, hplain]

theorem auth?_isSome (c : ClientConfig) : c.auth?.isSome = true ↔
    c.usesCertificate ∨ c.usesPassword := by
  unfold auth?
  by_cases hcertificate : c.usesCertificate
  · simp [hcertificate]
  · by_cases hpassword : c.usesPassword <;> simp [hcertificate, hpassword]

/-- The cases in which the config of a client is refused as faulty. -/
theorem config_eq_badConfig (c : ClientConfig) :
    (∃ reason, c.config = .error (.badConfig reason)) ↔
      (c.usesCertificate ∨ c.usesPassword) ∧
        (c.endpoint = "" ∨ c.usesCertificate ∧ c.insecureTcp = true) := by
  rw [← auth?_isSome, ← fault?_isSome, config_eq]
  cases c.auth? with
  | none => simp
  | some auth =>
    cases c.fault? with
    | none => simp
    | some fault => simp [refusal]

end DeviceLink.Mqtt.ClientConfig
