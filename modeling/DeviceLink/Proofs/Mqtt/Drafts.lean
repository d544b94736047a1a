import DeviceLink.Mqtt.Config
import Mathlib.Data.List.DropRight
/-!
# What a draft is built from

However a draft was filled in, only the last time it was started over counts, and since then the
last value of each setting and whether TLS was switched off. `Summary` takes down just that, and
what the draft builds is stated over it.
-/

namespace DeviceLink.Mqtt.Draft

/-! ## What counts of some calls -/

namespace Call

/-- Whether a call starts over. -/
def restarts : Call → Bool
  | fresh | freshCertificate .. => true
  | endpoint _ | port _ | username _ | password _ | authority _ | withoutTls => false

/-- The certificate with its key that a call starts with. -/
def certificate? : Call → Option (List UInt8 × List UInt8)
  | freshCertificate certificate privateKey => some (certificate, privateKey)
  | _ => none

def endpoint? : Call → Option String
  | endpoint value => some value
  | _ => none

def port? : Call → Option Nat
  | port value => some value
  | _ => none

def username? : Call → Option String
  | username value => some value
  | _ => none

def password? : Call → Option String
  | password value => some value
  | _ => none

def authority? : Call → Option (List UInt8)
  | authority value => some value
  | _ => none

end Call

/-- The calls after the last one that starts over. -/
def sinceRestart (calls : List Call) : List Call := calls.rtakeWhile fun call => !call.restarts

/-- The last call that starts over. -/
def lastRestart? (calls : List Call) : Option Call := (calls.filter Call.restarts).getLast?

/-- The last value that calls give to a setting. -/
def last? {α : Type} (setting? : Call → Option α) (calls : List Call) : Option α :=
  (calls.filterMap setting?).getLast?

/-- What counts of the calls on a draft. -/
structure Summary where
  certificate : Option (List UInt8 × List UInt8)
  endpoint : Option String
  port : Option Nat
  username : Option String
  password : Option String
  authority : Option (List UInt8)
  /-- Whether TLS was switched off. -/
  plain : Bool
  deriving DecidableEq, Repr

/-- The last call that starts over, and what came after it. -/
def summary (calls : List Call) : Summary :=
  let since := sinceRestart calls
  { certificate := (lastRestart? calls).bind Call.certificate?
    endpoint := last? Call.endpoint? since
    port := last? Call.port? since
    username := last? Call.username? since
    password := last? Call.password? since
    authority := last? Call.authority? since
    plain := .withoutTls ∈ since }

/-- The draft that a summary stands for. -/
def Summary.draft (s : Summary) : Draft :=
  { endpoint := s.endpoint
    port := s.port
    certificate := s.certificate.map (·.1)
    privateKey := s.certificate.map (·.2)
    username := s.username
    password := s.password
    authority := s.authority
    useTls := !s.plain }

/-! ## One call more -/

section Snoc

variable (calls : List Call) (call : Call)

theorem last?_snoc {α : Type} (setting? : Call → Option α) :
    last? setting? (calls ++ [call]) = (setting? call).or (last? setting? calls) := by
  rw [last?, List.filterMap_append]
  cases h : setting? call with
  | none =>
    rw [List.filterMap_cons_none h, List.filterMap_nil, List.append_nil, Option.none_or, last?]
  | some value =>
    rw [List.filterMap_cons_some h, List.filterMap_nil, List.getLast?_concat, Option.some_or]

/-- A call that starts over makes an end of all that was set. -/
theorem summary_restart (h : call.restarts = true) : summary (calls ++ [call]) =
    { certificate := call.certificate?
      endpoint := none
      port := none
      username := none
      password := none
      authority := none
      plain := false } := by
  have hsince : sinceRestart (calls ++ [call]) = [] :=
    List.rtakeWhile_concat_neg _ _ _ (by simp [h])
  have hlast : lastRestart? (calls ++ [call]) = some call := by
    rw [lastRestart?, List.filter_append, List.filter_singleton, h, cond_true,
      List.getLast?_concat]
  simp only [summary, hsince, hlast]
  rfl

/-- A call that sets something leaves the rest. -/
theorem summary_set (h : call.restarts = false) : summary (calls ++ [call]) =
    { certificate := (summary calls).certificate
      endpoint := call.endpoint?.or (summary calls).endpoint
      port := call.port?.or (summary calls).port
      username := call.username?.or (summary calls).username
      password := call.password?.or (summary calls).password
      authority := call.authority?.or (summary calls).authority
      plain := (summary calls).plain || call = .withoutTls } := by
  have hsince : sinceRestart (calls ++ [call]) = sinceRestart calls ++ [call] :=
    List.rtakeWhile_concat_pos _ _ _ (by simp [h])
  have hlast : lastRestart? (calls ++ [call]) = lastRestart? calls := by
    rw [lastRestart?, List.filter_append, List.filter_singleton, h]
    simp [lastRestart?]
  simp only [summary, hsince, hlast, last?_snoc, List.mem_append, List.mem_singleton,
    Bool.decide_or, eq_comm]

end Snoc

/-- A draft holds what counts of the calls on it. -/
theorem ofCalls_eq (calls : List Call) : ofCalls calls = (summary calls).draft := by
  -- From the last call: it starts over, or sets one thing beside what counted before it.
  induction calls using List.reverseRecOn with
  | nil => rfl
  | append_singleton calls call ih =>
    have happly : ofCalls (calls ++ [call]) = (summary calls).draft.apply call := by
      rw [← ih, ofCalls, List.foldl_append]
      rfl
    rw [happly]
    cases call with
    | fresh | freshCertificate certificate privateKey =>
      rw [summary_restart _ _ rfl]
      rfl
    | endpoint value | port value | username value | password value | authority value =>
      rw [summary_set _ _ rfl]
      simp [Summary.draft, apply, Call.endpoint?, Call.port?, Call.username?, Call.password?,
        Call.authority?]
    | withoutTls =>
      rw [summary_set _ _ rfl]
      simp [Summary.draft, apply, Call.endpoint?, Call.port?, Call.username?, Call.password?,
        Call.authority?]

/-! ## What is built -/

namespace Summary

/-- The config with an authentication. Port 0 and an empty trust anchor set nothing. -/
def config (s : Summary) (endpoint : String) (auth : Auth) : Config :=
  { endpoint
    port := if s.port = some 0 then none else s.port
    auth
    authority := if s.authority = some [] then none else s.authority
    useTls := !s.plain }

/-- Whether a certificate and its key are both there. -/
def Certified (s : Summary) (certificate privateKey : List UInt8) : Prop :=
  s.certificate = some (certificate, privateKey) ∧ certificate ≠ [] ∧ privateKey ≠ []

/-- What a build answers. The cases leave no summary out: an endpoint is there or not, a
certificate is there or not, and without one a user and a password are there or not. -/
structure Builds (s : Summary) (result : Except LibraryError Config) : Prop where
  endpointless : s.endpoint.getD "" = "" → result = .error (.config "endpoint is required")
  certified : ∀ endpoint certificate privateKey, s.endpoint = some endpoint → endpoint ≠ "" →
    s.Certified certificate privateKey → s.plain = false →
    result = .ok (s.config endpoint (.certificate certificate privateKey))
  /-- A password that is set beside the certificate changes nothing. -/
  certifiedPlain : ∀ endpoint certificate privateKey, s.endpoint = some endpoint → endpoint ≠ "" →
    s.Certified certificate privateKey → s.plain = true →
    result = .error (.config "certificate auth requires TLS")
  known : ∀ endpoint username password, s.endpoint = some endpoint → endpoint ≠ "" →
    (∀ certificate privateKey, ¬s.Certified certificate privateKey) →
    s.username = some username → username ≠ "" → s.password = some password →
    result = .ok (s.config endpoint (.password username password))
  unknown : ∀ endpoint, s.endpoint = some endpoint → endpoint ≠ "" →
    (∀ certificate privateKey, ¬s.Certified certificate privateKey) →
    s.username.getD "" = "" ∨ s.password = none →
    result = .error (.config "no usable authentication configured")

variable {s : Summary}

theorem auth_certified {certificate privateKey : List UInt8}
    (h : s.Certified certificate privateKey) :
    s.draft.auth = if s.plain then .error .certificateNeedsTls
      else .ok (.certificate certificate privateKey) := by
  obtain ⟨hset, hcertificate, hkey⟩ := h
  cases hplain : s.plain <;>
    simp [Draft.auth, draft, hset, hcertificate, hkey, hplain, Option.filter_some]

/-- Without both a certificate and a key, only the user and the password matter. -/
theorem auth_uncertified (h : ∀ certificate privateKey, ¬s.Certified certificate privateKey) :
    s.draft.auth =
      match s.username.filter (· ≠ ""), s.password with
      | some username, some password => .ok (.password username password)
      | _, _ => .error .noAuthentication := by
  have hnone : s.draft.certificate.filter (· ≠ []) = none ∨
      s.draft.privateKey.filter (· ≠ []) = none := by
    cases hset : s.certificate with
    | none => exact .inl (by simp [draft, hset])
    | some both =>
      have hlacks : both.1 = [] ∨ both.2 = [] := by
        by_contra hboth
        rw [not_or] at hboth
        exact h both.1 both.2 ⟨hset, hboth⟩
      simpa [draft, hset, Option.filter_some] using hlacks
  rcases hnone with hnone | hnone
  · simp only [Draft.auth, hnone]
    rfl
  · simp only [Draft.auth, hnone]
    cases s.draft.certificate.filter (· ≠ []) <;> rfl

theorem build_endpointless (h : s.endpoint.getD "" = "") :
    s.draft.build = .error .endpointRequired := by
  have hnone : s.draft.endpoint.filter (· ≠ "") = none := by
    cases hendpoint : s.endpoint with
    | none => simp [draft, hendpoint]
    | some endpoint => simp_all [draft, Option.filter_some]
  simp only [Draft.build, hnone]
  rfl

/-- With an endpoint, all depends on the authentication. -/
theorem build_of_endpoint {endpoint : String} (h : s.endpoint = some endpoint)
    (hne : endpoint ≠ "") : s.draft.build = s.draft.auth.map (s.config endpoint) := by
  have hport : s.draft.port.filter (· ≠ 0) = if s.port = some 0 then none else s.port := by
    cases hset : s.port <;> simp [draft, hset, Option.filter_some]
  have hauthority : s.draft.authority.filter (· ≠ []) =
      if s.authority = some [] then none else s.authority := by
    cases hset : s.authority <;> simp [draft, hset, Option.filter_some]
  have hendpoint : s.draft.endpoint.filter (· ≠ "") = some endpoint := by
    simp [draft, h, hne, Option.filter_some]
  simp only [Draft.build, hendpoint, hport, hauthority]
  cases s.draft.auth <;> rfl

/-- A build of what counts answers by its case. -/
theorem builds (s : Summary) :
    s.Builds (s.draft.build.mapError ConfigFault.toLibraryError) where
  endpointless h := by
    rw [build_endpointless h]
    rfl
  certified endpoint certificate privateKey h hne hcertified hplain := by
    rw [build_of_endpoint h hne, auth_certified hcertified, hplain]
    rfl
  certifiedPlain endpoint certificate privateKey h hne hcertified hplain := by
    rw [build_of_endpoint h hne, auth_certified hcertified, hplain]
    rfl
  known endpoint username password h hne hcertified husername hnamed hpassword := by
    have hfilter : s.username.filter (· ≠ "") = some username := by
      simp [husername, hnamed, Option.filter_some]
    rw [build_of_endpoint h hne, auth_uncertified hcertified, hfilter, hpassword]
    rfl
  unknown endpoint h hne hcertified hlacks := by
    have hauth : s.draft.auth = .error .noAuthentication := by
      rw [auth_uncertified hcertified]
      rcases hlacks with hnameless | hpassword
      · cases husername : s.username <;> simp_all [Option.filter_some]
      · rw [hpassword]
        cases s.username.filter (· ≠ "") <;> rfl
    rw [build_of_endpoint h hne, hauth]
    rfl

end Summary

/-- What a draft builds depends on nothing but its last start and what was set since: calls in
any order, with starts and settings repeated, that come to the same summary build the same. -/
theorem built_from_last_values (calls : List Call) :
    (∀ calls', summary calls' = summary calls → (ofCalls calls').build = (ofCalls calls).build) ∧
    (summary calls).Builds ((ofCalls calls).build.mapError ConfigFault.toLibraryError) := by
  refine ⟨fun calls' h => ?_, ?_⟩
  · rw [ofCalls_eq, ofCalls_eq, h]
  · rw [ofCalls_eq]
    exact Summary.builds _

/-- Plain TCP and a password from before a certificate count for nothing, and of two ports the
last does. -/
theorem built_from_last_values_restarted :
    let calls : List Call := [.withoutTls, .username "device", .password "secret",
      .freshCertificate [1] [2], .port 1883, .endpoint "", .username "device", .port 0,
      .endpoint "broker"]
    let calls' : List Call := [.freshCertificate [1] [2], .endpoint "broker", .username "device",
      .port 0]
    (ofCalls calls').build = (ofCalls calls).build ∧
    (ofCalls calls).build.mapError ConfigFault.toLibraryError =
      .ok {
        endpoint := "broker"
        port := none
        auth := .certificate [1] [2]
        authority := none
        useTls := true } := by
  intro calls calls'
  obtain ⟨hsame, hbuilds⟩ := built_from_last_values calls
  exact ⟨hsame calls' (by decide),
    hbuilds.certified "broker" [1] [2] (by decide) (by decide)
      ⟨by decide, by decide, by decide⟩ (by decide)⟩

end DeviceLink.Mqtt.Draft
