import DeviceLink.Proofs.Link.Operations
/-!
# What a subscription is granted

The broker answers a request to subscribe with one code for each filter, and the request is told of
one quality for all of them: the least of the codes, or `failure` if the broker refused a filter or
named no code at all. So the quality that is told was granted to every filter at least, and the
order of the codes does not matter.
-/

namespace DeviceLink

open Mqtt

theorem Mqtt.Qos.code_injective : Function.Injective Qos.code := by
  intro p q h
  cases p <;> cases q <;> first | rfl | cases h

/-- The quality that a signal says was granted. -/
def Mqtt.Signal.granted? : Signal → Option Qos
  | .subscribed _ _ granted _ | .subscribedMany _ _ granted _ => some granted
  | .completed .. | .closed | .interrupted _ | .resumed .. | .message _ | .unsubscribed ..
  | .published .. => none

namespace Link

variable {ρ : Type}

/-! ## The least of some codes -/

/-- The lower of two qualities is one of them. -/
theorem lower_cases (p q : Qos) : lower p q = p ∨ lower p q = q := by
  unfold lower
  split
  · exact .inr rfl
  · exact .inl rfl

theorem code_lower_le (p q : Qos) :
    (lower p q).code ≤ p.code ∧ (lower p q).code ≤ q.code := by
  unfold lower
  split <;> omega

theorem foldl_lower_mem (q : Qos) (codes : List Qos) : codes.foldl lower q ∈ q :: codes := by
  induction codes generalizing q with
  | nil => exact List.mem_singleton_self q
  | cons code codes ih =>
    obtain hhead | htail := List.mem_cons.1 (ih (lower q code))
    · rw [List.foldl_cons, hhead]
      obtain h | h := lower_cases q code
      · rw [h]
        exact .head _
      · rw [h]
        exact .tail _ (.head _)
    · exact .tail _ (.tail _ htail)

theorem foldl_lower_le (q : Qos) (codes : List Qos) :
    ∀ code ∈ q :: codes, (codes.foldl lower q).code ≤ code.code := by
  induction codes generalizing q with
  | nil =>
    intro code hcode
    rw [List.mem_singleton.1 hcode]
    exact Int.le_refl _
  | cons first codes ih =>
    obtain ⟨hq, hfirst⟩ := code_lower_le q first
    have hlower : (codes.foldl lower (lower q first)).code ≤ (lower q first).code :=
      ih (lower q first) _ (.head _)
    intro code hcode
    rw [List.foldl_cons]
    rcases List.mem_cons.1 hcode with rfl | hcode
    · exact Int.le_trans hlower hq
    · rcases List.mem_cons.1 hcode with rfl | hcode
      · exact Int.le_trans hlower hfirst
      · exact ih (lower q first) code (.tail _ hcode)

/-- Where the broker refused no filter, the least of its codes is granted. -/
theorem granted_least {codes : List Qos} (hne : codes ≠ []) (hcodes : .failure ∉ codes) :
    granted codes ∈ codes ∧ ∀ code ∈ codes, (granted codes).code ≤ code.code := by
  cases codes with
  | nil => exact absurd rfl hne
  | cons code codes =>
    simp only [granted, hcodes, if_false]
    exact ⟨foldl_lower_mem code codes, foldl_lower_le code codes⟩

/-- A subscription is granted `failure` if the broker refused one of its filters or named none. -/
theorem granted_eq_failure {codes : List Qos} :
    granted codes = .failure ↔ codes = [] ∨ .failure ∈ codes := by
  constructor
  · intro h
    by_contra hcodes
    rw [not_or] at hcodes
    exact hcodes.2 (h ▸ (granted_least hcodes.1 hcodes.2).1)
  · rintro (rfl | hfailure)
    · rfl
    · cases codes with
      | nil => rfl
      | cons code codes => simp only [granted, hfailure, if_true]

theorem granted_perm {codes codes' : List Qos} (h : codes.Perm codes') :
    granted codes = granted codes' := by
  have hfailure : granted codes = .failure ↔ granted codes' = .failure := by
    rw [granted_eq_failure, granted_eq_failure, h.mem_iff, ← List.length_eq_zero_iff, h.length_eq,
      List.length_eq_zero_iff]
  by_cases hrefused : granted codes = .failure
  · rw [hrefused, hfailure.1 hrefused]
  · have hrefused' : ¬granted codes' = .failure := hfailure.not.1 hrefused
    rw [granted_eq_failure, not_or] at hrefused hrefused'
    obtain ⟨hmem, hle⟩ := granted_least hrefused.1 hrefused.2
    obtain ⟨hmem', hle'⟩ := granted_least hrefused'.1 hrefused'.2
    exact Qos.code_injective
      (Int.le_antisymm (hle _ (h.symm.subset hmem')) (hle' _ (h.subset hmem)))

/-! ## What a request is told -/

/-- The end of a subscription tells what was granted. -/
theorem granted?_of_makes {q : Request (Completion × ρ)} (h : Operation.Makes .subscribe q)
    (id : ℕ) (granted : Qos) (code : Int) :
    (q.completion.1.signal id granted code).granted? = some granted := by
  obtain ⟨op, n, -, hkind, rfl⟩ := h
  cases op with
  | subscribe | subscribeMany => rfl
  | unsubscribe | publish => cases hkind

theorem react_subAck {c : Connection ρ} {pkid : ℕ} {q : Request (Completion × ρ)}
    (h : c.tracker.sent.lookup (.subscribe, pkid) = some q) (codes : List Qos) :
    (c.react (.incoming (.subAck pkid codes))).2 = [Outcome.delivery ⟨q, granted codes, 0⟩] := by
  simp only [Connection.react, Connection.incoming, Connection.acknowledge, Tracker.acknowledge, h]
  rfl

/-- Whatever has happened to a link, the answer to an outstanding subscription is told to its
receiver alone, with one quality for all its filters. It is `failure` just if the broker refused
one or answered for none; otherwise it is one of the codes and no higher than any of them. The
order of the codes makes no difference. -/
theorem grant_bounds_every_code {c : Connection ρ} (hidle : c.tracker.outstanding = [])
    (acts : List (Act ρ)) :
    let t := Trail.after { link := c } acts
    ∀ pkid q, t.link.tracker.sent.lookup (.subscribe, pkid) = some q → ∀ codes,
      ∃ signal quality,
        (t.link.react (.incoming (.subAck pkid codes))).2 = [⟨q.completion.2, signal⟩] ∧
        q.completion.1.Tells q.id quality 0 signal ∧ signal.granted? = some quality ∧
        (quality = .failure ↔ codes = [] ∨ .failure ∈ codes) ∧
        (quality ≠ .failure → quality ∈ codes ∧ ∀ code ∈ codes, quality.code ≤ code.code) ∧
        ∀ codes', codes'.Perm codes →
          (t.link.react (.incoming (.subAck pkid codes'))).2 = [⟨q.completion.2, signal⟩] := by
  intro t pkid q hsent codes
  have : Inhabited ρ := ⟨q.completion.2⟩
  have hmakes : Operation.Makes .subscribe q :=
    (Trail.makes_of_outstanding hidle acts).sent _ (Tracker.mem_of_lookup hsent)
  refine ⟨_, granted codes, react_subAck hsent codes, Completion.tells_signal ..,
    granted?_of_makes hmakes .., ?_, ?_, ?_⟩
  · exact granted_eq_failure
  · intro hgranted
    rw [ne_eq, granted_eq_failure, not_or] at hgranted
    exact granted_least hgranted.1 hgranted.2
  · intro codes' hperm
    rw [react_subAck hsent, granted_perm hperm]
    rfl

/-- Of three filters that are granted different qualities the request is told the least. -/
theorem grant_bounds_every_code_three :
    let c : Connection ℕ :=
      { config := ⟨"broker", some 1883, .password "user" "word", none, false⟩
        client := true
        loop := some { options := ⟨"device", true, 30, 3000⟩ } }
    let acts : List (Act ℕ) :=
      [.perform (.subscribeMany [("t/a", 1), ("t/b", 2), ("t/c", 3)] .exactlyOnce 4),
        .poll (.outgoing (.subscribe 9))]
    let t := Trail.after { link := c } acts
    c.tracker.outstanding = [] ∧ (t.link.tracker.sent.lookup (.subscribe, 9)).isSome = true ∧
      ∃ quality,
        (t.link.react (.incoming (.subAck 9 [.exactlyOnce, .atMostOnce, .atLeastOnce]))).2 =
          [⟨4, .subscribedMany 1 ["t/a", "t/b", "t/c"] quality 0⟩] ∧
        quality ≠ .failure ∧ quality.code ≤ Qos.code .atMostOnce := by
  intro c acts t
  have hsent : t.link.tracker.sent.lookup (.subscribe, 9) =
      some ⟨1, .exactlyOnce, (.subscribeMany ["t/a", "t/b", "t/c"], 4)⟩ := by
    decide +kernel
  obtain ⟨signal, quality, htold, ⟨⟩, -, hfailure, hleast, -⟩ :=
    grant_bounds_every_code (c := c) rfl acts 9 _ hsent [.exactlyOnce, .atMostOnce, .atLeastOnce]
  have hquality : quality ≠ .failure := by
    rw [ne_eq, hfailure]
    decide
  exact ⟨rfl, by rw [hsent]; rfl, quality, htold, hquality, (hleast hquality).2 _ (by decide)⟩

end Link

end DeviceLink
