import DeviceLink.Proofs.Link.Outbox
/-!
# Reconnecting

As long as the outbox forgets no request, the tracker and the outbox agree on what is queued and
what is on the wire, and every credit is right. The tracker does not notice when the outbox forgets
a request: then the packet id of a forgotten packet, or the place of a forgotten request in the
queue, goes to another request, and there is always a way on to a wrong credit.
-/

namespace DeviceLink.Link

open Mqtt

/-! ## In step -/

/-- A parcel from before is not the next one. -/
theorem Parcel.ne_of_number_lt {x : Parcel} {calls : ℕ} (h : x.number < calls) {kind : Kind}
    {qos : Qos} : x ≠ ⟨calls, kind, qos⟩ := by
  rintro rfl
  exact Nat.lt_irrefl _ h

/-- The tracker agrees with the outbox: on what is unsent, in this order, and on what is in flight,
under which packet ids. -/
structure Tracker.InStep (t : Tracker (Completion × Parcel)) (unsent : List Parcel)
    (inflight : List (ℕ × Parcel)) (wired acked : List Parcel) (calls : ℕ) : Prop where
  labels : ∀ e ∈ t.queued, e.2.parcel.kind = e.1 ∧ e.2.parcel.qos = e.2.qos
  queue : t.queued.map (·.2.parcel) = unsent
  packets : ∀ kind pkid q, t.sent.lookup (kind, pkid) = some q →
    (pkid, q.parcel) ∈ inflight ∧ q.parcel.kind = kind
  carried : ∀ e ∈ inflight, e.2.awaitsAck = true ∧ e.2 ∈ wired ∧
    ∃ q, t.sent.lookup (e.2.kind, e.1) = some q ∧ q.parcel = e.2
  ids : (inflight.map (·.1)).Nodup
  distinct : (unsent ++ inflight.map (·.2)).Nodup
  unacked : ∀ x ∈ unsent ++ inflight.map (·.2), x ∉ acked
  numbers : ∀ x ∈ unsent ++ inflight.map (·.2) ++ acked, x.number < calls

namespace Tracker.InStep

variable {t t' : Tracker (Completion × Parcel)} {unsent : List Parcel}
  {inflight inflight' : List (ℕ × Parcel)} {wired acked : List Parcel} {calls : ℕ}
  {ended : List (Outcome (Completion × Parcel))}

/-- The order of what is in flight does not matter. -/
theorem perm (h : t.InStep unsent inflight wired acked calls) (hp : inflight'.Perm inflight) :
    t.InStep unsent inflight' wired acked calls := by
  have hlive : (unsent ++ inflight'.map (·.2)).Perm (unsent ++ inflight.map (·.2)) :=
    (hp.map _).append_left _
  refine ⟨h.labels, h.queue, fun kind pkid q hq => ?_, fun e he => h.carried e (hp.mem_iff.1 he),
    (hp.map _).nodup_iff.2 h.ids, hlive.nodup_iff.2 h.distinct,
    fun x hx => h.unacked x (hlive.mem_iff.1 hx), fun x hx => ?_⟩
  · obtain ⟨hmem, hkind⟩ := h.packets kind pkid q hq
    exact ⟨hp.mem_iff.2 hmem, hkind⟩
  · exact h.numbers x ((hlive.append_right _).mem_iff.1 hx)

/-- Neither the last id nor the record of what was on the wire before matters. -/
theorem mono {wired' : List Parcel} {calls' : ℕ} (h : t.InStep unsent inflight wired acked calls)
    (hqueued : t'.queued = t.queued) (hsent : t'.sent = t.sent) (hwired : ∀ x ∈ wired, x ∈ wired')
    (hcalls : calls ≤ calls') : t'.InStep unsent inflight wired' acked calls' := by
  refine ⟨hqueued ▸ h.labels, hqueued ▸ h.queue, hsent ▸ h.packets, fun e he => ?_, h.ids, h.distinct,
    h.unacked, fun x hx => Nat.lt_of_lt_of_le (h.numbers x hx) hcalls⟩
  rw [hsent]
  obtain ⟨hawaits, hmem, hlookup⟩ := h.carried e he
  exact ⟨hawaits, hwired _ hmem, hlookup⟩

/-- A request that is accepted. -/
theorem submit (h : t.InStep unsent inflight wired acked calls) {kind : Kind} {qos : Qos}
    {completion : Completion} {id : ℕ}
    (hqueued : t'.queued = t.queued ++ [(kind, ⟨id, qos, (completion, ⟨calls, kind, qos⟩)⟩)])
    (hsent : t'.sent = t.sent) :
    t'.InStep (unsent ++ [⟨calls, kind, qos⟩]) inflight wired acked (calls + 1) := by
  have hnew (x : Parcel) (hx : x ∈ unsent ++ inflight.map (·.2) ++ acked) :
      x ≠ ⟨calls, kind, qos⟩ := Parcel.ne_of_number_lt (h.numbers x hx)
  have hperm : (unsent ++ [(⟨calls, kind, qos⟩ : Parcel)] ++ inflight.map (·.2)).Perm
      ((⟨calls, kind, qos⟩ : Parcel) :: (unsent ++ inflight.map (·.2))) := by
    rw [List.append_assoc]
    exact List.perm_middle
  refine ⟨fun e he => ?_, ?_, hsent ▸ h.packets, hsent ▸ h.carried, h.ids, ?_, fun x hx => ?_,
    fun x hx => ?_⟩
  · rw [hqueued, List.mem_append, List.mem_singleton] at he
    rcases he with he | rfl
    · exact h.labels e he
    · exact ⟨rfl, rfl⟩
  · rw [hqueued, List.map_append, h.queue]
    rfl
  · rw [hperm.nodup_iff, List.nodup_cons]
    exact ⟨fun hx => hnew _ (List.mem_append_left _ hx) rfl, h.distinct⟩
  · rcases List.mem_cons.1 (hperm.mem_iff.1 hx) with rfl | hx
    · exact fun hacked => hnew _ (List.mem_append_right _ hacked) rfl
    · exact h.unacked x hx
  · rcases List.mem_cons.1 ((hperm.append_right acked).mem_iff.1 hx) with rfl | hx
    · exact Nat.lt_succ_self _
    · exact Nat.lt_succ_of_lt (h.numbers x hx)

theorem awaitsAck_parcel (h : t.InStep unsent inflight wired acked calls)
    {e : Kind × Request (Completion × Parcel)} (he : e ∈ t.queued) :
    e.2.parcel.awaitsAck = e.1.awaitsAck e.2.qos := by
  obtain ⟨hkind, hqos⟩ := h.labels e he
  rw [Parcel.awaitsAck, hkind, hqos]

/-- The oldest unsent request is the oldest of its kind in the tracker. -/
theorem oldest {x : Parcel} {a b : List (Kind × Request (Completion × Parcel))}
    {q : Request (Completion × Parcel)}
    (h : t.InStep (x :: unsent) inflight wired acked calls) (hq : t.queued = a ++ (x.kind, q) :: b)
    (ha : ∀ e ∈ a, e.1 ≠ x.kind) : a = [] ∧ q.parcel = x ∧ b.map (·.2.parcel) = unsent := by
  have hunsent := h.queue
  rw [hq] at hunsent
  cases a with
  | nil =>
    obtain ⟨hparcel, hrest⟩ := List.cons.inj hunsent
    exact ⟨rfl, hparcel, hrest⟩
  | cons e a =>
    obtain ⟨hparcel, -⟩ := List.cons.inj hunsent
    have hkind := (h.labels e (by rw [hq]; exact List.mem_cons_self)).1
    exact absurd (hkind.symm.trans (congrArg Parcel.kind hparcel)) (ha e List.mem_cons_self)

theorem waiting_ne_nil {x : Parcel} (h : t.InStep (x :: unsent) inflight wired acked calls) :
    t.waiting x.kind ≠ [] := by
  rw [Ne, Tracker.waiting_eq_nil]
  intro hnone
  have hunsent := h.queue
  cases hq : t.queued with
  | nil => rw [hq] at hunsent; cases hunsent
  | cons e rest =>
    rw [hq] at hunsent
    have hmem : e ∈ t.queued := by rw [hq]; exact List.mem_cons_self
    refine hnone e hmem ?_
    have hparcel : e.2.parcel = x := (List.cons.inj hunsent).1
    rw [← (h.labels e hmem).1, hparcel]

/-- What the tracker has of a kind is what the outbox has of it. -/
theorem waiting_parcels (h : t.InStep unsent inflight wired acked calls) (kind : Kind) :
    (t.waiting kind).map Request.parcel = unsent.filter fun x => x.kind = kind := by
  rw [← h.queue, Tracker.waiting, List.map_map, List.filter_map]
  have hsame : t.queued.filter (fun e => e.1 = kind) =
      t.queued.filter (fun e => e.2.parcel.kind = kind) :=
    List.filter_congr fun e he => by rw [(h.labels e he).1]
  rw [hsame]
  rfl

theorem lookup_eq_none {pkid : ℕ} (h : t.InStep unsent inflight wired acked calls)
    (hpkid : pkid ∉ inflight.map (·.1)) (kind : Kind) : t.sent.lookup (kind, pkid) = none := by
  cases hq : t.sent.lookup (kind, pkid) with
  | none => rfl
  | some q => exact absurd (List.mem_map_of_mem (h.packets kind pkid q hq).1) hpkid

/-- The oldest unsent request goes on the wire under a packet id that nothing in flight uses. What
is not acknowledged ends then, and it is that very request that does. -/
theorem send {x : Parcel} {pkid : ℕ} (h : t.InStep (x :: unsent) inflight wired acked calls)
    (hpkid : pkid ∉ inflight.map (·.1)) (heffect : Effect t (.outgoing x.kind pkid) t' ended) :
    t'.InStep unsent (if x.awaitsAck then (pkid, x) :: inflight else inflight) (x :: wired) acked
        calls ∧
      ∀ o ∈ ended, o.request.parcel = x ∧ x.awaitsAck = false := by
  have hnodup := h.distinct
  rw [List.cons_append, List.nodup_cons] at hnodup
  have hkeep (z : Parcel) (hz : z ∈ unsent ++ inflight.map (·.2)) :
      z ∈ x :: unsent ++ inflight.map (·.2) := List.mem_cons_of_mem _ hz
  cases heffect with
  | repeated _ _ hrepeated =>
    rcases hrepeated with hold | hempty
    · exact absurd (h.lookup_eq_none hpkid x.kind) hold
    · exact absurd hempty h.waiting_ne_nil
  | finished _ _ a b q _ hq ha hack =>
    obtain ⟨rfl, rfl, hrest⟩ := h.oldest hq ha
    have hmem : (q.parcel.kind, q) ∈ t.queued := by rw [hq]; exact List.mem_cons_self
    have hawaits : q.parcel.awaitsAck = false := (h.awaitsAck_parcel hmem).trans hack
    rw [if_neg (by simp [hawaits])]
    refine ⟨⟨fun e he => h.labels e (by rw [hq]; exact List.mem_cons_of_mem _ he), hrest, h.packets,
      fun e he => ?_, h.ids, hnodup.2, fun z hz => h.unacked z (hkeep z hz), fun z hz => ?_⟩, ?_⟩
    · obtain ⟨hawaits, hwired, hlookup⟩ := h.carried e he
      exact ⟨hawaits, List.mem_cons_of_mem _ hwired, hlookup⟩
    · exact h.numbers z (List.mem_cons_of_mem _ hz)
    · simp [hawaits]
  | sent _ _ a b q hnew hq ha hack =>
    obtain ⟨rfl, rfl, hrest⟩ := h.oldest hq ha
    have hmem : (q.parcel.kind, q) ∈ t.queued := by rw [hq]; exact List.mem_cons_self
    have hawaits : q.parcel.awaitsAck = true := (h.awaitsAck_parcel hmem).trans hack
    rw [if_pos hawaits]
    have hperm : (unsent ++ ((pkid, q.parcel) :: inflight).map (·.2)).Perm
        (q.parcel :: unsent ++ inflight.map (·.2)) := List.perm_middle
    refine ⟨⟨fun e he => h.labels e (by rw [hq]; exact List.mem_cons_of_mem _ he), hrest,
      fun k p r hr => ?_, fun e he => ?_, ?_, hperm.nodup_iff.2 h.distinct,
      fun z hz => h.unacked z (hperm.mem_iff.1 hz), fun z hz => ?_⟩,
      fun o ho => absurd ho List.not_mem_nil⟩
    · rw [lookup_append_of_none hnew] at hr
      split at hr
      · obtain ⟨rfl, rfl⟩ := Prod.mk.inj ‹(k, p) = _›
        obtain rfl := Option.some.inj hr
        exact ⟨List.mem_cons_self, rfl⟩
      · obtain ⟨hmem, hkind⟩ := h.packets k p r hr
        exact ⟨List.mem_cons_of_mem _ hmem, hkind⟩
    · rw [lookup_append_of_none hnew]
      rcases List.mem_cons.1 he with rfl | he
      · exact ⟨hawaits, List.mem_cons_self, q, if_pos rfl, rfl⟩
      · obtain ⟨hawaits, hwired, r, hr, hparcel⟩ := h.carried e he
        refine ⟨hawaits, List.mem_cons_of_mem _ hwired, r, ?_, hparcel⟩
        rw [if_neg, hr]
        intro hkey
        exact hpkid ((Prod.mk.inj hkey).2 ▸ List.mem_map_of_mem he)
    · exact List.nodup_cons.2 ⟨hpkid, h.ids⟩
    · exact h.numbers z ((hperm.append_right acked).mem_iff.1 hz)

/-- What is in flight goes on the wire again, which the tracker takes for the same packet. -/
theorem again {x : Parcel} {pkid : ℕ} (h : t.InStep unsent inflight wired acked calls)
    (hx : (pkid, x) ∈ inflight) (heffect : Effect t (.outgoing x.kind pkid) t' ended) :
    t' = t ∧ ended = [] := by
  obtain ⟨-, -, q, hq, -⟩ := h.carried _ hx
  cases heffect with
  | repeated => exact ⟨rfl, rfl⟩
  | finished _ _ _ _ _ hnew => cases hq.symm.trans hnew
  | sent _ _ _ _ _ hnew => cases hq.symm.trans hnew

/-- What is in flight is acknowledged, and it is that very request that ends. -/
theorem acknowledge {x : Parcel} {pkid : ℕ} {granted : Qos}
    (h : t.InStep unsent ((pkid, x) :: inflight) wired acked calls)
    (heffect : Effect t (.acknowledge x.kind pkid granted) t' ended) :
    t'.InStep unsent inflight wired (x :: acked) calls ∧
      ∀ o ∈ ended, o.request.parcel = x ∧ x ∈ wired := by
  obtain ⟨-, hwired, q, hq, hparcel⟩ := h.carried (pkid, x) List.mem_cons_self
  have hperm : (unsent ++ ((pkid, x) :: inflight).map (·.2)).Perm
      (x :: (unsent ++ inflight.map (·.2))) := List.perm_middle
  have hnodup := List.nodup_cons.1 (hperm.nodup_iff.1 h.distinct)
  have hids := List.nodup_cons.1 h.ids
  cases heffect with
  | stray _ _ _ hnone => cases hq.symm.trans hnone
  | acknowledged _ _ _ r hr =>
    obtain rfl : q = r := Option.some.inj (hq.symm.trans hr)
    refine ⟨⟨h.labels, h.queue, fun k p r hr => ?_, fun e he => ?_, hids.2, hnodup.2,
      fun z hz => ?_, fun z hz => ?_⟩, ?_⟩
    · by_cases hkey : (k, p) = (x.kind, pkid)
      · rw [hkey, lookup_filter_self] at hr
        cases hr
      · rw [lookup_filter_ne hkey] at hr
        obtain ⟨hmem, hkind⟩ := h.packets k p r hr
        refine ⟨(List.mem_cons.1 hmem).resolve_left fun heq => hkey ?_, hkind⟩
        obtain ⟨rfl, rfl⟩ := Prod.mk.inj heq
        rw [hkind]
    · obtain ⟨hawaits, hmem, r, hr, hr'⟩ := h.carried e (List.mem_cons_of_mem _ he)
      refine ⟨hawaits, hmem, r, ?_, hr'⟩
      rw [lookup_filter_ne, hr]
      intro hkey
      have hpkid : e.1 = pkid := (Prod.mk.inj hkey).2
      have hmem : e.1 ∈ inflight.map (·.1) := List.mem_map_of_mem he
      rw [hpkid] at hmem
      exact hids.1 hmem
    · rw [List.mem_cons, not_or]
      refine ⟨?_, h.unacked z (hperm.mem_iff.2 (List.mem_cons_of_mem _ hz))⟩
      rintro rfl
      exact hnodup.1 hz
    · exact h.numbers z (((hperm.append_right acked).trans List.perm_middle.symm).mem_iff.2 hz)
    · rintro o ho
      obtain rfl := List.mem_singleton.1 ho
      exact ⟨hparcel, hwired⟩

end Tracker.InStep

namespace System

/-- The link takes requests, and its tracker agrees with the outbox. -/
structure InStep (s : System) : Prop where
  client : s.link.client = true
  closing : s.link.closing = false
  tracker : s.link.tracker.InStep s.outbox.unsent s.outbox.inflight s.wired s.acked s.calls

variable {s : System}

theorem endCode?_ne_of_endings {signals : List (Delivery Parcel)} (h : endings signals = [])
    {d : Delivery Parcel} (hd : d ∈ signals) : d.signal.endCode? ≠ some 0 := by
  intro hzero
  have hmem : d ∈ endings signals := List.mem_filter.2 ⟨hd, by rw [hzero]; rfl⟩
  rw [h] at hmem
  cases hmem

theorem inStep_start {c : Connection Parcel} (hc : c.Idle) : (start c).InStep := by
  obtain ⟨hqueued, hsent⟩ := Tracker.outstanding_eq_nil.1 hc.outstanding
  refine ⟨hc.client, hc.closing, ?_⟩
  constructor <;> simp [start, hqueued, hsent, Outbox.unsent, Outbox.inflight]

namespace InStep

theorem submit (h : s.InStep) (kind : Kind) (qos : Qos) (completion : Completion)
    (command : Command) : (s.step (.submit kind qos completion command)).1.InStep := by
  obtain ⟨⟨hclient, hclosing, hsent⟩, hcases⟩ :=
    s.link.submit_cases kind qos completion (⟨s.calls, kind, qos⟩ : Parcel) command
  refine ⟨hclient.trans h.client, hclosing.trans h.closing, ?_⟩
  split at hcases
  · obtain ⟨hsome, id, hqueued⟩ := hcases
    have hunsent : (s.step (.submit kind qos completion command)).1.outbox.unsent =
        s.outbox.unsent ++ [⟨s.calls, kind, qos⟩] := by
      simp [System.step, Outbox.unsent, hsome]
    rw [hunsent]
    exact h.tracker.submit hqueued hsent
  · obtain ⟨hnone, hqueued⟩ := hcases
    have houtbox : (s.step (.submit kind qos completion command)).1.outbox = s.outbox := by
      simp [System.step, hnone]
    rw [houtbox]
    exact h.tracker.mono hqueued hsent (fun _ hx => hx) (Nat.le_succ _)

theorem send (h : s.InStep) {pkid : ℕ} (ha : s.Allows (.send pkid)) :
    (s.step (.send pkid)).1.InStep ∧
      ∀ d ∈ (s.step (.send pkid)).2, (s.step (.send pkid)).1.Right d := by
  obtain ⟨-, ha⟩ := ha
  cases hnext : s.outbox.next? with
  | none => rw [hnext] at ha; exact ha.elim
  | some next =>
    obtain ⟨old, x, rest⟩ := next
    rw [hnext] at ha
    obtain ⟨t, ended, heffect, hstep⟩ := s.step_send pkid hnext
    rw [hstep]
    cases old with
    | some old =>
      obtain rfl : pkid = old := ha
      obtain ⟨hunsent, hinflight⟩ := Outbox.next?_again hnext
      -- The tracker still has the packet from when it was on the wire first.
      obtain ⟨rfl, rfl⟩ := h.tracker.again (hinflight.mem_iff.2 List.mem_cons_self) heffect
      refine ⟨⟨h.client, h.closing, ?_⟩, fun d hd => absurd hd List.not_mem_nil⟩
      have hawaits := (h.tracker.carried _ (hinflight.mem_iff.2 List.mem_cons_self)).1
      have hcarried := rest.inflight_carried pkid x
      rw [if_pos hawaits] at hcarried
      show s.link.tracker.InStep rest.unsent _ _ _ _
      rw [hunsent]
      exact (h.tracker.perm (hcarried.trans hinflight.symm)).mono rfl rfl
        (fun _ hz => List.mem_cons_of_mem _ hz) (Nat.le_refl _)
    | none =>
      have hpkid : pkid ∉ s.outbox.inflight.map (·.1) := ha
      obtain ⟨hunsent, hinflight⟩ := Outbox.next?_first hnext
      have htracker := h.tracker
      rw [hunsent] at htracker
      obtain ⟨hnew, hended⟩ := htracker.send hpkid heffect
      refine ⟨⟨h.client, h.closing, hnew.perm ?_⟩, ?_⟩
      · rw [← hinflight]
        exact rest.inflight_carried pkid x
      · intro d hd
        obtain ⟨o, ho, rfl⟩ := List.mem_map.1 hd
        obtain ⟨hparcel, hawaits⟩ := hended o ho
        obtain rfl : o.delivery.receiver = x := hparcel
        exact ⟨List.mem_cons_self, fun h => absurd (hawaits.symm.trans h) (by decide)⟩

theorem ack (h : s.InStep) {pkid : ℕ} (codes : List Qos) (ha : s.Allows (.ack pkid codes)) :
    (s.step (.ack pkid codes)).1.InStep ∧
      ∀ d ∈ (s.step (.ack pkid codes)).2, (s.step (.ack pkid codes)).1.Right d := by
  obtain ⟨x, hx⟩ := Tracker.exists_lookup ha.2
  obtain ⟨granted, t, ended, heffect, hstep⟩ := s.step_ack codes hx
  rw [hstep]
  have hids : (s.outbox.unacked.map (·.1)).Nodup := by
    have hids := h.tracker.ids
    rw [Outbox.inflight, List.map_append] at hids
    exact hids.of_append_left
  have hperm : s.outbox.inflight.Perm ((pkid, x) ::
      Outbox.inflight { s.outbox with unacked := s.outbox.unacked.filter fun e => e.1 ≠ pkid }) :=
    (Tracker.perm_filter_ne hids hx).append_right _
  obtain ⟨hnew, hended⟩ := (h.tracker.perm hperm.symm).acknowledge heffect
  refine ⟨⟨h.client, h.closing, hnew⟩, ?_⟩
  intro d hd
  obtain ⟨o, ho, rfl⟩ := List.mem_map.1 hd
  obtain ⟨hparcel, hwired⟩ := hended o ho
  obtain rfl : o.delivery.receiver = x := hparcel
  exact ⟨hwired, fun _ => List.mem_cons_self⟩

/-- A move that makes the outbox forget nothing keeps the link and the outbox in step, and gives
right credits only. -/
theorem step (h : s.InStep) {m : Move} (ha : s.Allows m) (hk : ¬s.Drops m) :
    (s.step m).1.InStep ∧
      ∀ d ∈ (s.step m).2, d.signal.endCode? = some 0 → (s.step m).1.Right d := by
  cases m with
  | submit kind qos completion command =>
    exact ⟨h.submit kind qos completion command, fun d hd => absurd hd List.not_mem_nil⟩
  | loop state =>
    exact ⟨⟨h.client, h.closing, h.tracker⟩, fun d hd => absurd hd List.not_mem_nil⟩
  | send pkid =>
    obtain ⟨hnew, hright⟩ := h.send ha
    exact ⟨hnew, fun d hd _ => hright d hd⟩
  | ack pkid codes =>
    obtain ⟨hnew, hright⟩ := h.ack codes ha
    exact ⟨hnew, fun d hd _ => hright d hd⟩
  | interrupted code =>
    have hkept : s.outbox.online = true → ∀ e ∈ s.outbox.unacked, e.2.kind = .publish := by
      intro honline e he
      by_contra hkind
      exact hk ⟨honline, e, he, hkind⟩
    refine ⟨⟨h.client, h.closing, ?_⟩, fun d hd hzero => ?_⟩
    · show s.link.tracker.InStep s.outbox.interrupted.unsent s.outbox.interrupted.inflight _ _ _
      rw [Outbox.unsent_interrupted]
      exact h.tracker.perm (Outbox.inflight_interrupted hkept)
    · exact absurd hzero (endCode?_ne_of_endings (s.endings_interrupted code) hd)
  | connAck sessionPresent =>
    have hkept : s.outbox.accepted sessionPresent = { s.outbox with online := true } := by
      cases sessionPresent with
      | true => rfl
      | false =>
        have hempty : s.outbox.pending = [] := by
          by_contra hne
          exact hk ⟨rfl, hne⟩
        simp [Outbox.accepted, hempty]
    refine ⟨⟨h.client, h.closing, ?_⟩, fun d hd hzero => ?_⟩
    · show s.link.tracker.InStep (s.outbox.accepted sessionPresent).unsent
        (s.outbox.accepted sessionPresent).inflight _ _ _
      rw [hkept]
      exact h.tracker
    · exact absurd hzero (endCode?_ne_of_endings (s.endings_connAck sessionPresent) hd)

end InStep

/-! ## Forgotten requests -/

/-- There is a way on to a wrong credit, along which the outbox forgets nothing more. -/
def Exploitable (s : System) : Prop := ∃ later, s.Allowed later ∧ s.Keeps later ∧ ¬s.Credits later

theorem Exploitable.of_step {m : Move} (ha : s.Allows m) (hk : ¬s.Drops m)
    (h : (s.step m).1.Exploitable) : s.Exploitable := by
  obtain ⟨later, hallowed, hkeeps, hwrong⟩ := h
  exact ⟨m :: later, ⟨ha, hallowed⟩, ⟨hk, hkeeps⟩, fun hc => hwrong hc.2⟩

/-- Once all of the outbox is sent, something may be left that leads to a wrong credit. -/
theorem exploitable_of_sent {P : System → Prop}
    (hsend : ∀ s, P s → ∀ old x rest, s.outbox.next? = some (old, x, rest) →
      ∃ pkid, s.Allows (.send pkid) ∧ P (s.step (.send pkid)).1)
    (hempty : ∀ s, P s → s.outbox.next? = none → s.Exploitable) (s : System) (hs : P s) :
    s.Exploitable := by
  -- Every packet that is sent leaves less to send.
  induction hn : s.outbox.pending.length + s.outbox.waiting.length
    using Nat.strongRecOn generalizing s with
  | _ n ih =>
    cases hnext : s.outbox.next? with
    | none => exact hempty s hs hnext
    | some next =>
      obtain ⟨old, x, rest⟩ := next
      obtain ⟨pkid, ha, hs'⟩ := hsend s hs old x rest hnext
      refine .of_step ha not_false (ih _ ?_ _ hs' rfl)
      obtain ⟨t, ended, -, hstep⟩ := s.step_send pkid hnext
      rw [hstep, ← hn]
      show rest.pending.length + rest.waiting.length < _
      exact Outbox.next?_length hnext

/-- The acknowledgement of a parcel goes to the request that the tracker has under its packet
id. -/
theorem exploitable_of_mistaken {pkid : ℕ} {x : Parcel} {q : Request (Completion × Parcel)}
    (honline : s.outbox.online = true) (hx : s.outbox.unacked.lookup pkid = some x)
    (hq : s.link.tracker.sent.lookup (x.kind, pkid) = some q) (hne : q.parcel ≠ x)
    (hawaits : q.parcel.awaitsAck = true) (hacked : q.parcel ∉ s.acked) : s.Exploitable := by
  obtain ⟨granted, t, ended, heffect, hstep⟩ := s.step_ack [] hx
  have hmem : pkid ∈ s.outbox.unacked.map (·.1) := List.mem_map_of_mem (Tracker.mem_of_lookup hx)
  refine ⟨[.ack pkid []], ⟨⟨honline, hmem⟩, trivial⟩, ⟨not_false, trivial⟩, fun hcredits => ?_⟩
  have hright := hcredits.1
  rw [hstep] at hright
  cases heffect with
  | stray _ _ _ hnone => cases hq.symm.trans hnone
  | acknowledged _ _ _ r hr =>
    obtain rfl : q = r := Option.some.inj (hq.symm.trans hr)
    have hcredit := hright _ List.mem_cons_self (Completion.endCode?_signal _ _ _ _)
    rcases List.mem_cons.1 (hcredit.2 hawaits) with heq | hmem
    · exact hne heq
    · exact hacked hmem

/-- A request of a kind as a device makes it. -/
def sample : Kind → Completion × Command
  | .subscribe => (.subscribe "t", .subscribe [("t", .atLeastOnce)])
  | .unsubscribe => (.unsubscribe, .unsubscribe "t")
  | .publish => (.publish, .publish "t" .atLeastOnce false [])

/-- Making room for one more request. -/
def makeRoom : Move := .loop (some { options := ⟨"sensor", true, 30, 3000⟩ })

/-- Making that request. -/
def request (kind : Kind) : Move := .submit kind .atLeastOnce (sample kind).1 (sample kind).2

/-- Another system, after one more request of a kind was accepted and sent under a packet id. -/
structure Probed (s s' : System) (kind : Kind) (pkid : ℕ) : Prop where
  client : s'.link.client = true
  closing : s'.link.closing = false
  online : s'.outbox.online = true
  pending : s'.outbox.pending = []
  waiting : s'.outbox.waiting = []
  unacked : s'.outbox.unacked.lookup pkid = some ⟨s.calls, kind, .atLeastOnce⟩
  calls : s'.calls = s.calls + 1
  acked : s'.acked = s.acked
  tracker : ∃ t ended id, t.sent = s.link.tracker.sent ∧
    t.queued = s.link.tracker.queued ++
      [(kind, ⟨id, .atLeastOnce, ((sample kind).1, ⟨s.calls, kind, .atLeastOnce⟩)⟩)] ∧
    Tracker.Effect t (.outgoing kind pkid) s'.link.tracker ended

/-- What was not on the wire yet may go there under any packet id that nothing in flight uses. -/
theorem allows_send {pkid : ℕ} {x : Parcel} {rest : Outbox} (honline : s.outbox.online = true)
    (hnext : s.outbox.next? = some (none, x, rest)) (hpkid : pkid ∉ s.outbox.inflight.map (·.1)) :
    s.Allows (.send pkid) := by
  refine ⟨honline, ?_⟩
  rw [hnext]
  exact hpkid

/-- With nothing left to send, any request can be made and sent next. -/
theorem exists_probed (hclient : s.link.client = true) (hclosing : s.link.closing = false)
    (honline : s.outbox.online = true) (hempty : s.outbox.next? = none) (kind : Kind) {pkid : ℕ}
    (hpkid : pkid ∉ s.outbox.inflight.map (·.1)) :
    ∃ s', s.Probed s' kind pkid ∧ (s'.Exploitable → s.Exploitable) := by
  obtain ⟨hpending, hwaiting⟩ := Outbox.next?_eq_none hempty
  let c : Connection Parcel := { s.link with loop := some { options := ⟨"sensor", true, 30, 3000⟩ } }
  let x : Parcel := ⟨s.calls, kind, .atLeastOnce⟩
  have htakes : c.takes (sample kind).2 = true := by
    cases kind <;> rfl
  obtain ⟨⟨hclient', hclosing', hsent⟩, hcases⟩ :=
    c.submit_cases kind .atLeastOnce (sample kind).1 x (sample kind).2
  rw [if_pos ⟨hclient, by simp [c, hclosing], htakes⟩] at hcases
  obtain ⟨hsome, id, hqueued⟩ := hcases
  -- Without room the event loop would refuse the request.
  let offered := ((s.step makeRoom).1.step (request kind)).1
  have houtbox : offered.outbox = { s.outbox with waiting := [x] } := by
    show ({ s.outbox with waiting := if (c.submit kind .atLeastOnce (sample kind).1 x
      (sample kind).2).2.isSome then s.outbox.waiting ++ [x] else s.outbox.waiting } : Outbox) = _
    rw [if_pos hsome, hwaiting]
    rfl
  have hnext : offered.outbox.next? = some (none, x, { s.outbox with waiting := [] }) := by
    rw [houtbox]
    simp [Outbox.next?, hpending]
  obtain ⟨t, ended, heffect, hstep⟩ := offered.step_send pkid hnext
  refine ⟨(offered.step (.send pkid)).1, ?_, fun h => ?_⟩
  · rw [hstep]
    exact ⟨hclient'.trans hclient, hclosing'.trans hclosing, honline, hpending, rfl,
      Outbox.lookup_carried hpkid (Kind.publish_awaitsAck (by simp [x]) kind), rfl, rfl,
      _, _, id, hsent, hqueued, heffect⟩
  · have hoffered : offered.Exploitable → s.Exploitable := fun h =>
      .of_step (m := makeRoom) trivial not_false (.of_step (m := request kind) trivial not_false h)
    refine hoffered (.of_step (m := .send pkid) (allows_send ?_ hnext ?_) not_false h)
    · rw [houtbox]
      exact honline
    · rw [houtbox]
      exact hpkid

/-- The tracker waits for the acknowledgement of a packet whose id the outbox gives away again. -/
structure Stale (s : System) (kind : Kind) (pkid : ℕ) (q : Request (Completion × Parcel)) :
    Prop where
  client : s.link.client = true
  closing : s.link.closing = false
  online : s.outbox.online = true
  sent : s.link.tracker.sent.lookup (kind, pkid) = some q
  free : pkid ∉ s.outbox.inflight.map (·.1)
  awaits : q.parcel.awaitsAck = true
  unacked : q.parcel ∉ s.acked
  number : q.parcel.number < s.calls

theorem exists_not_mem (l : List ℕ) : ∃ n, n ∉ l := by
  have hbound : ∃ n, ∀ m ∈ l, m < n := by
    induction l with
    | nil => exact ⟨0, fun m hm => absurd hm List.not_mem_nil⟩
    | cons a l ih =>
      obtain ⟨n, hn⟩ := ih
      refine ⟨max n (a + 1), fun m hm => ?_⟩
      rcases List.mem_cons.1 hm with rfl | hm
      · omega
      · have := hn m hm
        omega
  obtain ⟨n, hn⟩ := hbound
  exact ⟨n, fun hmem => Nat.lt_irrefl n (hn n hmem)⟩

/-- The next parcel can be sent, under a packet id that is not among some others unless it has one
already. -/
theorem exists_pkid (honline : s.outbox.online = true) {old : Option ℕ} {x : Parcel} {rest : Outbox}
    (hnext : s.outbox.next? = some (old, x, rest)) (others : List ℕ) :
    ∃ pkid, s.Allows (.send pkid) ∧ (pkid ∈ s.outbox.inflight.map (·.1) ∨ pkid ∉ others) := by
  cases old with
  | some old =>
    have hmem := (Outbox.next?_again hnext).2.mem_iff.2 List.mem_cons_self
    refine ⟨old, ⟨honline, ?_⟩, .inl (List.mem_map_of_mem hmem)⟩
    rw [hnext]
  | none =>
    obtain ⟨pkid, hpkid⟩ := exists_not_mem (s.outbox.inflight.map (·.1) ++ others)
    rw [List.mem_append, not_or] at hpkid
    exact ⟨pkid, allows_send honline hnext hpkid.1, .inr hpkid.2⟩

namespace Stale

variable {kind : Kind} {pkid : ℕ} {q : Request (Completion × Parcel)}

/-- Sending under other packet ids leaves it so. -/
theorem send (h : s.Stale kind pkid q) {p : ℕ} {old : Option ℕ} {x : Parcel} {rest : Outbox}
    (hnext : s.outbox.next? = some (old, x, rest)) (hp : p ≠ pkid) :
    (s.step (.send p)).1.Stale kind pkid q := by
  obtain ⟨t, ended, heffect, hstep⟩ := s.step_send p hnext
  rw [hstep]
  refine ⟨h.client, h.closing, (Outbox.next?_online hnext).trans h.online, ?_, fun hmem => ?_,
    h.awaits, h.unacked, h.number⟩
  · show t.sent.lookup (kind, pkid) = some q
    cases heffect with
    | repeated => exact h.sent
    | finished => exact h.sent
    | sent _ _ _ _ _ hnew =>
      rw [Tracker.lookup_append_of_none hnew, if_neg, h.sent]
      exact fun hkey => hp (Prod.mk.inj hkey).2.symm
  · obtain ⟨e, he, rfl⟩ := List.mem_map.1 hmem
    rcases Outbox.mem_inflight_carried he with rfl | he
    · exact hp rfl
    · exact h.free (List.mem_map_of_mem (Outbox.next?_inflight hnext e he))

/-- The next request of the kind may go under that packet id. -/
theorem exploitable (h : s.Stale kind pkid q) : s.Exploitable := by
  refine exploitable_of_sent (P := fun s => s.Stale kind pkid q) ?_ ?_ s h
  · intro s h old x rest hnext
    obtain ⟨p, ha, hp⟩ := exists_pkid h.online hnext [pkid]
    refine ⟨p, ha, h.send hnext ?_⟩
    rintro rfl
    rcases hp with hmem | hnot
    · exact h.free hmem
    · exact hnot List.mem_cons_self
  · intro s h hnext
    obtain ⟨s', hprobed, hback⟩ := exists_probed h.client h.closing h.online hnext kind h.free
    obtain ⟨t, ended, id, hsent, -, heffect⟩ := hprobed.tracker
    have hlookup : t.sent.lookup (kind, pkid) = some q := hsent ▸ h.sent
    refine hback (exploitable_of_mistaken hprobed.online hprobed.unacked (q := q) ?_
      (Parcel.ne_of_number_lt h.number) h.awaits (hprobed.acked ▸ h.unacked))
    generalize s'.link.tracker = t' at heffect ⊢
    cases heffect with
    | repeated => exact hlookup
    | finished _ _ _ _ _ hnew => cases hlookup.symm.trans hnew
    | sent _ _ _ _ _ hnew => cases hlookup.symm.trans hnew

end Stale

/-- The tracker has more requests of a kind to be sent than the outbox. -/
structure Behind (s : System) (kind : Kind) : Prop where
  client : s.link.client = true
  closing : s.link.closing = false
  online : s.outbox.online = true
  pending : s.outbox.pending = []
  fewer : (s.outbox.waiting.filter fun x => x.kind = kind).length <
    (s.link.tracker.waiting kind).length
  labels : ∀ q ∈ s.link.tracker.waiting kind, q.parcel.kind = kind ∧ q.parcel.qos = q.qos
  unacked : ∀ q ∈ s.link.tracker.waiting kind, q.parcel ∉ s.acked
  numbers : ∀ q ∈ s.link.tracker.waiting kind, q.parcel.number < s.calls
  acked : ∀ x ∈ s.acked, x.number < s.calls

namespace Behind

variable {kind : Kind}

/-- Sending leaves it so: it takes one request from both, or one that the tracker does not know. -/
theorem send (h : s.Behind kind) {pkid : ℕ} {old : Option ℕ} {x : Parcel} {rest : Outbox}
    (hnext : s.outbox.next? = some (old, x, rest)) : (s.step (.send pkid)).1.Behind kind := by
  obtain ⟨t, ended, heffect, hstep⟩ := s.step_send pkid hnext
  obtain ⟨hwaiting, hpending⟩ : s.outbox.waiting = x :: rest.waiting ∧ rest.pending = [] := by
    have hpending := h.pending
    unfold Outbox.next? at hnext
    rw [hpending] at hnext
    cases hwaiting : s.outbox.waiting with
    | nil => rw [hwaiting] at hnext; cases hnext
    | cons y waiting =>
      rw [hwaiting] at hnext
      cases hnext
      exact ⟨rfl, rfl⟩
  have hsub : ∀ q ∈ t.waiting kind, q ∈ s.link.tracker.waiting kind := by
    intro q hq
    rcases heffect.waiting_outgoing kind with hsame | ⟨-, r, hone⟩
    · exact hsame ▸ hq
    · rw [hone]
      exact List.mem_cons_of_mem _ hq
  rw [hstep]
  refine ⟨h.client, h.closing, (Outbox.next?_online hnext).trans h.online, hpending, ?_,
    fun q hq => h.labels q (hsub q hq), fun q hq => h.unacked q (hsub q hq),
    fun q hq => h.numbers q (hsub q hq), h.acked⟩
  show (rest.waiting.filter fun x => x.kind = kind).length < (t.waiting kind).length
  have hfewer := h.fewer
  rw [hwaiting] at hfewer
  rcases heffect.waiting_outgoing kind with hsame | ⟨hkind, r, hone⟩
  · rw [hsame]
    refine Nat.lt_of_le_of_lt ?_ hfewer
    exact (List.sublist_cons_self _ _).filter _ |>.length_le
  · rw [List.filter_cons_of_pos (by simpa using hkind), hone] at hfewer
    simpa using hfewer

/-- One more request of the kind leaves it so. -/
theorem probed (h : s.Behind kind) {s' : System} {pkid : ℕ} (hp : s.Probed s' kind pkid)
    {q r : Request (Completion × Parcel)} {rest : List (Request (Completion × Parcel))}
    (hq : s.link.tracker.waiting kind = q :: rest)
    (hr : r.qos = .atLeastOnce ∧ r.parcel = ⟨s.calls, kind, .atLeastOnce⟩)
    (hwaiting : s'.link.tracker.waiting kind = rest ++ [r]) : s'.Behind kind := by
  have hnumbers : ∀ x ∈ s'.acked, x.number < s'.calls := fun x hx =>
    hp.calls ▸ Nat.lt_succ_of_lt (h.acked x (hp.acked ▸ hx))
  have hcases : ∀ z ∈ s'.link.tracker.waiting kind, z ∈ s.link.tracker.waiting kind ∨ z = r := by
    intro z hz
    rw [hwaiting, List.mem_append, List.mem_singleton] at hz
    exact hz.imp_left fun hmem => hq ▸ List.mem_cons_of_mem _ hmem
  refine ⟨hp.client, hp.closing, hp.online, hp.pending, ?_, fun z hz => ?_, fun z hz => ?_,
    fun z hz => ?_, hnumbers⟩
  · simp [hp.waiting, hwaiting]
  · rcases hcases z hz with hold | rfl
    · exact h.labels z hold
    · rw [hr.1, hr.2]
      exact ⟨rfl, rfl⟩
  · rw [hp.acked]
    rcases hcases z hz with hold | rfl
    · exact h.unacked z hold
    · rw [hr.2]
      exact fun hmem => Parcel.ne_of_number_lt (h.acked _ hmem) rfl
  · rw [hp.calls]
    rcases hcases z hz with hold | rfl
    · exact Nat.lt_succ_of_lt (h.numbers z hold)
    · rw [hr.2]
      exact Nat.lt_succ_self _

/-- With nothing left to send, a new request of the kind is taken for the oldest one. If nothing
acknowledges that one it ends, and if not it ends with the acknowledgement of the new one. -/
theorem oldest (h : s.Behind kind) (hwaiting : s.outbox.waiting = [])
    {q : Request (Completion × Parcel)} {rest : List (Request (Completion × Parcel))}
    (hq : s.link.tracker.waiting kind = q :: rest) :
    s.Exploitable ∨ kind.awaitsAck q.qos = false ∧ ∃ (s' : System) (r : _), s'.Behind kind ∧
      s'.outbox.waiting = [] ∧ s'.link.tracker.waiting kind = rest ++ [r] ∧
      kind.awaitsAck r.qos = true ∧ (s'.Exploitable → s.Exploitable) := by
  have hempty : s.outbox.next? = none := by
    simp [Outbox.next?, h.pending, hwaiting]
  -- The tracker must not take the new packet for one that is sent again.
  obtain ⟨pkid, hpkid⟩ :=
    exists_not_mem (s.outbox.inflight.map (·.1) ++ s.link.tracker.sent.map (·.1.2))
  rw [List.mem_append, not_or] at hpkid
  obtain ⟨s', hprobed, hback⟩ := exists_probed h.client h.closing h.online hempty kind hpkid.1
  obtain ⟨t, ended, id, hsent, hqueued, heffect⟩ := hprobed.tracker
  let r : Request (Completion × Parcel) :=
    ⟨id, .atLeastOnce, ((sample kind).1, ⟨s.calls, kind, .atLeastOnce⟩)⟩
  have ht : t.waiting kind = q :: (rest ++ [r]) := by
    rw [← List.cons_append, ← hq]
    simp [Tracker.waiting, hqueued, r]
  have hmem : q ∈ s.link.tracker.waiting kind := hq ▸ List.mem_cons_self
  have hprobe := h.probed hprobed hq (r := r) ⟨rfl, rfl⟩
  have hunsent := exploitable_of_mistaken hprobed.online hprobed.unacked (q := q)
  generalize htracker : s'.link.tracker = t' at heffect hprobe hunsent
  cases heffect with
  | repeated _ _ hrepeated =>
    rcases hrepeated with hold | hnil
    · rw [hsent] at hold
      obtain ⟨z, hz⟩ := Option.ne_none_iff_exists'.1 hold
      exact absurd (List.mem_map_of_mem (Tracker.mem_of_lookup hz)) hpkid.2
    · rw [ht] at hnil
      cases hnil
  | finished _ _ a b z _ hz ha hack =>
    have hwaiting' := Tracker.waiting_take hz ha t.sent kind
    rw [ht, if_pos rfl] at hwaiting'
    obtain ⟨rfl, hrest⟩ := List.cons.inj hwaiting'
    refine .inr ⟨hack, s', r, hprobe hrest.symm, hprobed.waiting, ?_,
      Kind.publish_awaitsAck (by simp [r]) kind, hback⟩
    rw [htracker]
    exact hrest.symm
  | sent _ _ a b z hnew hz ha hack =>
    have hwaiting' := Tracker.waiting_take hz ha t.sent kind
    rw [ht, if_pos rfl] at hwaiting'
    obtain ⟨rfl, -⟩ := List.cons.inj hwaiting'
    obtain ⟨hkind, hqos⟩ := h.labels q hmem
    refine .inl (hback (hunsent ?_ (Parcel.ne_of_number_lt (h.numbers q hmem)) ?_
      (hprobed.acked ▸ h.unacked q hmem)))
    · exact (Tracker.lookup_append_of_none hnew).trans (if_pos rfl)
    · rw [Parcel.awaitsAck, hkind, hqos, hack]

/-- New requests are made until the oldest one is one that is acknowledged. -/
theorem exploitable_of_empty (l : List (Request (Completion × Parcel))) :
    ∀ (s : System) (m : List (Request (Completion × Parcel))), s.Behind kind →
      s.outbox.waiting = [] → s.link.tracker.waiting kind = l ++ m →
      (∀ q ∈ m, kind.awaitsAck q.qos = true) → s.Exploitable := by
  -- The requests that were there come before those made on the way, which are all acknowledged.
  induction l with
  | nil =>
    intro s m h hwaiting hm hawaits
    have hfewer := h.fewer
    cases m with
    | nil =>
      rw [hm] at hfewer
      exact absurd hfewer (Nat.not_lt_zero _)
    | cons q m =>
      rcases h.oldest hwaiting hm with hdone | ⟨hack, -⟩
      · exact hdone
      · exact absurd (hack.symm.trans (hawaits q List.mem_cons_self)) (by decide)
  | cons q l ih =>
    intro s m h hwaiting hm hawaits
    rcases h.oldest hwaiting hm with hdone | ⟨-, s', r, h', hwaiting', hrest, hr, hback⟩
    · exact hdone
    · refine hback (ih s' (m ++ [r]) h' hwaiting' (hrest.trans (List.append_assoc ..)) fun z hz => ?_)
      rcases List.mem_append.1 hz with hz | hz
      · exact hawaits z hz
      · rw [List.mem_singleton.1 hz]
        exact hr

theorem exploitable (h : s.Behind kind) : s.Exploitable := by
  refine exploitable_of_sent (P := fun s => s.Behind kind) ?_ ?_ s h
  · intro s h old x rest hnext
    obtain ⟨pkid, ha, -⟩ := exists_pkid h.online hnext []
    exact ⟨pkid, ha, h.send hnext⟩
  · intro s h hempty
    exact exploitable_of_empty (s.link.tracker.waiting kind) s [] h
      (Outbox.next?_eq_none hempty).2 (List.append_nil _).symm nofun

end Behind

namespace InStep

/-- A packet in flight becomes stale when the outbox forgets its id and the tracker does not. -/
theorem stale (h : s.InStep) {e : ℕ × Parcel} (he : e ∈ s.outbox.inflight) (s' : System)
    (hclient : s'.link.client = s.link.client) (hclosing : s'.link.closing = s.link.closing)
    (htracker : s'.link.tracker = s.link.tracker) (hacked : s'.acked = s.acked)
    (hcalls : s'.calls = s.calls) (honline : s'.outbox.online = true)
    (hfree : e.1 ∉ s'.outbox.inflight.map (·.1)) : ∃ q, s'.Stale e.2.kind e.1 q := by
  obtain ⟨hawaits, -, q, hq, hparcel⟩ := h.tracker.carried e he
  have hlive : e.2 ∈ s.outbox.unsent ++ s.outbox.inflight.map (·.2) :=
    List.mem_append_right _ (List.mem_map_of_mem he)
  refine ⟨q, hclient.trans h.client, hclosing.trans h.closing, honline, htracker ▸ hq, hfree,
    hparcel ▸ hawaits, ?_, ?_⟩
  · rw [hparcel, hacked]
    exact h.tracker.unacked _ hlive
  · rw [hparcel, hcalls]
    exact h.tracker.numbers _ (List.mem_append_left _ hlive)

/-- A request that was on the wire and is neither kept nor acknowledged leaves a stale packet. -/
theorem exploitable_of_interrupted (h : s.InStep) {code : ErrorCode}
    (hd : s.Drops (.interrupted code)) : (s.step (.interrupted code)).1.Exploitable := by
  obtain ⟨honline, e, he, hkind⟩ := hd
  have hids := h.tracker.ids
  rw [Outbox.inflight, List.map_append] at hids
  obtain ⟨hunacked, -, hdisjoint⟩ := List.nodup_append.1 hids
  have hfree : e.1 ∉ s.outbox.interrupted.inflight.map (·.1) := by
    intro hmem
    obtain ⟨e', he', heq⟩ := List.mem_map.1 hmem
    rcases Outbox.mem_inflight_interrupted honline he' with hpending | ⟨hmem', hkind'⟩
    · exact hdisjoint _ (List.mem_map_of_mem he) _ (List.mem_map_of_mem hpending) heq.symm
    · obtain rfl := List.inj_on_of_nodup_map hunacked hmem' he heq
      exact hkind hkind'
  have hoffline : s.outbox.interrupted.online = false := by
    rw [Outbox.interrupted, if_pos honline]
  -- Nothing is sent without a network. One that keeps the session makes the outbox forget no more.
  obtain ⟨q, hstale⟩ := h.stale (List.mem_append_left _ he)
    ((s.step (.interrupted code)).1.step (.connAck true)).1 rfl rfl rfl rfl rfl rfl hfree
  exact .of_step (m := .connAck true) hoffline (fun hd => Bool.noConfusion hd.1) hstale.exploitable

/-- So does a publish that was kept and is dropped. -/
theorem stale_of_dropped (h : s.InStep) {pkid : ℕ} {x : Parcel}
    (hx : (some pkid, x) ∈ s.outbox.pending) :
    ∃ q, (s.step (.connAck false)).1.Stale x.kind pkid q := by
  have hids := h.tracker.ids
  rw [Outbox.inflight, List.map_append] at hids
  obtain ⟨-, -, hdisjoint⟩ := List.nodup_append.1 hids
  have hkept : (pkid, x) ∈ s.outbox.pending.filterMap fun e => e.1.map (·, e.2) :=
    List.mem_filterMap.2 ⟨(some pkid, x), hx, rfl⟩
  refine h.stale (List.mem_append_right _ hkept) (s.step (.connAck false)).1 rfl rfl rfl rfl rfl rfl
    fun hmem => ?_
  have hunacked : pkid ∈ s.outbox.unacked.map (·.1) := by
    simpa [System.step, Outbox.accepted, Outbox.inflight] using hmem
  exact hdisjoint _ hunacked _ (List.mem_map_of_mem hkept) rfl

/-- A request that was not on the wire yet and is dropped leaves the tracker one request ahead. -/
theorem behind_of_dropped (h : s.InStep) {x : Parcel} (hx : (none, x) ∈ s.outbox.pending) :
    (s.step (.connAck false)).1.Behind x.kind := by
  have hparcels := h.tracker.waiting_parcels x.kind
  have hmem : ∀ q ∈ s.link.tracker.waiting x.kind,
      q.parcel ∈ s.outbox.unsent ∧ q.parcel.kind = x.kind ∧ q.parcel.qos = q.qos := by
    intro q hq
    have hparcel : q.parcel ∈ s.outbox.unsent.filter fun y => y.kind = x.kind :=
      hparcels ▸ List.mem_map_of_mem hq
    obtain ⟨e, he, rfl⟩ := List.mem_map.1 hq
    obtain ⟨hunsent, hkind⟩ := List.mem_filter.1 hparcel
    exact ⟨hunsent, of_decide_eq_true hkind, (h.tracker.labels e (List.mem_filter.1 he).1).2⟩
  refine ⟨h.client, h.closing, rfl, rfl, ?_, fun q hq => (hmem q hq).2, fun q hq => ?_,
    fun q hq => ?_, fun y hy => ?_⟩
  · show (s.outbox.waiting.filter fun y => y.kind = x.kind).length <
      (s.link.tracker.waiting x.kind).length
    have hlength := congrArg List.length hparcels
    rw [List.length_map, Outbox.unsent, List.filter_append, List.length_append] at hlength
    have hdropped : x ∈ (s.outbox.pending.filterMap fun e =>
        if e.1.isNone then some e.2 else none).filter fun y => y.kind = x.kind :=
      List.mem_filter.2 ⟨List.mem_filterMap.2 ⟨(none, x), hx, rfl⟩, decide_eq_true rfl⟩
    have hpos := List.length_pos_of_mem hdropped
    omega
  · exact h.tracker.unacked _ (List.mem_append_left _ (hmem q hq).1)
  · exact h.tracker.numbers _ (List.mem_append_left _ (List.mem_append_left _ (hmem q hq).1))
  · exact h.tracker.numbers _ (List.mem_append_right _ hy)

theorem exploitable_of_connAck (h : s.InStep) {sessionPresent : Bool}
    (hd : s.Drops (.connAck sessionPresent)) :
    (s.step (.connAck sessionPresent)).1.Exploitable := by
  obtain ⟨rfl, hpending⟩ := hd
  obtain ⟨⟨old, x⟩, hx⟩ := List.exists_mem_of_ne_nil _ hpending
  cases old with
  | some pkid =>
    obtain ⟨q, hstale⟩ := h.stale_of_dropped hx
    exact hstale.exploitable
  | none => exact (h.behind_of_dropped hx).exploitable

end InStep

/-! ## Runs -/

theorem inStep_after (moves : List Move) : ∀ s : System, s.InStep → s.Allowed moves →
    s.Keeps moves → (s.after moves).InStep ∧ s.Credits moves := by
  induction moves with
  | nil => exact fun s h _ _ => ⟨h, trivial⟩
  | cons m moves ih =>
    intro s h hallowed hkeeps
    obtain ⟨hnext, hright⟩ := h.step hallowed.1 hkeeps.1
    obtain ⟨hafter, hcredits⟩ := ih _ hnext hallowed.2 hkeeps.2
    exact ⟨hafter, hright, hcredits⟩

/-- Along every run in which the outbox forgets no request all credits are right. The first move
that makes it forget one is the first after which they need not stay so. -/
theorem credits_right_iff_kept (c : Connection Parcel) (hc : c.Idle) (moves : List Move)
    (hallowed : (start c).Allowed moves) (hkeeps : (start c).Keeps moves) (m : Move)
    (hm : ((start c).after moves).Allows m) :
    (start c).Credits moves ∧
    ((∀ later, (((start c).after moves).step m).1.Allowed later →
        (((start c).after moves).step m).1.Keeps later →
          ((start c).after moves).Credits (m :: later)) ↔
      ¬((start c).after moves).Drops m) := by
  obtain ⟨hstep, hcredits⟩ := inStep_after moves (start c) (inStep_start hc) hallowed hkeeps
  refine ⟨hcredits, fun hright hd => ?_, fun hk later hlater hkeeps => ?_⟩
  · have hexploitable : (((start c).after moves).step m).1.Exploitable := by
      cases m with
      | interrupted code => exact hstep.exploitable_of_interrupted hd
      | connAck sessionPresent => exact hstep.exploitable_of_connAck hd
      | submit | loop | send | ack => exact hd.elim
    obtain ⟨later, hlater, hkeeps, hwrong⟩ := hexploitable
    exact hwrong (hright later hlater hkeeps).2
  · obtain ⟨hnext, hright⟩ := hstep.step hm hk
    exact ⟨hright, (inStep_after later _ hnext hlater hkeeps).2⟩

/-- A publish that was accepted and is kept over a failure of the network. -/
theorem credits_right_iff_kept_publish :
    let c : Connection Parcel := .fresh ⟨"broker", none, .password "user" "word", none, false⟩
    let moves : List Move :=
      [.connAck false, makeRoom, request .publish, .interrupted .unexpectedHangup]
    c.Idle ∧ (start c).Allowed moves ∧ (start c).Keeps moves ∧
      ((start c).after moves).Allows (.connAck true) ∧
      ∀ later, (((start c).after moves).step (.connAck true)).1.Allowed later →
        (((start c).after moves).step (.connAck true)).1.Keeps later →
          ((start c).after moves).Credits (.connAck true :: later) := by
  intro c moves
  have hidle : c.Idle := ⟨rfl, rfl, rfl⟩
  have hallowed : (start c).Allowed moves := ⟨rfl, trivial, trivial, trivial, trivial⟩
  have hkeeps : (start c).Keeps moves := by
    refine ⟨fun hd => hd.2 rfl, not_false, not_false, ?_, trivial⟩
    rintro ⟨-, e, he, -⟩
    cases he
  have hm : ((start c).after moves).Allows (.connAck true) := rfl
  refine ⟨hidle, hallowed, hkeeps, hm, ?_⟩
  exact (credits_right_iff_kept c hidle moves hallowed hkeeps (.connAck true) hm).2.2
    fun hd => Bool.noConfusion hd.1

/-- A publish that was accepted and dropped by a reconnect is credited with the acknowledgement of
the next one. -/
theorem dropped_publish_credited :
    let c : Connection Parcel := .fresh ⟨"broker", none, .password "user" "word", none, false⟩
    let moves : List Move :=
      [.connAck false, makeRoom, request .publish, .interrupted .unexpectedHangup, .connAck false,
        request .publish, .send 1, .ack 1 []]
    c.Idle ∧ (start c).Allowed moves ∧ ¬(start c).Credits moves := by
  intro c moves
  refine ⟨⟨rfl, rfl, rfl⟩, ⟨rfl, trivial, trivial, trivial, rfl, trivial, ⟨rfl, nofun⟩,
    ⟨rfl, List.mem_cons_self⟩, trivial⟩, ?_⟩
  rintro ⟨-, -, -, -, -, -, -, hcredits, -⟩
  have hright := hcredits ⟨⟨0, .publish, .atLeastOnce⟩, .published 1 0⟩ List.mem_cons_self rfl
  exact absurd (hright.2 rfl) (by decide)

end System

end DeviceLink.Link
