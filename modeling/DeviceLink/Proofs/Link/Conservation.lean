import DeviceLink.Proofs.Link.Run
import Mathlib.Data.List.Forall2
/-!
# No request is lost

An accepted request is in one place at a time: it waits to be sent, or it was sent and waits
for its acknowledgement, or its callback was invoked, once. A step that abandons the requests
invokes the callbacks of all that are left.
-/

namespace DeviceLink.Link

open Mqtt

/-! ## One operation -/

theorem Tracker.perm_take {α : Type} (a b s : List α) (x : α) :
    (a ++ x :: b ++ s).Perm (a ++ b ++ s ++ [x]) := by
  have h : (a ++ x :: (b ++ s)).Perm (x :: (a ++ (b ++ s))) := List.perm_middle
  simpa only [List.append_assoc, List.cons_append] using
    h.trans (List.perm_append_singleton x _).symm

/-- An operation moves requests and neither loses nor doubles one. -/
theorem Tracker.Effect.conserves {κ : Type} {t t' : Tracker κ} {op : Op κ}
    {ended : List (Outcome κ)} (h : Effect t op t' ended) (hn : (t.sent.map (·.1)).Nodup) :
    (t'.sent.map (·.1)).Nodup ∧
      (t.outstanding ++ (t.joins op).map (·.2)).Perm (t'.outstanding ++ ended.map (·.request)) := by
  cases h with
  | accepted kind qos completion =>
    refine ⟨hn, ?_⟩
    simp only [outstanding, joins, List.map_append, List.map_cons, List.map_nil, List.append_nil,
      List.append_assoc]
    exact List.perm_append_comm.append_left _
  | refused kind qos completion => exact ⟨hn, .refl _⟩
  | repeated kind pkid _ => exact ⟨hn, .refl _⟩
  | finished kind pkid a b r _ hq =>
    refine ⟨hn, ?_⟩
    simpa [outstanding, joins, hq] using
      perm_take (a.map (·.2)) (b.map (·.2)) (t.sent.map (·.2)) r
  | sent kind pkid a b r hnew hq =>
    refine ⟨?_, ?_⟩
    · simp only [List.map_append, List.map_cons, List.map_nil]
      refine List.nodup_append.2 ⟨hn, by simp, ?_⟩
      rintro x hx y hy rfl
      obtain ⟨e, he, rfl⟩ := List.mem_map.1 hx
      have hne := List.lookup_eq_none_iff.1 hnew e he
      rw [List.mem_singleton] at hy
      simp [hy] at hne
    · simpa [outstanding, joins, hq] using
        perm_take (a.map (·.2)) (b.map (·.2)) (t.sent.map (·.2)) r
  | stray kind pkid granted _ => exact ⟨hn, .refl _⟩
  | acknowledged kind pkid granted r hr =>
    refine ⟨hn.sublist (List.filter_sublist.map _), ?_⟩
    have hp := (perm_filter_ne hn hr).map (·.2)
    rw [List.map_cons] at hp
    simp only [outstanding, joins, List.map_nil, List.append_nil, List.map_cons, List.append_assoc]
    exact (hp.trans (List.perm_append_singleton r _).symm).append_left _
  | abandoned code =>
    refine ⟨List.nodup_nil, ?_⟩
    simp [outstanding, joins, Function.comp_def]

/-- What joins is added to what is outstanding, and what ends goes from there to what has ended. -/
theorem Tracker.perm_settle {α : Type} {accepted before joined later past ended : List α}
    (h : accepted.Perm (before ++ past)) (hmove : (before ++ joined).Perm (later ++ ended)) :
    (accepted ++ joined).Perm (later ++ (past ++ ended)) :=
  calc accepted ++ joined
    _ |>.Perm ((before ++ past) ++ joined) := h.append_right _
    _ |>.Perm ((before ++ joined) ++ past) := by
      simp only [List.append_assoc]
      exact List.perm_append_comm.append_left _
    _ |>.Perm ((later ++ ended) ++ past) := hmove.append_right _
    _ |>.Perm (later ++ (past ++ ended)) := by
      simp only [List.append_assoc]
      exact List.perm_append_comm.append_left _

/-! ## Runs -/

/-- The signal that tells the end of a request. -/
def Outcome.signal (o : Outcome (Completion × ℕ)) : Signal :=
  o.request.completion.1.signal o.request.id o.granted o.code

namespace Run

/-- The queued requests with a callback. -/
def queuedWith (r : Run) (n : ℕ) : List Call :=
  (r.link.tracker.queued.map (·.2)).filter fun q => q.number = n

/-- The sent requests with a callback. -/
def sentWith (r : Run) (n : ℕ) : List Call :=
  (r.link.tracker.sent.map (·.2)).filter fun q => q.number = n

/-- The requests that have ended. -/
def ended (r : Run) : List Call := (r.entries.flatMap Entry.outcomes).map (·.request)

/-- How the requests with a callback ended, and in which steps. -/
def endedWith (r : Run) (n : ℕ) : List (ℕ × Outcome (Completion × ℕ)) :=
  r.entries.flatMap fun e => (e.outcomes.filter fun o => o.request.number = n).map (e.number, ·)

/-- Accepted requests are outstanding or have ended, each as often as it was accepted. -/
structure Conserved (r : Run) : Prop where
  packets : (r.link.tracker.sent.map (·.1)).Nodup
  requests : (r.accepted.map (·.2)).Perm (r.link.tracker.outstanding ++ r.ended)

theorem next_ended (r : Run) (st : Step) :
    (r.next st).ended = r.ended ++ (r.entry st).outcomes.map (·.request) := by
  simp [ended, next_entries]

theorem conserved_next {r : Run} (h : r.Conserved) (st : Step) : (r.next st).Conserved := by
  rcases r.next_cases st with ⟨-, hacc, hout, htracker⟩ | ⟨op, hop, heffect⟩
  · refine ⟨htracker ▸ h.packets, ?_⟩
    rw [next_accepted, next_ended, hacc, hout, htracker]
    simpa using h.requests
  · obtain ⟨hpackets, hperm⟩ := heffect.conserves h.packets
    refine ⟨hpackets, ?_⟩
    rw [next_accepted, next_ended, accepted?_entry r st hop, List.map_append]
    exact Tracker.perm_settle h.requests hperm

end Run

theorem conserved_run {c : Connection ℕ} (hidle : c.tracker.outstanding = []) (steps : List Step) :
    (c.run steps).Conserved := by
  induction steps using List.reverseRecOn with
  | nil =>
    obtain ⟨-, hsent⟩ := Tracker.outstanding_eq_nil.1 hidle
    exact ⟨by simp [Connection.run, hsent], by simp [Connection.run, Run.accepted, Run.ended, hidle]⟩
  | append_singleton steps st ih =>
    rw [run_snoc]
    exact Run.conserved_next ih st

/-! ## One callback

No two requests share a callback, so all that is said of a callback is said of one request. -/

theorem filter_accepted?_toList (e : Entry) (n : ℕ) :
    e.accepted?.toList.filter (fun a => a.2.number = n) =
      if e.number = n then e.accepted?.toList else [] := by
  cases h : e.accepted? with
  | none => simp
  | some a =>
    have hnumber : a.2.number = e.number := Run.number_of_accepted h
    by_cases hn : e.number = n <;> simp [hnumber, hn]

theorem filter_accepted_eq_nil {l : List Entry} {n : ℕ} (h : ∀ e ∈ l, e.number ≠ n) :
    (l.filterMap Entry.accepted?).filter (fun a => a.2.number = n) = [] := by
  rw [List.filter_eq_nil_iff]
  intro a ha
  obtain ⟨e, he, hacc⟩ := List.mem_filterMap.1 ha
  have hnumber : a.2.number = e.number := Run.number_of_accepted hacc
  simpa [hnumber] using h e he

/-- The request with the callback of a step is the one that the step accepted. -/
theorem filter_accepted {l : List Entry} (hn : (l.map (·.number)).Nodup) {e : Entry} (he : e ∈ l) :
    (l.filterMap Entry.accepted?).filter (fun a => a.2.number = e.number) =
      e.accepted?.toList := by
  induction l with
  | nil => cases he
  | cons x l ih =>
    rw [List.map_cons, List.nodup_cons] at hn
    have hcons : (x :: l).filterMap Entry.accepted? =
        x.accepted?.toList ++ l.filterMap Entry.accepted? := by
      rw [List.filterMap_cons]
      cases x.accepted? <;> rfl
    rw [hcons, List.filter_append, filter_accepted?_toList]
    rcases List.mem_cons.1 he with rfl | he
    · rw [if_pos rfl, filter_accepted_eq_nil, List.append_nil]
      intro y hy heq
      exact hn.1 (heq ▸ List.mem_map_of_mem hy)
    · have hne : x.number ≠ e.number := fun heq => hn.1 (heq ▸ List.mem_map_of_mem he)
      rw [if_neg hne, List.nil_append, ih hn.2 he]

namespace Run

variable {r : Run}

theorem filter_ended (r : Run) (n : ℕ) :
    r.ended.filter (fun q => q.number = n) = (r.endedWith n).map (·.2.request) := by
  simp only [ended, endedWith, List.filter_map, List.filter_flatMap, List.map_flatMap, List.map_map]
  rfl

/-- The accepted request with a callback is in one of the three places. -/
theorem Conserved.perm_with (h : r.Conserved) (n : ℕ) :
    ((r.accepted.filter fun a => a.2.number = n).map (·.2)).Perm
      (r.queuedWith n ++ r.sentWith n ++ (r.endedWith n).map (·.2.request)) := by
  have hperm := h.requests.filter fun q => q.number = n
  rw [List.filter_append, Tracker.outstanding, List.filter_append, filter_ended,
    List.filter_map] at hperm
  exact hperm

end Run

/-- What a callback was told is how its requests ended. -/
theorem told_run (c : Connection ℕ) (steps : List Step) (n : ℕ) :
    (c.run steps).told n = ((c.run steps).endedWith n).map fun x => (x.1, x.2.signal) := by
  simp only [Run.told, Run.endedWith, List.map_flatMap, List.map_map]
  refine List.flatMap_congr fun e he => ?_
  obtain ⟨before, st, rfl⟩ := mem_entries_run he
  rw [Run.told_entry, List.map_map]
  rfl

theorem nodup_numbers_run (c : Connection ℕ) (steps : List Step) :
    ((c.run steps).entries.map (·.number)).Nodup := by
  rw [numbers_run]
  exact List.nodup_range

/-- Where an accepted request is: in the queue, or sent, or its callback was told, once, that it
ended, under the id of the request. -/
inductive Place (r : Run) (q : Call) : Prop
  | queued (hqueued : r.queuedWith q.number = [q]) (hsent : r.sentWith q.number = [])
    (htold : r.told q.number = [])
  | sent (hqueued : r.queuedWith q.number = []) (hsent : r.sentWith q.number = [q])
    (htold : r.told q.number = [])
  | ended (time : ℕ) (granted : Qos) (code : Int) (signal : Signal)
    (hqueued : r.queuedWith q.number = []) (hsent : r.sentWith q.number = [])
    (htold : r.told q.number = [(time, signal)])
    (htells : q.completion.1.Tells q.id granted code signal)

section Idle

variable {c : Connection ℕ} (hidle : c.tracker.outstanding = []) (steps : List Step)
include hidle

theorem place_of_accepted {e : Entry} (he : e ∈ (c.run steps).entries) {kind : Kind} {q : Call}
    (hq : e.accepted? = some (kind, q)) : Place (c.run steps) q := by
  have hnumber : q.number = e.number := Run.number_of_accepted hq
  have hperm := (conserved_run hidle steps).perm_with q.number
  rw [hnumber, Run.accepted, filter_accepted (nodup_numbers_run c steps) he, hq] at hperm
  have hone := List.perm_singleton.1 hperm.symm
  rw [← hnumber] at hone
  have htold := told_run c steps q.number
  -- Three lists whose entries together are one request: two are empty.
  rcases List.append_eq_singleton_iff.1 hone with ⟨hleft, hright⟩ | ⟨hleft, hright⟩
  · obtain ⟨hqueued, hsent⟩ := List.append_eq_nil_iff.1 hleft
    obtain ⟨⟨time, o⟩, hended, rfl⟩ := List.map_eq_singleton_iff.1 hright
    rw [hended] at htold
    exact .ended time o.granted o.code _ hqueued hsent htold (Completion.tells_signal ..)
  · rw [List.map_eq_nil_iff.1 hright] at htold
    rcases List.append_eq_singleton_iff.1 hleft with ⟨hqueued, hsent⟩ | ⟨hqueued, hsent⟩
    · exact .sent hqueued hsent htold
    · exact .queued hqueued hsent htold

theorem nowhere_of_refused {e : Entry} (he : e ∈ (c.run steps).entries) (hq : e.accepted? = none) :
    (c.run steps).queuedWith e.number = [] ∧ (c.run steps).sentWith e.number = [] ∧
      (c.run steps).told e.number = [] := by
  have hperm := (conserved_run hidle steps).perm_with e.number
  rw [Run.accepted, filter_accepted (nodup_numbers_run c steps) he, hq] at hperm
  obtain ⟨hleft, hended⟩ := List.append_eq_nil_iff.1 (List.nil_perm.1 hperm)
  obtain ⟨hqueued, hsent⟩ := List.append_eq_nil_iff.1 hleft
  refine ⟨hqueued, hsent, ?_⟩
  rw [told_run, List.map_eq_nil_iff.1 hended, List.map_nil]

end Idle

/-- A step that abandons the requests leaves none, and tells the callbacks of all of them. -/
theorem abandoned_next (r : Run) {st : Step} {code : ErrorCode} (h : st.abandons? = some code) :
    (r.next st).link.tracker.queued = [] ∧ (r.next st).link.tracker.sent = [] ∧
      List.Forall₂ (fun (q : Call) d => d.receiver = q.number ∧
          q.completion.1.Tells q.id .failure code.code d.signal)
        r.link.tracker.outstanding (endings (r.entry st).signals) := by
  have hop : r.link.op? r.entries.length st = some (.abandon code) := by
    cases st with
    | abandon _ | closed | connectFailed _ => cases h; rfl
    | _ => cases h
  have htracker : (r.next st).link.tracker = { r.link.tracker with queued := [], sent := [] } := by
    have h := r.link.tracker_step r.entries.length st
    rw [hop] at h
    exact h
  have houtcomes : (r.entry st).outcomes =
      r.link.tracker.outstanding.map fun q => ⟨q, .failure, code.code⟩ := by
    show r.link.outcomes r.entries.length st = _
    rw [Connection.outcomes, hop]
    rfl
  refine ⟨by rw [htracker], by rw [htracker], ?_⟩
  rw [Run.endings_entry, houtcomes, List.map_map, List.forall₂_map_right_iff, List.forall₂_same]
  exact fun q _ => ⟨rfl, Completion.tells_signal ..⟩

/-- A submission is answered by an id, one of 65535, just when the event loop takes its
command. -/
theorem answer_of_submit (r : Run) (kind : Kind) (qos : Qos) (completion : Completion)
    (command : Command) :
    (r.entry (.submit kind qos completion command)).answer =
      if r.link.client ∧ ¬r.link.closing ∧ r.link.takes command then
        some (nextId r.link.tracker.lastId)
      else none := by
  have hanswer := r.link.answer_step r.entries.length (.submit kind qos completion command)
  rw [show (r.entry (.submit kind qos completion command)).answer = _ from hanswer,
    Connection.op?]
  by_cases hopen : r.link.client ∧ ¬r.link.closing
  · rw [if_pos hopen]
    by_cases htakes : r.link.takes command = true
    · rw [if_pos ⟨hopen.1, hopen.2, htakes⟩, htakes]
    · have hfalse : r.link.takes command = false := by simpa using htakes
      rw [if_neg fun h => htakes h.2.2, hfalse]
  · rw [if_neg hopen, if_neg fun h => hopen ⟨h.1, h.2.1⟩]

/-- Along every run, a request that was answered by an id is in one place, and one that was
refused is nowhere. A step that abandons the requests fails all that are left, each of them told
under its id. -/
theorem requests_conserved (c : Connection ℕ) (hidle : c.tracker.outstanding = [])
    (steps : List Step) :
    (∀ e ∈ (c.run steps).entries, ∀ kind qos completion command,
      e.step = .submit kind qos completion command →
        (e.answer.isSome ↔ e.before.client ∧ ¬e.before.closing ∧ e.before.takes command) ∧
        match e.answer with
        | some id => 0 < id ∧ id < 65536 ∧ Place (c.run steps) ⟨id, qos, (completion, e.number)⟩
        | none => (c.run steps).queuedWith e.number = [] ∧ (c.run steps).sentWith e.number = [] ∧
            (c.run steps).told e.number = []) ∧
    ∀ st code, st.abandons? = some code → code.code ≠ 0 ∧
      ((c.run steps).next st).link.tracker.queued = [] ∧
      ((c.run steps).next st).link.tracker.sent = [] ∧
      List.Forall₂ (fun (q : Call) d => d.receiver = q.number ∧
          q.completion.1.Tells q.id .failure code.code d.signal)
        (c.run steps).link.tracker.outstanding (endings ((c.run steps).entry st).signals) := by
  refine ⟨?_, fun st code h => ⟨errorCode_ne_zero code, abandoned_next _ h⟩⟩
  intro e he kind qos completion command hstep
  obtain ⟨before, st, rfl⟩ := mem_entries_run he
  obtain rfl : st = .submit kind qos completion command := hstep
  have hanswer := answer_of_submit (c.run before) kind qos completion command
  have haccepted := Run.accepted?_of_submit (c.run before) _
    (rfl : Step.submit kind qos completion command = _)
  constructor
  · rw [hanswer]
    show _ ↔ (c.run before).link.client ∧ ¬(c.run before).link.closing ∧
      (c.run before).link.takes command
    split
    · exact iff_of_true rfl ‹_›
    · exact iff_of_false nofun ‹_›
  · split
    · rename_i id hid
      rw [hid] at haccepted hanswer
      refine ⟨?_, ?_, place_of_accepted hidle steps he haccepted⟩
      all_goals
        split at hanswer
        · obtain rfl := Option.some.inj hanswer
          unfold nextId
          omega
        · cases hanswer
    · rename_i hid
      rw [hid] at haccepted
      exact nowhere_of_refused hidle steps he haccepted

/-- A publish that was sent and acknowledged has ended: its callback was told so, once. -/
theorem requests_conserved_publish :
    let steps : List Step :=
      [.loop (some { options := ⟨"sensor", true, 30, 3000⟩ }),
        .submit .publish .atLeastOnce .publish (.publish "t" .atLeastOnce false []),
        .outgoing (.publish 7), .incoming (.pubAck 7)]
    let c : Connection ℕ := .fresh ⟨"broker", none, .password "user" "word", none, false⟩
    c.tracker.outstanding = [] ∧ Place (c.run steps) ⟨1, .atLeastOnce, (.publish, 1)⟩ ∧
      (c.run steps).told 1 = [(3, .published 1 0)] := by
  intro steps c
  refine ⟨rfl, ?_, by decide +kernel⟩
  have hentry : ((c.run (steps.take 1)).entry steps[1]) ∈ (c.run steps).entries :=
    .tail _ (.head _)
  exact ((requests_conserved c rfl steps).1 _ hentry _ _ _ _ rfl).2.2.2

end DeviceLink.Link
