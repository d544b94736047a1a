import DeviceLink.Simulated.Library
import Mathlib.Data.Finset.Card
import Mathlib.Data.Finset.Dedup
/-!
# The holders of native objects

What the library counts: the holders of every object, and the objects alive. Making, retaining
and releasing an object are summed up by what they do to these counts, so that nothing later looks
at the four shelves again.
-/

namespace DeviceLink.Simulated

variable {ρ : Type}

/-- The sorts of native objects. -/
inductive ObjectSort
  | connection
  | jobsClient
  | tunnelingClient
  | tunnel
  deriving DecidableEq

/-- A native object: its sort and its number on the shelf of its sort. -/
structure Object where
  sort : ObjectSort
  number : ℕ
  deriving DecidableEq

/-! ## Shelves -/

namespace Shelf

variable {α : Type}

/-- The numbers of holders of the objects on a shelf. -/
def holders (s : Shelf α) : List ℕ := s.map (·.holders)

theorem holders_modify (s : Shelf α) (i : ℕ) (f : Held α → Held α) (g : ℕ → ℕ)
    (h : ∀ x, (f x).holders = g x.holders) :
    holders (s.modify i f) = s.holders.modify i g := by
  induction s generalizing i with
  | nil => simp [holders]
  | cons x s ih =>
    cases i with
    | zero => simp [holders, h]
    | succ i => simpa [holders] using ih i

@[simp] theorem holders_put (s : Shelf α) (i : ℕ) (a : α) : (s.put i a).holders = s.holders := by
  have h := holders_modify s i (fun h => { h with object := a }) id fun _ => rfl
  rwa [List.modify_id] at h

@[simp] theorem holders_retain (s : Shelf α) (i : ℕ) :
    (s.retain i).holders = s.holders.modify i (· + 1) :=
  holders_modify s i _ _ fun _ => rfl

@[simp] theorem holders_release (s : Shelf α) (i : ℕ) :
    (s.release i).holders = s.holders.modify i (· - 1) :=
  holders_modify s i _ _ fun _ => rfl

@[simp] theorem holders_append (s : Shelf α) (x : Held α) :
    holders (s ++ [x]) = s.holders ++ [x.holders] :=
  List.map_append

theorem length_holders (s : Shelf α) : s.holders.length = s.length := List.length_map _

theorem getD_holders (s : Shelf α) (i : ℕ) :
    s.holders.getD i 0 = (s[i]?.map (·.holders)).getD 0 := by
  rw [List.getD_eq_getElem?_getD, holders, List.getElem?_map]

theorem toNat_isLast (s : Shelf α) (i : ℕ) :
    (s.isLast i).toNat = if s.holders.getD i 0 = 1 then 1 else 0 := by
  rw [getD_holders, isLast]
  cases s[i]? with
  | none => rfl
  | some x => by_cases h : x.holders = 1 <;> simp [h]

/-- An object can be reached as long as it has a holder. -/
theorem getElem?_of_get? {s : Shelf α} {i : ℕ} {a : α} (h : s.get? i = some a) :
    ∃ holders, 0 < holders ∧ s[i]? = some ⟨a, holders⟩ := by
  unfold get? at h
  split at h
  · next held heq =>
    split at h
    · cases h
    · next hholders =>
      cases h
      exact ⟨held.holders, Nat.pos_of_ne_zero hholders, heq⟩
  · cases h

theorem holders_of_get? {s : Shelf α} {i : ℕ} {a : α} (h : s.get? i = some a) :
    0 < s.holders.getD i 0 := by
  obtain ⟨holders, hpos, heq⟩ := getElem?_of_get? h
  rw [getD_holders, heq]
  exact hpos

end Shelf

/-! ## The counts of the library -/

namespace Library

/-- The numbers of holders of the objects of a sort. -/
def shelf (l : Library ρ) : ObjectSort → List ℕ
  | .connection => l.connections.holders
  | .jobsClient => l.jobsClients.holders
  | .tunnelingClient => l.tunnelingClients.holders
  | .tunnel => l.tunnels.holders

/-- The number of holders of an object; one that was never made has none. -/
def holders (l : Library ρ) (o : Object) : ℕ := (l.shelf o.sort).getD o.number 0

/-- Nothing changes about holders. -/
structure Kept (l l' : Library ρ) : Prop where
  shelf : l'.shelf = l.shelf
  live : l'.live = l.live

/-- One object more, with one holder. -/
structure Made (l l' : Library ρ) (k : ObjectSort) : Prop where
  shelf : l'.shelf = Function.update l.shelf k (l.shelf k ++ [1])
  live : l'.live = l.live + 1

/-- One holder more of an object. -/
structure Retained (l l' : Library ρ) (o : Object) : Prop where
  shelf : l'.shelf = Function.update l.shelf o.sort ((l.shelf o.sort).modify o.number (· + 1))
  live : l'.live = l.live

/-- One holder less of an object, which is gone with its last one. -/
structure Released (l l' : Library ρ) (o : Object) : Prop where
  shelf : l'.shelf = Function.update l.shelf o.sort ((l.shelf o.sort).modify o.number (· - 1))
  live : l'.live = l.live - if l.holders o = 1 then 1 else 0

theorem Kept.refl (l : Library ρ) : Kept l l := ⟨rfl, rfl⟩

theorem Kept.trans {l l' l'' : Library ρ} (h : Kept l l') (h' : Kept l' l'') : Kept l l'' :=
  ⟨h'.shelf.trans h.shelf, h'.live.trans h.live⟩

theorem Made.kept {l l' l'' : Library ρ} {k : ObjectSort} (h : Made l l' k) (h' : Kept l' l'') :
    Made l l'' k :=
  ⟨h'.shelf.trans h.shelf, h'.live.trans h.live⟩

/-! ## What the library does to them -/

theorem putConnection_kept (l : Library ρ) (i : ℕ) (c : Connection ρ) :
    Kept l (l.putConnection i c) := by
  refine ⟨funext fun k => ?_, rfl⟩
  cases k <;> simp [shelf, putConnection]

theorem putJobsClient_kept (l : Library ρ) (i : ℕ) (c : JobsClient ρ) :
    Kept l (l.putJobsClient i c) := by
  refine ⟨funext fun k => ?_, rfl⟩
  cases k <;> simp [shelf, putJobsClient]

theorem putTunnelingClient_kept (l : Library ρ) (i : ℕ) (c : TunnelingClient ρ) :
    Kept l (l.putTunnelingClient i c) := by
  refine ⟨funext fun k => ?_, rfl⟩
  cases k <;> simp [shelf, putTunnelingClient]

theorem putTunnel_kept (l : Library ρ) (i : ℕ) (t : Tunnel ρ) : Kept l (l.putTunnel i t) := by
  refine ⟨funext fun k => ?_, rfl⟩
  cases k <;> simp [shelf, putTunnel]

theorem retainConnection_retained (l : Library ρ) (i : ℕ) :
    Retained l (l.retainConnection i) ⟨.connection, i⟩ := by
  refine ⟨funext fun k => ?_, rfl⟩
  cases k <;> simp [shelf, retainConnection]

theorem releaseConnection_released (l : Library ρ) (i : ℕ) :
    Released l (l.releaseConnection i) ⟨.connection, i⟩ := by
  refine ⟨funext fun k => ?_, congrArg (l.live - ·) (l.connections.toNat_isLast i)⟩
  cases k <;> simp [shelf, releaseConnection, discount]

theorem releaseJobsClient_released (l : Library ρ) (i : ℕ) :
    Released l (l.releaseJobsClient i) ⟨.jobsClient, i⟩ := by
  refine ⟨funext fun k => ?_, congrArg (l.live - ·) (l.jobsClients.toNat_isLast i)⟩
  cases k <;> simp [shelf, releaseJobsClient, discount]

theorem releaseTunnelingClient_released (l : Library ρ) (i : ℕ) :
    Released l (l.releaseTunnelingClient i) ⟨.tunnelingClient, i⟩ := by
  refine ⟨funext fun k => ?_, congrArg (l.live - ·) (l.tunnelingClients.toNat_isLast i)⟩
  cases k <;> simp [shelf, releaseTunnelingClient, discount]

theorem releaseTunnel_released (l : Library ρ) (i : ℕ) :
    Released l (l.releaseTunnel i) ⟨.tunnel, i⟩ := by
  refine ⟨funext fun k => ?_, congrArg (l.live - ·) (l.tunnels.toNat_isLast i)⟩
  cases k <;> simp [shelf, releaseTunnel, discount]

theorem newConnection_made {l l' : Library ρ} {config : Mqtt.Config} {i : ℕ}
    (h : l.newConnection config = .ok (l', i)) :
    Made l l' .connection ∧ i = (l.shelf .connection).length := by
  unfold newConnection at h
  split at h
  · cases h
  · cases h
    refine ⟨⟨funext fun k => ?_, rfl⟩, (Shelf.length_holders _).symm⟩
    cases k <;> simp [shelf, count]

theorem newJobsClient_made {l l' : Library ρ} {i : ℕ} (h : l.newJobsClient = .ok (l', i)) :
    Made l l' .jobsClient ∧ i = (l.shelf .jobsClient).length := by
  unfold newJobsClient at h
  split at h
  · cases h
  · cases h
    refine ⟨⟨funext fun k => ?_, rfl⟩, (Shelf.length_holders _).symm⟩
    cases k <;> simp [shelf, count]

theorem newTunnelingClient_made {l l' : Library ρ} {i : ℕ}
    (h : l.newTunnelingClient = some (l', i)) :
    Made l l' .tunnelingClient ∧ i = (l.shelf .tunnelingClient).length := by
  unfold newTunnelingClient at h
  split at h
  · cases h
  · cases h
    refine ⟨⟨funext fun k => ?_, rfl⟩, (Shelf.length_holders _).symm⟩
    cases k <;> simp [shelf, count]

theorem newTunnel_made {l l' : Library ρ} {draft : DeviceLink.Tunnel.Draft ρ} {i : ℕ}
    (h : l.newTunnel draft = some (l', i)) :
    Made l l' .tunnel ∧ i = (l.shelf .tunnel).length := by
  unfold newTunnel at h
  split at h
  · cases h
  · cases h
    refine ⟨⟨funext fun k => ?_, rfl⟩, (Shelf.length_holders _).symm⟩
    cases k <;> simp [shelf, count]

/-! ## Accounts -/

/-- Whether a list names every object once for each of its holders, and so all that are alive. -/
structure Accounts (l : Library ρ) (held : List Object) : Prop where
  count : ∀ o, l.holders o = held.count o
  live : l.live = held.toFinset.card

variable {l l' : Library ρ} {held held' : List Object} {o : Object} {k : ObjectSort}

theorem Accounts.perm (h : Accounts l held) (hperm : held.Perm held') : Accounts l held' :=
  ⟨fun o => (h.count o).trans (hperm.count_eq o),
    h.live.trans (congrArg Finset.card (List.toFinset_eq_of_perm _ _ hperm))⟩

theorem Accounts.kept (h : Accounts l held) (hkept : Kept l l') : Accounts l' held :=
  ⟨fun o => by rw [holders, hkept.shelf]; exact h.count o, hkept.live.trans h.live⟩

theorem getD_snoc (counts : List ℕ) (n : ℕ) : (counts ++ [1]).getD n 0 =
    counts.getD n 0 + if counts.length = n then 1 else 0 := by
  simp only [List.getD_eq_getElem?_getD, List.getElem?_append]
  rcases Nat.lt_trichotomy n counts.length with hn | rfl | hn
  · simp [hn, hn.ne']
  · simp
  · have hout : n - counts.length ≠ 0 := by omega
    simp [Nat.not_lt_of_lt hn, hn.ne, hout]

theorem getD_modify (counts : List ℕ) (i n : ℕ) (f : ℕ → ℕ) : (counts.modify i f).getD n 0 =
    if i = n ∧ i < counts.length then f (counts.getD n 0) else counts.getD n 0 := by
  simp only [List.getD_eq_getElem?_getD, List.getElem?_modify]
  by_cases hn : i = n
  · subst hn
    by_cases hlt : i < counts.length <;> simp [hlt]
  · simp [hn]

theorem holders_update {counts : List ℕ} (hshelf : l'.shelf = Function.update l.shelf k counts)
    (o : Object) :
    l'.holders o = if k = o.sort then counts.getD o.number 0 else l.holders o := by
  rw [holders, holders, hshelf]
  by_cases hk : k = o.sort
  · rw [← hk, Function.update_self, if_pos rfl]
  · rw [Function.update_of_ne (Ne.symm hk), if_neg hk]

theorem holders_eq_zero (h : (l.shelf o.sort).length ≤ o.number) : l.holders o = 0 := by
  rw [holders, List.getD_eq_getElem?_getD, List.getElem?_eq_none h, Option.getD_none]

theorem Made.holders (h : Made l l' k) (x : Object) :
    l'.holders x = l.holders x + if (⟨k, (l.shelf k).length⟩ : Object) = x then 1 else 0 := by
  obtain ⟨j, n⟩ := x
  rw [holders_update h.shelf]
  by_cases hk : k = j
  · subst hk
    simp only [if_true, getD_snoc, Library.holders, Object.mk.injEq, true_and]
  · simp only [hk, if_false, Object.mk.injEq, false_and, Nat.add_zero]

theorem Retained.holders (h : Retained l l' o) (ho : 0 < l.holders o) (x : Object) :
    l'.holders x = l.holders x + if o = x then 1 else 0 := by
  have hlt : o.number < (l.shelf o.sort).length := by
    by_contra hle
    exact ho.ne' (holders_eq_zero (Nat.le_of_not_lt hle))
  obtain ⟨k, i⟩ := o
  obtain ⟨j, n⟩ := x
  rw [holders_update h.shelf]
  by_cases hk : k = j
  · subst hk
    simp only [if_true, getD_modify, hlt, and_true, Library.holders, Object.mk.injEq, true_and]
    split <;> rfl
  · simp only [hk, if_false, Object.mk.injEq, false_and, Nat.add_zero]

theorem Released.holders (h : Released l l' o) (x : Object) :
    l'.holders x = l.holders x - if o = x then 1 else 0 := by
  obtain ⟨k, i⟩ := o
  obtain ⟨j, n⟩ := x
  rw [holders_update h.shelf]
  by_cases hk : k = j
  · subst hk
    simp only [if_true, getD_modify, Library.holders, Object.mk.injEq, true_and]
    by_cases hi : i = n
    · subst hi
      by_cases hlt : i < (l.shelf k).length <;> simp [hlt]
    · simp [hi]
  · simp only [hk, if_false, Object.mk.injEq, false_and, Nat.sub_zero]

theorem count_cons_object (o x : Object) (held : List Object) :
    (o :: held).count x = held.count x + if o = x then 1 else 0 := by
  rw [List.count_cons]
  simp only [beq_iff_eq]

/-- An object that was just made is held once. -/
theorem Accounts.made (h : Accounts l held) (hmade : Made l l' k) :
    Accounts l' (⟨k, (l.shelf k).length⟩ :: held) := by
  have hfresh : (⟨k, (l.shelf k).length⟩ : Object) ∉ held := by
    rw [← List.count_eq_zero, ← h.count]
    exact holders_eq_zero (Nat.le_refl _)
  refine ⟨fun x => ?_, ?_⟩
  · rw [hmade.holders, h.count, count_cons_object]
  · rw [hmade.live, h.live, List.toFinset_cons,
      Finset.card_insert_of_notMem (by rwa [List.mem_toFinset])]

/-- An object that is retained is held once more. -/
theorem Accounts.retained (h : Accounts l held) (hretained : Retained l l' o) (ho : o ∈ held) :
    Accounts l' (o :: held) := by
  have hpos : 0 < l.holders o := by rwa [h.count, List.count_pos_iff]
  refine ⟨fun x => ?_, ?_⟩
  · rw [hretained.holders hpos, h.count, count_cons_object]
  · rw [hretained.live, h.live, List.toFinset_cons,
      Finset.insert_eq_of_mem (List.mem_toFinset.2 ho)]

/-- An object that is released is held once less. -/
theorem Accounts.released (h : Accounts l (o :: held)) (hreleased : Released l l' o) :
    Accounts l' held := by
  refine ⟨fun x => ?_, ?_⟩
  · rw [hreleased.holders, h.count, count_cons_object, Nat.add_sub_cancel]
  · rw [hreleased.live, h.live, h.count, List.count_cons_self, List.toFinset_cons]
    -- The last holder takes the object with it; where others hold it too, it stays alive.
    by_cases ho : o ∈ held
    · have hpos : 0 < held.count o := List.count_pos_iff.2 ho
      rw [if_neg (by omega), Finset.insert_eq_of_mem (List.mem_toFinset.2 ho), Nat.sub_zero]
    · rw [List.count_eq_zero.2 ho, if_pos rfl,
        Finset.card_insert_of_notMem (by rwa [List.mem_toFinset]), Nat.add_sub_cancel]

/-! ## Trades -/

/-- A library and what is held of it, before and after objects were made, retained and released. -/
inductive Trades : Library ρ → List Object → Library ρ → List Object → Prop
  | kept {l l' : Library ρ} {held held' : List Object} (h : Kept l l') (hperm : held.Perm held') :
    Trades l held l' held'
  | made {l l' : Library ρ} {k : ObjectSort} (h : Made l l' k) (held : List Object) :
    Trades l held l' (⟨k, (l.shelf k).length⟩ :: held)
  | retained {l l' : Library ρ} {o : Object} {held : List Object} (h : Retained l l' o)
    (ho : o ∈ held) : Trades l held l' (o :: held)
  | released {l l' : Library ρ} {o : Object} (h : Released l l' o) (held : List Object) :
    Trades l (o :: held) l' held
  | trans {l l' l'' : Library ρ} {held held' held'' : List Object} (h : Trades l held l' held')
    (h' : Trades l' held' l'' held'') : Trades l held l'' held''

theorem Trades.refl (l : Library ρ) (held : List Object) : Trades l held l held :=
  .kept (.refl l) (.refl held)

theorem Trades.perm (h : Trades l held l' held') {held'' : List Object}
    (hperm : held'.Perm held'') : Trades l held l' held'' :=
  h.trans (.kept (.refl l') hperm)

/-- Trades keep the accounts. -/
theorem Trades.accounts (h : Trades l held l' held') (haccounts : Accounts l held) :
    Accounts l' held' := by
  induction h with
  | kept hkept hperm => exact (haccounts.kept hkept).perm hperm
  | made hmade held => exact haccounts.made hmade
  | retained hretained ho => exact haccounts.retained hretained ho
  | released hreleased held => exact haccounts.released hreleased
  | trans _ _ ih ih' => exact ih' (ih haccounts)

/-- Whether an object was made and has no holder left. -/
def Dead (l : Library ρ) (o : Object) : Prop :=
  o.number < (l.shelf o.sort).length ∧ l.holders o = 0

theorem length_update {counts : List ℕ} (hshelf : l'.shelf = Function.update l.shelf k counts)
    (hlength : (l.shelf k).length ≤ counts.length) (j : ObjectSort) :
    (l.shelf j).length ≤ (l'.shelf j).length := by
  rw [hshelf]
  by_cases hj : j = k
  · rw [hj, Function.update_self]
    exact hlength
  · rw [Function.update_of_ne hj]

/-- Once an object has lost its last holder, no trade brings it back. -/
theorem Trades.dead (h : Trades l held l' held') (haccounts : Accounts l held) (hdead : Dead l o) :
    Dead l' o := by
  induction h with
  | kept hkept hperm =>
    rwa [Dead, Library.holders, hkept.shelf]
  | @made l l' k hmade held =>
    refine ⟨hdead.1.trans_le (length_update hmade.shelf (by simp) _), ?_⟩
    -- A new object has a number that no object had before.
    have hne : (⟨k, (l.shelf k).length⟩ : Object) ≠ o := fun heq => by
      subst heq
      exact Nat.lt_irrefl _ hdead.1
    rw [hmade.holders, hdead.2, if_neg hne]
  | @retained l l' p held hretained ho =>
    have hpos : 0 < l.holders p := by rwa [haccounts.count, List.count_pos_iff]
    refine ⟨hdead.1.trans_le (length_update hretained.shelf (by simp) _), ?_⟩
    -- Only what somebody holds is retained.
    have hne : p ≠ o := fun heq => by
      subst heq
      exact hpos.ne' hdead.2
    rw [hretained.holders hpos, hdead.2, if_neg hne]
  | released hreleased held =>
    refine ⟨hdead.1.trans_le (length_update hreleased.shelf (by simp) _), ?_⟩
    rw [hreleased.holders, hdead.2, Nat.zero_sub]
  | trans h _ ih ih' => exact ih' (h.accounts haccounts) (ih haccounts hdead)

end Library

end DeviceLink.Simulated
