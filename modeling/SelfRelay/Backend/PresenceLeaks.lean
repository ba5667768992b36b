import Mathlib.Data.List.Perm.Basic
import SelfRelay.Backend.Presence
import SelfRelay.Lib.Run

/-!
# Leaks of the presence manager

Between operations, the queues are those of the connections that are held, and the writers of all
others are cancelled or have ended, as long as `disconnect_account` is not called for an account
with a connection: it forgets the connections and neither removes their queues nor stops their
writers.

The invariant `PresenceOk` is about four predicates, and one lemma per operation says what it does
to each of them.
-/

open StepSystem

namespace SelfRelay.Backend.PresenceManager

/-! ## What the manager holds -/

section Predicates

variable (s : PresenceManager)

/-- A connection with this id is held, at this place. -/
def Held (id : Uuid) (key : Uuid × Uuid) : Prop := ∃ c ∈ s.connections, c.id = id ∧ c.key = key

def Queued (id : Uuid) : Prop := ∃ queue ∈ s.outbound, queue.connectionId = id

/-- A `prune_expired` is still to stop the queue. -/
def Pruning (id : Uuid) : Prop := ∃ ids, PendingOperation.pruning ids ∈ s.pending ∧ id ∈ ids

/-- A `close_all` is still to stop the queue. -/
def Closing (id : Uuid) : Prop := ∃ ids, PendingOperation.closing ids ∈ s.pending ∧ id ∈ ids

end Predicates

/-- The bookkeeping during operations. -/
structure PresenceOk (s : PresenceManager) : Prop where
  queued : ∀ id key, s.Held id key → s.Queued id
  held : ∀ id, s.Queued id → (∃ key, s.Held id key) ∨ s.Pruning id
  pruned : ∀ id key, s.Pruning id → ¬ s.Held id key
  /-- A writer that nobody stopped has its queue, or `close_all` will stop it. -/
  writers : ∀ id, s.tasks id = some .running ∨ s.tasks id = some .failing →
    s.Queued id ∨ s.Closing id
  known : ∀ id, s.Queued id ∨ s.Pruning id → (s.tasks id).isSome = true
  keys : ∀ id key key', s.Held id key → s.Held id key' → key = key'
  ids : ∀ id id' key, s.Held id key → s.Held id' key → id = id'

section Operations

variable {s : PresenceManager} {id id' : Uuid} {key : Uuid × Uuid} {c : ActiveConnection}

@[simp] theorem held_forget : (s.forget c).Held id key ↔ s.Held id key ∧ key ≠ c.key := by
  constructor
  · rintro ⟨c', hc', rfl, rfl⟩
    obtain ⟨hmem, hne⟩ := List.mem_filter.1 hc'
    exact ⟨⟨c', hmem, rfl, rfl⟩, of_decide_eq_true hne⟩
  · rintro ⟨⟨c', hmem, rfl, rfl⟩, hne⟩
    exact ⟨c', List.mem_filter.2 ⟨hmem, decide_eq_true hne⟩, rfl, rfl⟩

@[simp] theorem queued_forget : (s.forget c).Queued id ↔ s.Queued id := Iff.rfl
@[simp] theorem pruning_forget : (s.forget c).Pruning id ↔ s.Pruning id := Iff.rfl
@[simp] theorem closing_forget : (s.forget c).Closing id ↔ s.Closing id := Iff.rfl
@[simp] theorem tasks_forget : (s.forget c).tasks = s.tasks := rfl

@[simp] theorem queued_popOutbound : (s.popOutbound id').Queued id ↔ s.Queued id ∧ id ≠ id' := by
  constructor
  · rintro ⟨queue, hqueue, rfl⟩
    obtain ⟨hmem, hne⟩ := List.mem_filter.1 hqueue
    exact ⟨⟨queue, hmem, rfl⟩, of_decide_eq_true hne⟩
  · rintro ⟨⟨queue, hmem, rfl⟩, hne⟩
    exact ⟨queue, List.mem_filter.2 ⟨hmem, decide_eq_true hne⟩, rfl⟩

@[simp] theorem held_popOutbound : (s.popOutbound id').Held id key ↔ s.Held id key := Iff.rfl
@[simp] theorem pruning_popOutbound : (s.popOutbound id').Pruning id ↔ s.Pruning id := Iff.rfl
@[simp] theorem closing_popOutbound : (s.popOutbound id').Closing id ↔ s.Closing id := Iff.rfl
@[simp] theorem tasks_popOutbound : (s.popOutbound id').tasks = s.tasks := rfl

@[simp] theorem pruning_stop : (s.stop id').Pruning id ↔ s.Pruning id := by
  simp [Pruning, stop]

@[simp] theorem closing_stop : (s.stop id').Closing id ↔ s.Closing id := by
  simp [Closing, stop]

@[simp] theorem held_stop : (s.stop id').Held id key ↔ s.Held id key := Iff.rfl
@[simp] theorem queued_stop : (s.stop id').Queued id ↔ s.Queued id := Iff.rfl

theorem tasks_stop : (s.stop id').tasks id =
    if id = id' then (s.tasks id').map WriterTask.cancel else s.tasks id :=
  Function.update_apply ..

theorem popAndStop_eq (h : s.Queued id) : s.popAndStop id = (s.popOutbound id).stop id := by
  obtain ⟨queue, hqueue, rfl⟩ := h
  exact if_pos (List.any_eq_true.2 ⟨queue, hqueue, decide_eq_true rfl⟩)

theorem popAndStop_eq_self (h : ¬ s.Queued id) : s.popAndStop id = s := by
  refine if_neg fun hany => h ?_
  obtain ⟨queue, hqueue, hid⟩ := List.any_eq_true.1 hany
  exact ⟨queue, hqueue, of_decide_eq_true hid⟩

@[simp] theorem held_hold : (s.hold c).Held id key ↔
    id = c.id ∧ key = c.key ∨ s.Held id key ∧ key ≠ c.key := by
  simp only [Held, hold, Table.mem_put]
  constructor
  · rintro ⟨c', rfl | ⟨hmem, hne⟩, rfl, rfl⟩
    · exact .inl ⟨rfl, rfl⟩
    · exact .inr ⟨⟨c', hmem, rfl, rfl⟩, hne⟩
  · rintro (⟨rfl, rfl⟩ | ⟨⟨c', hmem, rfl, rfl⟩, hne⟩)
    · exact ⟨c, .inl rfl, rfl, rfl⟩
    · exact ⟨c', .inr ⟨hmem, hne⟩, rfl, rfl⟩

@[simp] theorem queued_hold : (s.hold c).Queued id ↔ id = c.id ∨ s.Queued id := by
  simp only [Queued, hold, Table.mem_put]
  constructor
  · rintro ⟨queue, rfl | ⟨hmem, -⟩, rfl⟩
    · exact .inl rfl
    · exact .inr ⟨queue, hmem, rfl⟩
  · rintro (rfl | ⟨queue, hmem, rfl⟩)
    · exact ⟨_, .inl rfl, rfl⟩
    · by_cases heq : queue.connectionId = c.id
      · exact ⟨_, .inl rfl, heq.symm⟩
      · exact ⟨queue, .inr ⟨hmem, heq⟩, rfl⟩

@[simp] theorem pruning_hold : (s.hold c).Pruning id ↔ s.Pruning id := Iff.rfl
@[simp] theorem closing_hold : (s.hold c).Closing id ↔ s.Closing id := Iff.rfl

theorem tasks_hold : (s.hold c).tasks id = if id = c.id then some .running else s.tasks id :=
  Function.update_apply ..

theorem held_of_current {account device : Uuid} (h : s.current account device = some c) :
    s.Held c.id c.key ∧ c.key = (account, device) := by
  obtain ⟨hmem, hkey⟩ := Table.get_eq_some h
  exact ⟨⟨c, hmem, rfl, rfl⟩, hkey⟩

theorem held_of_isCurrent (h : s.isCurrent c = true) : s.Held c.id c.key := by
  rw [isCurrent] at h
  cases hcurrent : s.current c.accountId c.deviceId with
  | none =>
    rw [hcurrent] at h
    cases h
  | some c' =>
    rw [hcurrent] at h
    obtain ⟨hheld, hkey⟩ := held_of_current hcurrent
    have hid : c'.id = c.id := of_decide_eq_true h
    rw [hkey, hid] at hheld
    exact hheld

end Operations

/-! ## Changes that keep the bookkeeping -/

section Changes

variable {s s' : PresenceManager} {c : ActiveConnection}

/-- Places and ids determine each other. -/
theorem PresenceOk.key_iff (h : PresenceOk s) {id id' : Uuid} {key key' : Uuid × Uuid}
    (hid : s.Held id key) (hid' : s.Held id' key') : key' = key ↔ id' = id := by
  constructor
  · rintro rfl
    exact h.ids _ _ _ hid' hid
  · rintro rfl
    exact h.keys _ _ _ hid' hid

/-- What is left when the connection and the queue of one id are dropped, and its
writer is not at work. -/
theorem PresenceOk.dropped (h : PresenceOk s) (x : Uuid)
    (hheld : ∀ id key, s'.Held id key ↔ s.Held id key ∧ id ≠ x)
    (hqueued : ∀ id, s'.Queued id ↔ s.Queued id ∧ id ≠ x)
    (hpruning : ∀ id, s'.Pruning id → s.Pruning id)
    (hpruning' : ∀ id, id ≠ x → s.Pruning id → s'.Pruning id)
    (hclosing : ∀ id, id ≠ x → s.Closing id → s'.Closing id)
    (htasks : ∀ id, id ≠ x → s'.tasks id = s.tasks id)
    (htask : s'.tasks x = some .running ∨ s'.tasks x = some .failing → s'.Closing x)
    (hknown : (s.tasks x).isSome = true → (s'.tasks x).isSome = true) : PresenceOk s' := by
  constructor
  · intro id key hid
    obtain ⟨hid, hne⟩ := (hheld id key).1 hid
    exact (hqueued id).2 ⟨h.queued id key hid, hne⟩
  · intro id hid
    obtain ⟨hid, hne⟩ := (hqueued id).1 hid
    obtain ⟨key, hkey⟩ | hid := h.held id hid
    · exact .inl ⟨key, (hheld id key).2 ⟨hkey, hne⟩⟩
    · exact .inr (hpruning' id hne hid)
  · intro id key hid hkey
    exact h.pruned id key (hpruning id hid) ((hheld id key).1 hkey).1
  · intro id hid
    by_cases hne : id = x
    · subst hne
      exact .inr (htask hid)
    · rw [htasks id hne] at hid
      obtain hid | hid := h.writers id hid
      · exact .inl ((hqueued id).2 ⟨hid, hne⟩)
      · exact .inr (hclosing id hne hid)
  · intro id hid
    have hsome := h.known id (hid.imp (fun hid => ((hqueued id).1 hid).1) (hpruning id))
    by_cases hne : id = x
    · subst hne
      exact hknown hsome
    · rwa [htasks id hne]
  · intro id key key' hkey hkey'
    exact h.keys id key key' ((hheld id key).1 hkey).1 ((hheld id key').1 hkey').1
  · intro id id' key hid hid'
    exact h.ids id id' key ((hheld id key).1 hid).1 ((hheld id' key).1 hid').1

/-- Neither connections nor queues change, and no writer gets to work. -/
theorem PresenceOk.kept (h : PresenceOk s) (hheld : ∀ id key, s'.Held id key ↔ s.Held id key)
    (hqueued : ∀ id, s'.Queued id ↔ s.Queued id) (hpruning : ∀ id, s'.Pruning id ↔ s.Pruning id)
    (hclosing : ∀ id, s'.tasks id = some .running ∨ s'.tasks id = some .failing →
      s.Closing id → s'.Closing id)
    (htasks : ∀ id, s'.tasks id = some .running ∨ s'.tasks id = some .failing →
      s.tasks id = some .running ∨ s.tasks id = some .failing)
    (hknown : ∀ id, (s.tasks id).isSome = true → (s'.tasks id).isSome = true) : PresenceOk s' := by
  constructor
  · intro id key hid
    exact (hqueued id).2 (h.queued id key ((hheld id key).1 hid))
  · intro id hid
    refine (h.held id ((hqueued id).1 hid)).imp ?_ (hpruning id).2
    rintro ⟨key, hkey⟩
    exact ⟨key, (hheld id key).2 hkey⟩
  · intro id key hid hkey
    exact h.pruned id key ((hpruning id).1 hid) ((hheld id key).1 hkey)
  · intro id hid
    exact (h.writers id (htasks id hid)).imp (hqueued id).2 (hclosing id hid)
  · intro id hid
    exact hknown id (h.known id (hid.imp (hqueued id).1 (hpruning id).1))
  · intro id key key' hkey hkey'
    exact h.keys id key key' ((hheld id key).1 hkey) ((hheld id key').1 hkey')
  · intro id id' key hid hid'
    exact h.ids id id' key ((hheld id key).1 hid) ((hheld id' key).1 hid')

theorem cancel_not_working (task : Option WriterTask) :
    ¬ (task.map WriterTask.cancel = some .running ∨
      task.map WriterTask.cancel = some .failing) := by
  rcases task with _ | _ | _ | _ | _ | _ <;> decide

/-- A connection is forgotten together with its queue, and its writer is stopped. -/
theorem PresenceOk.removed (h : PresenceOk s) (hheld : s.Held c.id c.key) :
    PresenceOk ((s.forget c).popAndStop c.id) := by
  rw [popAndStop_eq (queued_forget.2 (h.queued _ _ hheld))]
  refine h.dropped c.id ?_ ?_ ?_ ?_ ?_ ?_ ?_ ?_
  · intro id key
    simp only [held_stop, held_popOutbound, held_forget]
    exact and_congr_right fun hid => not_congr (h.key_iff hheld hid)
  · simp
  · simp
  · simp
  · simp
  · intro id hne
    rw [tasks_stop, if_neg hne, tasks_popOutbound, tasks_forget]
  · rw [tasks_stop, if_pos rfl]
    exact fun htask => (cancel_not_working _ htask).elim
  · rw [tasks_stop, if_pos rfl, Option.isSome_map, tasks_popOutbound, tasks_forget]
    exact id

/-- A new connection, at a place where none is held. -/
theorem PresenceOk.hold (h : PresenceOk s) (hnew : s.tasks c.id = none)
    (hfree : ∀ id, ¬ s.Held id c.key) : PresenceOk (s.hold c) := by
  have hunknown : ¬ (s.Queued c.id ∨ s.Pruning c.id) := by
    intro hid
    have := h.known c.id hid
    rw [hnew] at this
    cases this
  have hnot : ∀ key, ¬ s.Held c.id key := fun key hid => hunknown (.inl (h.queued _ _ hid))
  have hheld : ∀ id key, (s.hold c).Held id key ↔ id = c.id ∧ key = c.key ∨ s.Held id key := by
    intro id key
    rw [held_hold]
    refine or_congr_right ⟨And.left, fun hid => ⟨hid, ?_⟩⟩
    rintro rfl
    exact hfree id hid
  constructor
  · intro id key hid
    rw [queued_hold]
    exact ((hheld id key).1 hid).imp And.left (h.queued id key)
  · intro id hid
    obtain rfl | hid := queued_hold.1 hid
    · exact .inl ⟨c.key, (hheld _ _).2 (.inl ⟨rfl, rfl⟩)⟩
    · refine (h.held id hid).imp ?_ pruning_hold.2
      rintro ⟨key, hkey⟩
      exact ⟨key, (hheld id key).2 (.inr hkey)⟩
  · intro id key hid hkey
    obtain ⟨rfl, -⟩ | hkey := (hheld id key).1 hkey
    · exact hunknown (.inr hid)
    · exact h.pruned id key hid hkey
  · intro id hid
    rw [tasks_hold] at hid
    rw [queued_hold, closing_hold]
    by_cases heq : id = c.id
    · exact .inl (.inl heq)
    · rw [if_neg heq] at hid
      exact (h.writers id hid).imp .inr (fun hclosing => hclosing)
  · intro id hid
    rw [tasks_hold]
    split_ifs with heq
    · rfl
    · rw [queued_hold, pruning_hold, or_assoc] at hid
      exact h.known id (hid.resolve_left heq)
  · intro id key key' hkey hkey'
    obtain ⟨rfl, rfl⟩ | hkey := (hheld id key).1 hkey
    · obtain ⟨-, rfl⟩ | hkey' := (hheld _ key').1 hkey'
      · rfl
      · exact (hnot key' hkey').elim
    · obtain ⟨rfl, rfl⟩ | hkey' := (hheld id key').1 hkey'
      · exact (hnot key hkey).elim
      · exact h.keys id key key' hkey hkey'
  · intro id id' key hid hid'
    obtain ⟨rfl, rfl⟩ | hid := (hheld id key).1 hid
    · obtain ⟨rfl, -⟩ | hid' := (hheld id' _).1 hid'
      · rfl
      · exact (hfree id' hid').elim
    · obtain ⟨rfl, rfl⟩ | hid' := (hheld id' key).1 hid'
      · exact (hfree id hid).elim
      · exact h.ids id id' key hid hid'

theorem PresenceOk.register (h : PresenceOk s) (hnew : s.tasks c.id = none) :
    PresenceOk (s.register c) := by
  unfold PresenceManager.register
  split
  case h_1 hcurrent =>
    split_ifs
    · refine h.hold hnew ?_
      rintro id ⟨c', hc', -, hkey⟩
      exact Table.get_eq_none.1 hcurrent (List.mem_map.2 ⟨c', hc', hkey⟩)
    · exact h
  case h_2 previous hcurrent =>
    obtain ⟨hheld, hkey⟩ := held_of_current hcurrent
    have hqueued := h.queued _ _ hheld
    have hkey : previous.key = c.key := hkey
    have hne : c.id ≠ previous.id := by
      intro heq
      have := h.known _ (.inl hqueued)
      rw [← heq, hnew] at this
      cases this
    have hremoved := h.removed hheld
    rw [popAndStop_eq (queued_forget.2 hqueued)] at hremoved
    have hhold : PresenceOk
        ((((s.forget previous).popOutbound previous.id).stop previous.id).hold c) := by
      refine hremoved.hold ?_ ?_
      · rw [tasks_stop, if_neg hne, tasks_popOutbound, tasks_forget, hnew]
      · intro id hid
        simp only [held_stop, held_popOutbound, held_forget] at hid
        exact hid.2 hkey.symm
    rw [popAndStop_eq hqueued]
    refine hhold.kept ?_ (fun _ => Iff.rfl) (fun _ => Iff.rfl) (fun _ _ hid => hid)
      (fun _ hid => hid)
      (fun _ hid => hid)
    intro id key
    simp only [held_hold, held_stop, held_popOutbound, held_forget, hkey, and_assoc, and_self]

theorem PresenceOk.remove (h : PresenceOk s) (c : ActiveConnection) : PresenceOk (s.remove c) := by
  unfold PresenceManager.remove
  split_ifs with hcurrent
  · exact h.removed (held_of_isCurrent hcurrent)
  · exact h

theorem PresenceOk.heartbeat (h : PresenceOk s) (c : ActiveConnection) (now : Timestamp) :
    PresenceOk (s.heartbeat c now) := by
  unfold PresenceManager.heartbeat
  split_ifs
  · refine h.kept ?_ (fun _ => Iff.rfl) (fun _ => Iff.rfl) (fun _ _ hid => hid) (fun _ hid => hid)
      (fun _ hid => hid)
    intro id key
    constructor
    · rintro ⟨c', hc', rfl, rfl⟩
      obtain ⟨c'', hc'', rfl⟩ := List.mem_map.1 hc'
      refine ⟨c'', hc'', ?_, ?_⟩ <;> split_ifs <;> rfl
    · rintro ⟨c', hc', rfl, rfl⟩
      refine ⟨_, List.mem_map.2 ⟨c', hc', rfl⟩, ?_, ?_⟩ <;> split_ifs <;> rfl
  · exact h

theorem PresenceOk.pruneExpired (h : PresenceOk s)
    (hnodup : (s.connections.map ActiveConnection.key).Nodup) (timeout now : Timestamp)
    (account : Option Uuid) : PresenceOk (s.pruneExpired timeout now account) := by
  have hheld : ∀ id key, (s.pruneExpired timeout now account).Held id key → s.Held id key := by
    rintro id key ⟨c, hc, rfl, rfl⟩
    exact ⟨c, (List.mem_filter.1 hc).1, rfl, rfl⟩
  have hpruning : ∀ id, (s.pruneExpired timeout now account).Pruning id ↔ s.Pruning id ∨
      ∃ c ∈ s.connections, isExpired timeout now account c = true ∧ c.id = id := by
    intro id
    simp [Pruning, PresenceManager.pruneExpired, or_and_right, exists_or, and_assoc]
  have hclosing : ∀ id, s.Closing id → (s.pruneExpired timeout now account).Closing id := by
    rintro id ⟨ids, hmem, hid⟩
    exact ⟨ids, List.mem_append_left _ hmem, hid⟩
  constructor
  · exact fun id key hid => h.queued id key (hheld id key hid)
  · intro id hid
    rw [hpruning]
    obtain ⟨key, c, hc, rfl, rfl⟩ | hid := h.held id hid
    · by_cases hexpired : isExpired timeout now account c = true
      · exact .inr (.inr ⟨c, hc, hexpired, rfl⟩)
      · exact .inl ⟨c.key, c, List.mem_filter.2 ⟨hc, by simpa using hexpired⟩, rfl, rfl⟩
    · exact .inr (.inl hid)
  · intro id key hid hkey
    obtain hid | ⟨c, hc, hexpired, rfl⟩ := (hpruning id).1 hid
    · exact h.pruned id key hid (hheld id key hkey)
    · -- the connection that is still held is the one that expired
      obtain ⟨c', hc', hid', rfl⟩ := hkey
      obtain ⟨hc', hnot⟩ := List.mem_filter.1 hc'
      have hkey : c'.key = c.key := h.keys c.id _ _ ⟨c', hc', hid', rfl⟩ ⟨c, hc, rfl, rfl⟩
      rw [List.inj_on_of_nodup_map hnodup hc' hc hkey, hexpired] at hnot
      cases hnot
  · exact fun id hid => (h.writers id hid).imp (fun hid => hid) (hclosing id)
  · intro id hid
    obtain hid | hid := hid
    · exact h.known id (.inl hid)
    · obtain hid | ⟨c, hc, -, rfl⟩ := (hpruning id).1 hid
      · exact h.known id (.inr hid)
      · exact h.known _ (.inl (h.queued _ _ ⟨c, hc, rfl, rfl⟩))
  · exact fun id key key' hkey hkey' => h.keys id key key' (hheld _ _ hkey) (hheld _ _ hkey')
  · exact fun id id' key hid hid' => h.ids id id' key (hheld _ _ hid) (hheld _ _ hid')

theorem PresenceOk.disconnectDevice (h : PresenceOk s) (account device : Uuid) :
    PresenceOk (s.disconnectDevice account device) := by
  unfold PresenceManager.disconnectDevice
  split
  · exact h
  case h_2 c hcurrent => exact h.removed (held_of_current hcurrent).1

/-- `disconnect_account` of an account without connections. -/
theorem disconnectAccount_eq_self {account : Uuid}
    (hnone : s.connections.any (·.accountId = account) = false) :
    s.disconnectAccount account = s := by
  have hconnections : s.connections.filter (fun c => c.accountId ≠ account) = s.connections := by
    refine List.filter_eq_self.2 fun c hc => decide_eq_true fun heq => ?_
    exact List.any_eq_false.1 hnone c hc (decide_eq_true heq)
  rw [PresenceManager.disconnectAccount, hconnections]

theorem PresenceOk.closeAll (h : PresenceOk s) : PresenceOk s.closeAll := by
  have hheld : ∀ id key, ¬ s.closeAll.Held id key := fun id key ⟨c, hc, _⟩ => List.not_mem_nil hc
  have hqueued : ∀ id, ¬ s.closeAll.Queued id :=
    fun id ⟨queue, hqueue, _⟩ => List.not_mem_nil hqueue
  have hpruning : ∀ id, s.closeAll.Pruning id → s.Pruning id := by
    intro id
    simp [Pruning, PresenceManager.closeAll]
  constructor
  · exact fun id key hid => (hheld id key hid).elim
  · exact fun id hid => (hqueued id hid).elim
  · exact fun id key _ => hheld id key
  · intro id hid
    right
    obtain ⟨queue, hqueue, rfl⟩ | ⟨ids, hmem, hid⟩ := h.writers id hid
    · exact ⟨_, List.mem_append_right _ (List.mem_singleton.2 rfl),
        List.mem_map.2 ⟨queue, hqueue, rfl⟩⟩
    · exact ⟨ids, List.mem_append_left _ hmem, hid⟩
  · intro id hid
    exact h.known id (.inr (hid.elim (fun hid => (hqueued id hid).elim) (hpruning id)))
  · exact fun id key key' hkey => (hheld id key hkey).elim
  · exact fun id id' key hid => (hheld id key hid).elim

theorem queued_updateQueue {id id' : Uuid} {change : OutboundQueue → OutboundQueue}
    (hchange : ∀ queue, (change queue).connectionId = queue.connectionId) :
    (s.updateQueue id' change).Queued id ↔ s.Queued id := by
  constructor
  · rintro ⟨queue, hqueue, rfl⟩
    obtain ⟨queue, hmem, rfl⟩ := List.mem_map.1 hqueue
    refine ⟨queue, hmem, ?_⟩
    split_ifs
    · exact (hchange queue).symm
    · rfl
  · rintro ⟨queue, hmem, rfl⟩
    refine ⟨_, List.mem_map.2 ⟨queue, hmem, rfl⟩, ?_⟩
    split_ifs
    · exact hchange queue
    · rfl

/-- A change of what a queue holds. -/
theorem PresenceOk.updateQueue (h : PresenceOk s) {id : Uuid}
    {change : OutboundQueue → OutboundQueue}
    (hchange : ∀ queue, (change queue).connectionId = queue.connectionId) :
    PresenceOk (s.updateQueue id change) :=
  h.kept (fun _ _ => Iff.rfl) (fun _ => queued_updateQueue hchange) (fun _ => Iff.rfl)
    (fun _ _ hid => hid) (fun _ hid => hid) (fun _ hid => hid)

/-- An operation waits that prunes no queue. -/
theorem PresenceOk.pending (h : PresenceOk s) {operation : PendingOperation}
    (hpruning : ∀ ids, operation ≠ .pruning ids) :
    PresenceOk { s with pending := s.pending ++ [operation] } := by
  refine h.kept (fun _ _ => Iff.rfl) (fun _ => Iff.rfl) ?_ ?_ (fun _ hid => hid) (fun _ hid => hid)
  · intro id
    simp only [Pruning, List.mem_append, List.mem_singleton, (hpruning _).symm, or_false]
  · rintro id - ⟨ids, hmem, hid⟩
    exact ⟨ids, List.mem_append_left _ hmem, hid⟩

theorem PresenceOk.enqueueOutbound (h : PresenceOk s) (c : ActiveConnection) (size : ℕ) :
    PresenceOk (s.enqueueOutbound c size) := by
  unfold PresenceManager.enqueueOutbound
  split
  · exact h
  · split_ifs
    · exact h
    · have hfailed : PresenceOk (s.updateQueue c.id fun queue => { queue with failed := true }) :=
        h.updateQueue fun _ => rfl
      exact hfailed.pending nofun
    · exact h.updateQueue fun _ => rfl

/-- A writer goes on, and gets to work only if it was. -/
theorem PresenceOk.setTask (h : PresenceOk s) {id : Uuid} {task : WriterTask}
    (hwork : task = .running ∨ task = .failing →
      s.tasks id = some .running ∨ s.tasks id = some .failing) :
    PresenceOk { s with tasks := Function.update s.tasks id (some task) } := by
  refine h.kept (fun _ _ => Iff.rfl) (fun _ => Iff.rfl) (fun _ => Iff.rfl)
    (fun _ _ hid => hid) ?_ ?_
  · intro id' hid'
    simp only [Function.update_apply] at hid'
    split_ifs at hid' with heq
    · subst heq
      exact hwork (hid'.imp Option.some.inj Option.some.inj)
    · exact hid'
  · intro id' hid'
    simp only [Function.update_apply]
    split_ifs
    · rfl
    · exact hid'

/-- A writer that failed drops its connection and does not cancel itself. -/
theorem PresenceOk.dropSelf (h : PresenceOk s) (c : ActiveConnection) :
    PresenceOk (s.dropSelf c) := by
  unfold PresenceManager.dropSelf
  dsimp only
  split_ifs with hcurrent
  · have hheld := held_of_isCurrent hcurrent
    refine h.dropped c.id ?_ ?_ (fun _ hid => hid) (fun _ _ hid => hid)
      (fun _ _ hid => hid) ?_ ?_ ?_
    · intro id key
      refine held_forget.trans (and_congr_right fun hid => not_congr (h.key_iff hheld hid))
    · exact fun id => queued_popOutbound
    · exact fun id hne => Function.update_of_ne hne ..
    · simp
    · simp
  · exact h.setTask nofun

/-- A pending operation is in `pending`, wherever it is. -/
theorem PresenceOk.last (h : PresenceOk s) {place : ℕ} {operation : PendingOperation}
    (hplace : s.pending[place]? = some operation) :
    PresenceOk { s with pending := s.pending.eraseIdx place ++ [operation] } := by
  have hmem : ∀ operation', operation' ∈ s.pending.eraseIdx place ++ [operation] ↔
      operation' ∈ s.pending := by
    intro operation'
    obtain ⟨hlt, rfl⟩ := List.getElem?_eq_some_iff.1 hplace
    rw [← (List.getElem_cons_eraseIdx_perm hlt).mem_iff, List.mem_append, List.mem_singleton,
      List.mem_cons, or_comm]
  refine h.kept (fun _ _ => Iff.rfl) (fun _ => Iff.rfl) ?_ ?_ (fun _ hid => hid) (fun _ hid => hid)
  · intro id
    simp only [Pruning, hmem]
  · rintro id - ⟨ids, hids, hid⟩
    exact ⟨ids, (hmem _).2 hids, hid⟩

section Push

variable {operation : PendingOperation} {id x : Uuid} {ids : List Uuid}

theorem pruning_push :
    ({ s with pending := s.pending ++ [operation] } : PresenceManager).Pruning id ↔
    s.Pruning id ∨ ∃ ids, operation = .pruning ids ∧ id ∈ ids := by
  simp only [Pruning, List.mem_append, List.mem_singleton, or_and_right, exists_or, eq_comm]

theorem closing_push :
    ({ s with pending := s.pending ++ [operation] } : PresenceManager).Closing id ↔
    s.Closing id ∨ ∃ ids, operation = .closing ids ∧ id ∈ ids := by
  simp only [Closing, List.mem_append, List.mem_singleton, or_and_right, exists_or, eq_comm]

/-- A pending operation that does nothing more. -/
theorem PresenceOk.done (h : PresenceOk { s with pending := s.pending ++ [operation] })
    (hpruning : ∀ ids, operation = .pruning ids → ids = [])
    (hclosing : ∀ ids, operation = .closing ids → ids = []) : PresenceOk s := by
  refine h.kept (fun _ _ => Iff.rfl) (fun _ => Iff.rfl) ?_ ?_ (fun _ hid => hid) (fun _ hid => hid)
  · intro id
    rw [pruning_push, or_iff_left]
    rintro ⟨ids, heq, hid⟩
    rw [hpruning ids heq] at hid
    exact List.not_mem_nil hid
  · intro id _ hid
    refine (closing_push.1 hid).resolve_right ?_
    rintro ⟨ids, heq, hid⟩
    rw [hclosing ids heq] at hid
    exact List.not_mem_nil hid

/-- `prune_expired` stops the next queue. -/
theorem PresenceOk.prune (h : PresenceOk { s with pending := s.pending ++ [.pruning (x :: ids)] }) :
    PresenceOk { s.popAndStop x with pending := (s.popAndStop x).pending ++ [.pruning ids] } := by
  have hx : ∀ key, ¬ s.Held x key :=
    fun key => h.pruned x key (pruning_push.2 (.inr ⟨_, rfl, List.mem_cons_self⟩))
  have hheld : ∀ id key, s.Held id key ↔ s.Held id key ∧ id ≠ x := by
    intro id key
    refine ⟨fun hid => ⟨hid, ?_⟩, And.left⟩
    rintro rfl
    exact hx key hid
  have hpruning : ∀ id, (s.Pruning id ∨ ∃ ids', PendingOperation.pruning ids = .pruning ids' ∧
      id ∈ ids') → s.Pruning id ∨ ∃ ids', PendingOperation.pruning (x :: ids) = .pruning ids' ∧
      id ∈ ids' := by
    rintro id (hid | ⟨_, ⟨⟩, hid⟩)
    · exact .inl hid
    · exact .inr ⟨_, rfl, List.mem_cons_of_mem _ hid⟩
  have hpruning' : ∀ id, id ≠ x → (s.Pruning id ∨ ∃ ids', PendingOperation.pruning (x :: ids) =
      .pruning ids' ∧ id ∈ ids') → s.Pruning id ∨ ∃ ids', PendingOperation.pruning ids =
      .pruning ids' ∧ id ∈ ids' := by
    rintro id hne (hid | ⟨_, ⟨⟩, hid⟩)
    · exact .inl hid
    · exact .inr ⟨_, rfl, (List.mem_cons.1 hid).resolve_left hne⟩
  by_cases hqueued : s.Queued x
  · rw [popAndStop_eq hqueued]
    refine h.dropped x hheld (fun id => queued_popOutbound) ?_ ?_ ?_ ?_ ?_ ?_
    · intro id hid
      rw [pruning_push, pruning_stop, pruning_popOutbound] at hid
      exact pruning_push.2 (hpruning id hid)
    · intro id hne hid
      rw [pruning_push, pruning_stop, pruning_popOutbound]
      exact hpruning' id hne (pruning_push.1 hid)
    · intro id hne hid
      rw [closing_push, closing_stop, closing_popOutbound]
      exact .inl ((closing_push.1 hid).resolve_right nofun)
    · intro id hne
      exact tasks_stop.trans (if_neg hne)
    · intro htask
      change (((s.popOutbound x).stop x).tasks x = _ ∨
        ((s.popOutbound x).stop x).tasks x = _) at htask
      rw [tasks_stop, if_pos rfl] at htask
      exact (cancel_not_working _ htask).elim
    · intro hsome
      change (((s.popOutbound x).stop x).tasks x).isSome = true
      rw [tasks_stop, if_pos rfl, Option.isSome_map]
      exact hsome
  · rw [popAndStop_eq_self hqueued]
    refine h.dropped x hheld ?_ (fun id hid => pruning_push.2 (hpruning id (pruning_push.1 hid)))
      (fun id hne hid => pruning_push.2 (hpruning' id hne (pruning_push.1 hid))) ?_
        (fun _ _ => rfl) ?_
      (fun hsome => hsome)
    · intro id
      refine ⟨fun hid => ⟨hid, ?_⟩, And.left⟩
      rintro rfl
      exact hqueued hid
    · exact fun id _ hid => closing_push.2 (.inl ((closing_push.1 hid).resolve_right nofun))
    · intro htask
      obtain hid | hid := h.writers x htask
      · exact (hqueued hid).elim
      · exact closing_push.2 (.inl ((closing_push.1 hid).resolve_right nofun))

/-- `close_all` stops the next queue. -/
theorem PresenceOk.close (h : PresenceOk { s with pending := s.pending ++ [.closing (x :: ids)] }) :
    PresenceOk { s.stop x with pending := (s.stop x).pending ++ [.closing ids] } := by
  have htasks : ∀ id, (s.stop x).tasks id = some .running ∨ (s.stop x).tasks id = some .failing →
      id ≠ x ∧ (s.tasks id = some .running ∨ s.tasks id = some .failing) := by
    intro id htask
    rw [tasks_stop] at htask
    split_ifs at htask with heq
    · exact (cancel_not_working _ htask).elim
    · exact ⟨heq, htask⟩
  refine h.kept (fun _ _ => Iff.rfl) (fun _ => Iff.rfl) ?_ ?_ (fun id htask =>
    (htasks id htask).2) ?_
  · intro id
    rw [pruning_push, pruning_push, pruning_stop]
    refine or_congr_right ⟨?_, ?_⟩ <;> rintro ⟨_, ⟨⟩, _⟩
  · intro id htask hid
    rw [closing_push, closing_stop]
    obtain hid | ⟨_, ⟨⟩, hid⟩ := closing_push.1 hid
    · exact .inl hid
    · exact .inr ⟨_, rfl, (List.mem_cons.1 hid).resolve_left (htasks id htask).1⟩
  · intro id hsome
    change ((s.stop x).tasks id).isSome = true
    rw [tasks_stop]
    split_ifs with heq
    · rw [Option.isSome_map, ← heq]
      exact hsome
    · exact hsome

/-- The next section of a pending operation. -/
theorem PresenceOk.resume (h : PresenceOk { s with pending := s.pending ++ [operation] })
    (hresume : s.resume operation = some s') : PresenceOk s' := by
  cases operation with
  | pruning ids =>
    cases ids with
    | nil =>
      cases hresume
      exact h.done (fun ids heq => (PendingOperation.pruning.inj heq).symm) nofun
    | cons x ids =>
      cases hresume
      exact h.prune
  | closing ids =>
    cases ids with
    | nil =>
      cases hresume
      exact h.done nofun (fun ids heq => (PendingOperation.closing.inj heq).symm)
    | cons x ids =>
      cases hresume
      exact h.close
  | dropping c =>
    cases hresume
    exact PresenceOk.remove (h.done nofun nofun) c
  | awaiting id =>
    simp only [PresenceManager.resume, Option.ite_none_right_eq_some, Option.some.injEq] at hresume
    obtain ⟨-, rfl⟩ := hresume
    exact h.done nofun nofun

end Push

end Changes

/-! ## Places are held once -/

section Places

variable {s s' : PresenceManager} {c : ActiveConnection}

@[simp] theorem connections_popAndStop (id : Uuid) :
    (s.popAndStop id).connections = s.connections := by
  unfold popAndStop
  split_ifs <;> rfl

/-- The places of `_connections` are keys. -/
def UniquePlaces (s : PresenceManager) : Prop := (s.connections.map ActiveConnection.key).Nodup

theorem UniquePlaces.filter (h : s.UniquePlaces) {p : ActiveConnection → Bool}
    (hs' : s'.connections = s.connections.filter p) : s'.UniquePlaces := by
  rw [UniquePlaces, hs']
  exact List.Nodup.sublist (List.filter_sublist.map _) h

theorem UniquePlaces.hold (h : s.UniquePlaces) (c : ActiveConnection) : (s.hold c).UniquePlaces :=
  Table.nodup_put h

theorem UniquePlaces.removed (h : s.UniquePlaces) (id : Uuid) :
    ((s.forget c).popAndStop id).UniquePlaces :=
  h.filter (connections_popAndStop id)

theorem UniquePlaces.remove (h : s.UniquePlaces) (c : ActiveConnection) :
    (s.remove c).UniquePlaces := by
  unfold PresenceManager.remove
  split_ifs
  · exact h.removed c.id
  · exact h

theorem UniquePlaces.resume (h : s.UniquePlaces) {operation : PendingOperation}
    (hresume : s.resume operation = some s') : s'.UniquePlaces := by
  cases operation with
  | pruning ids =>
    cases ids with
    | nil =>
      cases hresume
      exact h
    | cons x ids =>
      cases hresume
      rw [UniquePlaces, connections_popAndStop]
      exact h
  | closing ids => cases ids <;> cases hresume <;> exact h
  | dropping c =>
    cases hresume
    exact h.remove c
  | awaiting id =>
    simp only [PresenceManager.resume, Option.ite_none_right_eq_some, Option.some.injEq] at hresume
    obtain ⟨-, rfl⟩ := hresume
    exact h

theorem UniquePlaces.step (h : s.UniquePlaces) {timeout : Timestamp} {e : PresenceEvent}
    (hstep : s.step timeout e = some s') : s'.UniquePlaces := by
  cases e with
  | register c =>
    simp only [PresenceManager.step] at hstep
    split_ifs at hstep
    cases hstep
    unfold PresenceManager.register
    split
    · split_ifs
      · exact h.hold c
      · exact h
    · refine UniquePlaces.hold ?_ c
      rw [UniquePlaces, connections_popAndStop]
      exact h
  | remove c =>
    cases hstep
    exact h.remove c
  | heartbeat c now =>
    cases hstep
    unfold PresenceManager.heartbeat
    split_ifs
    · have hkeys : (s.connections.map fun c' =>
          if c'.key = c.key then { c' with lastHeartbeatAt := now } else c').map
            ActiveConnection.key =
          s.connections.map ActiveConnection.key := by
        rw [List.map_map]
        refine List.map_congr_left fun c' _ => ?_
        simp only [Function.comp_apply]
        split_ifs <;> rfl
      rw [UniquePlaces, hkeys]
      exact h
    · exact h
  | pruneExpired now account =>
    cases hstep
    exact h.filter rfl
  | disconnectDevice account device =>
    cases hstep
    unfold PresenceManager.disconnectDevice
    split
    · exact h
    · exact h.removed _
  | disconnectAccount account =>
    cases hstep
    exact h.filter rfl
  | closeAll =>
    cases hstep
    exact List.nodup_nil
  | enqueueOutbound c size =>
    cases hstep
    unfold PresenceManager.enqueueOutbound
    split
    · exact h
    · split_ifs <;> exact h
  | writerTakes id | writerFails id | writerEnds id =>
    simp only [PresenceManager.step, Option.ite_none_right_eq_some, Option.some.injEq] at hstep
    obtain ⟨-, rfl⟩ := hstep
    exact h
  | writerDrops c =>
    simp only [PresenceManager.step, Option.ite_none_right_eq_some, Option.some.injEq] at hstep
    obtain ⟨-, rfl⟩ := hstep
    unfold PresenceManager.dropSelf
    dsimp only
    split_ifs
    · exact h.filter rfl
    · exact h
  | resume place =>
    simp only [PresenceManager.step] at hstep
    split at hstep
    · cases hstep
    · have hplaces : UniquePlaces { s with pending := s.pending.eraseIdx place } := h
      exact UniquePlaces.resume hplaces hstep

end Places

/-! ## Runs -/

/-- No operation is in progress, and no writer is dropping its connection. -/
structure Quiescent (s : PresenceManager) : Prop where
  pending : s.pending = []
  writers : ∀ id, s.tasks id ≠ some .failing ∧ s.tasks id ≠ some .leaving

/-- The queues are those of the connections held, and the writers of all others are stopped. -/
structure NoLeaks (s : PresenceManager) : Prop where
  queues : ∀ id, id ∈ s.outbound.map (·.connectionId) ↔ id ∈ s.connections.map (·.id)
  writers : ∀ id task, s.tasks id = some task → id ∉ s.connections.map (·.id) →
    task = .cancelled ∨ task = .ended

/-- `disconnect_account` is only called for accounts without connections. -/
def Spares (s : PresenceManager) : PresenceEvent → Prop
  | .disconnectAccount account => s.connections.any (·.accountId = account) = false
  | _ => True

/-- A manager without connections. -/
def empty : PresenceManager where
  connections := []
  outbound := []
  tasks _ := none
  pending := []

section Runs

variable {s s' : PresenceManager} {timeout : Timestamp}

theorem PresenceOk.step (h : PresenceOk s) (hplaces : s.UniquePlaces) {e : PresenceEvent}
    (hstep : s.step timeout e = some s') (hspares : s.Spares e) : PresenceOk s' := by
  cases e with
  | register c =>
    simp only [PresenceManager.step] at hstep
    split_ifs at hstep with hnew
    cases hstep
    exact PresenceOk.register h (by simpa using hnew)
  | remove c =>
    cases hstep
    exact PresenceOk.remove h c
  | heartbeat c now =>
    cases hstep
    exact PresenceOk.heartbeat h c now
  | pruneExpired now account =>
    cases hstep
    exact PresenceOk.pruneExpired h hplaces timeout now account
  | disconnectDevice account device =>
    cases hstep
    exact PresenceOk.disconnectDevice h account device
  | disconnectAccount account =>
    cases hstep
    rw [disconnectAccount_eq_self hspares]
    exact h
  | closeAll =>
    cases hstep
    exact PresenceOk.closeAll h
  | enqueueOutbound c size =>
    cases hstep
    exact PresenceOk.enqueueOutbound h c size
  | writerTakes id =>
    simp only [PresenceManager.step, Option.ite_none_right_eq_some, Option.some.injEq] at hstep
    obtain ⟨-, rfl⟩ := hstep
    exact PresenceOk.updateQueue h fun _ => rfl
  | writerFails id =>
    simp only [PresenceManager.step, Option.ite_none_right_eq_some, Option.some.injEq] at hstep
    obtain ⟨hrunning, rfl⟩ := hstep
    have hfailed : PresenceOk (s.updateQueue id fun queue => { queue with failed := true }) :=
      PresenceOk.updateQueue h fun _ => rfl
    exact hfailed.setTask fun _ => .inl hrunning
  | writerDrops c =>
    simp only [PresenceManager.step, Option.ite_none_right_eq_some, Option.some.injEq] at hstep
    obtain ⟨-, rfl⟩ := hstep
    exact PresenceOk.dropSelf h c
  | writerEnds id =>
    simp only [PresenceManager.step, Option.ite_none_right_eq_some, Option.some.injEq] at hstep
    obtain ⟨-, rfl⟩ := hstep
    exact h.setTask nofun
  | resume place =>
    simp only [PresenceManager.step] at hstep
    split at hstep
    · cases hstep
    case h_2 operation hplace => exact PresenceOk.resume (h.last hplace) hstep

theorem presenceOk_empty : PresenceOk empty := by
  constructor <;> simp [empty, Held, Queued, Pruning, Closing]

/-- Between operations, nothing leaks. -/
theorem PresenceOk.noLeaks (h : PresenceOk s) (hquiescent : s.Quiescent) : s.NoLeaks := by
  have hpruning : ∀ id, ¬ s.Pruning id := by
    rintro id ⟨ids, hmem, -⟩
    rw [hquiescent.pending] at hmem
    cases hmem
  have hclosing : ∀ id, ¬ s.Closing id := by
    rintro id ⟨ids, hmem, -⟩
    rw [hquiescent.pending] at hmem
    cases hmem
  have hheld : ∀ id, s.Queued id → id ∈ s.connections.map (·.id) := by
    intro id hid
    obtain ⟨key, c, hc, rfl, -⟩ | hid := h.held id hid
    · exact List.mem_map.2 ⟨c, hc, rfl⟩
    · exact (hpruning id hid).elim
  constructor
  · intro id
    constructor
    · intro hid
      obtain ⟨queue, hqueue, rfl⟩ := List.mem_map.1 hid
      exact hheld _ ⟨queue, hqueue, rfl⟩
    · intro hid
      obtain ⟨c, hc, rfl⟩ := List.mem_map.1 hid
      obtain ⟨queue, hqueue, hid⟩ := h.queued _ _ ⟨c, hc, rfl, rfl⟩
      exact List.mem_map.2 ⟨queue, hqueue, hid⟩
  · intro id task htask hnot
    cases task with
    | running =>
      obtain hid | hid := h.writers id (.inl htask)
      · exact (hnot (hheld id hid)).elim
      · exact (hclosing id hid).elim
    | failing => exact ((hquiescent.writers id).1 htask).elim
    | leaving => exact ((hquiescent.writers id).2 htask).elim
    | cancelled => exact .inl rfl
    | ended => exact .inr rfl

/-- Whenever no operation is in progress nothing has leaked, in every run that disconnects no
account with a connection. -/
theorem presence_has_no_leaks {es : List PresenceEvent}
    (hrun : Run (fun s e s' => Step (PresenceManager.step timeout) s e s' ∧ s.Spares e) empty es s)
    (hquiescent : s.Quiescent) : s.NoLeaks := by
  have hok : PresenceOk s ∧ s.UniquePlaces := by
    refine hrun.invariant (I := fun s => PresenceOk s ∧ s.UniquePlaces)
      ⟨presenceOk_empty, List.nodup_nil⟩ ?_
    rintro s e s' ⟨h, hplaces⟩ ⟨hstep, hspares⟩
    exact ⟨h.step hplaces hstep hspares, hplaces.step hstep⟩
  exact hok.1.noLeaks hquiescent

end Runs

/-- A socket of the second account's third device. -/
def socket : ActiveConnection := ⟨⟨1⟩, ⟨2⟩, ⟨3⟩, 0⟩

/-- The socket registers and its account is disconnected: its queue is left and
its writer still runs. -/
theorem disconnectAccount_leaks :
    let s := (empty.hold socket).disconnectAccount ⟨2⟩
    Run (Step (PresenceManager.step 45)) empty [.register socket, .disconnectAccount ⟨2⟩] s ∧
      s.Quiescent ∧ ¬ s.NoLeaks := by
  intro s
  refine ⟨.cons rfl (.cons rfl (.nil _)), ⟨rfl, fun id => ?_⟩, fun h => ?_⟩
  · change Function.update (fun _ => none) _ _ id ≠ _ ∧ Function.update (fun _ => none) _ _ id ≠ _
    simp only [Function.update_apply]
    split_ifs <;> exact ⟨nofun, nofun⟩
  · have hid : (⟨1⟩ : Uuid) ∈ s.connections.map (·.id) := (h.queues ⟨1⟩).1 (by decide)
    exact absurd hid (by decide)

/-- The socket registers and goes, and its writer ends. -/
theorem presence_has_no_leaks_removed :
    let removed := (empty.hold socket).remove socket
    let s : PresenceManager :=
      { removed with
        tasks := Function.update removed.tasks socket.id (some .ended)
        pending := [] }
    s.NoLeaks := by
  intro removed s
  have hrun : Run (fun s e s' => Step (PresenceManager.step 45) s e s' ∧ s.Spares e) empty
      [.register socket, .remove socket, .writerEnds socket.id, .resume 0] s :=
    .cons ⟨rfl, trivial⟩
      (.cons ⟨rfl, trivial⟩ (.cons ⟨rfl, trivial⟩ (.cons ⟨rfl, trivial⟩ (.nil _))))
  refine presence_has_no_leaks hrun ⟨rfl, fun id => ?_⟩
  have htasks : s.tasks id = if id = socket.id then some .ended else none := by
    by_cases hid : id = socket.id
    · subst hid
      rfl
    · rw [if_neg hid]
      change Function.update removed.tasks socket.id (some .ended) id = none
      rw [Function.update_of_ne hid]
      change Function.update (Function.update (fun _ => none) socket.id _) socket.id _ id = none
      rw [Function.update_of_ne hid, Function.update_of_ne hid]
  rw [htasks]
  split_ifs <;> exact ⟨nofun, nofun⟩

end SelfRelay.Backend.PresenceManager
