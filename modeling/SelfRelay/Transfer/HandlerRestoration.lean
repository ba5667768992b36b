import SelfRelay.Transfer.ChannelWaits

/-!
# Which handlers the waits leave behind

The handlers of overlapping waits form a stack over those that were there before (`Stacked`).  A
wait that settles takes its handlers away only if it is on top, and an event settles the older waits
first.  So the stack is empty in the end exactly if no wait settles under a newer one
(`handlers_restored_iff`).
-/

namespace SelfRelay

open StepSystem
open Engine (channelClosed)

variable {H : Type}

/-! ## Stacks of handlers -/

namespace ChannelHandler

/-- The handlers of some waits, the newest first, in front of what was there before. -/
def stacked (handler : Option H) : List ℕ → ChannelHandler H
  | [] => .before handler
  | id :: ids => .ofWait id (stacked handler ids)

theorem original_stacked (handler : Option H) (ids : List ℕ) :
    (stacked handler ids).original = handler := by
  induction ids with
  | nil => rfl
  | cons id ids ih => exact ih

theorem cleanup_stacked_cons (handler : Option H) (id : ℕ) (ids : List ℕ) :
    (stacked handler (id :: ids)).cleanup id = stacked handler ids := if_pos rfl

theorem cleanup_stacked_of_ne (handler : Option H) {id : ℕ} {ids : List ℕ}
    (h : ids.head? ≠ some id) :
    (stacked handler ids).cleanup id = stacked handler ids := by
  cases ids with
  | nil => rfl
  | cons i ids => exact if_neg fun hi => h (congrArg some hi)

end ChannelHandler

def OriginalHandlers.stacked (o : OriginalHandlers H) (ids : List ℕ) : ChannelHandlers H :=
  ⟨.stacked o.onbufferedamountlow ids, .stacked o.onclose ids, .stacked o.onerror ids⟩

namespace WaitingChannel

variable {o : OriginalHandlers H} {c : WaitingChannel H} {ids : List ℕ}

/-- The handlers are those of some waits over the original ones.  A wait that has not settled is
among them. -/
structure Stacked (o : OriginalHandlers H) (ids : List ℕ) (c : WaitingChannel H) : Prop where
  handlers : c.handlers = o.stacked ids
  fresh : ∀ i ∈ ids, i < c.nextId
  nodup : ids.Nodup
  pending : ∀ w ∈ c.pending, w.id ∈ ids

/-- The waits on the stack are those that have not settled. -/
def Ordered (o : OriginalHandlers H) (c : WaitingChannel H) : Prop :=
  c.Stacked o (c.pending.map CapacityWait.id)

/-- A wait that has settled is still on the stack. -/
def Stale (o : OriginalHandlers H) (c : WaitingChannel H) : Prop :=
  ∃ ids, c.Stacked o ids ∧ ∃ i ∈ ids, ∀ w ∈ c.pending, w.id ≠ i

/-! ## One wait settles -/

theorem finish_of_pending {w : CapacityWait} (hw : w ∈ c.pending) (outcome : Checked Unit) :
    c.finish w.id outcome = { c with
      handlers := c.handlers.map (.cleanup w.id)
      pending := c.pending.filter fun v => v.id ≠ w.id
      settled := c.settled ++ [(w.id, outcome)] } := if_pos ⟨w, hw, rfl⟩

theorem cleanup_top {id : ℕ} : (o.stacked (id :: ids)).map (.cleanup id) = o.stacked ids := by
  simp only [OriginalHandlers.stacked, ChannelHandlers.map, ChannelHandler.cleanup_stacked_cons]

theorem cleanup_of_ne {id : ℕ} (h : ids.head? ≠ some id) :
    (o.stacked ids).map (.cleanup id) = o.stacked ids := by
  simp only [OriginalHandlers.stacked, ChannelHandlers.map,
    ChannelHandler.cleanup_stacked_of_ne _ h]

/-- A wait on top of the stack leaves it. -/
theorem Stacked.finish_top {w : CapacityWait} (hs : c.Stacked o (w.id :: ids)) (hw : w ∈ c.pending)
    (outcome : Checked Unit) : (c.finish w.id outcome).Stacked o ids := by
  obtain ⟨hnotin, hnodup⟩ := List.nodup_cons.1 hs.nodup
  rw [finish_of_pending hw]
  refine ⟨?_, fun i hi => hs.fresh i (List.mem_cons_of_mem _ hi), hnodup, fun v hv => ?_⟩
  · dsimp only
    rw [hs.handlers, cleanup_top]
  · obtain ⟨hv, hne⟩ := List.mem_filter.1 hv
    exact (List.mem_cons.1 (hs.pending v hv)).resolve_left (of_decide_eq_true hne)

/-- A wait under another one stays. -/
theorem Stacked.finish_of_ne {w : CapacityWait} (hs : c.Stacked o ids) (hw : w ∈ c.pending)
    (hne : ids.head? ≠ some w.id) (outcome : Checked Unit) :
    (c.finish w.id outcome).Stacked o ids := by
  rw [finish_of_pending hw]
  refine ⟨?_, hs.fresh, hs.nodup, fun v hv => hs.pending v (List.mem_filter.1 hv).1⟩
  dsimp only
  rw [hs.handlers, cleanup_of_ne hne]

/-- Once a wait has settled under another one, its handlers stay. -/
theorem Stale.finish (h : c.Stale o) (id : ℕ) (outcome : Checked Unit) :
    (c.finish id outcome).Stale o := by
  obtain ⟨ids, hs, i, hi, hsettled⟩ := h
  by_cases hpending : ∃ w ∈ c.pending, w.id = id
  · obtain ⟨w, hw, rfl⟩ := hpending
    have hstill : ∀ v ∈ (c.finish w.id outcome).pending, v.id ≠ i := by
      rw [finish_of_pending hw]
      exact fun v hv => hsettled v (List.mem_filter.1 hv).1
    by_cases htop : ids.head? = some w.id
    · obtain ⟨rest, rfl⟩ : ∃ rest, ids = w.id :: rest := List.head?_eq_some_iff.1 htop
      have hrest := (List.mem_cons.1 hi).resolve_left fun heq => hsettled w hw heq.symm
      exact ⟨rest, hs.finish_top hw outcome, i, hrest, hstill⟩
    · exact ⟨ids, hs.finish_of_ne hw htop outcome, i, hi, hstill⟩
  · rw [WaitingChannel.finish, if_neg hpending]
    exact ⟨ids, hs, i, hi, hsettled⟩

theorem Stacked.congr {c' : WaitingChannel H} (hs : c.Stacked o ids)
    (hhandlers : c'.handlers = c.handlers)
    (hnext : c'.nextId = c.nextId) (hpending : c'.pending = c.pending) : c'.Stacked o ids where
  handlers := hhandlers.trans hs.handlers
  fresh := hnext ▸ hs.fresh
  nodup := hs.nodup
  pending := hpending ▸ hs.pending

theorem Ordered.congr {c' : WaitingChannel H} (h : c.Ordered o)
    (hhandlers : c'.handlers = c.handlers)
    (hnext : c'.nextId = c.nextId) (hpending : c'.pending = c.pending) : c'.Ordered o := by
  rw [Ordered, hpending]
  exact Stacked.congr h hhandlers hnext hpending

theorem Stale.congr {c' : WaitingChannel H} (h : c.Stale o) (hhandlers : c'.handlers = c.handlers)
    (hnext : c'.nextId = c.nextId) (hpending : c'.pending = c.pending) : c'.Stale o := by
  obtain ⟨ids, hs, hi⟩ := h
  exact ⟨ids, hs.congr hhandlers hnext hpending, hpending ▸ hi⟩

theorem Ordered.nodup (h : c.Ordered o) : (c.pending.map CapacityWait.id).Nodup := Stacked.nodup h

theorem Ordered.finish_top {w : CapacityWait} {older : List CapacityWait} (h : c.Ordered o)
    (hpending : c.pending = w :: older) (outcome : Checked Unit) :
    (c.finish w.id outcome).Ordered o := by
  have hw : w ∈ c.pending := hpending ▸ List.mem_cons_self
  have hids : c.pending.map CapacityWait.id = w.id :: older.map CapacityWait.id := by
    rw [hpending, List.map_cons]
  have hs : c.Stacked o (w.id :: older.map CapacityWait.id) := hids ▸ h
  have holder : (c.finish w.id outcome).pending = older := by
    rw [finish_of_pending hw]
    dsimp only
    rw [hpending, List.filter_cons_of_neg (by simp)]
    refine List.filter_eq_self.2 fun v hv => decide_eq_true fun heq => ?_
    exact (List.nodup_cons.1 hs.nodup).1 (heq ▸ List.mem_map_of_mem hv)
  rw [Ordered, holder]
  exact hs.finish_top hw outcome

theorem Ordered.finish_older {w v : CapacityWait} {older : List CapacityWait} (h : c.Ordered o)
    (hpending : c.pending = w :: older) (hv : v ∈ older) (outcome : Checked Unit) :
    (c.finish v.id outcome).Stale o := by
  have hmem : v ∈ c.pending := hpending ▸ List.mem_cons_of_mem _ hv
  have hnodup := h.nodup
  rw [hpending, List.map_cons] at hnodup
  have hne : (c.pending.map CapacityWait.id).head? ≠ some v.id := by
    rw [hpending]
    exact fun heq => (List.nodup_cons.1 hnodup).1 (Option.some.inj heq ▸ List.mem_map_of_mem hv)
  refine ⟨_, Stacked.finish_of_ne h hmem hne outcome, v.id, List.mem_map_of_mem hmem,
    fun u hu => ?_⟩
  rw [finish_of_pending hmem] at hu
  exact of_decide_eq_true (List.mem_filter.1 hu).2

/-! ## One event -/

/-- A wait reacts to an event by settling or not at all. -/
def Settling (own : ℕ → WaitingChannel H → WaitingChannel H) : Prop :=
  ∀ id c, own id c = c ∨ ∃ outcome, own id c = c.finish id outcome

theorem settling_finish (outcome : Checked Unit) :
    Settling fun id (c : WaitingChannel H) => c.finish id outcome := fun _ _ => .inr ⟨outcome, rfl⟩

theorem settling_check : Settling (check (H := H)) := by
  intro id c
  unfold check
  split
  · exact .inr ⟨_, rfl⟩
  · exact .inl rfl

/-- The original handler is called. -/
def log (handler : Option H) (c : WaitingChannel H) : WaitingChannel H :=
  { c with called := c.called ++ handler.toList }

/-- A stack of handlers calls the original one and then, unless that throws, lets the waits react,
the oldest first. -/
theorem call_stacked (own : ℕ → WaitingChannel H → WaitingChannel H) (throws : Bool)
    (handler : Option H)
    (ids : List ℕ) (c : WaitingChannel H) : call own throws (.stacked handler ids) c =
      if throws = true ∧ handler.isSome = true then (c.log handler, false)
      else (ids.foldr own (c.log handler), true) := by
  induction ids with
  | nil =>
    cases handler with
    | none => simp [ChannelHandler.stacked, call, log]
    | some handler => cases throws <;> rfl
  | cons id ids ih =>
    rw [ChannelHandler.stacked, call, ih]
    by_cases hthrows : throws = true ∧ handler.isSome = true
    · simp only [if_pos hthrows, if_neg Bool.false_ne_true]
    · simp only [if_neg hthrows, if_true, List.foldr_cons]

section Settling

variable {own : ℕ → WaitingChannel H → WaitingChannel H} (hown : Settling own)
include hown

theorem Stale.foldr (h : c.Stale o) (ids : List ℕ) : (ids.foldr own c).Stale o := by
  induction ids with
  | nil => exact h
  | cons id ids ih =>
    rw [List.foldr_cons]
    obtain hsame | ⟨outcome, hfinish⟩ := hown id (ids.foldr own c)
    · rwa [hsame]
    · rw [hfinish]
      exact ih.finish id outcome

/-- The waits under the newest one react: nothing happens, or one of them settles
and stays on the stack. -/
theorem Ordered.foldr_older {w : CapacityWait} {older : List CapacityWait} (h : c.Ordered o)
    (hpending : c.pending = w :: older) {waits : List CapacityWait} (hwaits : waits ⊆ older) :
    ((waits.map CapacityWait.id).foldr own c = c ∧ ∀ v ∈ waits, own v.id c = c) ∨
      ((waits.map CapacityWait.id).foldr own c).Stale o ∧ ∃ v ∈ waits, own v.id c ≠ c := by
  induction waits with
  | nil => exact .inl ⟨rfl, nofun⟩
  | cons v waits ih =>
    rw [List.map_cons, List.foldr_cons]
    obtain ⟨hv, hwaits⟩ := List.cons_subset.1 hwaits
    obtain ⟨hsame, hall⟩ | ⟨hstale, u, hu, hsettles⟩ := ih hwaits
    · rw [hsame]
      by_cases hown' : own v.id c = c
      · exact .inl ⟨hown', List.forall_mem_cons.2 ⟨hown', hall⟩⟩
      · obtain hsame' | ⟨outcome, hfinish⟩ := hown v.id c
        · exact absurd hsame' hown'
        · refine .inr ⟨?_, v, List.mem_cons_self, hown'⟩
          rw [hfinish]
          exact h.finish_older hpending hv outcome
    · refine .inr ⟨?_, u, List.mem_cons_of_mem _ hu, hsettles⟩
      exact Stale.foldr hown hstale [v.id]

/-- All waits react: the stack stays in order exactly if no wait settles under the newest one. -/
theorem Ordered.foldr (h : c.Ordered o) :
    ((∀ v ∈ c.pending.tail, own v.id c = c) ∧
      ((c.pending.map CapacityWait.id).foldr own c).Ordered o) ∨
    (∃ v ∈ c.pending.tail, own v.id c ≠ c) ∧
      ((c.pending.map CapacityWait.id).foldr own c).Stale o := by
  cases hpending : c.pending with
  | nil => exact .inl ⟨nofun, h⟩
  | cons w older =>
    rw [List.map_cons, List.foldr_cons, List.tail_cons]
    obtain ⟨hsame, hall⟩ | ⟨hstale, hsettles⟩ :=
      h.foldr_older hown hpending (List.Subset.refl older)
    · refine .inl ⟨hall, ?_⟩
      rw [hsame]
      obtain hsame' | ⟨outcome, hfinish⟩ := hown w.id c
      · rwa [hsame']
      · rw [hfinish]
        exact h.finish_top hpending outcome
    · exact .inr ⟨hsettles, Stale.foldr hown hstale [w.id]⟩

end Settling

/-! ## Steps -/

/-- The event settles no wait but the newest.  The original handler does not throw where it takes a
rejection from a wait. -/
def Orderly (c : WaitingChannel H) : ChannelEvent → Prop
  | .bufferedamountlow throws =>
    (throws = true ∧ c.handlers.onbufferedamountlow.original.isSome = true) ∨
      ∀ w ∈ c.pending.tail, w.lowWaterMark < c.bufferedAmount
  | .close throws => c.pending = [] ∨
    c.pending.tail = [] ∧ ¬ (throws = true ∧ c.handlers.onclose.original.isSome = true)
  | .error throws => c.pending = [] ∨
    c.pending.tail = [] ∧ ¬ (throws = true ∧ c.handlers.onerror.original.isSome = true)
  | .wait _ _ | .readyState _ | .bufferedAmount _ => True

/-- After some calls and with some waits pending, a handler is called once and
all waits are rejected. -/
structure RejectsAll (handler : Option H) (error : ProtocolError) (calls : List H)
    (waits : List CapacityWait) (c : WaitingChannel H) : Prop where
  called : c.called = calls ++ handler.toList
  pending : c.pending = []
  settled : ∀ w ∈ waits, (w.id, .error error) ∈ c.settled

/-- A close or error event during the waits calls the original handler once
and rejects all waits. -/
def Delivers (o : OriginalHandlers H) (c : WaitingChannel H) (event : ChannelEvent)
    (c' : WaitingChannel H) : Prop :=
  match event with
  | .close _ => c.pending ≠ [] → RejectsAll o.onclose channelClosed c.called c.pending c'
  | .error _ => c.pending ≠ [] → RejectsAll o.onerror channelFailed c.called c.pending c'
  | _ => True

theorem finish_ne {w : CapacityWait} (hw : w ∈ c.pending) (outcome : Checked Unit) :
    c.finish w.id outcome ≠ c := by
  rw [finish_of_pending hw]
  intro heq
  have hlength := congrArg (fun c => c.settled.length) heq
  simp at hlength

theorem Ordered.check_eq_self_iff (h : c.Ordered o) {w : CapacityWait} (hw : w ∈ c.pending) :
    c.check w.id = c ↔ w.lowWaterMark < c.bufferedAmount := by
  unfold check
  by_cases hle : (c.bufferedAmount : ℤ) ≤ w.lowWaterMark
  · rw [if_pos ⟨w, hw, rfl, hle⟩]
    exact ⟨fun heq => absurd heq (finish_ne hw _), fun hlt => absurd hle (not_le.2 hlt)⟩
  · rw [if_neg]
    · exact ⟨fun _ => not_le.1 hle, fun _ => rfl⟩
    · rintro ⟨v, hv, hid, hv'⟩
      exact hle (List.inj_on_of_nodup_map h.nodup hv hw hid ▸ hv')

/-- All waits that an event rejects are rejected, wherever they are on the stack. -/
theorem foldr_finish (error : ProtocolError) (c : WaitingChannel H) (ids : List ℕ) :
    (ids.foldr (fun id c => c.finish id (.error error)) c).called = c.called ∧
      (∀ w ∈ (ids.foldr (fun id c => c.finish id (.error error)) c).pending, w ∈ c.pending ∧
        w.id ∉ ids) ∧
      ∀ w ∈ c.pending, w ∈ (ids.foldr (fun id c => c.finish id (.error error)) c).pending ∨
        (w.id, .error error) ∈ (ids.foldr (fun id c => c.finish id (.error error)) c).settled := by
  induction ids with
  | nil => exact ⟨rfl, fun w hw => ⟨hw, List.not_mem_nil⟩, fun w hw => .inl hw⟩
  | cons id ids ih =>
    rw [List.foldr_cons]
    generalize ids.foldr (fun id c => c.finish id (.error error)) c = d at ih ⊢
    obtain ⟨hcalled, hpending, hsettled⟩ := ih
    by_cases hid : ∃ w ∈ d.pending, w.id = id
    · obtain ⟨v, hv, rfl⟩ := hid
      rw [finish_of_pending hv]
      refine ⟨hcalled, fun w hw => ?_, fun w hw => ?_⟩
      · obtain ⟨hw, hne⟩ := List.mem_filter.1 hw
        obtain ⟨hmem, hnotin⟩ := hpending w hw
        have hne : w.id ≠ v.id := of_decide_eq_true hne
        exact ⟨hmem, fun h => (List.mem_cons.1 h).elim hne hnotin⟩
      · obtain hw | hw := hsettled w hw
        · by_cases heq : w.id = v.id
          · rw [heq]
            exact .inr (List.mem_append_right _ (List.mem_singleton.2 rfl))
          · exact .inl (List.mem_filter.2 ⟨hw, by simp [heq]⟩)
        · exact .inr (List.mem_append_left _ hw)
    · rw [finish, if_neg hid]
      refine ⟨hcalled, fun w hw => ?_, hsettled⟩
      obtain ⟨hmem, hnotin⟩ := hpending w hw
      exact ⟨hmem, fun h => (List.mem_cons.1 h).elim (fun heq => hid ⟨w, hw, heq⟩) hnotin⟩

/-- An event that does not throw, or throws where nothing was there before, lets all waits react. -/
theorem call_of_not_throws (own : ℕ → WaitingChannel H → WaitingChannel H) {throws : Bool}
    {handler : Option H} (hthrows : ¬ (throws = true ∧ handler.isSome = true)) (ids : List ℕ)
    (c : WaitingChannel H) :
    (call own throws (.stacked handler ids) c).1 = ids.foldr own (c.log handler) := by
  rw [call_stacked, if_neg hthrows]

theorem call_of_throws (own : ℕ → WaitingChannel H → WaitingChannel H) {throws : Bool}
    {handler : Option H} (hthrows : throws = true ∧ handler.isSome = true) (ids : List ℕ)
    (c : WaitingChannel H) : (call own throws (.stacked handler ids) c).1 = c.log handler := by
  rw [call_stacked, if_pos hthrows]

theorem Stacked.callLow (hs : c.Stacked o ids) (throws : Bool) :
    c.callLow throws = (call check throws (.stacked o.onbufferedamountlow ids) c).1 := by
  rw [WaitingChannel.callLow, hs.handlers, OriginalHandlers.stacked]

theorem Stacked.callClose (hs : c.Stacked o ids) (throws : Bool) : c.callClose throws =
    (call (fun id c => c.finish id (.error channelClosed)) throws
      (.stacked o.onclose ids) c).1 := by
  rw [WaitingChannel.callClose, hs.handlers, OriginalHandlers.stacked]

theorem Stacked.callError (hs : c.Stacked o ids) (throws : Bool) : c.callError throws =
    (call (fun id c => c.finish id (.error channelFailed)) throws
      (.stacked o.onerror ids) c).1 := by
  rw [WaitingChannel.callError, hs.handlers, OriginalHandlers.stacked]

theorem Stale.call (h : c.Stale o) {own : ℕ → WaitingChannel H → WaitingChannel H}
    (hown : Settling own)
    (throws : Bool) (handler : Option H) (ids : List ℕ) :
    (WaitingChannel.call own throws (.stacked handler ids) c).1.Stale o := by
  have hlog : (c.log handler).Stale o := h.congr rfl rfl rfl
  by_cases hthrows : throws = true ∧ handler.isSome = true
  · rwa [call_of_throws own hthrows]
  · rw [call_of_not_throws own hthrows]
    exact hlog.foldr hown ids

/-- The rejection of all waits, by `close` and by `error`. -/
theorem Stacked.rejectsAll (hs : c.Stacked o ids) (error : ProtocolError) {throws : Bool}
    {handler : Option H} (hthrows : ¬ (throws = true ∧ handler.isSome = true)) :
    RejectsAll handler error c.called c.pending
      (call (fun id c => c.finish id (.error error)) throws (.stacked handler ids) c).1 := by
  rw [call_of_not_throws _ hthrows]
  obtain ⟨hcalled, hpending, hsettled⟩ := foldr_finish error (c.log handler) ids
  have hnone := List.eq_nil_iff_forall_not_mem.2 fun w hw =>
    (hpending w hw).2 (hs.pending w (hpending w hw).1)
  refine ⟨hcalled, hnone, fun w hw => ?_⟩
  obtain hw | hw := hsettled w hw
  · rw [hnone] at hw
    cases hw
  · exact hw

/-- A close or error event, on waits that are in order: it goes as it should, or leaves a stale
handler, or the exception of the original handler keeps the waits from settling. -/
theorem Ordered.reject (h : c.Ordered o) (error : ProtocolError) (throws : Bool)
    (handler : Option H) :
    let c' := (call (fun id c => c.finish id (.error error)) throws
      (.stacked handler (c.pending.map CapacityWait.id)) c).1
    ((c.pending = [] ∨ c.pending.tail = [] ∧ ¬ (throws = true ∧ handler.isSome = true)) ∧
      c'.Ordered o ∧ (c.pending ≠ [] → RejectsAll handler error c.called c.pending c')) ∨
    ¬ (c.pending = [] ∨ c.pending.tail = [] ∧ ¬ (throws = true ∧ handler.isSome = true)) ∧
      (c'.Stale o ∨ ¬ (c.pending ≠ [] → RejectsAll handler error c.called c.pending c')) := by
  intro c'
  have hlog : (c.log handler).Ordered o := h.congr rfl rfl rfl
  by_cases hthrows : throws = true ∧ handler.isSome = true
  · have hc' : c' = c.log handler := call_of_throws _ hthrows _ c
    rw [hc']
    by_cases hpending : c.pending = []
    · exact .inl ⟨.inl hpending, hlog, fun hne => absurd hpending hne⟩
    · refine .inr ⟨?_, .inr fun hrejects => hpending (hrejects hpending).pending⟩
      rintro (hnil | ⟨-, hnot⟩)
      · exact hpending hnil
      · exact hnot hthrows
  · have hc' : c' = (c.pending.map CapacityWait.id).foldr _ (c.log handler) :=
      call_of_not_throws _ hthrows _ c
    have hrejects : RejectsAll handler error c.called c.pending c' :=
      Stacked.rejectsAll h error hthrows
    obtain ⟨hall, hordered⟩ | ⟨⟨v, hv, -⟩, hstale⟩ := hlog.foldr (settling_finish (.error error))
    · have htail : c.pending.tail = [] := List.eq_nil_iff_forall_not_mem.2 fun v hv =>
        finish_ne (c := c.log handler) (List.mem_of_mem_tail hv) _ (hall v hv)
      exact .inl ⟨.inr ⟨htail, hthrows⟩, hc' ▸ hordered, fun _ => hrejects⟩
    · refine .inr ⟨?_, .inl (hc' ▸ hstale)⟩
      rintro (hnil | ⟨htail, -⟩)
      · rw [log, hnil] at hv
        cases hv
      · rw [log, htail] at hv
        cases hv

theorem Stacked.settle (hs : c.Stacked o ids) (outcome : Checked Unit) :
    (c.settle outcome).Stacked o ids where
  handlers := hs.handlers
  fresh i hi := (hs.fresh i hi).trans (Nat.lt_succ_self _)
  nodup := hs.nodup
  pending := hs.pending

theorem Stacked.install (hs : c.Stacked o ids) (lowWaterMark : ℤ) :
    (c.install lowWaterMark).Stacked o (c.nextId :: ids) where
  handlers := by
    rw [WaitingChannel.install, hs.handlers]
    rfl
  fresh := List.forall_mem_cons.2
    ⟨Nat.lt_succ_self _, fun i hi => (hs.fresh i hi).trans (Nat.lt_succ_self _)⟩
  nodup := List.nodup_cons.2 ⟨fun h => Nat.lt_irrefl _ (hs.fresh _ h), hs.nodup⟩
  pending := List.forall_mem_cons.2
    ⟨List.mem_cons_self, fun w hw => List.mem_cons_of_mem _ (hs.pending w hw)⟩

/-- What a call does to the channel. -/
theorem step_wait (c : WaitingChannel H) (highWaterMark lowWaterMark : ℤ) :
    c.step (.wait highWaterMark lowWaterMark) = c ∨
      (∃ outcome, c.step (.wait highWaterMark lowWaterMark) = c.settle outcome) ∨
      c.step (.wait highWaterMark lowWaterMark) = (c.install lowWaterMark).check c.nextId := by
  unfold step waitForDataChannelCapacity
  dsimp only
  cases validateWatermarks highWaterMark lowWaterMark with
  | error e => exact .inl rfl
  | ok _ =>
    simp only [bind, Except.bind, pure, Except.pure]
    split_ifs
    · exact .inr (.inl ⟨_, rfl⟩)
    · exact .inr (.inl ⟨_, rfl⟩)
    · exact .inr (.inr rfl)

theorem Ordered.wait (h : c.Ordered o) (highWaterMark lowWaterMark : ℤ) :
    (c.step (.wait highWaterMark lowWaterMark)).Ordered o := by
  obtain hstep | ⟨outcome, hstep⟩ | hstep := c.step_wait highWaterMark lowWaterMark
  · rwa [hstep]
  · rw [hstep]
    exact Stacked.settle h outcome
  · rw [hstep]
    have hinstalled : (c.install lowWaterMark).Ordered o := Stacked.install h lowWaterMark
    obtain hsame | ⟨outcome, hfinish⟩ := settling_check c.nextId (c.install lowWaterMark)
    · rwa [hsame]
    · rw [hfinish]
      exact hinstalled.finish_top (w := ⟨c.nextId, lowWaterMark⟩) rfl outcome

theorem Stale.wait (h : c.Stale o) (highWaterMark lowWaterMark : ℤ) :
    (c.step (.wait highWaterMark lowWaterMark)).Stale o := by
  obtain ⟨ids, hs, i, hi, hsettled⟩ := h
  obtain hstep | ⟨outcome, hstep⟩ | hstep := c.step_wait highWaterMark lowWaterMark
  · rw [hstep]
    exact ⟨ids, hs, i, hi, hsettled⟩
  · rw [hstep]
    exact ⟨ids, hs.settle outcome, i, hi, hsettled⟩
  · rw [hstep]
    have hinstalled : (c.install lowWaterMark).Stale o :=
      ⟨_, hs.install lowWaterMark, i, List.mem_cons_of_mem _ hi,
        List.forall_mem_cons.2 ⟨(hs.fresh i hi).ne', hsettled⟩⟩
    exact hinstalled.foldr settling_check [c.nextId]

theorem Stale.step (h : c.Stale o) (event : ChannelEvent) : (c.step event).Stale o := by
  obtain ⟨ids, hs, -⟩ := id h
  cases event with
  | wait highWaterMark lowWaterMark => exact h.wait highWaterMark lowWaterMark
  | readyState state => exact h.congr rfl rfl rfl
  | bufferedAmount amount => exact h.congr rfl rfl rfl
  | bufferedamountlow throws =>
    rw [WaitingChannel.step, hs.callLow]
    exact h.call settling_check throws _ ids
  | close throws =>
    have hclosed : ({ c with readyState := .closed } : WaitingChannel H).Stacked o ids :=
      hs.congr rfl rfl rfl
    have hstale : ({ c with readyState := .closed } : WaitingChannel H).Stale o :=
      h.congr rfl rfl rfl
    rw [WaitingChannel.step, hclosed.callClose]
    exact hstale.call (settling_finish _) throws _ ids
  | error throws =>
    rw [WaitingChannel.step, hs.callError]
    exact h.call (settling_finish _) throws _ ids

/-- A step from waits that are in order: if it is orderly they stay in order and it delivers, and
otherwise a stale handler stays behind or it does not deliver. -/
theorem Ordered.step (h : c.Ordered o) (event : ChannelEvent) :
    (c.Orderly event ∧ (c.step event).Ordered o ∧ Delivers o c event (c.step event)) ∨
      ¬ c.Orderly event ∧ ((c.step event).Stale o ∨ ¬ Delivers o c event (c.step event)) := by
  have hlow : c.handlers.onbufferedamountlow.original = o.onbufferedamountlow := by
    rw [h.handlers]
    exact ChannelHandler.original_stacked _ _
  have hclose : c.handlers.onclose.original = o.onclose := by
    rw [h.handlers]
    exact ChannelHandler.original_stacked _ _
  have herror : c.handlers.onerror.original = o.onerror := by
    rw [h.handlers]
    exact ChannelHandler.original_stacked _ _
  cases event with
  | wait highWaterMark lowWaterMark =>
    exact .inl ⟨trivial, h.wait highWaterMark lowWaterMark, trivial⟩
  | readyState state => exact .inl ⟨trivial, h.congr rfl rfl rfl, trivial⟩
  | bufferedAmount amount => exact .inl ⟨trivial, h.congr rfl rfl rfl, trivial⟩
  | bufferedamountlow throws =>
    have hlog : (c.log o.onbufferedamountlow).Ordered o := h.congr rfl rfl rfl
    rw [WaitingChannel.step, Stacked.callLow h, Orderly, hlow]
    by_cases hthrows : throws = true ∧ o.onbufferedamountlow.isSome = true
    · rw [call_of_throws _ hthrows]
      exact .inl ⟨.inl hthrows, hlog, trivial⟩
    · rw [call_of_not_throws _ hthrows]
      have hstay : ∀ v ∈ c.pending.tail, (c.log o.onbufferedamountlow).check v.id =
          c.log o.onbufferedamountlow ↔ v.lowWaterMark < c.bufferedAmount := fun v hv =>
        hlog.check_eq_self_iff (List.mem_of_mem_tail hv)
      obtain ⟨hall, hordered⟩ | ⟨⟨v, hv, hsettles⟩, hstale⟩ := hlog.foldr settling_check
      · exact .inl ⟨.inr fun v hv => (hstay v hv).1 (hall v hv), hordered, trivial⟩
      · refine .inr ⟨?_, .inl hstale⟩
        rintro (hthrows' | hall)
        · exact hthrows hthrows'
        · exact hsettles ((hstay v hv).2 (hall v hv))
  | close throws =>
    have hclosed : ({ c with readyState := .closed } : WaitingChannel H).Ordered o :=
      h.congr rfl rfl rfl
    rw [WaitingChannel.step, Stacked.callClose hclosed, Orderly, hclose]
    exact hclosed.reject channelClosed throws o.onclose
  | error throws =>
    rw [WaitingChannel.step, Stacked.callError h, Orderly, herror]
    exact h.reject channelFailed throws o.onerror

/-! ## Runs -/

theorem ordered_initial (readyState : ReadyState) (bufferedAmount : ℕ) (threshold : Option ℤ)
    (o : OriginalHandlers H) : (initial readyState bufferedAmount threshold o).Ordered o where
  handlers := rfl
  fresh := nofun
  nodup := List.nodup_nil
  pending := nofun

/-- When all waits of a run have settled, the handlers are the original ones and every close or
error event during the waits did what it should, exactly if all steps of the run were orderly. -/
theorem handlers_restored_iff {readyState : ReadyState} {bufferedAmount : ℕ} {threshold : Option ℤ}
    {o : OriginalHandlers H} {es : List ChannelEvent}
    (hsettled : c.pending = []) :
    (c.handlers = (initial readyState bufferedAmount threshold o).handlers ∧
        Run (fun a event b => a.step event = b ∧ Delivers o a event b)
          (initial readyState bufferedAmount threshold o) es c) ↔
      Run (fun a event b => a.step event = b ∧ a.Orderly event)
        (initial readyState bufferedAmount threshold o) es c := by
  have hinitial := ordered_initial readyState bufferedAmount threshold o
  have hkept : ∀ a event b, a.Ordered o → a.step event = b ∧ a.Orderly event →
      b.Ordered o ∧ Delivers o a event b := by
    rintro a event _ ha ⟨rfl, horderly⟩
    obtain ⟨-, h⟩ | ⟨hnot, -⟩ := ha.step event
    · exact h
    · exact absurd horderly hnot
  constructor
  · rintro ⟨hhandlers, hdelivers⟩
    change c.handlers = o.stacked [] at hhandlers
    generalize initial readyState bufferedAmount threshold o = a at hinitial hdelivers ⊢
    induction hdelivers with
    | nil => exact .nil _
    | @cons a b c event es hstep hrest ih =>
      obtain ⟨rfl, hdelivers⟩ := hstep
      obtain ⟨horderly, hordered, -⟩ | ⟨-, hstale | hnot⟩ := hinitial.step event
      · exact .cons ⟨rfl, horderly⟩ (ih hsettled hhandlers hordered)
      · -- the stale handler is still there at the end
        obtain ⟨ids, hs, i, hi, -⟩ : c.Stale o := hrest.invariant hstale fun _ event _ h hstep =>
          hstep.1 ▸ h.step event
        have hsame : o.stacked [] = o.stacked ids := hhandlers.symm.trans hs.handlers
        cases ids with
        | nil => cases hi
        | cons => cases congrArg ChannelHandlers.onclose hsame
      · exact absurd hdelivers hnot
  · intro horderly
    have hordered : c.Ordered o :=
      horderly.invariant hinitial fun a event b ha hstep => (hkept a event b ha hstep).1
    have hhandlers := hordered.handlers
    rw [hsettled] at hhandlers
    exact ⟨hhandlers, horderly.mono_of hinitial
      (fun a event b ha hstep => (hkept a event b ha hstep).1)
      fun a event b ha hstep => ⟨hstep.1, (hkept a event b ha hstep).2⟩⟩

/-- A full channel with handlers for `close` and `error`. -/
def fullChannel : WaitingChannel Unit := initial .opened 10 (some 0) ⟨none, some (), some ()⟩

/-- The second wait settles at 4 bytes, and the first at 1. -/
theorem handlers_restored_iff_nested : ∃ c,
    Run (fun a event b => a.step event = b ∧ Delivers ⟨none, some (), some ()⟩ a event
      b) fullChannel
      [.wait 10 2, .wait 10 5, .bufferedAmount 4, .bufferedamountlow false, .bufferedAmount 1,
        .bufferedamountlow false] c ∧ c.handlers = fullChannel.handlers := by
  have hrun : Run (fun a event b => a.step event = b ∧ a.Orderly event) fullChannel
      [.wait 10 2, .wait 10 5, .bufferedAmount 4, .bufferedamountlow false, .bufferedAmount 1,
        .bufferedamountlow false] _ :=
    .cons ⟨rfl, trivial⟩ (.cons ⟨rfl, trivial⟩ (.cons ⟨rfl, trivial⟩ (.cons ⟨rfl, .inr (by decide)⟩
      (.cons ⟨rfl, trivial⟩ (.cons ⟨rfl, .inr (by decide)⟩ (.nil _))))))
  obtain ⟨hhandlers, hdelivers⟩ := (handlers_restored_iff rfl).2 hrun
  exact ⟨_, hdelivers, hhandlers⟩

/-- Two waits settle at the same drain: the handlers of the first one stay. -/
theorem handlers_restored_iff_drain : ∃ c,
    Run (fun a event b => a.step event = b) fullChannel
      [.wait 10 4, .wait 10 4, .bufferedAmount 0, .bufferedamountlow false] c ∧
    c.pending = [] ∧ c.handlers ≠ fullChannel.handlers ∧
    c.handlers = fullChannel.handlers.map (.ofWait 0) :=
  ⟨_, .cons rfl (.cons rfl (.cons rfl (.cons rfl (.nil _)))), rfl, by decide, rfl⟩

end WaitingChannel

end SelfRelay
