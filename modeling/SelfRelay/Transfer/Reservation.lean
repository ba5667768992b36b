import SelfRelay.Lib.Entries
import SelfRelay.Transfer.Received
import SelfRelay.Transfer.Settlement

/-!
# Inbound reservations

Several recipients share one `InboundTransferRegistry`: the constructor reserves the device for the
transfer, and `close`, `fail` and the end of `sendTerminalFrame` release it.  Two things come
between. `handleComplete` ends the transfer without releasing (`completes`), and a release is keyed
by the device and the transfer, so that it also takes the reservation of another engine for the same
two. `breaks` says which events do this; without them the registry holds exactly the reservations of
the engines that are not over (`Held`).
-/

namespace SelfRelay

open StepSystem

/-! ## The registry -/

namespace InboundTransferRegistry

variable {registry registry' : InboundTransferRegistry} {device other transfer : JsString}

/-- Every device has at most one transfer. -/
def Unique (registry : InboundTransferRegistry) : Prop := (registry.active.map Prod.fst).Nodup

theorem get?_erase_self (registry : InboundTransferRegistry) (device : JsString) :
    (registry.erase device).get? device = none := by
  simp [get?, erase, List.find?_eq_none]

theorem get?_erase_of_ne (registry : InboundTransferRegistry) (h : other ≠ device) :
    (registry.erase device).get? other = registry.get? other := by
  unfold get? erase
  rw [List.find?_filter]
  congr 2
  funext entry
  by_cases hentry : entry.1 = other
  · simp [hentry, h]
  · simp [hentry]

theorem Unique.erase (h : registry.Unique) (device : JsString) : (registry.erase device).Unique :=
  h.sublist (List.Sublist.map _ List.filter_sublist)

theorem Unique.release (h : registry.Unique) (device transfer : JsString) :
    (registry.release device transfer).Unique := by
  unfold InboundTransferRegistry.release
  split
  · exact h.erase device
  · exact h

theorem reserve_eq_ok : registry.reserve device transfer = .ok registry' ↔
    (∀ existing ∈ registry.get? device, existing = transfer) ∧
      registry' = ⟨(registry.erase device).active ++ [(device, transfer)]⟩ := by
  simp only [reserve, bind_eq_ok, throwIf_eq_ok, pure_eq_ok, not_exists, not_and, ne_eq, not_not]
  constructor
  · rintro ⟨_, h, rfl⟩
    exact ⟨h, rfl⟩
  · rintro ⟨h, rfl⟩
    exact ⟨(), h, rfl⟩

theorem get?_reserve_self (h : registry.reserve device transfer = .ok registry') :
    registry'.get? device = some transfer := by
  obtain ⟨_, rfl⟩ := reserve_eq_ok.1 h
  have hnone := get?_erase_self registry device
  simp only [get?, Option.map_eq_none_iff] at hnone
  simp [get?, List.find?_append, hnone]

theorem get?_reserve_of_ne (h : registry.reserve device transfer = .ok registry')
    (hne : other ≠ device) : registry'.get? other = registry.get? other := by
  obtain ⟨_, rfl⟩ := reserve_eq_ok.1 h
  rw [← get?_erase_of_ne registry hne]
  have hlast : List.find? (fun entry => entry.1 = other) [(device, transfer)] = none := by
    simp [Ne.symm hne]
  simp [get?, List.find?_append, hlast]

theorem Unique.reserve (h : registry.Unique)
    (hreserve : registry.reserve device transfer = .ok registry') :
    registry'.Unique := by
  obtain ⟨_, rfl⟩ := reserve_eq_ok.1 hreserve
  unfold Unique
  rw [List.map_append, List.nodup_append]
  refine ⟨h.erase device, List.nodup_singleton _, ?_⟩
  rintro a ha b hb rfl
  obtain ⟨entry, hentry, rfl⟩ := List.mem_map.1 ha
  have hne := (List.mem_filter.1 hentry).2
  simp_all

end InboundTransferRegistry

/-! ## The recipients of a registry -/

namespace Engine

variable {runtime : Runtime} {e e' : Engine} {event : EngineEvent}

/-- The device and the transfer that the engine reserves. -/
def reservation (e : Engine) : Option (JsString × JsString) :=
  e.options.inboundDeviceId.map fun device => (device, e.options.transferId)

/-- `handleComplete` ends a transfer that is not over. -/
def completes (e : Engine) : EngineEvent → Bool
  | .resumeHandler =>
    match e.receiving with
    | some (.sendingReceipt _ send) => !e.isTerminal && e.sendResult send = some (.ok ())
    | _ => false
  | _ => false

/-- `handleManifest` takes up a transfer that is over. -/
def revives (runtime : Runtime) (e : Engine) : EngineEvent → Bool
  | .handle =>
    match e.receiving with
    | some (.received header plaintext) =>
      e.isTerminal && header.type = .manifest && e.acceptsManifest runtime plaintext
    | _ => false
  | _ => false

end Engine

/-- The recipients that were constructed with a registry; each has the registry as its own. -/
structure Recipients where
  registry : InboundTransferRegistry
  engines : List Engine
  deriving DecidableEq, Repr

/-- An engine is constructed, or one of them makes a step. -/
inductive RecipientsEvent where
  | construct (options : ConstructorOptions) (readyState : ReadyState)
  | act (i : ℕ) (event : EngineEvent)
  deriving DecidableEq, Repr

namespace Recipients

variable {runtime : Runtime} {s s' : Recipients} {i : ℕ} {e e' : Engine}

def empty : Recipients := ⟨⟨[]⟩, []⟩

/-- The engine sees the registry as it is now. -/
def engine (s : Recipients) (i : ℕ) : Option Engine :=
  s.engines[i]?.map fun e => { e with registry := s.registry }

/-- A constructor that throws leaves the registry alone. -/
def step (runtime : Runtime) (s : Recipients) : RecipientsEvent → Option Recipients
  | .construct options readyState =>
    if options.role = .recipient then
      match Engine.construct options s.registry readyState with
      | .ok e => some ⟨e.registry, s.engines ++ [e]⟩
      | .error _ => some s
    else none
  | .act i event => do
    let e ← (← s.engine i).step runtime event
    return ⟨e.registry, s.engines.set i e⟩

/-- Another engine that is not over has the same device and transfer. -/
def shared (s : Recipients) (i : ℕ) (reservation : JsString × JsString) : Bool :=
  s.engines.zipIdx.any fun entry =>
    entry.2 ≠ i && !entry.1.isTerminal && entry.1.reservation = some reservation

/-- The event takes the reservation of another engine, or leaves one that nobody uses, or takes up a
transfer without one. -/
def breaks (runtime : Runtime) (s : Recipients) : RecipientsEvent → Bool
  | .construct _ _ => false
  | .act i event =>
    match s.engine i with
    | some e =>
      match e.reservation with
      | some reservation =>
        if s.shared i reservation then e.ends event else e.completes event ||
          e.revives runtime event
      | none => false
    | none => false

/-! ## The invariant -/

/-- The registry holds the reservations of the engines that are not over. -/
structure Held (s : Recipients) : Prop where
  unique : s.registry.Unique
  recipients : ∀ e ∈ s.engines, e.options.role = .recipient ∧ e.EndsTerminal
  present : ∀ (i : ℕ) (e : Engine), s.engines[i]? = some e → e.isTerminal = false →
    ∀ r ∈ e.reservation, s.registry.get? r.1 = some r.2
  used : ∀ r : JsString × JsString, s.registry.get? r.1 = some r.2 →
    ∃ (i : ℕ) (e : Engine), s.engines[i]? = some e ∧ e.isTerminal = false ∧ e.reservation = some r

theorem shared_iff {r : JsString × JsString} : s.shared i r = true ↔
    ∃ (j : ℕ) (e : Engine), j ≠ i ∧ s.engines[j]? = some e ∧ e.isTerminal = false ∧
      e.reservation = some r := by
  simp only [shared, List.any_eq_true, Bool.and_eq_true, decide_eq_true_eq, Bool.not_eq_true',
    Prod.exists, List.mem_zipIdx_iff_getElem?]
  constructor
  · rintro ⟨e, j, hj, ⟨hne, hover⟩, hr⟩
    exact ⟨j, e, hne, hj, hover, hr⟩
  · rintro ⟨j, e, hne, hj, hover, hr⟩
    exact ⟨e, j, hj, ⟨hne, hover⟩, hr⟩

/-- An engine with the registry as it is now is the engine otherwise. -/
theorem engine_cases (h : s.engine i = some e) :
    ∃ e₀, s.engines[i]? = some e₀ ∧ e.options = e₀.options ∧ e.stateValue = e₀.stateValue ∧
      e.threads = e₀.threads ∧ e.registry = s.registry := by
  obtain ⟨e₀, hi, rfl⟩ := Option.map_eq_some_iff.1 h
  exact ⟨e₀, hi, rfl, rfl, rfl, rfl⟩

theorem reservation_eq (hoptions : e'.options = e.options) : e'.reservation = e.reservation := by
  unfold Engine.reservation
  rw [hoptions]

theorem isTerminal_eq (hstate : e'.stateValue = e.stateValue) : e'.isTerminal = e.isTerminal := by
  unfold Engine.isTerminal
  rw [hstate]

theorem Held.recipients_set (h : s.Held) (hi : s.engine i = some e)
    (hoptions : e'.options = e.options) (hterminates : e'.EndsTerminal) :
    ∀ a ∈ s.engines.set i e', a.options.role = .recipient ∧ a.EndsTerminal := by
  obtain ⟨e₀, hi₀, hoptions₀, _⟩ := engine_cases hi
  intro a ha
  rcases List.mem_or_eq_of_mem_set ha with ha | rfl
  · exact h.recipients a ha
  · rw [hoptions, hoptions₀]
    exact ⟨(h.recipients e₀ (List.mem_of_getElem? hi₀)).1, hterminates⟩

/-- An engine makes a step that leaves the registry alone. -/
theorem Held.set (h : s.Held) (hi : s.engine i = some e) (hoptions : e'.options = e.options)
    (hterminates : e'.EndsTerminal)
    (hpresent : e.isTerminal = true → e'.isTerminal = false → ∀ r ∈ e.reservation,
      s.shared i r = true)
    (hused : e.isTerminal = false → e'.isTerminal = true → ∀ r ∈ e.reservation,
      s.shared i r = true) :
    Held ⟨s.registry, s.engines.set i e'⟩ := by
  obtain ⟨e₀, hi₀, hoptions₀, hstate₀, _⟩ := engine_cases hi
  have hreservation : e'.reservation = e.reservation := reservation_eq hoptions
  have hreservation₀ : e.reservation = e₀.reservation := reservation_eq hoptions₀
  have hover₀ : e.isTerminal = e₀.isTerminal := isTerminal_eq hstate₀
  refine ⟨h.unique, h.recipients_set hi hoptions hterminates, ?_, ?_⟩
  · intro j a hj hlive r hr
    rcases Entries.getElem?_set_cases hj with ⟨rfl, rfl⟩ | ⟨_, hj⟩
    · rw [hreservation] at hr
      cases hover : e.isTerminal with
      | false => exact h.present j e₀ hi₀ (hover₀ ▸ hover) r (hreservation₀ ▸ hr)
      | true =>
        -- the engine took up its transfer again, and another one holds the reservation
        obtain ⟨k, b, _, hb, hlive, hb'⟩ := shared_iff.1 (hpresent hover hlive r hr)
        exact h.present k b hb hlive r hb'
    · exact h.present j a hj hlive r hr
  · intro r hr
    obtain ⟨j, a, hj, hlive, ha⟩ := h.used r hr
    have hlt : i < s.engines.length := (List.getElem?_eq_some_iff.1 hi₀).1
    by_cases hji : j = i
    · subst hji
      cases hj.symm.trans hi₀
      rw [← hreservation₀] at ha
      rw [← hover₀] at hlive
      cases hover : e'.isTerminal with
      | false => exact ⟨j, e', List.getElem?_set_self hlt, hover, hreservation.trans ha⟩
      | true =>
        -- the engine is over now, and another one holds the reservation
        obtain ⟨k, b, hk, hb, hlive, hr⟩ := shared_iff.1 (hused hlive hover r ha)
        exact ⟨k, b, (List.getElem?_set_ne hk.symm).trans hb, hlive, hr⟩
    · exact ⟨j, a, (List.getElem?_set_ne (Ne.symm hji)).trans hj, hlive, ha⟩

/-- An engine that is over now gives up a reservation that no other engine uses. -/
theorem Held.release (h : s.Held) (hi : s.engine i = some e) (hoptions : e'.options = e.options)
    (hterminates : e'.EndsTerminal) (hover : e'.isTerminal = true) {device transfer : JsString}
    (hreservation : e.reservation = some (device, transfer))
    (hshared : s.shared i (device, transfer) = false) :
    Held ⟨s.registry.release device transfer, s.engines.set i e'⟩ := by
  obtain ⟨e₀, hi₀, hoptions₀, _⟩ := engine_cases hi
  have hreservation₀ : e.reservation = e₀.reservation := reservation_eq hoptions₀
  have hother : ∀ (j : ℕ) (a : Engine), j ≠ i → s.engines[j]? = some a → a.isTerminal = false →
      a.reservation ≠ some (device, transfer) := by
    intro j a hji hj hlive ha
    rw [shared_iff.2 ⟨j, a, hji, hj, hlive, ha⟩] at hshared
    cases hshared
  refine ⟨h.unique.release device transfer, h.recipients_set hi hoptions hterminates, ?_, ?_⟩
  · intro j a hj hlive r hr
    rcases Entries.getElem?_set_cases hj with ⟨rfl, rfl⟩ | ⟨hji, hj⟩
    · rw [hover] at hlive
      cases hlive
    · have hget := h.present j a hj hlive r hr
      dsimp only
      unfold InboundTransferRegistry.release
      split_ifs with hheld
      · by_cases hdevice : r.1 = device
        · rw [hdevice, hheld] at hget
          have hr' : r = (device, transfer) := Prod.ext hdevice (Option.some.inj hget).symm
          exact absurd (hr' ▸ hr) (hother j a hji hj hlive)
        · rw [InboundTransferRegistry.get?_erase_of_ne _ hdevice, hget]
      · exact hget
  · intro r hr
    dsimp only at hr
    unfold InboundTransferRegistry.release at hr
    have hbefore : s.registry.get? r.1 = some r.2 ∧ r ≠ (device, transfer) := by
      split_ifs at hr with hheld
      · by_cases hdevice : r.1 = device
        · rw [hdevice, InboundTransferRegistry.get?_erase_self] at hr
          cases hr
        · rw [InboundTransferRegistry.get?_erase_of_ne _ hdevice] at hr
          exact ⟨hr, fun h => hdevice (congrArg Prod.fst h)⟩
      · refine ⟨hr, ?_⟩
        rintro rfl
        exact hheld hr
    obtain ⟨j, a, hj, hlive, ha⟩ := h.used r hbefore.1
    have hji : j ≠ i := by
      rintro rfl
      cases hj.symm.trans hi₀
      rw [← hreservation₀, hreservation] at ha
      exact hbefore.2 (Option.some.inj ha).symm
    exact ⟨j, a, (List.getElem?_set_ne hji.symm).trans hj, hlive, ha⟩

theorem role_of_checkReceipt {value : Bytes} {receipt : TransferReceipt}
    (h : e.checkReceipt value = .ok receipt) : e.options.role = .sender := by
  simp only [Engine.checkReceipt, bind_eq_ok, throwIf_eq_ok, not_or, ne_eq, not_not] at h
  exact h.choose_spec.1.1

section Act

variable {event : EngineEvent} (h : s.Held) (hi : s.engine i = some e)
  (hoptions : e'.options = e.options) (hterminates : e'.EndsTerminal)

include h hi hoptions hterminates

/-- The transfer is over after the step exactly when it was before. -/
theorem held_of_isTerminal_eq (hregistry : e'.registry = e.registry)
    (hover : e'.isTerminal = e.isTerminal) : Held ⟨e'.registry, s.engines.set i e'⟩ := by
  obtain ⟨_, _, _, _, _, hregistry₀⟩ := engine_cases hi
  rw [hregistry, hregistry₀]
  refine h.set hi hoptions hterminates ?_ ?_ <;> intro h₁ h₂ <;> rw [hover, h₁] at h₂ <;> cases h₂

theorem held_ended (hregistry : e'.registry = e.releaseInbound.registry)
    (hover : e'.isTerminal = true)
    (hends : e.ends event = true) (hbreaks : s.breaks runtime (.act i event) = false) :
    Held ⟨e'.registry, s.engines.set i e'⟩ := by
  obtain ⟨_, _, _, _, _, hregistry₀⟩ := engine_cases hi
  simp only [breaks, hi] at hbreaks
  rw [hregistry, Engine.releaseInbound]
  dsimp only
  rw [hregistry₀]
  cases hdevice : e.options.inboundDeviceId with
  | none =>
    have hnone : e.reservation = none := by simp [Engine.reservation, hdevice]
    refine h.set hi hoptions hterminates ?_ ?_ <;> intro _ _ r hr <;> rw [hnone] at hr <;> cases hr
  | some device =>
    have hsome : e.reservation = some (device, e.options.transferId) := by
      simp [Engine.reservation, hdevice]
    refine h.release hi hoptions hterminates hover hsome ?_
    rw [Bool.eq_false_iff]
    intro hshared
    simp [hsome, hshared, hends] at hbreaks

theorem held_revived (hregistry : e'.registry = e.registry) (hlive : e'.isTerminal = false)
    (hrevives : e.isTerminal = true → e.revives runtime event = true)
    (hbreaks : s.breaks runtime (.act i event) = false) :
    Held ⟨e'.registry, s.engines.set i e'⟩ := by
  obtain ⟨_, _, _, _, _, hregistry₀⟩ := engine_cases hi
  simp only [breaks, hi] at hbreaks
  rw [hregistry, hregistry₀]
  refine h.set hi hoptions hterminates ?_ ?_
  · intro hover _ r hr
    by_contra hshared
    have hr : e.reservation = some r := hr
    simp [hr, hshared, hrevives hover] at hbreaks
  · intro _ hover
    rw [hlive] at hover
    cases hover

theorem held_completed (hregistry : e'.registry = e.registry) (hover : e'.isTerminal = true)
    (hcompletes : e.isTerminal = false → e.completes event = true)
    (hbreaks : s.breaks runtime (.act i event) = false) :
    Held ⟨e'.registry, s.engines.set i e'⟩ := by
  obtain ⟨_, _, _, _, _, hregistry₀⟩ := engine_cases hi
  simp only [breaks, hi] at hbreaks
  rw [hregistry, hregistry₀]
  refine h.set hi hoptions hterminates ?_ ?_
  · intro _ hlive
    rw [hover] at hlive
    cases hlive
  · intro hlive _ r hr
    by_contra hshared
    have hr : e.reservation = some r := hr
    simp [hr, hshared, hcompletes hlive] at hbreaks

end Act

/-- One of the engines makes a step. -/
theorem held_act (h : s.Held) {event : EngineEvent} (hi : s.engine i = some e)
    (hstep : e.step runtime event = some e') (hbreaks : s.breaks runtime (.act i event) = false) :
    Held ⟨e'.registry, s.engines.set i e'⟩ := by
  obtain ⟨e₀, hi₀, hoptions₀, _, hthreads₀, _⟩ := engine_cases hi
  obtain ⟨hrole₀, hterminates₀⟩ := h.recipients e₀ (List.mem_of_getElem? hi₀)
  have hrole : e.options.role = .recipient := hoptions₀ ▸ hrole₀
  have hterminates : e.EndsTerminal := by
    unfold Engine.EndsTerminal
    rwa [hthreads₀]
  have hoptions := (Engine.step_advances hstep).options
  have hterminates' := Engine.endsTerminal_step hterminates hstep
  obtain ⟨awaited, heffect, -⟩ := (Engine.step_effect hterminates hstep).effect
  generalize hl : e'.ledger = l at heffect
  have hregistry : e'.registry = l.registry := congrArg Ledger.registry hl
  have hover : e'.isTerminal = l.state.isTerminal :=
    congrArg FileTransferState.isTerminal (congrArg Ledger.state hl)
  cases heffect with
  | kept hproceeds _ =>
    exact held_of_isTerminal_eq h hi hoptions hterminates' hregistry
      (hover.trans hproceeds.isTerminal_eq)
  | ended hends hstate =>
    exact held_ended h hi hoptions hterminates' hregistry (hover.trans hstate) hends hbreaks
  | manifest hreceiving htype haccepts =>
    refine held_revived h hi hoptions hterminates' hregistry hover (fun hover => ?_) hbreaks
    simp [Engine.revives, hreceiving, hover, htype, haccepts]
  | completed hreceiving hsend =>
    refine held_completed h hi hoptions hterminates' hregistry hover (fun hlive => ?_) hbreaks
    simp [Engine.completes, hreceiving, hlive, hsend]
  | receipt _ _ hcheck =>
    have hsender := role_of_checkReceipt hcheck
    rw [hrole] at hsender
    cases hsender
  | confirmed _ =>
    refine held_of_isTerminal_eq h hi hoptions hterminates' hregistry (hover.trans ?_)
    dsimp only
    split
    · rename_i hconfirming
      unfold Engine.isTerminal
      rw [hconfirming]
      rfl
    · rfl
  | accepted hsender =>
    rw [hrole] at hsender
    cases hsender
  | awaitConfirmation | expectAcceptance | awaitAcceptance | expectReceipt | awaitReceipt =>
    exact held_of_isTerminal_eq h hi hoptions hterminates' hregistry hover

/-! ## Construction -/

/-- A constructed engine is not over, and has reserved its device in the registry it is given. -/
theorem construct_reserves {o : ConstructorOptions} {registry : InboundTransferRegistry}
    {readyState : ReadyState} (h : Engine.construct o registry readyState = .ok e) :
    checkOptions o = .ok e.options ∧ Engine.reserveInbound e.options registry = .ok e.registry ∧
      e.isTerminal = false := by
  simp only [Engine.construct, bind_eq_ok, pure_eq_ok] at h
  obtain ⟨options, hoptions, stream, _, registry', hreserve, rfl⟩ := h
  split_ifs
  · have hserves := Engine.serves_start
      (Engine.initial options o.accepted stream registry' readyState)
    obtain ⟨state, _, hproceeds, hledger⟩ := Engine.start_ledger
      (Engine.initial options o.accepted stream registry' readyState)
    have hstate :
      (Engine.initial options o.accepted stream registry' readyState).start.1.stateValue =
        state := congrArg Ledger.state hledger
    refine ⟨hoptions.trans (congrArg _ hserves.options.symm), ?_, ?_⟩
    · show Engine.reserveInbound
        (Engine.initial options o.accepted stream registry' readyState).start.1.options registry = _
      rw [hserves.options]
      exact hreserve.trans (congrArg _ (congrArg Ledger.registry hledger).symm)
    · show (Engine.initial options o.accepted stream registry'
        readyState).start.1.stateValue.isTerminal = _
      rw [hstate]
      cases hproceeds <;> rfl
  · exact ⟨hoptions, hreserve, rfl⟩

theorem role_of_checkOptions {o : ConstructorOptions} {options : EngineOptions}
    (h : checkOptions o = .ok options) : options.role = o.role := by
  simp only [checkOptions, bind_eq_ok, pure_eq_ok] at h
  obtain ⟨_, _, _, _, _, _, _, _, _, _, _, _, rfl⟩ := h
  rfl

/-- What a new recipient makes of the registry: the same for every other device, and its own
reservation, where there was none or the same. -/
theorem reserveInbound_cases {registry registry' : InboundTransferRegistry}
    (hrole : e.options.role = .recipient)
    (h : Engine.reserveInbound e.options registry = .ok registry') :
    e.reservation = none ∧ registry' = registry ∨ ∃ device transfer,
      e.reservation = some (device, transfer) ∧
        registry.reserve device transfer = .ok registry' := by
  unfold Engine.reserveInbound at h
  rw [hrole] at h
  cases hdevice : e.options.inboundDeviceId with
  | none =>
    rw [hdevice] at h
    exact .inl ⟨by simp [Engine.reservation, hdevice], (Except.ok.inj h).symm⟩
  | some device =>
    rw [hdevice] at h
    exact .inr ⟨device, e.options.transferId, by simp [Engine.reservation, hdevice], h⟩

theorem held_construct (h : s.Held) {o : ConstructorOptions} {readyState : ReadyState}
    (hrole : o.role = .recipient) (hconstruct : Engine.construct o s.registry readyState = .ok e) :
    Held ⟨e.registry, s.engines ++ [e]⟩ := by
  obtain ⟨hoptions, hreserve, hlive⟩ := construct_reserves hconstruct
  have hrole' : e.options.role = .recipient := (role_of_checkOptions hoptions).trans hrole
  have hrecipients : ∀ a ∈ s.engines ++ [e], a.options.role = .recipient ∧ a.EndsTerminal := by
    intro a ha
    rcases List.mem_append.1 ha with ha | ha
    · exact h.recipients a ha
    · rw [List.mem_singleton.1 ha]
      exact ⟨hrole', Engine.endsTerminal_construct hconstruct⟩
  have hold : ∀ {j : ℕ} {a : Engine}, s.engines[j]? = some a → (s.engines ++ [e])[j]? = some a := by
    intro j a hj
    rwa [List.getElem?_append_left (List.getElem?_eq_some_iff.1 hj).1]
  have hcases : ∀ {j : ℕ} {a : Engine}, (s.engines ++ [e])[j]? = some a →
      s.engines[j]? = some a ∨ a = e := by
    intro j a hj
    rw [List.getElem?_append] at hj
    split_ifs at hj
    · exact .inl hj
    · exact .inr (List.mem_singleton.1 (List.mem_of_getElem? hj))
  rcases reserveInbound_cases hrole' hreserve with
    ⟨hnone, hsame⟩ | ⟨device, transfer, hsome, hreserved⟩
  · rw [hsame]
    refine ⟨h.unique, hrecipients, ?_, ?_⟩
    · intro j a hj ha r hr
      rcases hcases hj with hj | rfl
      · exact h.present j a hj ha r hr
      · rw [hnone] at hr
        cases hr
    · intro r hr
      obtain ⟨j, a, hj, ha, hr⟩ := h.used r hr
      exact ⟨j, a, hold hj, ha, hr⟩
  · refine ⟨h.unique.reserve hreserved, hrecipients, ?_, ?_⟩
    · intro j a hj ha r hr
      rcases hcases hj with hj | rfl
      · have hget := h.present j a hj ha r hr
        by_cases hdevice : r.1 = device
        · -- the device was reserved for the same transfer
          have htransfer : r.2 = transfer :=
            (InboundTransferRegistry.reserve_eq_ok.1 hreserved).1 r.2 (hdevice ▸ hget)
          rw [hdevice, htransfer]
          exact InboundTransferRegistry.get?_reserve_self hreserved
        · exact (InboundTransferRegistry.get?_reserve_of_ne hreserved hdevice).trans hget
      · cases hsome.symm.trans hr
        exact InboundTransferRegistry.get?_reserve_self hreserved
    · intro r hr
      by_cases hdevice : r.1 = device
      · have hget := InboundTransferRegistry.get?_reserve_self hreserved
        rw [← hdevice] at hget
        have htransfer : r.2 = transfer := Option.some.inj (hr.symm.trans hget)
        refine ⟨s.engines.length, e, List.getElem?_concat_length, hlive, ?_⟩
        rw [hsome, ← hdevice, ← htransfer]
      · have hget := InboundTransferRegistry.get?_reserve_of_ne hreserved hdevice
        obtain ⟨j, a, hj, ha, hr⟩ := h.used r (hget.symm.trans hr)
        exact ⟨j, a, hold hj, ha, hr⟩

/-! ## Runs -/

theorem held_step (h : s.Held) {event : RecipientsEvent} (hstep : s.step runtime event = some s')
    (hbreaks : s.breaks runtime event = false) : s'.Held := by
  cases event with
  | construct o readyState =>
    simp only [step] at hstep
    split_ifs at hstep with hrole
    split at hstep <;> cases hstep
    · rename_i hconstruct
      exact held_construct h hrole hconstruct
    · exact h
  | act i event =>
    simp only [step, Option.bind_eq_bind, Option.bind_eq_some_iff] at hstep
    obtain ⟨e, hi, e', he', hstep⟩ := hstep
    cases hstep
    exact held_act h hi he' hbreaks

theorem held_empty : empty.Held where
  unique := List.nodup_nil
  recipients := List.forall_mem_nil _
  present := by rintro i e ⟨⟩
  used := by rintro r ⟨⟩

theorem reserveInbound_of_free (registry : InboundTransferRegistry) (options : EngineOptions)
    (hfree : ∀ device ∈ options.inboundDeviceId, registry.get? device = none) :
    ∃ registry', Engine.reserveInbound options registry = .ok registry' := by
  unfold Engine.reserveInbound
  split
  · rename_i device _ hdevice
    refine ⟨_, InboundTransferRegistry.reserve_eq_ok.2 ⟨?_, rfl⟩⟩
    intro existing hexisting
    rw [hfree device hdevice] at hexisting
    cases hexisting
  · exact ⟨registry, rfl⟩

/-- A registry that has no transfer of the device does not keep an engine from being constructed. -/
theorem construct_of_free {registry : InboundTransferRegistry} {o : ConstructorOptions}
    {device : JsString} (hfree : registry.get? device = none)
    (hdevice : o.inboundDeviceId = some device)
    (readyState : ReadyState) :
    (Engine.construct o registry readyState).toOption.isSome =
      (Engine.construct o ⟨[]⟩ readyState).toOption.isSome := by
  unfold Engine.construct
  cases hoptions : checkOptions o with
  | error error => rfl
  | ok options =>
    have hfree' : ∀ d ∈ options.inboundDeviceId, d = device := by
      simp only [checkOptions, bind_eq_ok, pure_eq_ok] at hoptions
      obtain ⟨_, _, _, _, _, _, _, _, _, _, _, _, rfl⟩ := hoptions
      intro d hd
      have hd := (Option.filter_eq_some_iff.1 hd).1
      exact (Option.some.inj (hdevice.symm.trans hd)).symm
    obtain ⟨r₁, h₁⟩ := reserveInbound_of_free registry options fun d hd => hfree' d hd ▸ hfree
    obtain ⟨r₂, h₂⟩ := reserveInbound_of_free ⟨[]⟩ options fun _ _ => rfl
    cases hstream : FrameStream.create o.transferId (if o.role = .sender then .s2r else .r2s)
        (some o.material.confirmation) with
    | error error => simp [bind, Except.bind, hstream]
    | ok stream => simp [bind, Except.bind, hstream, h₁, h₂, pure, Except.pure, Except.toOption]

/-- Recipients that share a registry keep to their reservations, in every run in which no event
breaks them: a device has at most one, every engine that is not over has its own, and every
reservation belongs to such an engine, so that a device is free once its engines are over. -/
theorem reservations_held {es : List RecipientsEvent}
    (hrun : Run (fun a event b => Step (step runtime) a event b ∧ a.breaks runtime event = false)
      empty es s) :
    s.registry.Unique ∧
    (∀ e ∈ s.engines, e.isTerminal = false → ∀ r ∈ e.reservation,
      s.registry.get? r.1 = some r.2) ∧
    (∀ r : JsString × JsString, s.registry.get? r.1 = some r.2 →
      ∃ e ∈ s.engines, e.isTerminal = false ∧ e.reservation = some r) ∧
    ∀ device, (∀ e ∈ s.engines, e.options.inboundDeviceId = some device → e.isTerminal = true) →
      ∀ o readyState, o.inboundDeviceId = some device →
        (Engine.construct o s.registry readyState).toOption.isSome =
          (Engine.construct o ⟨[]⟩ readyState).toOption.isSome := by
  have hheld : s.Held := hrun.invariant held_empty fun a event b ha hb => held_step ha hb.1 hb.2
  refine ⟨hheld.unique, ?_, ?_, ?_⟩
  · intro e he hlive r hr
    obtain ⟨i, hi⟩ := List.getElem?_of_mem he
    exact hheld.present i e hi hlive r hr
  · intro r hr
    obtain ⟨i, e, hi, hlive, hr⟩ := hheld.used r hr
    exact ⟨e, List.mem_of_getElem? hi, hlive, hr⟩
  · intro device hover o readyState hdevice
    refine construct_of_free ?_ hdevice readyState
    by_contra hreserved
    obtain ⟨transfer, htransfer⟩ := Option.ne_none_iff_exists'.1 hreserved
    obtain ⟨i, e, hi, hlive, hr⟩ := hheld.used (device, transfer) htransfer
    obtain ⟨d, hd, hpair⟩ := Option.map_eq_some_iff.1 hr
    cases hpair
    rw [hover e (List.mem_of_getElem? hi) hd] at hlive
    cases hlive

/-! ## A transfer after another -/

def sampleDevice : JsString := js "device"

def sampleInbound (transferId : JsString) : ConstructorOptions :=
  { Engine.sampleOptions .recipient with transferId, inboundDeviceId := some sampleDevice }

def otherId : JsString := js "123e4567-e89b-42d3-a456-426614174001"

/-- The first transfer is closed, and the second one takes the device. -/
def closedThenOther : List RecipientsEvent :=
  [.construct (sampleInbound Engine.sampleId) .connecting, .act 0 .close,
    .construct (sampleInbound otherId) .connecting]

theorem reservations_held_other :
    ∃ s, Run (fun a event b => Step (step Engine.sampleRuntime) a event b ∧
        a.breaks Engine.sampleRuntime event = false) empty closedThenOther s ∧
      s.engines.map Engine.stateValue = [.closed, .idle] ∧
      ∀ r : JsString × JsString, s.registry.get? r.1 = some r.2 →
        ∃ e ∈ s.engines, e.isTerminal = false ∧ e.reservation = some r := by
  have h : ∃ s ∈ exec (fun a event =>
        if a.breaks Engine.sampleRuntime event = false then step Engine.sampleRuntime a event
        else none) empty closedThenOther,
      s.engines.map Engine.stateValue = [.closed, .idle] := by
    decide +kernel
  obtain ⟨s, hexec, hstates⟩ := h
  have hrun := Run.of_exec_guarded hexec
  exact ⟨s, hrun, hstates, (reservations_held hrun).2.2.1⟩

/-- The first transfer completes. -/
def completedInbound : List RecipientsEvent :=
  .construct (sampleInbound Engine.sampleId) .opened ::
    (Engine.sampleConfirm .s2r ++ Engine.sampleOffer ++ Engine.sampleTransfer).map (.act 0)

/-- The reservation of a completed transfer stays, and keeps every other
transfer from the device. -/
theorem completed_keeps_reservation :
    ∃ s, Run (Step (step Engine.sampleRuntime)) empty completedInbound s ∧
      s.engines.map Engine.stateValue = [.completed] ∧
      s.registry.get? sampleDevice = some Engine.sampleId ∧
      (Engine.construct (sampleInbound otherId) s.registry .opened).toOption.isSome = false ∧
      (Engine.construct (sampleInbound otherId) ⟨[]⟩ .opened).toOption.isSome = true := by
  have h : ∃ s ∈ exec (step Engine.sampleRuntime) empty completedInbound,
      s.engines.map Engine.stateValue = [.completed] ∧
      s.registry.get? sampleDevice = some Engine.sampleId ∧
      (Engine.construct (sampleInbound otherId) s.registry .opened).toOption.isSome = false ∧
      (Engine.construct (sampleInbound otherId) ⟨[]⟩ .opened).toOption.isSome = true := by
    decide +kernel
  obtain ⟨s, hexec, hrest⟩ := h
  exact ⟨s, .of_exec hexec, hrest⟩

end Recipients

end SelfRelay
