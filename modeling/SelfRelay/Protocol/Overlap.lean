import SelfRelay.Lib.Entries
import SelfRelay.Protocol.Endpoint

/-!
# The type guard under overlapping sends

`createFrame` tests the next type against `sentType` before its `await` and writes `sentType` after
it, in the order in which the encryptions finish.  Calls that overlap are therefore tested against a
stale type, and the frames they return need not be a sequence the peer accepts
(`overlapping_accepts_rejected`).

The guard is sound exactly as long as it is not stale: every call that passes the checks must also
be allowed after each frame that can end up directly before it (`Endpoint.GuardCurrent`).  Under
that condition the returned frames are accepted in every state of a run
(`guarded_creates_accepted`).
-/

namespace SelfRelay

open StepSystem KeyOrder

/-! ## Sequences of types -/

/-- One more type at the end. -/
theorem typesAllowed_concat (d : FrameDirection) (previous : Option FrameType)
    (types : List FrameType) (next : FrameType) :
    typesAllowed d previous (types ++ [next]) = true ↔
      typesAllowed d previous types = true ∧
        follows d (types.getLast?.or previous) next = true := by
  induction types generalizing previous with
  | nil => simp [typesAllowed]
  | cons type types ih =>
    have hlast : (type :: types).getLast?.or previous = types.getLast?.or (some type) := by
      cases types <;> simp [List.getLast?_cons]
    rw [List.cons_append, typesAllowed, typesAllowed, Bool.and_eq_true, Bool.and_eq_true, ih,
      hlast, and_assoc]

namespace Endpoint

/-! ## What the peer sees -/

/-- The returned frames in counter order. -/
def returned (p : Endpoint) : List WireFrame :=
  p.createdInOrder.map fun x => ⟨x.1.header.type, x.1.plaintext, x.2.drop frameHeaderBytes⟩

/-- The stream of the other side, before it received anything. -/
def peer (p : Endpoint) : FrameStream :=
  .fresh p.stream.transferId p.stream.direction.opposite p.stream.confirmation

/-- The peer accepts frames with the types of the returned ones. -/
def PeerAccepts (p : Endpoint) (key : CryptoKey) (noncePrefix : Bytes) : Prop :=
  ∃ t, receiveAll key noncePrefix p.peer
    (WireFrame.numbered p.stream.transferId p.stream.direction 0 p.returned) = .ok t

section Returned

variable {p : Endpoint}

theorem SendInvariant.created_nodup (hp : p.SendInvariant) :
    (p.created.map fun x => x.1.header.counter).Nodup := by
  have h := hp.unsettled_nodup
  rw [List.map_append, List.nodup_append] at h
  simpa [Function.comp_def] using h.2.1

theorem SendInvariant.length_returned (hp : p.SendInvariant) :
    p.returned.length ≤ maxFrameCounter + 1 := by
  have hle := Entries.length_le_of_nodup hp.created_nodup (n := maxFrameCounter + 1) (by
    simp only [List.forall_mem_map]
    exact fun x hx => Nat.lt_succ_of_le (hp.valid _ (hp.created_mem x hx)).1.counter_le)
  simpa [returned, createdInOrder, perm_byKey.length_eq] using hle

theorem SendInvariant.returned_admissible (hp : p.SendInvariant) :
    ∀ f ∈ p.returned, f.Admissible p.stream.confirmation := by
  simp only [returned, List.forall_mem_map, createdInOrder, mem_byKey]
  intro x hx
  have hmem := hp.created_mem x hx
  obtain ⟨hvalid, hdata, hlen⟩ := hp.valid _ hmem
  obtain ⟨ciphertext, hframe, hct⟩ := hp.created_frame x hx
  have hdrop : x.2.drop frameHeaderBytes = ciphertext := by
    rw [hframe, hdata, ← FrameHeader.length_bytes hvalid.uuid, List.drop_left]
  exact ⟨hlen ▸ hvalid.length_le, by rw [hdrop, hct], hp.confirm_body _ hmem⟩

/-- The peer accepts the returned frames exactly when their types are allowed. -/
theorem SendInvariant.peerAccepts_iff (hp : p.SendInvariant)
    (hid : isUuid p.stream.transferId = true) (key : CryptoKey) {noncePrefix : Bytes}
    (hnonce : noncePrefix.length = 4) :
    p.PeerAccepts key noncePrefix ↔
      typesAllowed p.stream.direction none (p.returned.map WireFrame.type) = true :=
  (receiveAll_fresh_iff hid hnonce p.stream.direction hp.returned_admissible
    hp.length_returned).trans (typesAllowed_iff _ none _).symm

end Returned

/-! ## The guard when it is not stale -/

/-- A call of the given type may come directly after every frame that can end up before it: the
returned frame with the highest counter and the suspended calls with a higher one. -/
def GuardCurrent (p : Endpoint) (type : FrameType) : Prop :=
  ∀ c ∈ p.encrypting ++ p.created.map Prod.fst,
    (∀ x ∈ p.created, x.1.header.counter ≤ c.header.counter) →
      sequenceTypeAllowed (some c.header.type) type p.stream.direction = true

instance (p : Endpoint) (type : FrameType) : Decidable (p.GuardCurrent type) :=
  inferInstanceAs (Decidable (∀ c ∈ _, _))

/-- The condition on a step: a call that passes the checks of `createFrame` does so
with a current guard. -/
def Guarded (p : Endpoint) : StreamEvent → Prop
  | .createFrame _ _ type body => p.stream.checkCreate type body = .ok () → p.GuardCurrent type
  | _ => True

instance (p : Endpoint) (e : StreamEvent) : Decidable (p.Guarded e) :=
  match e with
  | .createFrame _ _ type body =>
    inferInstanceAs (Decidable (p.stream.checkCreate type body = .ok () → p.GuardCurrent type))
  | .encrypted .. | .receiveFrame .. | .decrypted .. => inferInstanceAs (Decidable True)

/-- A step that meets the condition. -/
def GuardedStep (p : Endpoint) (e : StreamEvent) (q : Endpoint) : Prop :=
  Step step p e q ∧ p.Guarded e

/-- However the suspended encryptions settle, the types in counter order stay allowed. -/
structure TypeInvariant (p : Endpoint) : Prop where
  send : p.SendInvariant
  confirmed : p.stream.sentConfirmation = true → p.created ≠ []
  allowed : ∀ calls : List EncryptCall, calls.Sublist p.encryptions →
    (∀ x ∈ p.created, x.1 ∈ calls) →
    (∀ c ∈ calls, c ∈ p.encrypting ++ p.created.map Prod.fst) →
      typesAllowed p.stream.direction none (calls.map fun c => c.header.type) = true

theorem typeInvariant_new (id : JsString) (d : FrameDirection) (confirmation : Option Bytes) :
    (new id d confirmation).TypeInvariant where
  send := sendInvariant_new id d confirmation
  confirmed := nofun
  allowed calls hsub _ _ := by
    obtain rfl := List.sublist_nil.1 hsub
    rfl

section TypeStep

variable {p : Endpoint}

/-- A call that passes the checks and the current guard may come last. -/
theorem TypeInvariant.follows_last (hp : p.TypeInvariant) {type : FrameType} {body : Bytes}
    (hcheck : p.stream.checkCreate type body = .ok ()) (hguard : p.GuardCurrent type)
    {calls : List EncryptCall} (hsub : calls.Sublist p.encryptions)
    (hcreated : ∀ x ∈ p.created, x.1 ∈ calls)
    (hlive : ∀ c ∈ calls, c ∈ p.encrypting ++ p.created.map Prod.fst) :
    follows p.stream.direction ((calls.map fun c => c.header.type).getLast?.or none) type =
      true := by
  obtain ⟨htravels, -, -, hdata⟩ := FrameStream.checkCreate_eq_ok.1 hcheck
  rw [Option.or_none, List.getLast?_map]
  rcases List.eq_nil_or_concat' calls with rfl | ⟨before, last, rfl⟩
  · -- nothing can have been returned, so only a confirmation passes the checks
    have hnil : p.created = [] :=
      List.eq_nil_iff_forall_not_mem.2 fun x hx => List.not_mem_nil (hcreated x hx)
    have hconfirm : type = .confirm := by
      by_contra hne
      exact hp.confirmed (hdata hne).1 hnil
    subst hconfirm
    simp [follows, htravels, sequenceTypeAllowed]
  · have hsorted := hp.send.increasing.sublist hsub
    rw [List.pairwise_append] at hsorted
    have hallowed := hguard last (hlive last (by simp)) fun x hx => by
      rcases List.mem_append.1 (hcreated x hx) with hx | hx
      · exact le_of_lt (hsorted.2.2 _ hx _ (by simp))
      · exact le_of_eq (by rw [List.mem_singleton.1 hx])
    simp [follows, htravels, hallowed]

theorem TypeInvariant.encrypt (hp : p.TypeInvariant) {key : CryptoKey} {noncePrefix : Bytes}
    {type : FrameType} {body : Bytes} {call : EncryptCall} (hguard : p.GuardCurrent type)
    (hcall : p.stream.createFrame key noncePrefix type body = (p.stream.reserved, .ok call)) :
    TypeInvariant { p with
      stream := p.stream.reserved
      encrypting := p.encrypting ++ [call]
      encryptions := p.encryptions ++ [call] } := by
  refine ⟨hp.send.encrypt hcall, hp.confirmed, fun calls hsub hcreated hlive => ?_⟩
  obtain ⟨hcheck, -, -, -, -, -, hheader⟩ := FrameStream.createFrame_eq_ok.1 hcall
  have hcounter : call.header.counter = p.stream.sendCounter.nextValue := by rw [hheader]; rfl
  have htype : call.header.type = type := by rw [hheader]; rfl
  have hnew : ∀ c ∈ p.encryptions, c ≠ call := by
    rintro c hc rfl
    exact Nat.ne_of_lt (hp.send.counter_lt c hc) hcounter
  obtain ⟨before, last, rfl, hbefore, hlast⟩ := List.sublist_append_iff.1 hsub
  -- the calls before the new one are a possible sequence of the state before the step
  have hcreated' : ∀ x ∈ p.created, x.1 ∈ before := fun x hx =>
    (List.mem_append.1 (hcreated x hx)).resolve_right fun h =>
      hnew _ (hp.send.created_mem x hx) (List.mem_singleton.1 (hlast.subset h))
  have hlive' : ∀ c ∈ before, c ∈ p.encrypting ++ p.created.map Prod.fst := fun c hc => by
    have h := hlive c (List.mem_append_left _ hc)
    simp only [List.mem_append, List.mem_singleton] at h ⊢
    rcases h with (h | h) | h
    · exact .inl h
    · exact absurd h (hnew c (hbefore.subset hc))
    · exact .inr h
  have hallowed := hp.allowed before hbefore hcreated' hlive'
  rcases List.sublist_singleton.1 hlast with rfl | rfl
  · rw [List.append_nil]
    exact hallowed
  · rw [List.map_append, List.map_singleton, htype]
    exact (typesAllowed_concat _ _ _ _).2
      ⟨hallowed, hp.follows_last hcheck hguard hbefore hcreated' hlive'⟩

theorem TypeInvariant.step (hp : p.TypeInvariant) {e : StreamEvent} {q : Endpoint}
    (h : GuardedStep p e q) : q.TypeInvariant := by
  have hsend := hp.send.step h.1
  cases step_moves h.1 with
  | createRefused => exact hp
  | counterLost => exact { hp with send := hsend }
  | encrypt hcall => exact hp.encrypt (h.2 (FrameStream.createFrame_eq_ok.1 hcall).1) hcall
  | encryptFailed =>
    refine { hp with send := hsend, allowed := fun calls hsub hcreated hlive => ?_ }
    refine hp.allowed calls hsub hcreated fun c hc => ?_
    exact (List.Sublist.append (List.eraseIdx_sublist _ _) (List.Sublist.refl _)).subset
      (hlive c hc)
  | createReturned hcall =>
    refine ⟨hsend, fun _ => by simp, fun calls hsub hcreated hlive => ?_⟩
    refine hp.allowed calls hsub (fun x hx => hcreated x (List.mem_append_left _ hx)) fun c hc => ?_
    have hc := hlive c hc
    simp only [List.map_append, List.map_singleton, List.mem_append, List.mem_singleton] at hc ⊢
    rcases hc with hc | hc | rfl
    · exact .inl (List.mem_of_mem_eraseIdx hc)
    · exact .inr hc
    · exact .inl (List.mem_of_getElem? hcall)
  | receiveRefused | decrypt | decryptFailed | counterConsumed | receiveReturned =>
    exact { hp with send := hsend }

/-- The returned frames are one of the possible sequences. -/
theorem TypeInvariant.returned_allowed (hp : p.TypeInvariant) :
    typesAllowed p.stream.direction none (p.returned.map WireFrame.type) = true := by
  have hsorted : (p.createdInOrder.map Prod.fst).Pairwise
      fun c d => c.header.counter < d.header.counter :=
    List.pairwise_map.2 (pairwise_lt_byKey hp.send.created_nodup)
  have hmem : ∀ c, c ∈ p.createdInOrder.map Prod.fst ↔ c ∈ p.created.map Prod.fst := by
    simp [createdInOrder, mem_byKey]
  have hsub : (p.createdInOrder.map Prod.fst).Sublist p.encryptions := by
    have hanti : Std.Antisymm fun c d : EncryptCall => c.header.counter < d.header.counter :=
      ⟨fun _ _ h h' => absurd h (Nat.lt_asymm h')⟩
    refine List.sublist_of_subperm_of_pairwise (List.subperm_of_subset ?_ fun c hc => ?_) hsorted
      hp.send.increasing
    · refine hsorted.imp ?_
      rintro c _ hlt rfl
      exact Nat.lt_irrefl _ hlt
    · obtain ⟨x, hx, rfl⟩ := List.mem_map.1 ((hmem c).1 hc)
      exact hp.send.created_mem x hx
  have hallowed := hp.allowed _ hsub
    (fun x hx => (hmem _).2 (List.mem_map_of_mem hx))
    (fun c hc => List.mem_append_right _ ((hmem c).1 hc))
  simpa [returned, Function.comp_def] using hallowed

end TypeStep

/-! ## The guard when it is stale -/

/-- Settle the suspended calls one after another: the calls to keep are
encrypted, the others fail. -/
def settleAll (keep : EncryptCall → Bool) (calls : List EncryptCall) : List StreamEvent :=
  calls.map fun c => .encrypted 0
    (if keep c then some (List.replicate (c.plaintext.length + frameTagBytes) 0) else none)

/-- A call with the frame it returns for an all-zero ciphertext. -/
def settledFrame (c : EncryptCall) : EncryptCall × Bytes :=
  (c, c.additionalData ++ List.replicate (c.plaintext.length + frameTagBytes) 0)

/-- The frames that `settleAll` returns. -/
def settled (keep : EncryptCall → Bool) (calls : List EncryptCall) : List (EncryptCall × Bytes) :=
  (calls.filter keep).map settledFrame

theorem step_encrypted_some {p : Endpoint} {place : ℕ} {call : EncryptCall} {ciphertext : Bytes}
    (hcall : p.encrypting[place]? = some call)
    (hlen : ciphertext.length = call.plaintext.length + frameTagBytes) :
    p.step (.encrypted place (some ciphertext)) = some { p with
      stream := p.stream.sentCounterApplied call.header.type
      encrypting := p.encrypting.eraseIdx place
      encrypted := p.encrypted ++ [(call, ciphertext)]
      created := p.created ++ [(call, call.additionalData ++ ciphertext)] } := by
  have hresume : p.stream.createFrameResume call (some ciphertext) = (_, .ok _) :=
    FrameStream.createFrameResume_eq_ok.2 ⟨rfl, ciphertext, rfl, hlen, rfl⟩
  simp [step, hcall, hresume]

theorem step_encrypted_none {p : Endpoint} {place : ℕ} {call : EncryptCall}
    (hcall : p.encrypting[place]? = some call) :
    p.step (.encrypted place none) = some { p with
      encrypting := p.encrypting.eraseIdx place } := by
  simp [step, hcall, FrameStream.createFrameResume, encryptFrameResume]

/-- Settling the first suspended call. -/
theorem step_settle (keep : EncryptCall → Bool) {p : Endpoint} {c : EncryptCall}
    {calls : List EncryptCall} (hp : p.encrypting = c :: calls) :
    ∃ q, p.step (.encrypted 0
        (if keep c then some (List.replicate (c.plaintext.length + frameTagBytes) 0) else none)) =
          some q ∧
      q.encrypting = calls ∧ q.created = p.created ++ settled keep [c] ∧
      q.stream.transferId = p.stream.transferId ∧ q.stream.direction = p.stream.direction := by
  have hhead : p.encrypting[0]? = some c := by rw [hp]; rfl
  have htail : p.encrypting.eraseIdx 0 = calls := by rw [hp]; rfl
  by_cases hkeep : keep c = true
  · rw [if_pos hkeep, step_encrypted_some hhead List.length_replicate]
    exact ⟨_, rfl, htail, by simp [settled, settledFrame, hkeep], rfl, rfl⟩
  · rw [if_neg hkeep, step_encrypted_none hhead]
    exact ⟨_, rfl, htail, by simp [settled, hkeep], rfl, rfl⟩

theorem run_settleAll (keep : EncryptCall → Bool) :
    ∀ (calls : List EncryptCall) {p : Endpoint}, p.encrypting = calls →
      ∃ q, Run (Step step) p (settleAll keep calls) q ∧
        q.created = p.created ++ settled keep calls ∧ q.stream.transferId = p.stream.transferId ∧
        q.stream.direction = p.stream.direction
  | [], p, _ => ⟨p, .nil p, by simp [settled], rfl, rfl⟩
  | c :: calls, p, hp => by
    obtain ⟨t, hstep, htail, hcreated, hid, hd⟩ := step_settle keep hp
    obtain ⟨q, hrun, hcreated', hid', hd'⟩ := run_settleAll keep calls htail
    refine ⟨q, .cons hstep hrun, ?_, hid'.trans hid, hd'.trans hd⟩
    rw [hcreated', hcreated, List.append_assoc, settled, settled, ← List.map_append,
      ← List.filter_append, List.singleton_append, settled]

/-- A sequence whose last two frames may not follow each other is refused. -/
theorem not_peerAccepts_of_last {p : Endpoint} (hp : p.SendInvariant)
    (hid : isUuid p.stream.transferId = true) {x y : EncryptCall × Bytes} (hx : x ∈ p.created)
    (hy : y ∈ p.created) (hlt : x.1.header.counter < y.1.header.counter)
    (hlast : ∀ z ∈ p.created, z.1.header.counter ≤ x.1.header.counter ∨ z = y)
    (hnot : sequenceTypeAllowed (some x.1.header.type) y.1.header.type p.stream.direction ≠ true)
    (key : CryptoKey) {noncePrefix : Bytes} (hnonce : noncePrefix.length = 4) :
    ¬ p.PeerAccepts key noncePrefix := by
  rw [hp.peerAccepts_iff hid key hnonce]
  intro hallowed
  have hsorted : p.createdInOrder.Pairwise fun a b => a.1.header.counter < b.1.header.counter :=
    pairwise_lt_byKey hp.created_nodup
  obtain ⟨before, hbefore⟩ := eq_concat_of_max hsorted (mem_byKey.2 hy) fun z hz => by
    rcases hlast z (mem_byKey.1 hz) with h | rfl
    · omega
    · exact le_rfl
  rw [hbefore, List.pairwise_append] at hsorted
  have hmem : ∀ z ∈ before, z ∈ p.created := fun z hz =>
    mem_byKey.1 (show z ∈ p.createdInOrder by simp [hbefore, hz])
  have hxmem : x ∈ before := by
    have hx' : x ∈ p.createdInOrder := mem_byKey.2 hx
    rw [hbefore, List.mem_append, List.mem_singleton] at hx'
    rcases hx' with h | rfl
    · exact h
    · exact absurd hlt (Nat.lt_irrefl _)
  obtain ⟨start, rfl⟩ := eq_concat_of_max hsorted.1 hxmem fun z hz => by
    rcases hlast z (hmem z hz) with h | rfl
    · exact h
    · exact absurd (hsorted.2.2 z hz z (by simp)) (Nat.lt_irrefl _)
  rw [returned, hbefore] at hallowed
  simp only [List.map_append, List.map_singleton] at hallowed
  have hfollows := ((typesAllowed_concat _ _ _ _).1 hallowed).2
  simp only [List.getLast?_concat, follows, Bool.and_eq_true] at hfollows
  exact hnot hfollows.1.2

/-- When the guard is stale for a call that reaches `encrypt`, some way to settle the suspended
calls returns frames that the peer refuses. -/
theorem stale_guard_rejected {p q : Endpoint} (hp : p.SendInvariant)
    (hid : isUuid p.stream.transferId = true) {key : CryptoKey} {noncePrefix : Bytes}
    {type : FrameType} {body : Bytes}
    (hstep : p.step (.createFrame key noncePrefix type body) = some q)
    (hreached : q.encryptions ≠ p.encryptions) (hstale : ¬ p.GuardCurrent type) :
    ∃ fs t, Run (Step step) q fs t ∧ ∀ key noncePrefix, noncePrefix.length = 4 →
      ¬ t.PeerAccepts key noncePrefix := by
  have hq := hp.step hstep
  cases step_moves hstep with
  | createRefused | counterLost => exact absurd rfl hreached
  | @encrypt _ _ _ _ call hcall =>
    obtain ⟨-, -, -, -, -, -, hheader⟩ := FrameStream.createFrame_eq_ok.1 hcall
    have hcounter : call.header.counter = p.stream.sendCounter.nextValue := by rw [hheader]; rfl
    have htype : call.header.type = type := by rw [hheader]; rfl
    simp only [GuardCurrent, not_forall] at hstale
    obtain ⟨c, hc, hmax, hnot⟩ := hstale
    have hcmem : c ∈ p.encryptions := by
      rcases List.mem_append.1 hc with h | h
      · exact hp.encrypting_mem c h
      · obtain ⟨x, hx, rfl⟩ := List.mem_map.1 h
        exact hp.created_mem x hx
    have hclt := hp.counter_lt c hcmem
    -- only the frame that the new one may not follow and the new one itself are encrypted
    obtain ⟨t, hrun, hcreated, htid, htd⟩ := run_settleAll (fun x => x = c ∨ x = call)
      (p.encrypting ++ [call]) (p := { p with
        stream := p.stream.reserved
        encrypting := p.encrypting ++ [call]
        encryptions := p.encryptions ++ [call] }) rfl
    have ht : t.SendInvariant := hrun.invariant hq fun _ _ _ h hs => h.step hs
    have hmem (x) : x ∈ t.created ↔ x ∈ p.created ∨
        ∃ d ∈ p.encrypting ++ [call], (d = c ∨ d = call) ∧ settledFrame d = x := by
      rw [hcreated, List.mem_append, settled, List.mem_map]
      simp only [List.mem_filter, decide_eq_true_eq, and_assoc]
    obtain ⟨x, hx, rfl⟩ : ∃ x ∈ t.created, x.1 = c := by
      rcases List.mem_append.1 hc with h | h
      · exact ⟨settledFrame c, (hmem _).2 (.inr ⟨c, by simp [h], .inl rfl, rfl⟩), rfl⟩
      · obtain ⟨x, hx, rfl⟩ := List.mem_map.1 h
        exact ⟨x, (hmem _).2 (.inl hx), rfl⟩
    refine ⟨_, t, hrun, fun key noncePrefix => not_peerAccepts_of_last (y := settledFrame call) ht
      (htid ▸ hid) hx ((hmem _).2 (.inr ⟨call, by simp, .inr rfl, rfl⟩))
        (hcounter ▸ hclt) ?_ ?_ key⟩
    · intro z hz
      rcases (hmem z).1 hz with h | ⟨d, -, rfl | rfl, rfl⟩
      · exact .inl (hmax z h)
      · exact .inl le_rfl
      · exact .inr rfl
    · rw [htd]
      exact htype ▸ hnot

/-! ## The two directions -/

/-- The identity of a stream does not change. -/
theorem transferId_run {p q : Endpoint} {es : List StreamEvent} (h : Run (Step step) p es q) :
    q.stream.transferId = p.stream.transferId := by
  refine h.invariant (I := fun t => t.stream.transferId = p.stream.transferId) rfl ?_
  intro s e t hs hstep
  cases step_moves hstep <;> exact hs

/-- In every run in which a call that passes the checks of `createFrame` has a current guard, the
peer accepts the types of the returned frames in counter order, in every state reached.  The
condition cannot be relaxed: a call that reaches `encrypt` past a stale guard can be continued to a
refused sequence. -/
theorem guarded_creates_accepted {id : JsString} {d : FrameDirection}
    {confirmation : Option Bytes} (hid : isUuid id = true) {es : List StreamEvent} {p : Endpoint}
    (h : Run GuardedStep (new id d confirmation) es p) :
    (∀ key noncePrefix, noncePrefix.length = 4 → p.PeerAccepts key noncePrefix) ∧
    ∀ key noncePrefix type body q, p.step (.createFrame key noncePrefix type body) = some q →
      q.encryptions ≠ p.encryptions → ¬ p.GuardCurrent type →
      ∃ fs t, Run (Step step) q fs t ∧ ∀ key noncePrefix, noncePrefix.length = 4 →
        ¬ t.PeerAccepts key noncePrefix := by
  have hp := h.invariant (typeInvariant_new id d confirmation) fun _ _ _ hp hs => hp.step hs
  have hid : isUuid p.stream.transferId = true :=
    transferId_run (h.mono fun _ _ _ hs => hs.1) ▸ hid
  refine ⟨fun key noncePrefix hnonce => ?_, fun _ _ _ _ _ => stale_guard_rejected hp.send hid⟩
  exact (hp.send.peerAccepts_iff hid key hnonce).2 hp.returned_allowed

/-- The confirmations are exchanged, an `accept` frame is returned, and then
a second one is refused. -/
def refusedAccept : List StreamEvent :=
  overlappingAccepts.take 5 ++ [.encrypted 0 (some (emptyFrame .accept).ciphertext),
    .createFrame ⟨[]⟩ [0, 0, 0, 0] .accept []]

theorem guarded_creates_accepted_accept :
    ∃ p, Run GuardedStep (new sampleTransferId .r2s none) refusedAccept p ∧
      p.PeerAccepts ⟨[]⟩ [0, 0, 0, 0] := by
  have hsome : (exec (fun p e => if p.Guarded e then p.step e else none)
      (new sampleTransferId .r2s none) refusedAccept).isSome = true := by
    decide +kernel
  have hrun := Run.of_exec_guarded (Option.some_get hsome).symm
  exact ⟨_, hrun, (guarded_creates_accepted (by decide +kernel) hrun).1 _ _ rfl⟩

/-- Two overlapping `accept` frames are both returned, and the peer refuses the second. -/
theorem overlapping_accepts_rejected :
    ¬ ∀ es p, Run (Step step) (new sampleTransferId .r2s none) es p →
      p.PeerAccepts ⟨[]⟩ [0, 0, 0, 0] := by
  intro hall
  have hrun := Run.of_exec (Option.some_get exec_overlappingAccepts).symm
  have haccepts := hall _ _ hrun
  rw [(sendInvariant_run hrun).peerAccepts_iff (by decide +kernel) ⟨[]⟩ rfl] at haccepts
  revert haccepts
  decide +kernel

end Endpoint

end SelfRelay
