import SelfRelay.Backend.LinkingOtpRepository
import SelfRelay.Lib.Run

/-!
# The lifecycle of devices

Over any run of calls of `DeviceRepository` and `DeviceLinkingOtpRepository`: a revoked device stays
revoked and keeps its key for itself, and an account has a fingerprint only once.
`revoke_all_for_account` revokes the active devices of an account.  A device that is logged out at
that time stays inactive, and `register_for_email` can activate it again; when there is none, no
device of the account comes back (`device_lifecycle`).
-/

namespace SelfRelay.Backend

open StepSystem

/-! ## The system -/

structure DeviceState where
  db : AuthDatabase
  now : Timestamp

inductive DeviceEvent where
  | clock (now : Timestamp)
  | device (op : DeviceOperation)
  | linking (op : LinkingOtpOperation)

namespace DeviceState

def step (s : DeviceState) : DeviceEvent → Option DeviceState
  | .clock now => if s.now ≤ now then some { s with now } else none
  | .device op =>
    match DeviceRepository.perform s.db.base s.now op with
    | .error _ => some s
    | .ok (base, _) => some { s with db := { s.db with base } }
  | .linking op => some { s with db := DeviceLinkingOtpRepository.perform s.db s.now op }

/-- `revoke_all_for_account` is called for an account none of whose devices is logged out. -/
def NoneLoggedOut (s : DeviceState) : DeviceEvent → Prop
  | .device (.revokeAllForAccount account _) =>
    ∀ d ∈ s.db.base.devices, d.userId = account → d.status ≠ .inactive
  | _ => True

instance (s : DeviceState) (e : DeviceEvent) : Decidable (s.NoneLoggedOut e) :=
  match e with
  | .device (.revokeAllForAccount ..) =>
    inferInstanceAs (Decidable (∀ d ∈ s.db.base.devices, _ → _))
  | .clock _ | .linking _ | .device (.create ..) | .device (.registerForEmail ..)
  | .device (.touchLastSeen ..) | .device (.rename ..) | .device (.revokeWithSessions ..)
  | .device (.logoutWithSessions ..) => inferInstanceAs (Decidable True)

end DeviceState

/-! ## What becomes of a device -/

/-- An account has a fingerprint only once. -/
def Database.UniqueFingerprints (db : Database) : Prop :=
  ∀ d ∈ db.devices, ∀ d' ∈ db.devices, d.userId = d'.userId →
    d.fingerprint = d'.fingerprint → d = d'

instance (db : Database) : Decidable db.UniqueFingerprints :=
  inferInstanceAs (Decidable (∀ d ∈ db.devices, ∀ d' ∈ db.devices, _ → _ → _))

/-- A later version of a device: the same device, with the same key, and revoked if it was. -/
structure DeviceRecord.Later (d d' : DeviceRecord) : Prop where
  id : d'.id = d.id
  userId : d'.userId = d.userId
  fingerprint : d'.fingerprint = d.fingerprint
  revoked : d.status = .revoked → d'.status = .revoked

section Later

variable {db db' : Database} {now : Timestamp} {d : DeviceRecord}

theorem DeviceRecord.Later.refl : d.Later d := ⟨rfl, rfl, rfl, fun h => h⟩

theorem DeviceRecord.Later.trans {d' d'' : DeviceRecord} (h : d.Later d') (h' : d'.Later d'') :
    d.Later d'' :=
  ⟨h'.id.trans h.id, h'.userId.trans h.userId, h'.fingerprint.trans h.fingerprint,
    fun hd => h'.revoked (h.revoked hd)⟩

theorem DeviceRecord.later_loggedOut : d.Later (DeviceRepository.loggedOut d) :=
  ⟨rfl, rfl, rfl, fun h => by rw [DeviceRepository.loggedOut, if_pos h, h]⟩

/-- The device that `register_for_email` activates is the one it found, and not revoked. -/
theorem DeviceOperation.Reactivates.not_revoked {account : Uuid} {epoch : ℤ} {label : String}
    {spki fingerprint : Bytea} {deviceId : Uuid}
    (h : (DeviceOperation.registerForEmail account epoch label spki fingerprint
      deviceId).Reactivates db)
    (hdb : db.UniqueFingerprints) (hd : d ∈ db.devices)
    (hselected : DeviceRepository.hasFingerprint account fingerprint d = true) :
    d.status ≠ .revoked := by
  obtain ⟨existing, hfind, hstatus⟩ := h
  have hfound := List.find?_some hfind
  simp only [DeviceRepository.hasFingerprint, Bool.and_eq_true,
    decide_eq_true_eq] at hselected hfound
  have heq : d = existing := hdb d hd existing (List.mem_of_find?_eq_some hfind)
    (hselected.1.trans hfound.1.symm) (hselected.2.trans hfound.2.symm)
  rwa [heq]

theorem DeviceOperation.later_device {op : DeviceOperation} (hop : op.Reactivates db)
    (hdb : db.UniqueFingerprints) (hd : d ∈ db.devices) : d.Later ((op.updates now).1.row d) := by
  by_cases hselected : (op.updates now).1.selected d = true
  · rw [Update.row_of_selected hselected]
    cases op with
    | create => cases hselected
    | registerForEmail account epoch label spki fingerprint deviceId =>
      have hstatus := hop.not_revoked hdb hd (Bool.and_eq_true_iff.1 hselected).1
      exact ⟨rfl, rfl, rfl, fun h => (hstatus h).elim⟩
    | touchLastSeen account device => exact ⟨rfl, rfl, rfl, fun h => h⟩
    | rename account device label => exact ⟨rfl, rfl, rfl, fun h => h⟩
    | revokeWithSessions account device reason => exact ⟨rfl, rfl, rfl, fun _ => rfl⟩
    | logoutWithSessions account device reason => exact DeviceRecord.later_loggedOut
    | revokeAllForAccount account reason => exact ⟨rfl, rfl, rfl, fun _ => rfl⟩
  · rw [Update.row_of_not_selected (Bool.eq_false_iff.2 hselected)]
    exact .refl

/-- The devices of a table are later versions of the devices of another one, or new. -/
structure Database.CarriesDevices (db db' : Database) : Prop where
  later : ∀ d ∈ db.devices, ∃ d' ∈ db'.devices, d.Later d'
  ids : (db.devices.map (·.id)).Nodup → (db'.devices.map (·.id)).Nodup
  fingerprints : db.UniqueFingerprints → db'.UniqueFingerprints

theorem Database.CarriesDevices.refl : db.CarriesDevices db :=
  ⟨fun d hd => ⟨d, hd, .refl⟩, fun h => h, fun h => h⟩

theorem Database.CarriesDevices.trans {db'' : Database} (h : db.CarriesDevices db')
    (h' : db'.CarriesDevices db'') : db.CarriesDevices db'' where
  later d hd := by
    obtain ⟨d', hd', hlater⟩ := h.later d hd
    obtain ⟨d'', hd'', hlater'⟩ := h'.later d' hd'
    exact ⟨d'', hd'', hlater.trans hlater'⟩
  ids hids := h'.ids (h.ids hids)
  fingerprints hprints := h'.fingerprints (h.fingerprints hprints)

theorem Database.CarriesDevices.insert (h : d.Inserted db now)
    (hdb : db'.devices = db.devices ++ [d]) : db.CarriesDevices db' where
  later d' hd' := ⟨d', hdb ▸ List.mem_append_left _ hd', .refl⟩
  ids hids := hdb ▸ Table.nodup_append_row hids h.freshId
  fingerprints hprints a ha b hb huser hprint := by
    rw [hdb, List.mem_append, List.mem_singleton] at ha hb
    obtain ha | rfl := ha
    · obtain hb | rfl := hb
      · exact hprints a ha b hb huser hprint
      · exact (h.freshFingerprint a ha huser hprint).elim
    · obtain hb | rfl := hb
      · exact (h.freshFingerprint b hb huser.symm hprint.symm).elim
      · rfl

theorem Database.CarriesDevices.update {u : Update DeviceRecord}
    (hdb : db'.devices = u.apply db.devices) (hprints : db.UniqueFingerprints)
    (h : ∀ d ∈ db.devices, d.Later (u.row d)) : db.CarriesDevices db' where
  later d hd := ⟨u.row d, hdb ▸ Update.mem_apply.2 ⟨d, hd, rfl⟩, h d hd⟩
  ids hids := by
    rw [hdb, Update.apply, List.map_map]
    exact (List.map_congr_left fun d hd => (h d hd).id) ▸ hids
  fingerprints _ a ha b hb huser hprint := by
    rw [hdb, Update.mem_apply] at ha hb
    obtain ⟨d, hd, rfl⟩ := ha
    obtain ⟨d', hd', rfl⟩ := hb
    rw [(h d hd).userId, (h d' hd').userId] at huser
    rw [(h d hd).fingerprint, (h d' hd').fingerprint] at hprint
    rw [hprints d hd d' hd' huser hprint]

theorem DeviceRepository.carriesDevices {op : DeviceOperation} {response : DeviceResponse}
    (hdb : db.UniqueFingerprints) (h : perform db now op = .ok (db', response)) :
    db.CarriesDevices db' := by
  obtain ⟨d, hinserted, rfl⟩ | ⟨hop, -, ⟨-, rfl⟩ | rfl⟩ := perform_cases h
  · exact .insert hinserted rfl
  · exact .refl
  · exact .update rfl hdb fun d hd => op.later_device hop hdb hd

end Later

/-! ## Runs -/

namespace DeviceState

variable {s t : DeviceState}

/-- The unique indexes of `private.devices`. -/
structure Sound (s : DeviceState) : Prop where
  ids : (s.db.base.devices.map (·.id)).Nodup
  fingerprints : s.db.base.UniqueFingerprints

theorem step_carries {e : DeviceEvent} (hs : s.Sound) (hstep : Step DeviceState.step s e t) :
    s.db.base.CarriesDevices t.db.base := by
  cases e with
  | clock now =>
    obtain ⟨-, heq⟩ := Option.ite_none_right_eq_some.1 hstep
    obtain rfl := Option.some.inj heq
    exact .refl
  | device op =>
    rw [Step, DeviceState.step] at hstep
    split at hstep
    · obtain rfl := Option.some.inj hstep
      exact .refl
    · rename_i db response hperform
      obtain rfl := Option.some.inj hstep
      exact DeviceRepository.carriesDevices hs.fingerprints hperform
  | linking op =>
    obtain rfl := Option.some.inj hstep
    obtain hdb | ⟨d, hinserted, hdb⟩ := DeviceLinkingOtpRepository.perform_base op
    · rw [hdb]
      exact .refl
    · exact .insert hinserted (congrArg Database.devices hdb)

theorem Sound.step {e : DeviceEvent} (hs : s.Sound)
    (hstep : Step DeviceState.step s e t) : t.Sound :=
  ⟨(step_carries hs hstep).ids hs.ids, (step_carries hs hstep).fingerprints hs.fingerprints⟩

theorem Sound.run {P : DeviceState → DeviceEvent → Prop} {es : List DeviceEvent} (hs : s.Sound)
    (hrun : Run (fun s e t => Step DeviceState.step s e t ∧ P s e) s es t) :
    t.Sound ∧ s.db.base.CarriesDevices t.db.base := by
  have hkept : ∀ s e t, s.Sound → (Step DeviceState.step s e t ∧ P s e) → t.Sound :=
    fun s e t h hstep => h.step hstep.1
  refine ⟨hrun.invariant hs hkept, ?_⟩
  exact hrun.related (Q := fun s t : DeviceState => s.db.base.CarriesDevices t.db.base) hs
    hkept (fun _ => .refl) (fun h h' => h.trans h') fun s e t h hstep => step_carries h hstep.1

/-- A device that was revoked is revoked. -/
theorem Sound.revoked (ht : t.Sound) (h : s.db.base.CarriesDevices t.db.base)
    {d d' : DeviceRecord} (hd : d ∈ s.db.base.devices) (hrevoked : d.status = .revoked)
    (hd' : d' ∈ t.db.base.devices) (hid : d'.id = d.id) : d'.status = .revoked := by
  obtain ⟨later, hmem, hlater⟩ := h.later d hd
  obtain rfl := List.inj_on_of_nodup_map ht.ids hd' hmem (hid.trans hlater.id.symm)
  exact hlater.revoked hrevoked

/-- When no device of the account is logged out, `revoke_all_for_account` revokes them all. -/
theorem revokeAll_revokes {account : Uuid} {reason : String} {db : Database}
    {response : DeviceResponse}
    (hperform : DeviceRepository.perform s.db.base s.now (.revokeAllForAccount account reason) =
      .ok (db, response))
    (hnone : s.NoneLoggedOut (.device (.revokeAllForAccount account reason)))
    (hstep : Step DeviceState.step s (.device (.revokeAllForAccount account reason)) t)
    {d : DeviceRecord} (hd : d ∈ s.db.base.devices) (huser : d.userId = account) :
    ∃ d' ∈ t.db.base.devices, d'.id = d.id ∧ d'.status = .revoked := by
  simp only [Step, DeviceState.step, hperform] at hstep
  obtain rfl := Option.some.inj hstep
  obtain ⟨⟨db₁, rows⟩, hok, heq⟩ := exists_of_map_eq_ok hperform
  cases heq
  obtain ⟨-, rfl⟩ := DeviceRepository.revokeAllForAccount_ok hok
  refine ⟨_, Update.mem_apply.2 ⟨d, hd, rfl⟩, ?_⟩
  cases hstatus : d.status with
  | active =>
    rw [Update.row_of_selected (by simp [DeviceOperation.updates, huser, hstatus])]
    exact ⟨rfl, rfl⟩
  | inactive => exact (hnone d hd huser hstatus).elim
  | revoked =>
    rw [Update.row_of_not_selected (by simp [DeviceOperation.updates, hstatus])]
    exact ⟨rfl, hstatus⟩

end DeviceState

/-- In every run in which `revoke_all_for_account` is called only for accounts without a logged-out
device: a revoked device stays revoked, and no other device of its account gets its key; an account
has a fingerprint only once; and after `revoke_all_for_account` has returned, none of the devices
that the account had then is active. -/
theorem device_lifecycle {s u t : DeviceState} {es fs : List DeviceEvent}
    (hids : (s.db.base.devices.map (·.id)).Nodup) (hprints : s.db.base.UniqueFingerprints)
    (hrun : Run (fun s e t => Step DeviceState.step s e t ∧ s.NoneLoggedOut e) s es u)
    (hrun' : Run (fun s e t => Step DeviceState.step s e t ∧ s.NoneLoggedOut e) u fs t) :
    (∀ d ∈ u.db.base.devices, d.status = .revoked →
        (∀ d' ∈ t.db.base.devices, d'.id = d.id → d'.status = .revoked) ∧
        ∀ d' ∈ t.db.base.devices, d'.userId = d.userId → d'.fingerprint = d.fingerprint →
        d'.id = d.id) ∧
      (∀ d ∈ t.db.base.devices, ∀ d' ∈ t.db.base.devices, d.userId = d'.userId →
        d.fingerprint = d'.fingerprint → d = d') ∧
      ∀ account reason rest db response,
        fs = .device (.revokeAllForAccount account reason) :: rest →
        DeviceRepository.perform u.db.base u.now (.revokeAllForAccount account reason) =
          .ok (db, response) →
        ∀ d ∈ u.db.base.devices, d.userId = account →
          ∀ d' ∈ t.db.base.devices, d'.id = d.id → d'.status ≠ .active := by
  obtain ⟨hu, -⟩ := DeviceState.Sound.run ⟨hids, hprints⟩ hrun
  obtain ⟨ht, hcarries⟩ := hu.run hrun'
  refine ⟨fun d hd hrevoked => ⟨fun d' hd' hid => ht.revoked hcarries hd hrevoked hd' hid, ?_⟩,
    ht.fingerprints, ?_⟩
  · intro d' hd' huser hprint
    obtain ⟨later, hmem, hlater⟩ := hcarries.later d hd
    have heq : d' = later := ht.fingerprints d' hd' later hmem (huser.trans hlater.userId.symm)
      (hprint.trans hlater.fingerprint.symm)
    rw [heq, hlater.id]
  · rintro account reason rest db response rfl hperform d hd huser d' hd' hid
    cases hrun' with
    | @cons _ v _ _ _ hstep hrest =>
      obtain ⟨d₁, hd₁, hid₁, hrevoked⟩ :=
        DeviceState.revokeAll_revokes hperform hstep.2 hstep.1 hd huser
      obtain ⟨ht', hcarries'⟩ := (hu.step hstep.1).run hrest
      rw [ht'.revoked hcarries' hd₁ hrevoked hd' (hid.trans hid₁.symm)]
      nofun

/-! ## A logged-out device -/

/-- An account with two active devices. -/
def twoDevices : DeviceState where
  db := ⟨sessionDatabase, ∅, ∅⟩
  now := 5

/-- All devices of the account are revoked, and one of their keys is registered again. -/
def revokeAndRegister : List DeviceEvent :=
  [.device (.revokeAllForAccount ⟨1⟩ "security"),
    .device (.registerForEmail ⟨1⟩ 0 "laptop" (offeredDatabase.device ⟨2⟩).signingPublicKeySpki
      (offeredDatabase.device ⟨2⟩).fingerprint ⟨7⟩)]

theorem device_lifecycle_two_devices : ∃ t,
    Run (fun s e t => Step DeviceState.step s e t ∧ s.NoneLoggedOut e) twoDevices
      revokeAndRegister t ∧
      ∀ d ∈ twoDevices.db.base.devices, ∀ d' ∈ t.db.base.devices, d'.id = d.id →
      d'.status ≠ .active := by
  have hrun :
    (exec (fun s e => if DeviceState.NoneLoggedOut s e then DeviceState.step s e else none)
      twoDevices revokeAndRegister).isSome = true := by
    decide +kernel
  obtain ⟨t, hexec⟩ := Option.isSome_iff_exists.1 hrun
  have hrun := Run.of_exec_guarded hexec
  refine ⟨t, hrun, fun d hd => ?_⟩
  have hlifecycle := (device_lifecycle (by decide) (by decide) (.nil _) hrun).2.2
  exact hlifecycle ⟨1⟩ "security" _ _ _ rfl rfl d hd (by revert d; decide)

/-- A device that was logged out when all devices were revoked becomes active again. -/
theorem logged_out_device_survives : ∃ t,
    Run (Step DeviceState.step) twoDevices
      (.device (.logoutWithSessions ⟨1⟩ ⟨2⟩) :: revokeAndRegister) t ∧
      ∃ d ∈ twoDevices.db.base.devices, d.userId = ⟨1⟩ ∧
        ∃ d' ∈ t.db.base.devices, d'.id = d.id ∧ d'.status = .active := by
  have hrun : (exec DeviceState.step twoDevices
      (.device (.logoutWithSessions ⟨1⟩ ⟨2⟩) :: revokeAndRegister)).any (fun t =>
      decide (∃ d ∈ twoDevices.db.base.devices, d.userId = ⟨1⟩ ∧
        ∃ d' ∈ t.db.base.devices, d'.id = d.id ∧ d'.status = .active)) = true := by
    decide +kernel
  obtain ⟨t, hexec, hactive⟩ := (Option.any_eq_true _ _).1 hrun
  exact ⟨t, Run.of_exec hexec, of_decide_eq_true hactive⟩

end SelfRelay.Backend
