import SelfRelay.Backend.Logout
import SelfRelay.Backend.SingleUseTickets

/-!
# Logging out while sockets are admitted

A logout commits the revocation of the device's sessions, and then disconnects the socket that is
registered for the device.  A call of `websocket_presence` that has looked its session up before the
revocation, and registers its socket after the disconnection, is not seen by either: its socket
stays. As long as no logout disconnects while such a call waits, no socket of a revoked session is
registered once the logout has returned (`logout_closes_sockets`).
-/

namespace SelfRelay.Backend

open StepSystem

/-- A logout, after the transaction that revokes. -/
inductive LogoutCall where
  | disconnect (account device : Uuid) (revoked : List Uuid)
  | returned (revoked : List Uuid)
  deriving DecidableEq, Repr

/-- The sessions that the logout revoked. -/
def LogoutCall.revoked : LogoutCall → List Uuid
  | disconnect _ _ revoked | returned revoked => revoked

/-- The call has looked up a session of the list, and not registered its socket yet. -/
def WebSocketCall.waits (revoked : List Uuid) : WebSocketCall → Bool
  | accept _ session | register _ session => session.id ∈ revoked
  | _ => false

/-- The session of the request. -/
def LogoutRequest.session : LogoutRequest → SessionRecord
  | logoutDevice session _ => session
  | logout session => session

structure LogoutState where
  sockets : WebSocketState
  logouts : List LogoutCall

inductive LogoutEvent where
  | socket (event : WebSocketEvent)
  | logout (request : LogoutRequest)
  | disconnect (place : ℕ)

/-- The sessions that are revoked in the second database and not in the first. -/
def newlyRevoked (db db' : Database) : List Uuid :=
  (db.sessions.filter fun s => s.revokedAt.isNone &&
    db'.sessions.any fun s' => s'.id = s.id && s'.revokedAt.isSome).map (·.id)

namespace LogoutState

def initial (db : Database) (now : Timestamp) : LogoutState := ⟨.initial db now, []⟩

variable (heartbeatTimeout : Timestamp) (s : LogoutState)

/-- The request has the session of a row. -/
def authenticated (request : LogoutRequest) : Bool :=
  s.sockets.db.sessions.any fun row => row.id = request.session.id &&
    row.userId = request.session.userId && row.deviceId = request.session.deviceId

def step : LogoutEvent → Option LogoutState
  | .socket event =>
    (s.sockets.step .sql heartbeatTimeout event).map fun sockets => { s with sockets }
  | .logout request =>
    if s.authenticated request then
      match request.revoke s.sockets.db s.sockets.now with
      | .error _ => some s
      | .ok db =>
        some {
          sockets := { s.sockets with db }
          logouts := s.logouts ++
            [.disconnect request.account request.device (newlyRevoked s.sockets.db db)] }
    else none
  | .disconnect place =>
    match s.logouts[place]? with
    | some (.disconnect account device revoked) =>
      (s.sockets.presence.step heartbeatTimeout (.disconnectDevice account device)).map
        fun presence => {
          sockets := { s.sockets with presence }
          logouts := s.logouts.set place (.returned revoked) }
    | _ => none

/-- No socket is registered that was admitted under a session which a logout that has
returned had revoked. -/
def Closed (s : LogoutState) : Prop :=
  ∀ revoked, .returned revoked ∈ s.logouts → ∀ ticket session connection,
    .serve ticket session connection ∈ s.sockets.calls → connection.sessionId ∈ revoked →
    s.sockets.presence.maps.isCurrent connection.toActiveConnection = false

/-- A logout that disconnects revoked no session that a call has looked up and not registered a
socket for yet. -/
def Quiet (s : LogoutState) : LogoutEvent → Prop
  | .disconnect place =>
    ∀ logout ∈ s.logouts[place]?, ∀ call ∈ s.sockets.calls, call.waits logout.revoked = false
  | _ => True

instance (s : LogoutState) (e : LogoutEvent) : Decidable (s.Quiet e) :=
  match e with
  | .disconnect place =>
    inferInstanceAs (Decidable (∀ logout ∈ s.logouts[place]?, ∀ call ∈ s.sockets.calls, _))
  | .socket _ | .logout _ => inferInstanceAs (Decidable True)

end LogoutState

/-! ## The revocation -/

/-- Only sessions of a device are changed. -/
def Database.Confined (account device : Uuid) (db db' : Database) : Prop :=
  ∀ s' ∈ db'.sessions, ∃ s ∈ db.sessions, s.id = s'.id ∧ s.userId = s'.userId ∧
    s.deviceId = s'.deviceId ∧ (s' = s ∨ s.userId = account ∧ s.deviceId = device)

section Revocation

variable {db db' : Database} {now : Timestamp} {account device : Uuid}

theorem Database.Confined.refl : db.Confined account device db :=
  fun s hs => ⟨s, hs, rfl, rfl, rfl, .inl rfl⟩

theorem Database.Confined.trans {db'' : Database} (h : db.Confined account device db')
    (h' : db'.Confined account device db'') : db.Confined account device db'' := by
  intro s'' hs''
  obtain ⟨s', hs', hid', huser', hdevice', hsame'⟩ := h' s'' hs''
  obtain ⟨s, hs, hid, huser, hdevice, hsame⟩ := h s' hs'
  refine ⟨s, hs, hid.trans hid', huser.trans huser', hdevice.trans hdevice', ?_⟩
  obtain rfl | ⟨haccount, hof⟩ := hsame'
  · exact hsame
  · exact .inr ⟨huser.trans haccount, hdevice.trans hof⟩

theorem Database.Confined.update {u : Update SessionRecord} {reason : String}
    (hset : u.set = SessionRecord.revoked now reason)
    (hselected : ∀ s ∈ db.sessions, u.selected s = true → s.userId = account ∧ s.deviceId = device)
    (hdb : db'.sessions = u.apply db.sessions) : db.Confined account device db' := by
  intro s' hs'
  rw [hdb] at hs'
  obtain ⟨s, hs, rfl⟩ := Update.mem_apply.1 hs'
  by_cases h : u.selected s = true
  · rw [Update.row_of_selected h, hset]
    exact ⟨s, hs, rfl, rfl, rfl, .inr (hselected s hs h)⟩
  · rw [Update.row_of_not_selected (Bool.eq_false_iff.2 h)]
    exact ⟨s, hs, rfl, rfl, rfl, .inl rfl⟩

/-- The revocation of a logout: the sessions go on, and only those of the device change. -/
theorem LogoutRequest.revoke_spec {request : LogoutRequest}
    (hids : (db.sessions.map (·.id)).Nodup)
    (hrow : ∃ row ∈ db.sessions, row.id = request.session.id ∧ row.userId = request.session.userId ∧
      row.deviceId = request.session.deviceId)
    (h : request.revoke db now = .ok db') :
    db.Follows now db' now ∧ (db'.sessions.map (·.id)).Nodup ∧
      db.Confined request.account request.device db' := by
  have hlogout : ∀ {db₁ : Database} {rows : List DeviceRecord},
      DeviceRepository.logoutWithSessions db now request.account request.device "logout" =
        .ok (db₁, rows) →
      db.Follows now db₁ now ∧ (db₁.sessions.map (·.id)).Nodup ∧
        db.Confined request.account request.device db₁ := by
    intro db₁ rows hlogout
    have hperform : DeviceRepository.perform db now
        (.logoutWithSessions request.account request.device "logout") =
        .ok (db₁, .device rows.head?) := congrArg (DeviceRepository.perform.first <$> ·) hlogout
    refine ⟨DeviceRepository.follows hperform, (DeviceRepository.carries hperform).ids hids, ?_⟩
    obtain ⟨-, ⟨-, rfl, -⟩ | rfl⟩ := DeviceRepository.withSessions_ok hlogout
    · exact .refl
    · refine .update (u := ⟨_, SessionRecord.revoked now "logout"⟩) rfl
        (fun s _ hselected => ?_) rfl
      simp only [SessionRepository.selectsDevice, Bool.and_eq_true, decide_eq_true_eq] at hselected
      exact hselected.1
  unfold revoke at h
  split at h
  case h_1 => cases h
  case h_2 hok =>
    cases h
    exact hlogout hok
  case h_3 db₁ hok =>
    obtain ⟨hfollows, hids₁, hconfined⟩ := hlogout hok
    split at h
    case h_1 => cases h
    case h_2 session =>
      split at h
      · cases h
      · rename_i db₂ rows hrevoke
        cases h
        have hperform : SessionRepository.perform db₁ now
          (.revoke session.userId session.id "logout") =
            .ok (db', .session rows.head?) :=
              congrArg (SessionRepository.perform.first <$> ·) hrevoke
        refine ⟨hfollows.trans (SessionRepository.follows hperform),
          (SessionRepository.carries hperform).ids hids₁, hconfined.trans ?_⟩
        obtain ⟨-, rfl, -⟩ :=
          updateSessions_ok (u := ⟨_, SessionRecord.revoked now "logout"⟩) hrevoke
        refine .update (u := ⟨SessionRepository.selectsId session.userId session.id,
          SessionRecord.revoked now "logout"⟩) rfl (fun s hs hselected => ?_) rfl
        simp only [SessionRepository.selectsId, Bool.and_eq_true, decide_eq_true_eq] at hselected
        obtain ⟨row, hrow, hrowid, hrowuser, hrowdevice⟩ := hrow
        -- the row of the session that is authenticated is the one that is revoked
        obtain ⟨s₀, hs₀, hid₀, -, hdevice₀, -⟩ := hconfined s hs
        obtain rfl : s₀ = row := List.inj_on_of_nodup_map hids hs₀ hrow
          ((hid₀.trans hselected.1.2).trans hrowid.symm)
        exact ⟨hselected.1.1, hdevice₀.symm.trans hrowdevice⟩

/-- The sessions that a logout revokes have ended after it, and are of its account and device. -/
theorem newlyRevoked_spec (hids : (db.sessions.map (·.id)).Nodup)
    (hconfined : db.Confined account device db') {session : Uuid}
    (h : session ∈ newlyRevoked db db') :
    ∃ row ∈ db'.sessions, row.id = session ∧ row.ended now = true ∧ row.userId = account ∧
      row.deviceId = device := by
  obtain ⟨s, hs, rfl⟩ := List.mem_map.1 h
  obtain ⟨hs, hselected⟩ := List.mem_filter.1 hs
  simp only [Bool.and_eq_true, Option.isNone_iff_eq_none, List.any_eq_true, decide_eq_true_eq]
    at hselected
  obtain ⟨hnone, s', hs', hid, hsome⟩ := hselected
  obtain ⟨s₀, hs₀, hid₀, huser, hdevice, hsame⟩ := hconfined s' hs'
  obtain rfl : s₀ = s := List.inj_on_of_nodup_map hids hs₀ hs (hid₀.trans hid)
  refine ⟨s', hs', hid, SessionRecord.ended_iff.2 (.inl hsome), ?_⟩
  obtain rfl | ⟨haccount, hof⟩ := hsame
  · rw [hnone] at hsome
    cases hsome
  · exact ⟨huser.symm.trans haccount, hdevice.symm.trans hof⟩

end Revocation

/-! ## Runs -/

namespace LogoutState

/-- What holds of a call when a logout has returned. -/
def ClosedTo (presence : PresenceSystem) (revoked : List Uuid) (call : WebSocketCall) : Prop :=
  call.waits revoked = false ∧ ∀ ticket session connection,
    call = .serve ticket session connection →
    session.id ∈ revoked → presence.maps.isCurrent connection.toActiveConnection = false

structure Sound (s : LogoutState) : Prop where
  sockets : s.sockets.Sound .sql
  admission : Admission s.sockets.presence.maps
  admitted : ∀ ticket session connection, .serve ticket session connection ∈ s.sockets.calls →
    connection.id ∈ s.sockets.presence.admitted
  rows : ∀ call ∈ s.sockets.calls, ∀ ticket session, call.found = some (ticket, session) →
    ∃ row ∈ s.sockets.db.sessions, row.id = session.id ∧ row.userId = session.userId ∧
      row.deviceId = session.deviceId
  ended : ∀ logout ∈ s.logouts, ∀ session ∈ logout.revoked,
    ∃ row ∈ s.sockets.db.sessions, row.id = session ∧ row.ended s.sockets.now = true
  device : ∀ account device revoked, .disconnect account device revoked ∈ s.logouts →
    ∀ session ∈ revoked, ∃ row ∈ s.sockets.db.sessions, row.id = session ∧ row.userId = account ∧
      row.deviceId = device
  closed : ∀ revoked, .returned revoked ∈ s.logouts → ∀ call ∈ s.sockets.calls,
    ClosedTo s.sockets.presence revoked call

section Sockets

variable {heartbeatTimeout : Timestamp} {s t : WebSocketState} {e : WebSocketEvent}

/-- The presence manager performs one critical section, or none. -/
theorem presence_step (hstep : Step (WebSocketState.step .sql heartbeatTimeout) s e t) :
    t.presence = s.presence ∨ ∃ event,
      s.presence.step heartbeatTimeout event = some t.presence := by
  cases e with
  | clock now =>
    obtain ⟨-, heq⟩ := Option.ite_none_right_eq_some.1 hstep
    obtain rfl := Option.some.inj heq
    exact .inl rfl
  | store op =>
    obtain ⟨db, -, rfl⟩ := Option.map_eq_some_iff.1 hstep
    exact .inl rfl
  | issue =>
    obtain ⟨-, heq⟩ := Option.ite_none_right_eq_some.1 hstep
    obtain rfl := Option.some.inj heq
    exact .inl rfl
  | socket event =>
    obtain ⟨-, heq⟩ := Option.ite_none_left_eq_some.1 hstep
    obtain ⟨presence, hpresence, rfl⟩ := Option.map_eq_some_iff.1 heq
    exact .inr ⟨event, hpresence⟩
  | connect tokenHash =>
    obtain rfl := Option.some.inj hstep
    exact .inl rfl
  | register place id =>
    simp only [Step, WebSocketState.step] at hstep
    split at hstep
    · obtain ⟨presence, hpresence, rfl⟩ := Option.map_eq_some_iff.1 hstep
      exact .inr ⟨_, hpresence⟩
    · cases hstep
  | _ =>
    simp only [Step, WebSocketState.step] at hstep
    split at hstep
    · obtain rfl := Option.some.inj hstep
      exact .inl rfl
    · cases hstep

/-- The id of a connection that is registered is recorded. -/
theorem admitted_register {place : ℕ} {id : Uuid}
    (hstep : Step (WebSocketState.step .sql heartbeatTimeout) s (.register place id) t) :
    id ∈ t.presence.admitted := by
  simp only [Step, WebSocketState.step] at hstep
  split at hstep
  · obtain ⟨presence, hpresence, rfl⟩ := Option.map_eq_some_iff.1 hstep
    obtain ⟨-, heq⟩ := Option.ite_none_left_eq_some.1 hpresence
    obtain rfl := Option.some.inj heq
    exact List.mem_cons_self
  · cases hstep

theorem admitted_mono {event : SocketEvent} {p q : PresenceSystem}
    (h : p.step heartbeatTimeout event = some q) {id : Uuid} (hid : id ∈ p.admitted) :
    id ∈ q.admitted := by
  obtain ⟨c, -, -, -, hids⟩ | ⟨-, hids⟩ := PresenceSystem.step_cases h
  · rw [hids]
    exact List.mem_cons_of_mem _ hid
  · rwa [hids]

/-- What a call has found, it had found before, or it looks it up now. -/
theorem found_cases {backing : Backing} {place : ℕ} {call call' : WebSocketCall}
    {tickets : WebSocketTickets} {ticket : WebSocketTicketRecord} {session : SessionRecord}
    (h : Moves backing s place e call tickets call')
    (hfound : call'.found = some (ticket, session)) :
    call.found = some (ticket, session) ∨
      call' = .accept ticket session ∧
        backing.findCurrentById s.db s.now ticket.sessionId = some session := by
  cases h with
  | found hlookup =>
    cases hfound
    exact .inr ⟨rfl, hlookup⟩
  | accepted => exact .inl hfound
  | registered => exact .inl hfound
  | turnedAway => exact .inl hfound
  | _ => cases hfound

end Sockets

section Steps

variable {heartbeatTimeout : Timestamp} {s t : LogoutState}

/-- The socket of a connection that is not registered stays away. -/
theorem ClosedTo.mono {p q : PresenceSystem} {revoked : List Uuid} {call : WebSocketCall}
    (h : ClosedTo p revoked call) (hadmission : Admission p.maps)
    (hadmitted : ∀ ticket session connection, call = .serve ticket session connection →
      connection.id ∈ p.admitted)
    (hstep : q = p ∨ ∃ event, p.step heartbeatTimeout event = some q) :
    ClosedTo q revoked call := by
  refine ⟨h.1, fun ticket session connection hcall hsession => ?_⟩
  have hnot := h.2 ticket session connection hcall hsession
  obtain rfl | ⟨event, hstep⟩ := hstep
  · exact hnot
  · exact (PresenceSystem.stale_step hadmission ⟨hadmitted _ _ _ hcall, hnot⟩ hstep).2

theorem sound_initial {db : Database} {now : Timestamp} (h : (db.sessions.map (·.id)).Nodup) :
    (initial db now).Sound where
  sockets := WebSocketState.sound_initial ⟨h, nofun⟩
  admission := PresenceMaps.admission_empty
  admitted := by rintro _ _ _ ⟨⟩
  rows := by rintro _ ⟨⟩
  ended := by rintro _ ⟨⟩
  device := by rintro _ _ _ ⟨⟩
  closed := by rintro _ ⟨⟩

/-- A session that a logout revoked is not found. -/
theorem Sound.not_revoked (hs : s.Sound) {logout : LogoutCall} (hlogout : logout ∈ s.logouts)
    {id : Uuid} {session : SessionRecord}
    (hfound : Backing.sql.findCurrentById s.sockets.db s.sockets.now id = some session) :
    session.id ∉ logout.revoked := by
  intro hrevoked
  obtain ⟨hmem, -, husable⟩ := Backing.findCurrentById_spec hs.sockets.consistent hfound
  obtain ⟨row, hrow, hid, hended⟩ := hs.ended logout hlogout session.id hrevoked
  obtain rfl := List.inj_on_of_nodup_map hs.sockets.consistent.ids hrow hmem hid
  exact SessionRecord.not_ended_of_usable husable hended

theorem Sound.step_socket {e : WebSocketEvent} (hs : s.Sound) {sockets : WebSocketState}
    (hstep : Step (WebSocketState.step .sql heartbeatTimeout) s.sockets e sockets) :
    ({ s with sockets } : LogoutState).Sound := by
  have hfollows := WebSocketState.step_follows hs.sockets hstep
  have hpresence := presence_step hstep
  have hcases : ∀ call' ∈ sockets.calls, call' ∈ s.sockets.calls ∨
      (∃ tokenHash, call' = .consume tokenHash) ∨
      ∃ place call tickets, call ∈ s.sockets.calls ∧
      Moves .sql s.sockets place e call tickets call' := by
    intro call' hcall'
    obtain ⟨place, hplace⟩ := List.mem_iff_getElem?.1 hcall'
    obtain hold | hnew | ⟨call, hcall, hmoves⟩ := WebSocketState.call_cases hs.sockets hstep hplace
    · exact .inl (List.mem_of_getElem? hold)
    · exact .inr (.inl hnew)
    · exact .inr (.inr ⟨place, call, _, List.mem_of_getElem? hcall, hmoves⟩)
  constructor
  case sockets => exact hs.sockets.step hstep
  case admission =>
    obtain hsame | ⟨event, hevent⟩ := hpresence
    · exact hsame.symm ▸ hs.admission
    · exact PresenceSystem.admission_step hs.admission hevent
  case admitted =>
    intro ticket session connection hserve
    obtain hold | ⟨tokenHash, hnew⟩ | ⟨place, call, tickets, hcall, hmoves⟩ := hcases _ hserve
    · have hid := hs.admitted ticket session connection hold
      obtain hsame | ⟨event, hevent⟩ := hpresence
      · exact hsame.symm ▸ hid
      · exact admitted_mono hevent hid
    · cases hnew
    · cases hmoves with
      | registered => exact admitted_register hstep
  case rows =>
    intro call' hcall' ticket session hfound
    have hrow : ∃ row ∈ s.sockets.db.sessions, row.id = session.id ∧ row.userId = session.userId ∧
        row.deviceId = session.deviceId := by
      obtain hold | ⟨tokenHash, rfl⟩ | ⟨place, call, tickets, hcall, hmoves⟩ := hcases call' hcall'
      · exact hs.rows call' hold ticket session hfound
      · cases hfound
      · obtain hfound' | ⟨-, hlookup⟩ := found_cases hmoves hfound
        · exact hs.rows call hcall ticket session hfound'
        · obtain ⟨hmem, -⟩ := Backing.findCurrentById_spec hs.sockets.consistent hlookup
          exact ⟨session, hmem, rfl, rfl, rfl⟩
    obtain ⟨row, hmem, hid, huser, hdevice⟩ := hrow
    obtain ⟨row', hmem', hbecomes⟩ := hfollows.becomes row hmem
    exact ⟨row', hmem', hbecomes.id.trans hid, hbecomes.user.trans huser,
      hbecomes.device.trans hdevice⟩
  case ended =>
    intro logout hlogout session hsession
    obtain ⟨row, hmem, hid, hended⟩ := hs.ended logout hlogout session hsession
    obtain ⟨row', hmem', hbecomes⟩ := hfollows.becomes row hmem
    exact ⟨row', hmem', hbecomes.id.trans hid, hbecomes.ended hended⟩
  case device =>
    intro account device revoked hlogout session hsession
    obtain ⟨row, hmem, hid, huser, hdevice⟩ :=
      hs.device account device revoked hlogout session hsession
    obtain ⟨row', hmem', hbecomes⟩ := hfollows.becomes row hmem
    exact ⟨row', hmem', hbecomes.id.trans hid, hbecomes.user.trans huser,
      hbecomes.device.trans hdevice⟩
  case closed =>
    intro revoked hlogout call' hcall'
    obtain hold | ⟨tokenHash, rfl⟩ | ⟨place, call, tickets, hcall, hmoves⟩ := hcases call' hcall'
    · refine (hs.closed revoked hlogout call' hold).mono hs.admission ?_ hpresence
      rintro ticket session connection rfl
      exact hs.admitted ticket session connection hold
    · exact ⟨rfl, nofun⟩
    · obtain ⟨hwaits, -⟩ := hs.closed revoked hlogout call hcall
      cases hmoves with
      | found hlookup => exact ⟨decide_eq_false (hs.not_revoked hlogout hlookup), nofun⟩
      | accepted => exact ⟨hwaits, nofun⟩
      | registered =>
        refine ⟨rfl, ?_⟩
        rintro _ _ _ ⟨⟩ hsession
        exact (of_decide_eq_false hwaits hsession).elim
      | _ => exact ⟨rfl, nofun⟩

theorem Sound.step_logout {request : LogoutRequest} (hs : s.Sound)
    (hstep : Step (LogoutState.step heartbeatTimeout) s (.logout request) t) : t.Sound := by
  obtain ⟨hauthenticated, hstep⟩ := Option.ite_none_right_eq_some.1 hstep
  have hrow : ∃ row ∈ s.sockets.db.sessions, row.id = request.session.id ∧
      row.userId = request.session.userId ∧ row.deviceId = request.session.deviceId := by
    simpa [authenticated, and_assoc] using hauthenticated
  split at hstep
  · obtain rfl := Option.some.inj hstep
    exact hs
  rename_i db hrevoke
  obtain rfl := Option.some.inj hstep
  have hids := hs.sockets.consistent.ids
  obtain ⟨hfollows, hids', hconfined⟩ := LogoutRequest.revoke_spec hids hrow hrevoke
  have hnew : ∀ session ∈ newlyRevoked s.sockets.db db, ∃ row ∈ db.sessions, row.id = session ∧
      row.ended s.sockets.now = true ∧ row.userId = request.account ∧
      row.deviceId = request.device :=
    fun _ => newlyRevoked_spec hids hconfined
  constructor
  case sockets =>
    refine ⟨⟨hids', nofun⟩, hs.sockets.keyed, fun call hcall => ?_, hs.sockets.once⟩
    exact (hs.sockets.calls call hcall).mono .refl hfollows
  case admission => exact hs.admission
  case admitted => exact hs.admitted
  case rows =>
    intro call hcall ticket session hfound
    obtain ⟨row, hmem, hid, huser, hdevice⟩ := hs.rows call hcall ticket session hfound
    obtain ⟨row', hmem', hbecomes⟩ := hfollows.becomes row hmem
    exact ⟨row', hmem', hbecomes.id.trans hid, hbecomes.user.trans huser,
      hbecomes.device.trans hdevice⟩
  case ended =>
    intro logout hlogout session hsession
    obtain hold | hlast := List.mem_append.1 hlogout
    · obtain ⟨row, hmem, hid, hended⟩ := hs.ended logout hold session hsession
      obtain ⟨row', hmem', hbecomes⟩ := hfollows.becomes row hmem
      exact ⟨row', hmem', hbecomes.id.trans hid, hbecomes.ended hended⟩
    · obtain rfl := List.mem_singleton.1 hlast
      obtain ⟨row, hmem, hid, hended, -⟩ := hnew session hsession
      exact ⟨row, hmem, hid, hended⟩
  case device =>
    intro account device revoked hlogout session hsession
    obtain hold | hlast := List.mem_append.1 hlogout
    · obtain ⟨row, hmem, hid, huser, hdevice⟩ :=
        hs.device account device revoked hold session hsession
      obtain ⟨row', hmem', hbecomes⟩ := hfollows.becomes row hmem
      exact ⟨row', hmem', hbecomes.id.trans hid, hbecomes.user.trans huser,
        hbecomes.device.trans hdevice⟩
    · cases List.mem_singleton.1 hlast
      obtain ⟨row, hmem, hid, -, huser, hdevice⟩ := hnew session hsession
      exact ⟨row, hmem, hid, huser, hdevice⟩
  case closed =>
    intro revoked hlogout
    obtain hold | hlast := List.mem_append.1 hlogout
    · exact hs.closed revoked hold
    · cases List.mem_singleton.1 hlast

theorem current_disconnectDevice (maps : PresenceMaps) (account device : Uuid) :
    (maps.disconnectDevice account device).current account device = none := by
  rw [PresenceMaps.disconnectDevice]
  cases hget : maps.connections.get account with
  | none => simp [PresenceMaps.current, hget]
  | some m =>
    dsimp only
    cases hdevice : m.get device with
    | none => simp [PresenceMaps.current, hget, hdevice]
    | some c =>
      dsimp only [PresenceMaps.popOutbound, PresenceMaps.keepAccount]
      split
      · simp [PresenceMaps.current, PresenceMaps.delAccount]
      · simp [PresenceMaps.current]

theorem Sound.step_disconnect {place : ℕ} (hs : s.Sound) (hquiet : s.Quiet (.disconnect place))
    (hstep : Step (LogoutState.step heartbeatTimeout) s (.disconnect place) t) : t.Sound := by
  simp only [Step, LogoutState.step] at hstep
  split at hstep
  case h_2 => cases hstep
  case h_1 account device revoked hplace =>
  obtain ⟨presence, hpresence, rfl⟩ := Option.map_eq_some_iff.1 hstep
  have hmem := List.mem_of_getElem? hplace
  have hmono : ∀ {revoked : List Uuid} {call : WebSocketCall}, call ∈ s.sockets.calls →
      ClosedTo s.sockets.presence revoked call → ClosedTo presence revoked call := by
    intro revoked call hcall h
    refine h.mono hs.admission ?_ (.inr ⟨_, hpresence⟩)
    rintro ticket session connection rfl
    exact hs.admitted ticket session connection hcall
  constructor
  case sockets => exact ⟨hs.sockets.consistent, hs.sockets.keyed, hs.sockets.calls, hs.sockets.once⟩
  case admission => exact PresenceSystem.admission_step hs.admission hpresence
  case admitted =>
    exact fun ticket session connection h =>
      admitted_mono hpresence (hs.admitted ticket session connection h)
  case rows => exact hs.rows
  case ended =>
    intro logout hlogout
    obtain hold | rfl := List.mem_or_eq_of_mem_set hlogout
    · exact hs.ended logout hold
    · exact hs.ended (.disconnect account device revoked) hmem
  case device =>
    intro account' device' revoked' hlogout
    obtain hold | hlast := List.mem_or_eq_of_mem_set hlogout
    · exact hs.device account' device' revoked' hold
    · cases hlast
  case closed =>
    intro revoked' hlogout call hcall
    obtain hold | hlast := List.mem_or_eq_of_mem_set hlogout
    · exact hmono hcall (hs.closed revoked' hold call hcall)
    · cases hlast
      refine ⟨hquiet _ hplace call hcall, ?_⟩
      rintro ticket session connection rfl hsession
      -- the socket was in the place of the device that the logout has emptied
      obtain ⟨row, hrow, hid, huser, hdevice⟩ := hs.rows _ hcall ticket session rfl
      obtain ⟨row', hrow', hid', huser', hdevice'⟩ :=
        hs.device account device revoked hmem _ hsession
      obtain rfl :=
        List.inj_on_of_nodup_map hs.sockets.consistent.ids hrow hrow' (hid.trans hid'.symm)
      obtain ⟨-, -, haccount, hof, -⟩ := hs.sockets.calls _ hcall
      have hmaps : presence.maps = s.sockets.presence.maps.disconnectDevice account device := by
        cases hpresence
        rfl
      rw [PresenceMaps.isCurrent, haccount, hof, ← huser, ← hdevice, huser', hdevice', hmaps,
        current_disconnectDevice]
      rfl

theorem Sound.step {e : LogoutEvent} (hs : s.Sound) (hquiet : s.Quiet e)
    (hstep : Step (LogoutState.step heartbeatTimeout) s e t) : t.Sound := by
  cases e with
  | socket event =>
    obtain ⟨sockets, hsockets, rfl⟩ := Option.map_eq_some_iff.1 hstep
    exact hs.step_socket hsockets
  | logout request => exact hs.step_logout hstep
  | disconnect place => exact hs.step_disconnect hquiet hstep

theorem Sound.isClosed (hs : s.Sound) : s.Closed := by
  intro revoked hlogout ticket session connection hserve hsession
  obtain ⟨-, -, -, -, hid⟩ := hs.sockets.calls _ hserve
  exact (hs.closed revoked hlogout _ hserve).2 ticket session connection rfl (hid ▸ hsession)

/-- In every run in which no logout disconnects while a call of `websocket_presence` waits, between
its lookup and its registration, with a session that the logout has revoked: once a logout has
returned, no socket is registered that was admitted under a session which it revoked. -/
theorem logout_closes_sockets {db : Database} {now : Timestamp} {es : List LogoutEvent}
    (hdb : (db.sessions.map (·.id)).Nodup)
    (hrun : Run (fun s e t => Step (step heartbeatTimeout) s e t ∧ s.Quiet e)
      (initial db now) es t) :
    t.Closed :=
  (hrun.invariant (I := Sound) (sound_initial hdb) fun _ _ _ h hstep =>
    h.step hstep.2 hstep.1).isClosed

end Steps

/-- A socket is admitted. -/
def admission : List LogoutEvent :=
  [.socket (.issue ⟨1⟩ ⟨5⟩ (List.replicate 32 7) 5 9 ⟨11⟩),
    .socket (.connect (List.replicate 32 7)),
    .socket (.consume 0), .socket (.lookup 0), .socket (.accept 0), .socket (.register 0 ⟨20⟩)]

/-- The device of the session is logged out. -/
def logout : List LogoutEvent := [.logout (.logout sessionDatabase.session), .disconnect 0]

theorem logout_closes_sockets_after_admission : ∃ t,
    Run (fun s e t => Step (step 60) s e t ∧ s.Quiet e) (initial sessionDatabase 5)
      (admission ++ logout) t ∧ .returned [⟨5⟩] ∈ t.logouts ∧ t.Closed := by
  have hexec : (exec (fun s e => if Quiet s e then step 60 s e else none)
    (initial sessionDatabase 5)
      (admission ++ logout)).any (fun t => t.logouts = [.returned [⟨5⟩]]) = true := by
    decide +kernel
  obtain ⟨t, hexec, hlogouts⟩ := (Option.any_eq_true _ _).1 hexec
  have hrun := Run.of_exec_guarded hexec
  have hlogouts := of_decide_eq_true hlogouts
  exact ⟨t, hrun, hlogouts ▸ List.mem_singleton_self _, logout_closes_sockets (by decide) hrun⟩

/-- A socket whose session was looked up before the logout is registered after it. -/
theorem logout_misses_socket : ∃ t,
    Run (Step (step 60)) (initial sessionDatabase 5)
      (admission.take 4 ++ logout ++ admission.drop 4) t ∧ ¬ t.Closed := by
  have hexec : (exec (step 60) (initial sessionDatabase 5)
      (admission.take 4 ++ logout ++ admission.drop 4)).any (fun t =>
        t.logouts = [.returned [⟨5⟩]] ∧
        t.sockets.calls.any fun call => match call with
          | .serve _ _ connection => connection.sessionId = ⟨5⟩ ∧
              t.sockets.presence.maps.isCurrent connection.toActiveConnection
          | _ => false) = true := by
    decide +kernel
  obtain ⟨t, hexec, ht⟩ := (Option.any_eq_true _ _).1 hexec
  obtain ⟨hlogouts, hcall⟩ := of_decide_eq_true ht
  refine ⟨t, Run.of_exec hexec, fun hclosed => ?_⟩
  obtain ⟨call, hmem, hcall⟩ := List.any_eq_true.1 hcall
  split at hcall
  · obtain ⟨hsession, hcurrent⟩ := of_decide_eq_true hcall
    have hnot := hclosed [⟨5⟩] (hlogouts ▸ List.mem_singleton_self _) _ _ _ hmem
      (hsession ▸ List.mem_singleton_self _)
    exact Bool.false_ne_true (hnot.symm.trans hcurrent)
  · cases hcall

end LogoutState

end SelfRelay.Backend
