import RetroBrowser.SessionManager.Services.Frames
import RetroBrowser.SessionManager.Services.Outcomes
import RetroBrowser.SessionManager.Services.Sweep

/-!
Owns the exact result of one round of the sweep. The round decides from a
snapshot who is idle and inspects the others against a record that moves on with
each retirement. Contract: where inspections answer alike all along, a round
that returns closes what is over, retires who is idle or lost, and leaves
everything else as it is.
-/

namespace RetroBrowser.SessionManager

open RetroBrowser.Foundation Program

/-- Inspections find a runtime running and healthy as `ready` says, whenever they are made. -/
structure Dependencies.Steady (dependencies : Dependencies) (ready : UUID → Bool) : Prop where
  answers : ∀ index participantId handle,
    dependencies.inspected index participantId = .ok handle → handle.ready = ready participantId
  missing : ∀ index participantId error,
    dependencies.inspected index participantId = .error error → error.isOrchestration = true →
      ready participantId = false

namespace SessionService

/-! ## Who is retired -/

section Decisions

variable (ready : UUID → Bool) (stale : List Participant) (ownerUserId : String)

/-- An owner that is not idle and whose runtime is not ready ends the round. -/
def ownerFails (participant : Participant) : Bool :=
  participant ∉ stale && participant.userId = ownerUserId && !ready participant.participantId

/-- The participants retired one by one: the idle and lost ones before such an owner. -/
def retirees (items : List Participant) : List Participant :=
  (items.takeWhile fun item => !ownerFails ready stale ownerUserId item).filter fun item =>
    item ∈ stale || !ready item.participantId

variable {ready stale ownerUserId} {item : Participant} {items : List Participant}

theorem retirees_of_ownerFails (fails : ownerFails ready stale ownerUserId item = true) :
    retirees ready stale ownerUserId (item :: items) = [] := by
  simp [retirees, fails]

theorem retirees_cons (goesOn : ownerFails ready stale ownerUserId item = false)
    (retires : (item ∈ stale || !ready item.participantId) = true) :
    retirees ready stale ownerUserId (item :: items) =
      item :: retirees ready stale ownerUserId items := by
  simp only [retirees, List.takeWhile_cons, goesOn, Bool.not_false, if_true,
    List.filter_cons, retires]

theorem retirees_skip (goesOn : ownerFails ready stale ownerUserId item = false)
    (stays : (item ∈ stale || !ready item.participantId) = false) :
    retirees ready stale ownerUserId (item :: items) = retirees ready stale ownerUserId items := by
  simp only [retirees, List.takeWhile_cons, goesOn, Bool.not_false, if_true,
    List.filter_cons, stays, Bool.false_eq_true, if_false]

theorem mem_retirees (member : item ∈ retirees ready stale ownerUserId items) :
    item ∈ items ∧ ownerFails ready stale ownerUserId item = false ∧
      (item ∈ stale ∨ ready item.participantId = false) := by
  have ⟨inside, cause⟩ := List.mem_filter.mp member
  have goesOn := List.mem_takeWhile_imp inside
  exact ⟨(List.takeWhile_sublist _).subset inside, by simpa using goesOn, by simpa using cause⟩

/-- Where no owner fails, the whole list is worked through. -/
theorem mem_retirees_of_none (none : items.any (ownerFails ready stale ownerUserId) = false)
    (member : item ∈ items) (cause : item ∈ stale ∨ ready item.participantId = false) :
    item ∈ retirees ready stale ownerUserId items := by
  have whole : (items.takeWhile fun item => !ownerFails ready stale ownerUserId item) = items := by
    refine List.takeWhile_eq_self_iff.mpr fun other otherMember => ?_
    simpa using List.any_eq_false.mp none other otherMember
  rw [retirees, whole]
  exact List.mem_filter.mpr ⟨member, by simpa using cause⟩

end Decisions

end SessionService

/-! ## One loop over participants -/

open SessionService in
/-- What the loop over `items` makes of a record. -/
structure Session.Trims (ready : UUID → Bool) (stale items : List Participant)
    (current final : Session) : Prop where
  sameId : final.sessionId = current.sessionId
  terminal : ∀ item ∈ current.participants, item.state.terminal = true →
    item ∈ final.participants
  ended : ∀ item ∈ retirees ready stale current.ownerUserId items,
    ∃ entry ∈ final.participants,
    entry.participantId = item.participantId ∧ entry.state.terminal = true
  closes : items.any (ownerFails ready stale current.ownerUserId) = true → final.state = .closed
  /-- Otherwise the others stay as they are. -/
  survives : items.any (ownerFails ready stale current.ownerUserId) = false →
    final = { current with
      participants := final.participants, updatedAt := final.updatedAt
      revision := final.revision } ∧
    (∀ item ∈ current.participants,
      item ∉ retirees ready stale current.ownerUserId items → item ∈ final.participants) ∧
    (∀ item ∈ final.participants, item.state = .active →
      item ∈ current.participants ∧ item ∉ retirees ready stale current.ownerUserId items) ∧
    (retirees ready stale current.ownerUserId items = [] → final = current)

namespace Session.Trims

open SessionService

variable {ready : UUID → Bool} {stale items : List Participant} {current value final : Session}
variable {participant left : Participant}

theorem nil : Session.Trims ready stale [] current current where
  sameId := rfl
  terminal _ member _ := member
  ended _ member := by cases member
  closes fails := by cases fails
  survives _ := ⟨rfl, fun _ member _ => member, fun _ member _ => ⟨member, List.not_mem_nil⟩,
    fun _ => rfl⟩

/-- The record is closed. -/
theorem closed (fails : ownerFails ready stale current.ownerUserId participant = true)
    (sameId : final.sessionId = current.sessionId) (state : final.state = .closed)
    (terminal : ∀ item ∈ current.participants, item.state.terminal = true →
      item ∈ final.participants) :
    Session.Trims ready stale (participant :: items) current final where
  sameId := sameId
  terminal := terminal
  ended item member := by
    rw [retirees_of_ownerFails fails] at member
    cases member
  closes _ := state
  survives none := by
    rw [List.any_cons, fails] at none
    cases none

/-- A participant that is neither idle nor lost is passed over. -/
theorem skip (trims : Session.Trims ready stale items current final)
    (stays : (participant ∈ stale || !ready participant.participantId) = false) :
    Session.Trims ready stale (participant :: items) current final := by
  have goesOn : ownerFails ready stale current.ownerUserId participant = false := by
    rw [Bool.or_eq_false_iff] at stays
    simp [ownerFails, stays.2]
  have ⟨sameId, terminal, ended, closes, survives⟩ := trims
  have same : retirees ready stale current.ownerUserId (participant :: items) =
      retirees ready stale current.ownerUserId items := retirees_skip goesOn stays
  have any : (participant :: items).any (ownerFails ready stale current.ownerUserId) =
      items.any (ownerFails ready stale current.ownerUserId) := by
    rw [List.any_cons, goesOn, Bool.false_or]
  rw [← same] at ended survives
  rw [← any] at closes survives
  exact ⟨sameId, terminal, ended, closes, survives⟩

/-- The entry of a replaced participant is the new one, and the others are kept. -/
theorem mem_replacement_iff (distinct : (current.participants.map Participant.participantId).Nodup)
    (member : participant ∈ current.participants)
    (sameId : left.participantId = participant.participantId) {state : SessionState}
    {updatedAt : Time} {item : Participant} :
    item ∈ (replacement current left state false none updatedAt).participants ↔
      item = left ∨ item ∈ current.participants ∧ item ≠ participant := by
  constructor
  · intro replaced
    have ⟨entry, stored, same⟩ := List.mem_map.mp replaced
    by_cases this : entry.participantId = left.participantId
    · rw [if_pos this] at same
      exact .inl same.symm
    · rw [if_neg this] at same
      subst same
      exact .inr ⟨stored, fun equal => this (by rw [equal, sameId])⟩
  · intro which
    apply List.mem_map.mpr
    rcases which with rfl | ⟨stored, other⟩
    · exact ⟨participant, member, if_pos sameId.symm⟩
    · refine ⟨item, stored, if_neg fun same => other ?_⟩
      exact eq_of_key distinct stored member (same.trans sameId)

/-- Going on after one retirement. -/
theorem retired (distinct : (current.participants.map Participant.participantId).Nodup)
    (member : participant ∈ current.participants) (active : participant.state = .active)
    (sameId : left.participantId = participant.participantId)
    (ended : left.state.terminal = true) {updatedAt : Time}
    (goesOn : ownerFails ready stale current.ownerUserId participant = false)
    (cause : (participant ∈ stale || !ready participant.participantId) = true)
    (trims : Session.Trims ready stale items
      (replacement current left current.state false none updatedAt) final) :
    Session.Trims ready stale (participant :: items) current final := by
  have replaced : ∀ {item}, item ∈
      (replacement current left current.state false none updatedAt).participants ↔
        item = left ∨ item ∈ current.participants ∧ item ≠ participant :=
    mem_replacement_iff distinct member sameId
  have ⟨sameSession, terminal, retired, closes, survives⟩ := trims
  have list : retirees ready stale current.ownerUserId (participant :: items) =
      participant :: retirees ready stale current.ownerUserId items := retirees_cons goesOn cause
  have any : (participant :: items).any (ownerFails ready stale current.ownerUserId) =
      items.any (ownerFails ready stale current.ownerUserId) := by
    rw [List.any_cons, goesOn, Bool.false_or]
  have alive : participant.state.terminal = false := by
    rw [active]
    rfl
  refine ⟨sameSession, ?_, ?_, ?_, ?_⟩
  · intro item stored final
    refine terminal item (replaced.mpr (.inr ⟨stored, fun same => ?_⟩)) final
    rw [same, alive] at final
    cases final
  · rw [list]
    intro item inside
    rcases List.mem_cons.mp inside with rfl | later
    · exact ⟨left, terminal left (replaced.mpr (.inl rfl)) ended, sameId, ended⟩
    · exact retired item later
  · rw [any]
    exact closes
  · rw [any, list]
    intro none
    have ⟨same, kept, remaining, _⟩ := survives none
    refine ⟨?_, ?_, ?_, fun empty => by cases empty⟩
    · rw [same]
      rfl
    · intro item stored outside
      rw [List.mem_cons, not_or] at outside
      exact kept item (replaced.mpr (.inr ⟨stored, outside.1⟩)) outside.2
    · intro item inside isActive
      have ⟨stored, outside⟩ := remaining item inside isActive
      rcases replaced.mp stored with rfl | ⟨stored, other⟩
      · rw [isActive] at ended
        cases ended
      · exact ⟨stored, List.not_mem_cons_of_ne_of_not_mem other outside⟩

end Session.Trims

/-! ## Calls of a round -/

namespace SessionService

variable {self : SessionService} {world : World} {session : Session} {ready : UUID → Bool}

theorem ensures_inspectOrNone (steady : self.dependencies.Steady ready) (participantId : UUID) :
    (self.inspectOrNone participantId).Ensures (onReturn fun runtime after =>
      world.KeepsStore false after ∧ runtime.any RuntimeHandle.ready = ready participantId)
      world := by
  refine ensures_tryCatch.mpr (ensures_map.mpr (ensures_executionInspect ?_ ?_ fun _ => trivial))
  · intro handle shown answers
    have kept : world.KeepsStore false (world.observe (.executionInspect participantId)) :=
      .record _ (by simp [Call.launches])
    exact ⟨kept, steady.answers _ _ _ (answers.inspected shown)⟩
  · intro error applied _ raises
    refine ensures_ite.mpr ⟨fun orchestration => ?_, fun _ => trivial⟩
    have kept : world.KeepsStore false
        (world.record ⟨.executionInspect participantId, applied, false⟩) :=
      .record _ (by simp [Call.launches])
    exact ⟨kept, (steady.missing _ _ _ raises.inspected orchestration).symm⟩

/-- A close that returns has stored the closed record, with all entries ended. -/
theorem ensures_closed (stored : world.get session.sessionId = some session)
    (live : session.state ≠ .closed) (reason : String) :
    (self.closeSession session reason).Ensures (onReturn fun value after =>
      world.Replaces after value ∧ value.sessionId = session.sessionId ∧
        value.state = .closed ∧
        ∀ item ∈ session.participants, item.state.terminal = true →
          item ∈ value.participants)
      world := by
  refine ensures_ite.mpr ⟨fun closed => absurd closed live, fun _ => ?_⟩
  refine ensures_bind.mpr (ensures_ofExcept.mpr ⟨fun _ _ => ?_, fun _ _ => trivial⟩)
  refine ensures_bind.mpr (ensures_clock (fun _ => ?_) fun _ => trivial)
  refine ensures_bind.mpr (((@storeKept_retireAll self false _).ensures _).mono ?_
    (fun _ _ _ => trivial) fun _ _ => trivial)
  intro _ after ⟨kept, _⟩
  refine ensures_bind.mpr (ensures_ofExcept.mpr ⟨fun left accepted => ?_, fun _ _ => trivial⟩)
  have ⟨retired, _⟩ := mapM_leftParticipant_ok accepted
  have stored' : after.get session.sessionId = some session := (kept.get _).trans stored
  let updated : Session := { session with
    state := .closed, participants := left
    updatedAt := self.dependencies.clock world.history.length
    closedReason := some reason, revision := session.revision + 1 }
  have ⟨found, others⟩ : after.Replaces (after.save updated session.revision) updated :=
    World.save_replaces stored' rfl
  refine ensures_bind.mpr (ensures_repositorySave stored' rfl
    ⟨fun _ => ?_, fun _ _ _ _ => trivial, fun _ => trivial⟩)
  refine ⟨⟨found, fun id other => (others id other).trans (kept.get id)⟩, rfl, rfl, ?_⟩
  intro item member terminal
  show item ∈ left
  rw [retired]
  refine List.mem_map.mpr ⟨item, member, ?_⟩
  rw [Update.retire, if_pos terminal]

/-- A replacement that returns has stored the new record. -/
theorem ensures_replacement (stored : world.get session.sessionId = some session)
    (participant : Participant) (state : SessionState) :
    (self.replaceParticipant session participant state false none).Ensures
      (onReturn fun value after => world.Replaces after value ∧
        ∃ updatedAt, value = replacement session participant state false none updatedAt)
          world := by
  refine ensures_bind.mpr (ensures_clock (fun _ => ?_) fun _ => trivial)
  have stored' : (world.observe .clock).get session.sessionId = some session := stored
  refine ensures_bind.mpr (ensures_repositorySave stored' rfl
    ⟨fun _ => ⟨?_, _, rfl⟩, fun _ _ _ _ => trivial, fun _ => trivial⟩)
  exact World.save_replaces stored' rfl

/-- A retirement that returns has stored the record with the participant ended. -/
theorem ensures_retired (stored : world.get session.sessionId = some session)
    (participant : Participant) (failed : Bool) :
    (self.retireParticipant session participant failed).Ensures (onReturn fun value after =>
      world.Replaces after value ∧ ∃ left updatedAt,
        value = replacement session left session.state false none updatedAt ∧
          left.participantId = participant.participantId ∧ left.state.terminal = true) world := by
  refine ensures_bind.mpr (((@storeKept_retireRuntime self false _).ensures _).mono ?_
    (fun _ _ _ => trivial) fun _ _ => trivial)
  intro _ removed ⟨kept, _⟩
  refine ensures_bind.mpr (ensures_clock (fun _ => ?_) fun _ => trivial)
  have stored' : (removed.observe .clock).get session.sessionId = some session :=
    (kept.get _).trans stored
  have replaced : ∀ left : Participant, left.participantId = participant.participantId →
      left.state.terminal = true →
      (self.replaceParticipant session left session.state false none).Ensures
        (onReturn fun value after => world.Replaces after value ∧ ∃ left updatedAt,
          value = replacement session left session.state false none updatedAt ∧
            left.participantId = participant.participantId ∧ left.state.terminal = true)
        (removed.observe .clock) := by
    intro left sameId ended
    refine (ensures_replacement stored' left session.state).mono ?_ (fun _ _ => id) fun _ => id
    intro value after ⟨⟨found, others⟩, updatedAt, same⟩
    exact ⟨⟨found, fun id other => (others id other).trans (kept.get id)⟩,
      left, updatedAt, same, sameId, ended⟩
  refine ensures_ite.mpr ⟨fun _ => ?_, fun _ => ?_⟩
  · exact ensures_bind.mpr (ensures_pure.mpr (replaced _ rfl rfl))
  · refine ensures_bind.mpr
      (ensures_ofExcept.mpr ⟨fun left accepted => ?_, fun _ _ => trivial⟩)
    have ⟨same, _⟩ := leftParticipant_ok accepted
    have sameId : left.participantId = participant.participantId := by
      rw [same, Update.retire]
      split <;> rfl
    exact replaced left sameId (by rw [same, Update.retire_terminal])

/-- The loop over participants, by induction on those still to come. -/
theorem ensures_sweepParticipants (steady : self.dependencies.Steady ready)
    {stale items : List Participant} {current : Session} (cleaned : Nat)
    (stored : world.get current.sessionId = some current) (live : current.state ≠ .closed)
    (members : ∀ item ∈ items, item ∈ current.participants ∧ item.state = .active)
    (apart : (items.map Participant.participantId).Nodup)
    (distinct : (current.participants.map Participant.participantId).Nodup) :
    (self.sweepParticipants stale items current cleaned).Ensures (onReturn fun count after =>
      ∃ final, world.Replaces after final ∧ Session.Trims ready stale items current final ∧
        count = cleaned + (retirees ready stale current.ownerUserId items).length +
          if items.any (ownerFails ready stale current.ownerUserId) then 1 else 0) world := by
  induction items generalizing current cleaned world with
  | nil => exact ⟨current, ⟨stored, fun _ _ => rfl⟩, .nil, rfl⟩
  | cons participant rest inductionHypothesis =>
      obtain ⟨member, active⟩ := members participant List.mem_cons_self
      rw [List.map_cons, List.nodup_cons] at apart
      -- After one retirement the record differs, but the others are still in it.
      have goOn : ∀ {world : World} {failed : Bool},
          world.get current.sessionId = some current →
          ownerFails ready stale current.ownerUserId participant = false →
          (participant ∈ stale || !ready participant.participantId) = true →
          (do let current ← self.retireParticipant current participant failed
              self.sweepParticipants stale rest current (cleaned + 1) : ServiceProgram Nat).Ensures
            (onReturn fun count after => ∃ final, world.Replaces after final ∧
              Session.Trims ready stale (participant :: rest) current final ∧
                count = cleaned +
                  (retirees ready stale current.ownerUserId (participant :: rest)).length +
                  if (participant :: rest).any (ownerFails ready stale current.ownerUserId) then 1
                  else 0) world := by
        intro world failed stored goesOn cause
        refine ensures_bind.mpr ((ensures_retired stored participant failed).mono ?_
          (fun _ _ => id) fun _ => id)
        rintro value after ⟨replaces, left, updatedAt, same, sameId, ended⟩
        subst same
        have inside : ∀ {item}, item ∈
            (replacement current left current.state false none updatedAt).participants ↔
              item = left ∨ item ∈ current.participants ∧ item ≠ participant :=
          Session.Trims.mem_replacement_iff distinct member sameId
        have ids : ((replacement current left current.state false none updatedAt).participants.map
            Participant.participantId) = current.participants.map Participant.participantId := by
          simp only [replacement, Bool.false_eq_true, if_false, List.map_map]
          refine List.map_congr_left fun item _ => ?_
          simp only [Function.comp_apply]
          split
          · exact ‹item.participantId = left.participantId›.symm
          · rfl
        refine (inductionHypothesis (cleaned + 1) replaces.1 live ?_ apart.2
          (ids ▸ distinct)).mono ?_ (fun _ _ => id) fun _ => id
        · intro item later
          obtain ⟨stored, isActive⟩ := members item (List.mem_cons_of_mem _ later)
          refine ⟨inside.mpr (.inr ⟨stored, fun same => apart.1 ?_⟩), isActive⟩
          exact same ▸ List.mem_map_of_mem later
        · rintro count later ⟨final, replaces', trims, counted⟩
          refine ⟨final, replaces.trans replaces' rfl trims.sameId,
            trims.retired distinct member active sameId ended goesOn cause, ?_⟩
          rw [counted, retirees_cons goesOn cause, List.any_cons, goesOn, Bool.false_or,
            List.length_cons]
          show cleaned + 1 + _ + _ = _
          have sameOwner : (replacement current left current.state false none
            updatedAt).ownerUserId = current.ownerUserId := rfl
          rw [sameOwner]
          omega
      refine ensures_ite.mpr ⟨fun idle => ?_, fun fresh => ?_⟩
      · exact goOn stored (by simp [ownerFails, idle]) (by simp [idle])
      refine ensures_bind.mpr ((ensures_inspectOrNone steady participant.participantId).mono ?_
        (fun _ _ => id) fun _ => id)
      rintro runtime after ⟨kept, shown⟩
      have stored' : after.get current.sessionId = some current := (kept.get _).trans stored
      have since : ∀ {final : World} {value : Session}, after.Replaces final value →
          world.Replaces final value :=
        fun both => ⟨both.1, fun id other => (both.2 id other).trans (kept.get id)⟩
      refine ensures_ite.mpr ⟨fun isReady => ?_, fun unready => ?_⟩
      · rw [shown] at isReady
        have stays : (participant ∈ stale || !ready participant.participantId) = false := by
          simp [fresh, isReady]
        have goesOn : ownerFails ready stale current.ownerUserId participant = false := by
          simp [ownerFails, isReady]
        refine (inductionHypothesis cleaned stored' live (fun item later => members item
          (List.mem_cons_of_mem _ later)) apart.2 distinct).mono ?_ (fun _ _ => id) fun _ => id
        rintro count later ⟨final, replaces, trims, counted⟩
        refine ⟨final, since replaces, trims.skip stays, ?_⟩
        rw [counted, retirees_skip goesOn stays, List.any_cons, goesOn, Bool.false_or]
      have lost : ready participant.participantId = false := by
        rw [shown] at unready
        simpa using unready
      refine ensures_ite.mpr ⟨fun owner => ?_, fun guest => ?_⟩
      · have fails : ownerFails ready stale current.ownerUserId participant = true := by
          simp [ownerFails, fresh, owner, lost]
        refine ensures_bind.mpr
          ((ensures_closed stored' live _).mono ?_ (fun _ _ => id) fun _ => id)
        rintro value later ⟨replaces, sameId, state, terminal⟩
        refine ⟨value, since replaces, .closed fails sameId state terminal, ?_⟩
        rw [retirees_of_ownerFails fails, List.any_cons, fails]
        rfl
      · refine (goOn stored' (by simp [ownerFails, guest]) (by simp [lost])).mono ?_
          (fun _ _ => id) fun _ => id
        rintro count later ⟨final, replaces, rest⟩
        exact ⟨final, since replaces, rest⟩

end SessionService

/-! ## One round -/

/-- The lobby is in order at the instant `now`: it is not over, its owner is active,
and whoever is active is neither idle nor without a running, healthy runtime. -/
structure Session.InOrder (configuration : Configuration) (ready : UUID → Bool) (now : Time)
    (session : Session) : Prop where
  lease : now < session.expiresAt
  lifetime : now < session.createdAt + configuration.sessionTtl
  owner : ∃ item ∈ session.participants, item.state = .active ∧
    item.userId = session.ownerUserId
  active : ∀ item ∈ session.participants, item.state = .active →
    now < item.lastHeartbeat + configuration.participantIdleTimeout ∧
      ready item.participantId = true

namespace SessionService

variable (self : SessionService) (ready : UUID → Bool) (session : Session) (now : Time)

/-- The participants that a round at `now` retires one by one. -/
def retires : List Participant :=
  if self.due session now || self.ownerAbandoned session now then []
  else retirees ready (self.staleParticipants session now) session.ownerUserId
    (activeParticipants session)

/-- A round at `now` closes the session. -/
def closes : Bool :=
  self.due session now || self.ownerAbandoned session now ||
    (activeParticipants session).any
      (ownerFails ready (self.staleParticipants session now) session.ownerUserId)

end SessionService

/-- What a round at `now` makes of a session that was not closed. -/
structure Session.Rounds (service : SessionService) (ready : UUID → Bool) (now : Time)
    (session final : Session) : Prop where
  closed : final.state = .closed ↔ service.closes ready session now = true
  order : final.state = .closed ∨ final.InOrder service.configuration ready now
  unchanged : session.InOrder service.configuration ready now → final = session
  kept : final.state ≠ .closed → ∀ item ∈ session.participants, item.state = .active →
    now < item.lastHeartbeat + service.configuration.participantIdleTimeout →
      ready item.participantId = true → item ∈ final.participants
  /-- The retired entries have ended, and in a lobby that stays open nobody else has. -/
  ended : ∀ item ∈ service.retires ready session now, ∃ entry ∈ final.participants,
    entry.participantId = item.participantId ∧ entry.state.terminal = true
  others : final.state ≠ .closed → ∀ item ∈ session.participants,
    item ∉ service.retires ready session now → item ∈ final.participants

/-- What a round makes of a stored session. -/
structure Session.SweptAt (service : SessionService) (ready : UUID → Bool) (now : Time)
    (session final : Session) : Prop where
  sameId : final.sessionId = session.sessionId
  closed : session.state = .closed → final = session
  rounds : session.state ≠ .closed → Session.Rounds service ready now session final

namespace SessionService

variable {self : SessionService} {ready : UUID → Bool} {session : Session} {now : Time}
variable {item : Participant}

theorem mem_activeParticipants :
    item ∈ activeParticipants session ↔ item ∈ session.participants ∧
      item.state = .active := by
  simp [activeParticipants]

theorem mem_staleParticipants : item ∈ self.staleParticipants session now ↔
    (item ∈ session.participants ∧ item.state = .active) ∧
      item.lastHeartbeat + self.configuration.participantIdleTimeout ≤ now := by
  rw [staleParticipants, List.mem_filter, mem_activeParticipants, decide_eq_true_eq]

/-- In a lobby that is in order the round finds nothing to do. -/
theorem idle_of_inOrder (order : session.InOrder self.configuration ready now) :
    self.retires ready session now = [] ∧ self.closes ready session now = false := by
  obtain ⟨lease, lifetime, ⟨owner, member, active, isOwner⟩, sound⟩ := order
  have running : self.due session now = false := by
    simp [due, lease, lifetime]
  have fresh : ∀ item, item ∉ self.staleParticipants session now := by
    intro item isStale
    obtain ⟨⟨member, active⟩, idle⟩ := mem_staleParticipants.mp isStale
    exact absurd (sound item member active).1 (not_lt.mpr idle)
  have present : self.ownerAbandoned session now = false := by
    unfold ownerAbandoned
    cases found : (activeParticipants session).find? fun item =>
      item.userId = session.ownerUserId with
    | none =>
        have absent := List.find?_eq_none.mp found owner
          (mem_activeParticipants.mpr ⟨member, active⟩)
        exact absurd (by simpa using isOwner) absent
    | some first => simpa using fresh first
  have noOwnerFails : (activeParticipants session).any
      (ownerFails ready (self.staleParticipants session now) session.ownerUserId) = false := by
    refine List.any_eq_false.mpr fun item member => ?_
    obtain ⟨member, active⟩ := mem_activeParticipants.mp member
    simp [ownerFails, (sound item member active).2]
  constructor
  · unfold retires
    rw [running, present, if_neg (by simp)]
    refine List.eq_nil_iff_forall_not_mem.mpr fun item inside => ?_
    obtain ⟨inside, _, cause⟩ := mem_retirees inside
    obtain ⟨member, active⟩ := mem_activeParticipants.mp inside
    rcases cause with idle | lost
    · exact fresh item idle
    · rw [(sound item member active).2] at lost
      cases lost
  · rw [closes, running, present, noOwnerFails]
    rfl

/-- A loop that went through leaves the lobby in order. -/
theorem rounds_of_trims {final : Session} (live : session.state ≠ .closed)
    (running : self.due session now = false) (present : self.ownerAbandoned session now = false)
    (trims : Session.Trims ready (self.staleParticipants session now)
      (activeParticipants session) session final) :
        Session.Rounds self ready now session final := by
  have idle : self.retires ready session now = retirees ready (self.staleParticipants session now)
      session.ownerUserId (activeParticipants session) := by
    rw [retires, running, present, if_neg (by simp)]
  have decides : self.closes ready session now = (activeParticipants session).any
      (ownerFails ready (self.staleParticipants session now) session.ownerUserId) := by
    rw [closes, running, present, Bool.false_or, Bool.false_or]
  have unchanged : session.InOrder self.configuration ready now → final = session := by
    intro order
    obtain ⟨nobody, goesOn⟩ := idle_of_inOrder order
    exact (trims.survives (decides ▸ goesOn)).2.2.2 (idle ▸ nobody)
  cases fails : (activeParticipants session).any
      (ownerFails ready (self.staleParticipants session now) session.ownerUserId) with
  | true =>
      have state := trims.closes fails
      refine ⟨iff_of_true state (decides.trans fails), .inl state, unchanged, ?_, ?_, ?_⟩
      · exact fun opened => absurd state opened
      · rw [idle]
        exact trims.ended
      · exact fun opened => absurd state opened
  | false =>
      obtain ⟨same, stays, remaining, _⟩ := trims.survives fails
      have opened : final.state ≠ .closed := by
        rw [same]
        exact live
      have fresh : ∀ {item}, item ∈ session.participants → item.state = .active →
          item ∉ self.staleParticipants session now →
            now < item.lastHeartbeat + self.configuration.participantIdleTimeout := by
        intro item member active absent
        by_contra late
        exact absent (mem_staleParticipants.mpr ⟨⟨member, active⟩, not_lt.mp late⟩)
      refine ⟨iff_of_false opened (by rw [decides, fails]; simp), .inr ?_,
        unchanged, ?_, ?_, ?_⟩
      · obtain ⟨lease, lifetime⟩ : now < session.expiresAt ∧
            now < session.createdAt + self.configuration.sessionTtl := by
          simpa [due] using running
        refine ⟨by rw [same]; exact lease, by rw [same]; exact lifetime, ?_, ?_⟩
        · -- The owner is not idle, and a lost owner would have ended the loop.
          unfold ownerAbandoned at present
          cases found : (activeParticipants session).find? fun item =>
              item.userId = session.ownerUserId with
          | none =>
              rw [found] at present
              cases present
          | some owner =>
              rw [found] at present
              have inside := List.mem_of_find?_eq_some found
              obtain ⟨member, active⟩ := mem_activeParticipants.mp inside
              have isOwner : owner.userId = session.ownerUserId := by
                simpa using List.find?_some found
              have notStale : owner ∉ self.staleParticipants session now := by simpa using present
              refine ⟨owner, stays owner member fun retired => ?_, active, ?_⟩
              · obtain ⟨_, passes, cause⟩ := mem_retirees retired
                have lost := cause.resolve_left notStale
                simp [ownerFails, notStale, isOwner, lost] at passes
              · rw [same]
                exact isOwner
        · intro item inside active
          obtain ⟨member, outside⟩ := remaining item inside active
          have working := mem_activeParticipants.mpr ⟨member, active⟩
          have neither : item ∉ self.staleParticipants session now ∧
              ready item.participantId = true := by
            by_contra cause
            refine outside (mem_retirees_of_none fails working ?_)
            by_cases isStale : item ∈ self.staleParticipants session now
            · exact .inl isStale
            · exact .inr (by simpa [isStale] using cause)
          exact ⟨fresh member active neither.1, neither.2⟩
      · intro _ item member active recent isReady
        refine stays item member fun retired => ?_
        obtain ⟨_, _, cause⟩ := mem_retirees retired
        rcases cause with isStale | lost
        · exact absurd recent (not_lt.mpr (mem_staleParticipants.mp isStale).2)
        · rw [isReady] at lost
          cases lost
      · rw [idle]
        exact trims.ended
      · rw [idle]
        exact fun _ => stays

/-- A round that closes at once. -/
theorem rounds_of_closed {final : Session} (state : final.state = .closed)
    (elapsed : (self.due session now || self.ownerAbandoned session now) = true) :
    Session.Rounds self ready now session final := by
  have closes : self.closes ready session now = true := by
    rw [SessionService.closes, elapsed, Bool.true_or]
  refine ⟨iff_of_true state closes, .inl state, fun order => ?_, fun opened =>
    absurd state opened, ?_, fun opened => absurd state opened⟩
  · rw [(idle_of_inOrder order).2] at closes
    cases closes
  · rw [retires, if_pos elapsed]
    intro item member
    cases member

variable {world : World}

/-- What a round at `now` counts. -/
def cleaned (self : SessionService) (ready : UUID → Bool) (session : Session)
    (now : Time) : Nat :=
  if session.state = .closed then 0
  else (self.retires ready session now).length + if self.closes ready session now then 1 else 0

theorem ensures_sweepSession (steady : self.dependencies.Steady ready)
    (stored : world.get session.sessionId = some session)
    (distinct : (session.participants.map Participant.participantId).Nodup) :
    (self.sweepSession session).Ensures (onReturn fun count after => ∃ now final,
      now = self.dependencies.clock world.history.length ∧ world.Replaces after final ∧
        Session.SweptAt self ready now session final ∧ count = self.cleaned ready session now)
          world := by
  refine ensures_ite.mpr ⟨fun closed => ?_, fun live => ?_⟩
  · exact ⟨_, session, rfl, ⟨stored, fun _ _ => rfl⟩,
      ⟨rfl, fun _ => rfl, fun live => absurd closed live⟩, by rw [cleaned, if_pos closed]⟩
  refine ensures_bind.mpr (ensures_clock (fun _ => ?_) fun _ => trivial)
  generalize self.dependencies.clock world.history.length = now
  have stored' : (world.observe .clock).get session.sessionId = some session := stored
  have elapsed : ∀ reason, (self.due session now || self.ownerAbandoned session now) = true →
      (do let _ ← self.closeSession session reason
          pure 1 : ServiceProgram Nat).Ensures (onReturn fun count after => ∃ reading final,
        reading = now ∧ world.Replaces after final ∧
          Session.SweptAt self ready reading session final ∧
          count = self.cleaned ready session reading)
        (world.observe .clock) := by
    intro reason elapsed
    refine ensures_bind.mpr ((ensures_closed stored' live reason).mono ?_ (fun _ _ => id)
      fun _ => id)
    intro value after ⟨replaces, sameId, state, _⟩
    refine ⟨now, value, rfl, replaces, ⟨sameId, fun closed => absurd closed live,
      fun _ => rounds_of_closed state elapsed⟩, ?_⟩
    rw [cleaned, if_neg live, retires, if_pos elapsed, closes, elapsed]
    rfl
  refine ensures_ite.mpr ⟨fun isDue => elapsed _ (by rw [isDue, Bool.true_or]),
    fun running => ?_⟩
  refine ensures_ite.mpr ⟨fun abandoned => elapsed _ (by rw [abandoned, Bool.or_true]),
    fun present => ?_⟩
  have running : self.due session now = false := by simpa using running
  have present : self.ownerAbandoned session now = false := by simpa using present
  have working : (activeParticipants session).Sublist session.participants :=
    List.filter_sublist
  refine (ensures_sweepParticipants steady 0 stored' live (fun item => mem_activeParticipants.mp)
    ((working.map _).nodup distinct) distinct).mono ?_ (fun _ _ => id) fun _ => id
  intro count after ⟨final, replaces, trims, counted⟩
  refine ⟨now, final, rfl, replaces, ⟨trims.sameId, fun closed => absurd closed live,
    fun _ => rounds_of_trims live running present trims⟩, ?_⟩
  rw [counted, Nat.zero_add, cleaned, if_neg live, retires, closes, running, present]
  rfl

end SessionService

end RetroBrowser.SessionManager
