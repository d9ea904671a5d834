import RetroBrowser.SessionManager.Services.Working

/-!
Owns what one actor's operation leaves alone. Contract: where the lease of the
session still runs, an operation on it changes no other session, rewrites only
entries that are the operation's own (those of the actor, or the one kicked)
and calls a provider for such entries only, whichever way it ends.

The argument is one for all operations: a request *minds* a kind of entries
when its permitted saves and provider calls concern those entries only, and
what a request minds bounds what a whole run of it touches.
-/

namespace RetroBrowser.SessionManager

open RetroBrowser.Foundation ActionSystem

/-- The participant a provider call is about. -/
def Call.target : Call → Option UUID
  | .executionCreate request => some request.participantId
  | .executionRemove participantId | .streamProvision participantId _
  | .streamRevoke participantId => some participantId
  | _ => none

theorem Call.target_of_readOnly {call : Call} (reads : call.readOnly = true) :
    call.target = none := by
  cases call <;> first | rfl | cases reads

/-! ## What a change leaves alone -/

namespace Update

variable {configuration : Configuration} {world : World} {session : Session} {update : Update}

/-- A change with a subject revises no entry with another identifier. -/
theorem revise_other {participant item : Participant} (updatedAt : Time)
    (subject : update.subject = some participant)
    (other : item.participantId ≠ participant.participantId) :
    update.revise updatedAt item = item := by
  cases update with
  | closed _ => cases subject
  | joined _ => rfl
  | starting _ | running _ _ | active _ _ _ | failed _ _ | renewed _ _ _ | left _ _ | faulted _ _ =>
      obtain rfl := Option.some.inj subject
      simp [revise, put, other]

/-- Entries of another kind than the subject stay as they are, in their order. -/
theorem Enabled.keeps_others (enabled : update.Enabled configuration world session)
    (stored : session ∈ world.sessions)
    (distinct : (session.participants.map Participant.participantId).Nodup) (updatedAt : Time)
    {participant : Participant} (subject : update.subject = some participant)
    {mine : Participant → Bool}
    (identity : ∀ before after : Participant, before.SameIdentity after →
      mine after = mine before)
    (own : mine participant = true) :
    (update.result session updatedAt).participants.filter (fun item => !mine item) =
      session.participants.filter fun item => !mine item := by
  have appended : update.appended.filter (fun item => !mine item) = [] := by
    cases update with
    | joined joining =>
        obtain rfl := Option.some.inj subject
        simp [Update.appended, own]
    | _ => rfl
  rw [result_participants, List.filter_append, appended, List.append_nil, List.filter_map]
  have kind : ∀ item ∈ session.participants,
    ((fun item => !mine item) ∘ update.revise updatedAt) item =
      !mine item := fun item member => by
    simp [identity item _ (enabled.revise_conforms distinct updatedAt member).toSameIdentity]
  rw [List.filter_congr kind]
  refine (List.map_congr_left fun item member => ?_).trans (List.map_id _)
  obtain ⟨entry, foreign⟩ := List.mem_filter.mp member
  refine revise_other updatedAt subject fun same => ?_
  cases update with
  | joined joining =>
      obtain rfl := Option.some.inj subject
      exact enabled.2.2.2.2.2.1.stored session stored item entry same
  | _ =>
      have := eq_of_key distinct entry (enabled.subject_mem subject rfl) same
      rw [this, own] at foreign
      cases foreign

/-- The subject of a change is an entry of the record it stores, up to identity. -/
theorem subject_stored {participant : Participant}
    (enabled : update.Enabled configuration world session)
    (distinct : (session.participants.map Participant.participantId).Nodup) (updatedAt : Time)
    (subject : update.subject = some participant) :
    ∃ item ∈ (update.result session updatedAt).participants, participant.SameIdentity item := by
  cases update with
  | joined joining =>
      obtain rfl := Option.some.inj subject
      refine ⟨joining, ?_, .refl joining⟩
      rw [result_participants]
      exact List.mem_append_right _ (List.mem_singleton_self joining)
  | _ =>
      have member := enabled.subject_mem subject rfl
      exact ⟨_, revised_mem _ updatedAt member,
        (enabled.revise_conforms distinct updatedAt member).toSameIdentity⟩

end Update

/-! ## What a run touches -/

/-- `after` differs from `start` at most in the entries of the session that are
`mine`, and the calls made in between concern no provider but for such entries. -/
structure World.Touched (start after : World) (mine : Participant → Bool)
    (session later : Session) : Prop where
  stored : after.get session.sessionId = some later
  others : ∀ sessionId, sessionId ≠ session.sessionId →
    after.get sessionId = start.get sessionId
  owner : later.ownerUserId = session.ownerUserId
  entries : later.participants.filter (fun item => !mine item) =
    session.participants.filter fun item => !mine item
  own : later ≠ session → ∃ item ∈ later.participants, mine item = true
  calls : ∃ newer, after.history = newer ++ start.history ∧
    ∀ event ∈ newer, ∀ participantId, event.call.target = some participantId →
      ∃ item ∈ later.participants, item.participantId = participantId ∧ mine item = true

/-- The action concerns entries of the session that are `mine`, if any. -/
def Action.Minds (world : World) (mine : Participant → Bool) (sessionId : UUID) : Action → Prop
  | .observed _ | .drew _ => True
  | .added _ _ _ _ => False
  | .saved session update _ _ _ => session.sessionId = sessionId ∧
      ∃ participant, update.subject = some participant ∧ mine participant = true
  | .created session participant _ _ _ | .provisioned session participant _ _ =>
      session.sessionId = sessionId ∧ mine participant = true
  | .removed participantId _ _ | .revoked participantId _ _ =>
      ∃ session, world.get sessionId = some session ∧
        ∃ item ∈ session.participants, item.participantId = participantId ∧ mine item = true

namespace World

variable {configuration : Configuration} {start world after : World} {event : Event}
variable {mine : Participant → Bool} {session later : Session}

theorem Touched.refl (stored : start.get session.sessionId = some session) :
    start.Touched start mine session session where
  stored := stored
  others _ _ := rfl
  owner := rfl
  entries := rfl
  own differs := absurd rfl differs
  calls := ⟨[], rfl, by simp⟩

/-- An event that stores nothing and is about `mine`, if about any entry. -/
theorem Touched.unstored (touched : start.Touched world mine session later)
    (sessions : after.sessions = world.sessions) (history : after.history = event :: world.history)
    (target : ∀ participantId, event.call.target = some participantId →
      ∃ item ∈ later.participants, item.participantId = participantId ∧ mine item = true) :
    start.Touched after mine session later where
  stored := by
    rw [World.get, sessions]
    exact touched.stored
  others sessionId other := by
    rw [World.get, sessions]
    exact touched.others sessionId other
  owner := touched.owner
  entries := touched.entries
  own := touched.own
  calls := by
    obtain ⟨newer, earlier, concerned⟩ := touched.calls
    exact ⟨event :: newer, by rw [history, earlier, List.cons_append],
      List.forall_mem_cons.mpr ⟨target, concerned⟩⟩

/-- A save of an entry that is `mine`. -/
theorem Touched.saved (touched : start.Touched world mine session later)
    (coherent : Coherent world) {update : Update}
    (enabled : update.Enabled configuration world later)
    {participant : Participant} (subject : update.subject = some participant)
    (own : mine participant = true)
    (identity : ∀ before after : Participant, before.SameIdentity after →
      mine after = mine before)
    (same : later.sessionId = session.sessionId) (updatedAt : Time) (returned : Bool) :
    start.Touched (Action.apply world (.saved later update updatedAt true returned)) mine session
      (update.result later updatedAt) := by
  have found : world.get later.sessionId = some later := by
    rw [same]
    exact touched.stored
  have member := (InMemorySessionRepository.get_mem found).1
  have distinct := (coherent.sessions later member).ids
  have replaces : world.Replaces (world.save (update.result later updatedAt) later.revision) _ :=
    save_replaces found (Update.result_sessionId later updatedAt update)
  obtain ⟨kept, keptMember, keptIdentity⟩ :=
    Update.subject_stored enabled distinct updatedAt subject
  refine {
    stored := ?_
    others := fun sessionId other => ?_
    owner := by rw [Update.result_ownerUserId, touched.owner]
    entries := by rw [enabled.keeps_others member distinct updatedAt subject identity own,
      touched.entries]
    own := fun _ => ⟨kept, keptMember, by rw [identity _ _ keptIdentity, own]⟩
    calls := ?_ }
  · rw [← same]
    exact (Update.result_sessionId later updatedAt update) ▸ replaces.1
  · rw [← touched.others sessionId other]
    exact replaces.2 sessionId (by rw [Update.result_sessionId, same]; exact other)
  · obtain ⟨newer, earlier, concerned⟩ := touched.calls
    refine ⟨⟨.repositorySave (update.result later updatedAt) later.revision, true,
      returned⟩ :: newer, by rw [Action.apply_history, earlier, List.cons_append]; rfl,
      List.forall_mem_cons.mpr ⟨nofun, fun event member participantId target => ?_⟩⟩
    obtain ⟨item, itemMember, sameId, mineItem⟩ := concerned event member participantId target
    have conforms := enabled.revise_conforms distinct updatedAt itemMember
    exact ⟨_, Update.revised_mem update updatedAt itemMember, conforms.participantId.trans sameId,
      by rw [identity _ _ conforms.toSameIdentity, mineItem]⟩

theorem Touched.apply (touched : start.Touched world mine session later)
    (coherent : Coherent world) {action : Action}
    (enabled : action.Enabled configuration world)
    (minds : action.Minds world mine session.sessionId)
    (identity : ∀ before after : Participant, before.SameIdentity after →
      mine after = mine before) :
    ∃ later', start.Touched (action.apply world) mine session later' := by
  -- A record stored under the session's identifier is the latest one.
  have current : ∀ other : Session, other.sessionId = session.sessionId →
      world.get other.sessionId = some other → other = later := fun other same found => by
    rw [same, touched.stored] at found
    exact (Option.some.inj found).symm
  cases action with
  | observed event =>
      refine ⟨later, touched.unstored rfl rfl fun participantId target => ?_⟩
      rw [Call.target_of_readOnly enabled] at target
      cases target
  | drew id => exact ⟨later, touched.unstored rfl rfl nofun⟩
  | added _ _ _ _ => exact minds.elim
  | saved other update updatedAt applied returned =>
      obtain ⟨same, participant, subject, own⟩ := minds
      obtain ⟨found, changes⟩ := enabled
      obtain rfl := current other same found
      cases applied with
      | false => exact ⟨other, touched.unstored rfl rfl nofun⟩
      | true =>
          exact ⟨_, touched.saved coherent changes subject own identity same updatedAt returned⟩
  | created other participant request applied returned =>
      obtain ⟨same, own⟩ := minds
      obtain rfl := current other same enabled.stored
      have target : ∀ participantId, (Call.executionCreate request).target =
        some participantId →
          ∃ item ∈ other.participants, item.participantId = participantId ∧
            mine item = true := by
        rintro participantId target
        obtain rfl := Option.some.inj target
        exact ⟨participant, enabled.member, enabled.requested.symm, own⟩
      cases applied <;> exact ⟨other, touched.unstored rfl rfl target⟩
  | provisioned other participant applied returned =>
      obtain ⟨same, own⟩ := minds
      obtain ⟨found, member, -⟩ := enabled
      obtain rfl := current other same found
      refine ⟨other, touched.unstored rfl rfl ?_⟩
      rintro participantId target
      obtain rfl := Option.some.inj target
      exact ⟨participant, member, rfl, own⟩
  | removed id applied returned =>
      obtain ⟨other, found, item, member, same, own⟩ := minds
      obtain rfl := Option.some.inj (touched.stored.symm.trans found)
      have target : ∀ participantId, (Call.executionRemove id).target = some participantId →
          ∃ item ∈ later.participants, item.participantId = participantId ∧
            mine item = true := by
        rintro participantId target
        obtain rfl := Option.some.inj target
        exact ⟨item, member, same, own⟩
      cases applied <;> exact ⟨later, touched.unstored rfl rfl target⟩
  | revoked id applied returned =>
      obtain ⟨other, found, item, member, same, own⟩ := minds
      obtain rfl := Option.some.inj (touched.stored.symm.trans found)
      refine ⟨later, touched.unstored rfl rfl ?_⟩
      rintro participantId target
      obtain rfl := Option.some.inj target
      exact ⟨item, member, same, own⟩

end World

/-! ## What a request minds -/

/-- The entry a kick is about: the one it names, if it is a guest's and the owner asks. -/
def Session.kicks (session : Session) (actor : Actor) (participantId : UUID)
    (item : Participant) : Bool :=
  session.ownerUserId = actor.userId ∧ item.participantId = participantId ∧
    item.userId ≠ session.ownerUserId

/-- Operations a user makes for themselves, with the session and the user. -/
def Operation.personal : Operation → Option (UUID × Actor)
  | .join sessionId actor | .launch sessionId actor | .heartbeat sessionId actor
  | .leave sessionId actor => some (sessionId, actor)
  | _ => none

namespace Request

variable {configuration : Configuration} {request : Request} {start world : World}
variable {mine : Participant → Bool} {session later : Session}

/-- A run touches no more than each of its actions minds. -/
theorem touched_of_minds (coherent : Coherent start)
    (stored : start.get session.sessionId = some session)
    (identity : ∀ before after : Participant, before.SameIdentity after →
      mine after = mine before)
    (minds : ∀ world (action : Action) later, start.Touched world mine session later →
      request.Permits configuration start world action → action.Enabled configuration world →
      action.Minds world mine session.sessionId) :
    ∃ later, start.Touched (request.after configuration start) mine session later := by
  refine (path_after coherent).keeps
    (fun world => ∃ later, start.Touched world mine session later)
    coherent ?_ ⟨session, .refl stored⟩
  rintro world action reached permitted enabled ⟨later, touched⟩
  exact touched.apply reached enabled (minds world action later touched permitted enabled) identity

/-- An operation that addresses a session whose lease runs closes no session. -/
theorem closes_nothing {other : Session} {reason : String}
    (addressed : request.operation.addressed = some session.sessionId)
    (stored : start.get session.sessionId = some session)
    (live : request.dependencies.clock (start.history.length + 1) < session.expiresAt)
    (closes : request.Closes configuration start world other reason) : False := by
  have quiet : request.operation.sweeps = false := by
    cases operation : request.operation <;> rw [operation] at addressed <;>
      first | rfl | cases addressed
  cases closes with
  | restarted operation =>
      rw [operation] at addressed
      cases addressed
  | byOwner actor operation _ =>
      rw [operation] at addressed
      cases addressed
  | lapsed addressed' stored' elapsed =>
      rw [addressed] at addressed'
      rw [← Option.some.inj addressed', stored] at stored'
      cases stored'
      exact absurd elapsed (not_le.mpr live)
  | expired _ _ _ cause | abandoned _ _ _ _ cause | ownerFailed _ _ _ _ _ cause =>
      rw [quiet] at cause
      cases cause

/-- New entries are found in the touched session only. -/
theorem fresh_in_touched (coherent : Coherent start)
    (touched : start.Touched world mine session later) {other : Session} {participant : Participant}
    (stored : world.get other.sessionId = some other) (member : participant ∈ other.participants)
    (fresh : participant.participantId ∉ start.issued) : other.sessionId = session.sessionId := by
  by_contra differs
  rw [touched.others _ differs] at stored
  exact fresh
    (coherent.issued other (InMemorySessionRepository.get_mem stored).1 participant member)

/-- What a user does for themselves minds the entries of that user. -/
theorem minds_personal (coherent : Coherent start) {actor : Actor}
    (personal : request.operation.personal = some (session.sessionId, actor))
    (stored : start.get session.sessionId = some session)
    (live : request.dependencies.clock (start.history.length + 1) < session.expiresAt)
    (touched : start.Touched world mine session later) {action : Action}
    (permitted : request.Permits configuration start world action)
    (enabled : action.Enabled configuration world) :
    action.Minds world (fun item => item.userId = actor.userId) session.sessionId := by
  have addressed : request.operation.addressed = some session.sessionId := by
    cases operation : request.operation <;> rw [operation] at personal <;> cases personal <;> rfl
  have quiet : request.operation.sweeps = false := by
    cases operation : request.operation <;> rw [operation] at personal <;>
      first | rfl | cases personal
  have user : ∀ userId, request.operation.startsFor = some userId → userId = actor.userId := by
    intro userId cause
    cases operation : request.operation <;> rw [operation] at personal cause <;> cases personal <;>
      cases cause
    rfl
  have retires : ∀ between other participant,
      request.Retires configuration between other participant →
      other.sessionId = session.sessionId ∧ participant.userId = actor.userId := by
    intro between other participant retires
    cases retires with
    | left leaver operation same =>
        rw [operation] at personal
        simp only [Operation.personal, Option.some.injEq, Prod.mk.injEq] at personal
        exact ⟨personal.1, personal.2 ▸ same⟩
    | kicked _ operation _ _ =>
        rw [operation] at personal
        cases personal
    | idle _ _ _ _ cause =>
        rw [quiet] at cause
        cases cause
  cases action with
  | observed _ | drew _ => trivial
  | added _ _ _ _ =>
      obtain ⟨⟨creator, creation, operation, -⟩, -⟩ := permitted
      rw [operation] at personal
      cases personal
  | saved other update updatedAt applied returned =>
      obtain ⟨found, changes⟩ := enabled
      cases permitted.2 with
      | joined participant joiner game core operation admitted same sessions =>
          rw [operation] at personal
          simp only [Operation.personal, Option.some.injEq, Prod.mk.injEq] at personal
          refine ⟨personal.1, participant, rfl, ?_⟩
          rw [same, ← personal.2]
          simp [SessionService.joining]
      | starting participant cause fresh | running participant _ cause fresh
      | active participant _ _ cause fresh _ _ | failed participant _ cause fresh _ =>
          exact ⟨fresh_in_touched coherent touched found (changes.subject_mem rfl rfl) fresh,
            participant, rfl, by simpa using user _ cause⟩
      | renewed participant _ _ renewer operation same _ =>
          rw [operation] at personal
          simp only [Operation.personal, Option.some.injEq, Prod.mk.injEq] at personal
          exact ⟨personal.1, participant, rfl, by simpa [← personal.2] using same⟩
      | left participant _ retired _ =>
          obtain ⟨sameSession, sameUser⟩ := retires _ _ _ retired
          exact ⟨sameSession, participant, rfl, by simpa using sameUser⟩
      | faulted _ _ cause _ _ =>
          rw [quiet] at cause
          cases cause
      | closed _ closes => exact (closes_nothing addressed stored live closes).elim
  | created other participant runtimeRequest applied returned =>
      cases permitted with
      | host creator creation _ operation _ _ =>
          rw [operation] at personal
          cases personal
      | client joiner before joined host _ operation _ _ same _ _ launches =>
          obtain ⟨⟨game, core, slot, -, joinedSame, -⟩, -⟩ := launches
          rw [operation] at personal
          simp only [Operation.personal, Option.some.injEq, Prod.mk.injEq] at personal
          refine ⟨personal.1, ?_⟩
          rw [same, joinedSame, ← personal.2]
          simp [SessionService.joining]
  | provisioned other participant applied returned =>
      obtain ⟨found, member, -⟩ := enabled
      rcases permitted with ⟨cause, fresh⟩ | ⟨launcher, operation, same, -⟩
      · exact ⟨fresh_in_touched coherent touched found member fresh, by
          simpa using user _ cause⟩
      · rw [operation] at personal
        simp only [Operation.personal, Option.some.injEq, Prod.mk.injEq] at personal
        exact ⟨personal.1, by simpa [← personal.2] using same⟩
  | removed id applied returned | revoked id applied returned =>
      cases permitted with
      | swept cause =>
          rcases cause with cause | operation
          · rw [quiet] at cause
            cases cause
          · rw [operation] at personal
            cases personal
      | closing _ _ _ _ _ _ closes => exact (closes_nothing addressed stored live closes).elim
      | retiring other participant found member same retired =>
          obtain ⟨sameSession, sameUser⟩ := retires _ _ _ retired
          exact ⟨other, sameSession ▸ found, participant, member,
            same, by simpa using sameUser⟩
      | failing other participant found member same fresh cause =>
          have sameSession := fresh_in_touched coherent touched found member (same ▸ fresh)
          exact ⟨other, sameSession ▸ found, participant, member,
            same, by simpa using user _ cause⟩

/-- A kick minds the entry it names where the owner asks for it, and never an
entry of the owner. -/
theorem minds_kick {actor : Actor} {participantId : UUID}
    (operation : request.operation = .kick session.sessionId actor participantId)
    (stored : start.get session.sessionId = some session)
    (live : request.dependencies.clock (start.history.length + 1) < session.expiresAt)
    (touched : start.Touched world (session.kicks actor participantId) session later)
    {action : Action} (permitted : request.Permits configuration start world action)
    (enabled : action.Enabled configuration world) :
    action.Minds world (session.kicks actor participantId) session.sessionId := by
  have addressed : request.operation.addressed = some session.sessionId := by
    rw [operation]
    rfl
  have starts : request.operation.startsFor = none := by
    rw [operation]
    rfl
  have quiet : request.operation.sweeps = false := by
    rw [operation]
    rfl
  have retires : ∀ between other participant, world.get other.sessionId = some other →
      request.Retires configuration between other participant →
      other.sessionId = session.sessionId ∧
        session.kicks actor participantId participant = true := by
    intro between other participant found retires
    cases retires with
    | left leaver operation' _ =>
        rw [operation] at operation'
        cases operation'
    | kicked owner operation' owns guest =>
        rw [operation] at operation'
        obtain ⟨same, rfl, rfl⟩ := Operation.kick.inj operation'
        -- The record in the store is the touched one, whose owner is unchanged.
        rw [← same, touched.stored] at found
        obtain rfl := Option.some.inj found
        rw [touched.owner] at owns guest
        exact ⟨same.symm, by simp [Session.kicks, owns, owns ▸ guest]⟩
    | idle _ _ _ _ cause =>
        rw [quiet] at cause
        cases cause
  cases action with
  | observed _ | drew _ => trivial
  | added _ _ _ _ =>
      obtain ⟨⟨creator, creation, operation', -⟩, -⟩ := permitted
      rw [operation] at operation'
      cases operation'
  | saved other update updatedAt applied returned =>
      obtain ⟨found, changes⟩ := enabled
      cases permitted.2 with
      | joined _ _ _ _ operation' _ _ _ | renewed _ _ _ _ operation' _ _ =>
          rw [operation] at operation'
          cases operation'
      | starting _ cause _ | running _ _ cause _ | active _ _ _ cause _ _ _
      | failed _ _ cause _ _ =>
          rw [starts] at cause
          cases cause
      | left participant _ retired _ =>
          obtain ⟨sameSession, mine⟩ := retires _ _ _ found retired
          exact ⟨sameSession, participant, rfl, mine⟩
      | faulted _ _ cause _ _ =>
          rw [quiet] at cause
          cases cause
      | closed _ closes => exact (closes_nothing addressed stored live closes).elim
  | created other participant runtimeRequest applied returned =>
      cases permitted with
      | host _ _ _ operation' _ _ | client _ _ _ _ _ operation' _ _ _ _ _ _ =>
          rw [operation] at operation'
          cases operation'
  | provisioned other participant applied returned =>
      rcases permitted with ⟨cause, -⟩ | ⟨_, operation', -⟩
      · rw [starts] at cause
        cases cause
      · rw [operation] at operation'
        cases operation'
  | removed id applied returned | revoked id applied returned =>
      cases permitted with
      | swept cause =>
          rcases cause with cause | operation'
          · rw [quiet] at cause
            cases cause
          · rw [operation] at operation'
            cases operation'
      | closing _ _ _ _ _ _ closes => exact (closes_nothing addressed stored live closes).elim
      | retiring other participant found member same retired =>
          obtain ⟨sameSession, mine⟩ := retires _ _ _ found retired
          exact ⟨other, sameSession ▸ found, participant, member, same, mine⟩
      | failing _ _ _ _ _ _ cause =>
          rw [starts] at cause
          cases cause

end Request

/-! ## Strangers -/

/-- Nothing is changed, and no call is made but reads of one record and of the clock. -/
structure World.Consulted (start after : World) (sessionId : UUID) : Prop where
  sessions : after.sessions = start.sessions
  runtimes : after.runtimes = start.runtimes
  calls : ∃ newer, after.history = newer ++ start.history ∧
    ∀ event ∈ newer, event.call = .repositoryGet sessionId ∨ event.call = .clock

theorem World.Consulted.once (world : World) (sessionId : UUID) :
    world.Consulted (world.observe (.repositoryGet sessionId)) sessionId :=
  ⟨rfl, rfl, [_], rfl, by simp⟩

namespace SessionService

variable (service : SessionService) {world : World} {sessionId : UUID} {session : Session}

/-- A program that looks a stored session up first consults the store, and the
rest of it runs one event later. -/
theorem consulted_of_required {α : Type} {next : Session → ServiceProgram α}
    (found : world.get sessionId = some session)
    (rest : world.Consulted (next session (world.observe (.repositoryGet sessionId))).2 sessionId) :
    world.Consulted ((do
      let session ← service.required sessionId
      next session : ServiceProgram α) world).2 sessionId := by
  by_cases stops : service.dependencies.stops world.history.length = true
  · simp only [required, repositoryGet, invoke, stops, Program.bind_apply, if_true]
    exact ⟨rfl, rfl, [], rfl, by simp⟩
  cases fault : service.dependencies.fault world.history.length (.repositoryGet sessionId) with
  | none =>
      simpa [required, repositoryGet, invoke, stops, fault, Program.bind_apply, found,
        Program.pure_apply, World.observe] using rest
  | some disturbance =>
      obtain ⟨error, applied⟩ := disturbance
      have raised : (service.required sessionId) world =
          (.raised error, world.record ⟨.repositoryGet sessionId, applied, false⟩) := by
        cases applied <;>
          simp [required, repositoryGet, invoke, stops, fault, Program.bind_apply]
      rw [Program.bind_raised raised]
      exact ⟨rfl, rfl, [_], rfl, by simp⟩

/-- Where the lease still runs, `expire` at most reads the clock. -/
theorem consulted_of_expire {α : Type} {start : World} {next : Session → ServiceProgram α}
    (consulted : start.Consulted world sessionId)
    (live : service.dependencies.clock world.history.length < session.expiresAt)
    (rest : ∀ after, start.Consulted after sessionId →
      start.Consulted (next session after).2 sessionId) :
    start.Consulted ((do
      let session ← service.expire session
      next session : ServiceProgram α) world).2 sessionId := by
  unfold expire
  by_cases closed : session.state = .closed
  · rw [if_pos closed]
    exact rest world consulted
  rw [if_neg closed]
  by_cases stops : service.dependencies.stops world.history.length = true
  · simpa [clock, ask, observe, stops, Program.bind_apply] using consulted
  · obtain ⟨newer, earlier, reads⟩ := consulted.calls
    have ticked : start.Consulted (world.observe .clock) sessionId :=
      ⟨consulted.sessions, consulted.runtimes, ⟨.clock, true, true⟩ :: newer,
        by rw [World.observe_history, earlier, List.cons_append],
        List.forall_mem_cons.mpr ⟨Or.inr rfl, reads⟩⟩
    simpa [clock, ask, observe, stops, Program.bind_apply, not_le.mpr live, World.observe,
      Program.pure_apply] using rest _ ticked

theorem close_stranger (found : world.get sessionId = some session) {actor : Actor}
    (stranger : session.ownerUserId ≠ actor.userId) :
    world.Consulted ((service.close sessionId actor) world).2 sessionId := by
  refine service.consulted_of_required found ?_
  rw [if_pos stranger]
  exact .once world sessionId

theorem kick_stranger (found : world.get sessionId = some session) {actor : Actor}
    (stranger : session.ownerUserId ≠ actor.userId) (participantId : UUID)
    (live : service.dependencies.clock (world.history.length + 1) < session.expiresAt) :
    world.Consulted ((service.kick sessionId actor participantId) world).2 sessionId := by
  refine service.consulted_of_required found ?_
  refine service.consulted_of_expire (.once world sessionId) live fun after consulted => ?_
  rw [if_pos stranger]
  exact consulted

end SessionService

/-! ## Isolation -/

/-- What a request may affect of a session, whichever way it ends. -/
structure Request.Isolated (configuration : Configuration) (request : Request) (start : World)
    (session : Session) : Prop where
  /-- A user's own operation touches that user's entries only. -/
  personal : ∀ actor, request.operation.personal = some (session.sessionId, actor) →
    ∃ later, start.Touched (request.after configuration start)
      (fun item => item.userId = actor.userId) session later
  /-- A kick touches the named entry only, and no entry of the owner. -/
  kick : ∀ actor participantId,
    request.operation = .kick session.sessionId actor participantId →
      ∃ later, start.Touched (request.after configuration start)
        (session.kicks actor participantId) session later
  /-- A kick by another user than the owner changes nothing. -/
  stranger : ∀ actor participantId, session.ownerUserId ≠ actor.userId →
    request.operation = .kick session.sessionId actor participantId →
      start.Consulted (request.after configuration start) session.sessionId

/-- Actors cannot affect each other, in any world that any run reaches. -/
theorem actors_isolated (configuration : Configuration) (world : World)
    (reached : Reachable configuration world) (request : Request) (session : Session)
    (stored : world.get session.sessionId = some session) :
    (∀ actor, session.ownerUserId ≠ actor.userId →
      request.operation = .close session.sessionId actor →
      world.Consulted (request.after configuration world) session.sessionId) ∧
    (request.dependencies.clock (world.history.length + 1) < session.expiresAt →
      request.Isolated configuration world session) := by
  have ends : ∀ (program : ServiceProgram Session),
      request.operation.program (request.service configuration) = Reply.session <$> program →
      (request.after configuration world) = (program world).2 := by
    intro program same
    rw [Request.after, Request.run, same]
    exact Program.map_after _ _ _
  refine ⟨fun actor stranger operation => ?_, fun live => ?_⟩
  · rw [ends ((request.service configuration).close session.sessionId actor)
      (by rw [operation]; rfl)]
    exact SessionService.close_stranger _ stored stranger
  · refine {
      personal := fun actor personal => ?_
      kick := fun actor participantId operation => ?_
      stranger := fun actor participantId stranger operation => ?_ }
    · refine Request.touched_of_minds reached.coherent stored ?_ fun _ _ _ touched permitted
        enabled => Request.minds_personal reached.coherent personal stored live touched permitted
          enabled
      intro before after same
      rw [same.userId]
    · refine Request.touched_of_minds reached.coherent stored ?_ fun _ _ _ touched permitted
        enabled => Request.minds_kick operation stored live touched permitted enabled
      intro before after same
      simp only [Session.kicks, same.userId, same.participantId]
    · rw [ends ((request.service configuration).kick session.sessionId actor participantId)
        (by rw [operation]; rfl)]
      exact SessionService.kick_stranger _ stored stranger participantId live

/-- The second player's join of the created lobby leaves the first player's entry alone. -/
theorem joined_lobby_isolated : ∃ session, createdLobby.get 8 = some session ∧
    lobbyJoin.Isolated .default createdLobby session := by
  have created : (createdLobby.get 8).map Session.expiresAt = some 120000000 := by decide
  obtain ⟨session, stored, lease⟩ := Option.map_eq_some_iff.mp created
  have same : session.sessionId = 8 := (InMemorySessionRepository.get_mem stored).2
  refine ⟨session, stored, (actors_isolated .default createdLobby createdLobby_reachable lobbyJoin
    session (by rw [same]; exact stored)).2 ?_⟩
  rw [lease]
  decide

end RetroBrowser.SessionManager
