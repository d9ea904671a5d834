import RetroBrowser.SessionManager.Providers.Streaming.Selkies
import RetroBrowser.SessionManager.Services.Working

/-!
Owns what launches hand out. Contract: a launch that returns hands out the path
and the token of the actor's own active entry, for no longer than the lifetime
of the session; launches of different entries share neither, and whoever left
and came back is a different entry.
-/

namespace RetroBrowser.SessionManager

open RetroBrowser.Foundation ActionSystem

/-! ## Active entries -/

/-- What holds of the active entries and of the lease of a stored session. -/
structure Session.Playing (configuration : Configuration) (session : Session) : Prop where
  paths : ∀ item ∈ session.participants, item.state = .active →
    item.streamPath = some (SessionService.streamPath item.participantId)
  single : ∀ item ∈ session.participants, ∀ other ∈ session.participants,
    item.state = .active → other.state = .active → item.userId = other.userId →
      item.participantId = other.participantId
  bounded : session.expiresAt ≤ session.createdAt + configuration.sessionTtl

namespace Update

variable {configuration : Configuration} {world : World} {session : Session} {update : Update}

/-- An active entry of a saved record was active before, or is made active now. -/
theorem Enabled.active_origin (enabled : update.Enabled configuration world session)
    (distinct : (session.participants.map Participant.participantId).Nodup) {updatedAt : Time}
    {item : Participant} (member : item ∈ (update.result session updatedAt).participants)
    (active : item.state = .active) :
    (∃ before ∈ session.participants, before.state = .active ∧ before.SameIdentity item ∧
      item.streamPath = before.streamPath) ∨
    ∃ participant activeAt expiresAt, update = .active participant activeAt expiresAt ∧
      participant ∈ session.participants ∧ participant.SameIdentity item ∧
      item.streamPath = some (SessionService.streamPath item.participantId) := by
  rcases mem_result member with ⟨before, stored, rfl⟩ | joined
  · have identity := (enabled.revise_conforms distinct updatedAt stored).toSameIdentity
    cases update with
    | joined _ => exact Or.inl ⟨before, stored, active, identity, rfl⟩
    | running participant _ | renewed participant _ _ =>
        refine Or.inl ⟨before, stored, ?_⟩
        simp only [revise, put] at active identity ⊢
        split at active
        · have same := eq_of_key distinct stored enabled.1 ‹_›
          subst same
          exact ⟨active, by rwa [if_pos rfl] at identity ⊢, by rw [if_pos rfl]⟩
        · rename_i other
          exact ⟨active, by rwa [if_neg other] at identity ⊢, by rw [if_neg other]⟩
    | active participant activeAt expiresAt =>
        simp only [revise, put] at active identity ⊢
        split at active
        · rename_i same
          refine Or.inr ⟨participant, activeAt, expiresAt, rfl, enabled.1, ?_⟩
          rw [if_pos same]
          exact ⟨⟨rfl, rfl, rfl, rfl, rfl, rfl⟩, rfl⟩
        · rename_i other
          exact Or.inl ⟨before, stored, active, by rwa [if_neg other] at identity ⊢,
            by rw [if_neg other]⟩
    | starting participant | failed participant _ | left participant _ | faulted participant _ =>
        simp only [revise, put] at active identity ⊢
        split at active
        · cases active
        · rename_i other
          exact Or.inl ⟨before, stored, active, by rwa [if_neg other] at identity ⊢,
            by rw [if_neg other]⟩
    | closed _ =>
        have ended := retire_terminal updatedAt before
        have retired : (retire updatedAt before).state = .active := active
        rw [retired] at ended
        cases ended
  · subst joined
    rw [enabled.2.1] at active
    cases active

theorem Enabled.playing (enabled : update.Enabled configuration world session)
    (distinct : (session.participants.map Participant.participantId).Nodup)
    (playing : session.Playing configuration) (updatedAt : Time)
    (alone : ∀ participant activeAt expiresAt, update = .active participant activeAt expiresAt →
      SessionService.activeIn session participant.userId = false) :
    (update.result session updatedAt).Playing configuration where
  paths := by
    intro item member active
    rcases enabled.active_origin distinct member active with
      ⟨before, stored, was, identity, path⟩ | ⟨_, _, _, _, _, _, path⟩
    · rw [path, playing.paths before stored was, identity.participantId]
    · exact path
  single := by
    -- Nobody is active whose user another entry makes active now.
    have lone : ∀ before ∈ session.participants, before.state = .active →
        ∀ participant activeAt expiresAt, update = .active participant activeAt expiresAt →
          before.userId ≠ participant.userId := by
      intro before stored was participant activeAt expiresAt change same
      have none := alone participant activeAt expiresAt change
      simp only [SessionService.activeIn, List.any_eq_false, decide_eq_true_eq] at none
      exact none before stored ⟨same, was⟩
    intro item member other otherMember active otherActive user
    rcases enabled.active_origin distinct member active with
        ⟨before, stored, was, identity, -⟩ | ⟨participant, _, _, change, _, identity, -⟩ <;>
      rcases enabled.active_origin distinct otherMember otherActive with
        ⟨before', stored', was', identity', -⟩ |
          ⟨participant', _, _, change', _, identity', -⟩
    · rw [identity.participantId, identity'.participantId]
      refine playing.single before stored before' stored' was was' ?_
      rw [← identity.userId, ← identity'.userId, user]
    · refine absurd ?_ (lone before stored was _ _ _ change')
      rw [← identity.userId, ← identity'.userId, user]
    · refine absurd ?_ (lone before' stored' was' _ _ _ change)
      rw [← identity.userId, ← identity'.userId, user]
    · rw [change] at change'
      cases change'
      rw [identity.participantId, identity'.participantId]
  bounded := by
    rw [result_expiresAt, result_createdAt]
    cases update with
    | active participant activeAt expiresAt =>
        have granted := enabled.2.2.2.2
        exact granted.le.trans (min_le_right _ _)
    | renewed participant now expiresAt =>
        have granted := enabled.2.2
        exact granted.le.trans (min_le_right _ _)
    | joined _ | starting _ | running _ _ | failed _ _ | left _ _ | faulted _ _ | closed _ =>
        exact playing.bounded

end Update

/-- Every stored session plays by the rules, in every run. -/
theorem ReachableBy.playing {configuration : Configuration}
    {admissible : World → Request → Prop} {world : World}
    (reached : ReachableBy configuration admissible world) :
    ∀ session ∈ world.sessions, session.Playing configuration := by
  refine reached.keeps (fun world => ∀ session ∈ world.sessions, session.Playing configuration)
    (by simp [World.empty]) ?_
  intro start request _ _ _ world action coherent permitted enabled playing
  cases action with
  | added session owner applied returned =>
      cases applied with
      | false => exact playing
      | true =>
          intro other member
          rcases List.mem_append.mp (show other ∈ world.sessions ++ [session] from member) with
            earlier | new
          · exact playing other earlier
          rw [List.mem_singleton] at new
          subst new
          have lone : ∀ item ∈ other.participants, item.state ≠ .active := by
            intro item member active
            rw [enabled.participants, List.mem_singleton] at member
            rw [member, enabled.ownerState] at active
            cases active
          refine ⟨fun item member active => absurd active (lone item member),
            fun item member _ _ active => absurd active (lone item member), ?_⟩
          rw [enabled.lease]
          exact Int.add_le_add_left (min_le_right _ _) _
  | saved session update updatedAt applied returned =>
      obtain ⟨found, changes⟩ := enabled
      cases applied with
      | false => exact playing
      | true =>
          intro other member
          rcases InMemorySessionRepository.mem_overwrite member with rfl | ⟨earlier, -⟩
          · have stored := (InMemorySessionRepository.get_mem found).1
            refine changes.playing (Coherent.sessions coherent session stored).ids
              (playing session stored) updatedAt ?_
            rintro participant activeAt expiresAt rfl
            cases permitted.2 with
            | active _ _ _ _ _ alone _ => exact alone
          · exact playing other earlier
  | observed _ | drew _ | provisioned _ _ _ _ | revoked _ _ _ => exact playing
  | created _ _ _ applied _ | removed _ applied _ => cases applied <;> exact playing

/-! ## Entries through a run -/

/-- A run goes on from one world to another. -/
def Continues (configuration : Configuration) : World → World → Prop :=
  Relation.ReflTransGen fun before after => ∃ request : Request,
    after = request.after configuration before

/-- The entry is still stored, as the participant table lets it be. -/
def World.Remembers (world : World) (participant : Participant) : Prop :=
  ∃ session, world.get participant.sessionId = some session ∧
    ∃ item ∈ session.participants, participant.Conforms item

section Remembering

variable {configuration : Configuration} {world later : World} {participant : Participant}

theorem World.Remembers.apply (remembers : world.Remembers participant) (coherent : Coherent world)
    {action : Action} (enabled : action.Enabled configuration world) :
    (action.apply world).Remembers participant := by
  obtain ⟨session, stored, item, member, conforms⟩ := remembers
  have same : session.sessionId = participant.sessionId :=
    (InMemorySessionRepository.get_mem stored).2
  cases action with
  | added opened owner applied returned =>
      cases applied with
      | false => exact ⟨session, stored, item, member, conforms⟩
      | true =>
          have other : opened.sessionId ≠ participant.sessionId := by
            intro taken
            have unused := enabled.unusedSession
            rw [taken, stored] at unused
            cases unused
          exact ⟨session, (World.get_insert_other other).trans stored, item, member, conforms⟩
  | saved changed update updatedAt applied returned =>
      obtain ⟨found, changes⟩ := enabled
      cases applied with
      | false => exact ⟨session, stored, item, member, conforms⟩
      | true =>
          have replaces : world.Replaces
              (world.save (update.result changed updatedAt) changed.revision) _ :=
            World.save_replaces found (Update.result_sessionId changed updatedAt update)
          by_cases own : changed.sessionId = participant.sessionId
          · rw [own, stored] at found
            obtain rfl := Option.some.inj found
            have distinct := (Coherent.sessions coherent session
              (InMemorySessionRepository.get_mem stored).1).ids
            refine ⟨_, ?_, _, Update.revised_mem update updatedAt member,
              conforms.trans (changes.revise_conforms distinct updatedAt member)⟩
            rw [← own]
            exact (Update.result_sessionId session updatedAt update) ▸ replaces.1
          · refine ⟨session, ?_, item, member, conforms⟩
            rw [← stored]
            exact replaces.2 _ fun taken =>
              own (taken.trans (Update.result_sessionId changed updatedAt update)).symm
  | observed _ | drew _ | provisioned _ _ _ _ | revoked _ _ _ =>
      exact ⟨session, stored, item, member, conforms⟩
  | created _ _ _ applied _ | removed _ applied _ =>
      cases applied <;> exact ⟨session, stored, item, member, conforms⟩

theorem World.Remembers.after (remembers : world.Remembers participant) (coherent : Coherent world)
    (request : Request) : (request.after configuration world).Remembers participant :=
  (Request.path_after coherent).keeps (fun world => world.Remembers participant) coherent
    (fun _ _ reached _ enabled remembers => remembers.apply reached enabled) remembers

theorem Continues.coherent (continues : Continues configuration world later)
    (coherent : Coherent world) : Coherent later := by
  induction continues with
  | refl => exact coherent
  | tail _ step inductionHypothesis =>
      obtain ⟨request, rfl⟩ := step
      exact Request.coherent_after inductionHypothesis

theorem Continues.remembers (continues : Continues configuration world later)
    (coherent : Coherent world) (remembers : world.Remembers participant) :
    later.Remembers participant := by
  induction continues with
  | refl => exact remembers
  | tail earlier step inductionHypothesis =>
      obtain ⟨request, rfl⟩ := step
      exact inductionHypothesis.after (Continues.coherent earlier coherent) request

theorem Continues.reachable (continues : Continues configuration world later)
    (reached : Reachable configuration world) : Reachable configuration later := by
  induction continues with
  | refl => exact reached
  | tail _ step inductionHypothesis =>
      obtain ⟨request, rfl⟩ := step
      exact .request inductionHypothesis request trivial

/-- A stored entry is remembered. -/
theorem World.remembers_of_stored (coherent : Coherent world) {session : Session}
    (stored : world.get session.sessionId = some session)
    (member : participant ∈ session.participants) : world.Remembers participant := by
  have belongs := (coherent.sessions session (InMemorySessionRepository.get_mem stored).1).belongs
    participant member
  exact ⟨session, by rw [belongs, stored], participant, member, .refl participant⟩

end Remembering

/-! ## Leaving -/

/-- After a leave that returned, no remembered entry of the user was active. -/
theorem Request.Dismissed.ended {configuration : Configuration} {start later : World}
    {sessionId : UUID} {actor : Actor} (dismissed : Request.Dismissed start later sessionId actor)
    (playing : ∀ session ∈ start.sessions, session.Playing configuration)
    (coherent : Coherent later) {participant : Participant}
    (remembers : later.Remembers participant) (own : participant.sessionId = sessionId)
    (user : participant.userId = actor.userId) (active : participant.state = .active) :
    ∃ item, item.state.terminal = true ∧ later.Remembers item ∧
      participant.Conforms item := by
  obtain ⟨session, stored, kind⟩ := dismissed
  obtain ⟨found, foundStored, item, member, conforms⟩ := remembers
  rw [own, stored] at foundStored
  obtain rfl := Option.some.inj foundStored
  have sameId : session.sessionId = sessionId := (InMemorySessionRepository.get_mem stored).2
  have kept : later.Remembers item := World.remembers_of_stored coherent (sameId ▸ stored) member
  refine ⟨item, ?_, kept, conforms⟩
  -- The entry was active once, so by now it is active or ended.
  have past : item.state.halfStarted = false :=
    conforms.moves.not_halfStarted (by rw [active]; rfl)
  have shape := (coherent.sessions session (InMemorySessionRepository.get_mem stored).1).shape
  rcases shape.classify member with half | still | ended
  · rw [past] at half
    cases half
  · rcases kind with all | ⟨before, leaver, now, updatedAt, storedBefore,
      leaverMember, leaverUser, leaverActive, rfl⟩
    · exact all item member (conforms.userId.trans user)
    · -- The user's only active entry is the one that left.
      exfalso
      rcases Update.mem_result member with ⟨original, originalMember, rfl⟩ | joined
      · simp only [Update.revise, Update.put] at still conforms
        split at still
        · cases still
        · rename_i other
          rw [if_neg other] at conforms
          refine other ((playing before (InMemorySessionRepository.get_mem storedBefore).1).single
            original originalMember leaver leaverMember still leaverActive ?_)
          rw [conforms.userId, user, leaverUser]
      · cases joined
  · exact ended

/-! ## Launches -/

/-- The request is a launch that returns this material. -/
def Request.HandsOut (configuration : Configuration) (request : Request) (world : World)
    (sessionId : UUID) (actor : Actor) (launch : StreamLaunch) : Prop :=
  request.operation = .launch sessionId actor ∧
    (request.run configuration world).1 = .returned (.launch launch)

/-- Between the two worlds the actor left the session, and the leave returned. -/
def LeftBetween (configuration : Configuration) (before after : World) (sessionId : UUID)
    (actor : Actor) : Prop :=
  ∃ (world : World) (request : Request) (leaver : Actor) (reply : Reply),
    Continues configuration before world ∧
    request.operation = .leave sessionId leaver ∧ leaver.userId = actor.userId ∧
    (request.run configuration world).1 = .returned reply ∧
    Continues configuration (request.after configuration world) after

/-- The material is that of the actor's active entry of the session. -/
structure StreamLaunch.BelongsTo (configuration : Configuration)
    (provider : SelkiesStreamProvider) (world : World) (sessionId : UUID) (actor : Actor)
    (launch : StreamLaunch) (session : Session) (participant : Participant) : Prop where
  stored : world.get sessionId = some session
  member : participant ∈ session.participants
  user : participant.userId = actor.userId
  active : participant.state = .active
  streamPath : participant.streamPath.map (· ++ "/") = some launch.streamPath
  ownPath : launch.streamPath = "/stream/" ++ UUID.hex participant.participantId ++ "/"
  ownToken : launch.accessToken = deriveControllerToken provider.hmac
    provider.config.orchestrationSecret participant.participantId
  bounded : launch.expiresAt ≤ session.createdAt + configuration.sessionTtl

section Launches

variable {configuration : Configuration} {world later : World} {request : Request}
variable {provider : SelkiesStreamProvider} {sessionId : UUID} {actor : Actor}
variable {launch : StreamLaunch}

theorem Request.HandsOut.belongs
    (handed : request.HandsOut configuration world sessionId actor launch)
    (reached : Reachable configuration world)
    (streams : request.dependencies.StreamsBy provider) :
    request.dependencies.clock (world.history.length + 1) < launch.expiresAt ∧
      ∃ session participant,
        launch.BelongsTo configuration provider world sessionId actor session participant := by
  obtain ⟨operation, returned⟩ := handed
  have follows : request.Follows configuration world world
      (request.operation.program (request.service configuration))
      (fun reply _ => ∀ launch, reply = .launch launch → ∃ session participant,
        request.Launched world sessionId actor launch session participant) fun _ _ => True := by
    rw [operation]
    refine follows_map ((Request.follows_launch operation).weakenValue ?_)
    rintro value _ launched _ ⟨⟩
    exact launched
  obtain ⟨-, holds⟩ := Follows.returned follows reached.coherent (Prod.ext returned rfl)
  obtain ⟨session, participant, launched⟩ := holds launch rfl
  have playing := reached.playing session (InMemorySessionRepository.get_mem launched.stored).1
  obtain ⟨requester, provided⟩ := streams _ _ _ le_rfl (by decide) launched.answers.2
  refine ⟨launched.expiresAt ▸ launched.inTime, session, participant, launched.stored,
    launched.member, launched.user, launched.active, launched.streamPath, ?_, ?_, ?_⟩
  · have path := launched.streamPath
    rw [playing.paths participant launched.member launched.active] at path
    exact (Option.some.inj path).symm
  · rw [launched.accessToken]
    exact SelkiesStreamProvider.provision_ok provided
  · rw [launched.expiresAt]
    exact playing.bounded

/-- A stored entry with a remembered identifier is the remembered one. -/
theorem World.Remembers.conforms {participant item : Participant} {session : Session}
    (remembers : world.Remembers participant) (coherent : Coherent world)
    (stored : world.get session.sessionId = some session) (member : item ∈ session.participants)
    (same : item.participantId = participant.participantId) :
    participant.sessionId = session.sessionId ∧ participant.Conforms item := by
  obtain ⟨other, found, current, currentMember, conforms⟩ := remembers
  obtain ⟨otherMember, otherId⟩ := InMemorySessionRepository.get_mem found
  have sessionMember := (InMemorySessionRepository.get_mem stored).1
  have sameIds : item.participantId = current.participantId :=
    same.trans conforms.participantId.symm
  have sameSession := coherent.disjoint session sessionMember other otherMember item member
    current currentMember sameIds
  rw [← otherId, ← sameSession, stored] at found
  obtain rfl := Option.some.inj found
  have entry := eq_of_key (coherent.sessions session sessionMember).ids member currentMember sameIds
  exact ⟨otherId.symm, entry ▸ conforms⟩

/-- Launches for different actors, in different sessions, or before a leave and
after it are launches of different entries. -/
theorem StreamLaunch.BelongsTo.apart {launch' : StreamLaunch} {sessionId' : UUID}
    {actor' : Actor} {session session' : Session} {participant participant' : Participant}
    (reached : Reachable configuration world)
    (mine : launch.BelongsTo configuration provider world sessionId actor session participant)
    (continues : Continues configuration (request.after configuration world) later)
    (other : launch'.BelongsTo configuration provider later sessionId' actor' session' participant')
    (differ : actor.userId ≠ actor'.userId ∨ sessionId ≠ sessionId' ∨
      LeftBetween configuration (request.after configuration world) later sessionId actor) :
    participant.participantId ≠ participant'.participantId := by
  intro same
  have stored := mine.stored
  have sessionSame : session.sessionId = sessionId := (InMemorySessionRepository.get_mem stored).2
  have sessionSame' : session'.sessionId = sessionId' :=
    (InMemorySessionRepository.get_mem other.stored).2
  have belongs : participant.sessionId = sessionId :=
    ((reached.coherent.sessions session (InMemorySessionRepository.get_mem stored).1).belongs
      participant mine.member).trans sessionSame
  have coherent : Coherent (request.after configuration world) :=
    Request.coherent_after reached.coherent
  have remembers : (request.after configuration world).Remembers participant :=
    (World.remembers_of_stored reached.coherent (sessionSame ▸ stored) mine.member).after
      reached.coherent request
  have coherent' := continues.coherent coherent
  have stored' : later.get session'.sessionId = some session' := sessionSame' ▸ other.stored
  obtain ⟨entrySession, conforms⟩ := (continues.remembers coherent remembers).conforms coherent'
    stored' other.member same.symm
  rcases differ with users | sessions | ⟨between, leave, leaver, reply, first, operation, user,
    returned, rest⟩
  · exact users (by rw [← mine.user, ← other.user, conforms.userId])
  · exact sessions (by rw [← belongs, entrySession, sessionSame'])
  · have reachedBetween : Reachable configuration between :=
      first.reachable (.request reached request trivial)
    have follows : leave.Follows configuration between between
        (leave.operation.program (leave.service configuration))
        (fun _ later => Request.Dismissed between later sessionId leaver) fun _ _ => True := by
      rw [operation]
      exact follows_map (Request.follows_leave operation)
    obtain ⟨coherentLeft, dismissed⟩ :=
      Follows.returned follows reachedBetween.coherent (Prod.ext returned rfl)
    have kept : (leave.after configuration between).Remembers participant :=
      (first.remembers coherent remembers).after reachedBetween.coherent leave
    obtain ⟨item, final, itemKept, itemConforms⟩ := dismissed.ended reachedBetween.playing
      coherentLeft kept belongs (mine.user.trans user.symm) mine.active
    -- The entry had ended when the leave returned, and ended entries never change.
    have itemId : participant'.participantId = item.participantId :=
      same.symm.trans itemConforms.participantId.symm
    have last := (rest.remembers coherentLeft itemKept).conforms coherent'
      stored' other.member itemId
    rw [← last.2.final final, other.active] at final
    cases final

end Launches

/-- Launches are isolated, in every run over a Selkies provider whose keyed hash
is free of collisions. -/
theorem launches_isolated (configuration : Configuration) (provider : SelkiesStreamProvider)
    (collisionFree : Set.InjOn
      (provider.hmac (secretKey provider.config.orchestrationSecret)) tokenMessages)
    (world : World) (reached : Reachable configuration world) (request : Request)
    (sessionId : UUID) (actor : Actor) (launch : StreamLaunch)
    (streams : request.dependencies.StreamsBy provider)
    (handed : request.HandsOut configuration world sessionId actor launch) :
    (request.dependencies.clock (world.history.length + 1) < launch.expiresAt ∧
      ∃ session participant,
        launch.BelongsTo configuration provider world sessionId actor session participant) ∧
    (∀ (later : World) (request' : Request) (sessionId' : UUID) (actor' : Actor)
      (launch' : StreamLaunch),
      Continues configuration (request.after configuration world) later →
      request'.dependencies.StreamsBy provider →
      request'.HandsOut configuration later sessionId' actor' launch' →
      (actor.userId ≠ actor'.userId ∨ sessionId ≠ sessionId' ∨
        LeftBetween configuration (request.after configuration world) later sessionId actor) →
      launch.streamPath ≠ launch'.streamPath ∧ launch.accessToken ≠ launch'.accessToken) ∧
    ∀ participantId otherId,
      deriveControllerToken provider.hmac provider.config.orchestrationSecret participantId ≠
        deriveMasterToken provider.hmac provider.config.orchestrationSecret otherId := by
  have owned := handed.belongs reached streams
  refine ⟨owned, ?_, deriveControllerToken_ne_master collisionFree⟩
  intro later request' sessionId' actor' launch' continues streams' handed' differ
  have reached' := continues.reachable (.request reached request trivial)
  obtain ⟨-, session, participant, mine⟩ := owned
  obtain ⟨-, session', participant', other⟩ := handed'.belongs reached' streams'
  have apart := mine.apart reached continues other differ
  constructor
  · rw [mine.ownPath, other.ownPath]
    intro same
    have texts := congrArg String.toList same
    simp only [String.toList_append, List.append_cancel_right_eq,
      List.append_cancel_left_eq] at texts
    exact apart (UUID.hex_injective (String.toList_injective texts))
  · rw [mine.ownToken, other.ownToken]
    exact fun same => apart (deriveControllerToken_injective collisionFree same)

section Example

/-- A keyed hash for examples: the last sixteen bytes of the message in
hexadecimal, behind thirty-two digits that tell the two kinds of message apart. -/
def tokenDigest : Hmac := fun _ message =>
  String.ofList (List.replicate 32 (if message.length = 16 then '0' else '1') ++
    UUID.hexDigits (BitVec.ofNat 128
      (digitValue 256 ((message.drop (message.length - 16)).map UInt8.toNat))))

theorem tokenDigest_bytes (key : List UInt8) (id : UUID) : tokenDigest key (UUID.bytes id) =
    String.ofList (List.replicate 32 '0' ++ UUID.hexDigits id) := by
  simp [tokenDigest, UUID.ofNat_bytes]

theorem tokenDigest_labelled (key : List UInt8) (id : UUID) :
    tokenDigest key (controllerLabel ++ UUID.bytes id) =
      String.ofList (List.replicate 32 '1' ++ UUID.hexDigits id) := by
  have labelled : controllerLabel.length ≠ 0 :=
    fun empty => controllerLabel_ne_nil (List.length_eq_zero_iff.mp empty)
  simp [tokenDigest, UUID.ofNat_bytes, labelled]

theorem tokenDigest_injOn (key : List UInt8) : Set.InjOn (tokenDigest key) tokenMessages := by
  rintro left ⟨leftId, rfl | rfl⟩ right ⟨rightId, rfl | rfl⟩ same
  all_goals
    simp only [tokenDigest_bytes, tokenDigest_labelled] at same
    obtain ⟨kinds, digits⟩ := List.append_inj (String.ofList_injective same) (by simp)
  · rw [UUID.hexDigits_injective digits]
  · cases kinds
  · cases kinds
  · rw [UUID.hexDigits_injective digits]

/-- A provider for examples, and dependencies that use it. -/
def exampleProvider : SelkiesStreamProvider :=
  ⟨tokenDigest, ⟨"an orchestration secret of the tests", 8080⟩⟩

def Dependencies.streaming : Dependencies :=
  { Dependencies.fakes fun _ => 0 with
    controllerToken := fun _ participantId => deriveControllerToken exampleProvider.hmac
      exampleProvider.config.orchestrationSecret participantId }

theorem Dependencies.streaming_streamsBy : streaming.StreamsBy exampleProvider := by
  intro index participantId gamepadSlot positive small _
  refine ⟨fun _ _ _ _ => .ok 200, ?_⟩
  rw [SelkiesStreamProvider.provision, if_neg (by omega)]
  rfl

/-- The two players of the lobby launch, one after the other. -/
theorem joined_lobby_launches_apart :
    let joinedLobby := lobbyJoin.after .default createdLobby
    let firstLaunch : Request := ⟨.launch 8 firstActor, .streaming⟩
    let secondLaunch : Request := ⟨.launch 8 secondActor, .streaming⟩
    ∃ first second,
      firstLaunch.HandsOut .default joinedLobby 8 firstActor first ∧
      secondLaunch.HandsOut .default (firstLaunch.after .default joinedLobby) 8
        secondActor second ∧
      first.streamPath ≠ second.streamPath ∧ first.accessToken ≠ second.accessToken := by
  intro joinedLobby firstLaunch secondLaunch
  have handed : firstLaunch.HandsOut .default joinedLobby 8 firstActor
      ⟨"/stream/00000000000000000000000000000009/",
        "1111111111111111111111111111111100000000000000000000000000000009", 120000000⟩ :=
    ⟨rfl, by decide +kernel⟩
  have handed' : secondLaunch.HandsOut .default (firstLaunch.after .default joinedLobby) 8
    secondActor
      ⟨"/stream/0000000000000000000000000000001c/",
        "111111111111111111111111111111110000000000000000000000000000001c", 120000000⟩ :=
    ⟨rfl, by decide +kernel⟩
  have reached : Reachable .default joinedLobby := .request createdLobby_reachable lobbyJoin trivial
  obtain ⟨-, apart, -⟩ := launches_isolated .default exampleProvider
    (tokenDigest_injOn (secretKey exampleProvider.config.orchestrationSecret)) joinedLobby reached
      firstLaunch 8 firstActor _ Dependencies.streaming_streamsBy handed
  exact ⟨_, _, handed, handed', apart _ secondLaunch 8 secondActor _ Relation.ReflTransGen.refl
    Dependencies.streaming_streamsBy handed' (Or.inl (by decide))⟩

end Example

end RetroBrowser.SessionManager
