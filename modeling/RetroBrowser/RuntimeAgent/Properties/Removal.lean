import RetroBrowser.RuntimeAgent.Api.Server
import RetroBrowser.RuntimeAgent.Properties.Rollback
import RetroBrowser.SessionManager.Providers.Execution.RuntimeAgent

/-!
Owns what a removal that the manager takes for done leaves behind.

Contract: the manager accepts the statuses 200 and 404. A 404 says that the engine missed
the container, but only the first of three calls to the engine is followed by the removal of
the participant's files; a container that disappears after it was inspected keeps them.
-/

namespace RetroBrowser.RuntimeAgent

open RetroBrowser.Foundation
open RetroBrowser.Foundation.Program

/-! ## Containers that disappear -/

/-- A container that vanishes is not there any longer. -/
theorem absent_of_vanishes {containerId : String} {engine : Engine} {drifts : List Drift}
    (vanishes : .vanishes containerId ∈ drifts) :
    ¬Present containerId (engine.drifted drifts) := by
  induction drifts generalizing engine with
  | nil => exact absurd vanishes List.not_mem_nil
  | cons drift rest inductionHypothesis =>
      cases List.mem_cons.mp vanishes with
      | inl first =>
          intro ⟨later, member, identity⟩
          have ⟨earlier, earlierMember, same⟩ :=
            (Engine.within_drifted (engine.drift drift) rest).containers later member
          have discarded := absent_of_discard containerId engine
          rw [← first] at earlierMember
          exact discarded ⟨earlier, earlierMember, same.containerId.trans identity⟩
      | inr later => exact inductionHypothesis later

theorem present_drifted {containerId : String} {engine : Engine} {drifts : List Drift}
    (present : Present containerId engine) :
    Present containerId (engine.drifted drifts) ↔ .vanishes containerId ∉ drifts := by
  constructor
  · intro stays vanishes
    exact absent_of_vanishes vanishes stays
  · intro stays
    have ⟨container, member, identity⟩ := present
    have ⟨later, laterMember, same⟩ := Engine.drifted_keeps member (identity.symm ▸ stays)
    exact ⟨later, laterMember, same.containerId.symm.trans identity⟩

theorem present_of_found {containerId : String} {engine : Engine} {container : Container}
    (found : engine.find? (.byId containerId) = some container) : Present containerId engine :=
  ⟨container, Engine.find?_mem found, Engine.find?_id found⟩

/-! ## What the calls of a removal tell -/

section Told

variable {dependencies : Dependencies} {host : Host}

/-- The host at the moment of the next call. -/
def Dependencies.upcoming (dependencies : Dependencies) (host : Host) : Host :=
  host.drifted (dependencies.drifts host.history.length)

/-- A call that never raises `NotFoundError` by itself: it returns where the host answers,
and raises `NotFoundError` only where the host refuses it so. -/
theorem ensures_told {call : Call}
    (silent : ∀ error, error.isNotFound = true → call.mayRaise error = false) :
    (dependencies.invoke call).Ensures
      ⟨fun value after =>
          call.answer dependencies host.history.length (dependencies.upcoming host) = .ok value ∧
          ∃ event, after = (call.effect dependencies host.history.length
            (dependencies.upcoming host)).record event,
        fun error after => error.isNotFound = true →
          call.answer dependencies host.history.length (dependencies.upcoming host) =
            .error error ∧
          ∃ event, after = (dependencies.upcoming host).record event,
        fun _ => True⟩ host := by
  unfold Ensures Dependencies.invoke
  by_cases stop : dependencies.stops host.history.length call = true
  · rw [if_pos stop]
    trivial
  rw [if_neg stop]
  dsimp only
  rcases plan : dependencies.fault host.history.length call with _ | ⟨error, applied⟩
  · rcases answers : call.answer dependencies host.history.length
      (host.drifted (dependencies.drifts host.history.length)) with error | value
    · exact fun _ => ⟨answers, _, rfl⟩
    · exact ⟨answers, _, rfl⟩
  · have raised : error.isNotFound ≠ true := fun missing => by
      have allowed := dependencies.lawful _ _ _ plan
      rw [silent error missing] at allowed
      exact Bool.noConfusion allowed
    rcases call.answer dependencies host.history.length
      (host.drifted (dependencies.drifts host.history.length)) with refusal | value
    · exact fun missing => absurd missing raised
    · cases applied <;> exact fun missing => absurd missing raised

/-- A call about one container that is there: it returns unless the container vanishes just
before, and that is the only way it raises `NotFoundError`. -/
theorem ensures_present {call : Call} {containerId : String}
    (silent : ∀ error, error.isNotFound = true → call.mayRaise error = false)
    (accepts : ∀ index before value, call.answer dependencies index before = .ok value →
      Present containerId before.engine)
    (refuses : ∀ index before error, call.answer dependencies index before = .error error →
      ¬Present containerId before.engine)
    (present : Present containerId host.engine) :
    (dependencies.invoke call).Ensures
      ⟨fun _ after => .vanishes containerId ∉ dependencies.drifts host.history.length ∧
          ∃ event, after = (call.effect dependencies host.history.length
            (dependencies.upcoming host)).record event,
        fun error after => error.isNotFound = true →
          .vanishes containerId ∈ dependencies.drifts host.history.length ∧
          ∃ event, after = (dependencies.upcoming host).record event,
        fun _ => True⟩ host := by
  apply (ensures_told silent).mono
  · intro value after ⟨answers, recorded⟩
    exact ⟨(present_drifted present).mp (accepts _ _ value answers), recorded⟩
  · intro error after told missing
    have ⟨answers, recorded⟩ := told missing
    have absent := refuses _ _ error answers
    exact ⟨by_contra fun stays => absent ((present_drifted present).mpr stays), recorded⟩
  · exact fun _ _ => trivial

theorem stopContainer_silent (containerId : String) (error : Error)
    (missing : error.isNotFound = true) :
    (Call.stopContainer containerId).mayRaise error = false := by
  cases error <;> simp_all [Error.isNotFound, Call.mayRaise]

theorem removeContainer_silent (containerId : String) (error : Error)
    (missing : error.isNotFound = true) :
    (Call.removeContainer containerId).mayRaise error = false := by
  cases error <;> simp_all [Error.isNotFound, Call.mayRaise]

theorem inspectContainer_silent (reference : Reference) (error : Error)
    (missing : error.isNotFound = true) :
    (Call.inspectContainer reference).mayRaise error = false := by
  cases error <;> simp_all [Error.isNotFound, Call.mayRaise]

end Told

/-! ## Removals -/

namespace Dependencies

variable (dependencies : Dependencies)

/-- The container disappears just before the call of this number or, where it has to be
stopped first, just before the next one. -/
def TakesAway (container : Container) (index : Nat) : Prop :=
  .vanishes container.containerId ∈ dependencies.drifts index ∨
    container.state = .running ∧
      .vanishes container.containerId ∈ dependencies.drifts (index + 1)

/-- The container that the inspection finds disappears on its own before the removal has
stopped it, or removed it. -/
def VanishesMeanwhile (participantId : UUID) (host : Host) : Prop :=
  ∃ container, (dependencies.upcoming host).engine.find?
      (.byName (containerName participantId)) = some container ∧
    dependencies.TakesAway container (host.history.length + 1)

end Dependencies

namespace RuntimeService

variable (self : RuntimeService) (participantId : UUID)

/-- The participant has no route and no metrics target. Without a directory of targets
there are none. -/
def Withdrawn (host : Host) : Prop :=
  host.published .routes participantId = none ∧
    (self.config.metricsTargetRoot.isSome = true → host.published .targets participantId = none)

/-- The agent gives a participant's labels only to the container of its name. -/
def Named (engine : Engine) : Prop :=
  ∀ container ∈ engine.containers, OwnedBy participantId container.labels →
    container.name = containerName participantId

theorem named_survives : Survives (Named participantId) := by
  intro before after within named container member owned
  have ⟨earlier, earlierMember, same⟩ := within.containers container member
  rw [← same.labels] at owned
  exact same.name.symm.trans (named earlier earlierMember owned)

end RuntimeService

/-- Nothing of the participant is left: no container of its name and no file. -/
structure RuntimeService.NoResidue (service : RuntimeService) (participantId : UUID)
    (host : Host) : Prop where
  container : Gone (containerName participantId) host.engine
  files : service.Withdrawn participantId host

namespace RuntimeService

variable {self : RuntimeService} {participantId : UUID}

theorem Withdrawn.congr {before after : Host} (same : after.files = before.files) :
    self.Withdrawn participantId after ↔ self.Withdrawn participantId before := by
  unfold Withdrawn Host.published
  rw [same]

/-- Removing both files leaves neither, and never raises `NotFoundError`. -/
theorem unpublish_withdraws {host : Host} : (self.unpublish participantId).Ensures
    ⟨fun _ after => self.Withdrawn participantId after,
      fun error _ => error.isNotFound = false, fun _ => True⟩ host := by
  have unlinks : ∀ (registry : Registry) (before : Host),
      (self.dependencies.invoke (.unlink registry participantId)).Ensures
        ⟨fun _ after => after.published registry participantId = none ∧
            ∀ other, other ≠ registry →
              after.published other participantId = before.published other participantId,
          fun error _ => error.isNotFound = false, fun _ => True⟩ before := by
    intro registry before
    apply ensures_invoke
    intro outcome after happens
    have system : ∀ error, (Call.unlink registry participantId).mayRaise error = true →
        error.isNotFound = false := by
      intro error allowed
      cases error <;> simp_all [Call.mayRaise, Error.isRuntimeAgentError, Error.isNotFound]
    cases happens with
    | stopped => trivial
    | returned drifts value answers =>
        constructor
        · show (Host.files _ registry).lookup _ = none
          rw [Host.record_files, Call.effect, Host.withFiles_files_self, AList.lookup_erase]
        · intro other differs
          show (Host.files _ other).lookup _ = _
          rw [Host.record_files, Call.effect, Host.withFiles_files_other _ _ _ differs]
          rfl
    | lost drifts error value answers allowed => exact system error allowed
    | refused drifts error answers => simp [Call.answer] at answers
    | failed drifts error allowed => exact system error allowed
  apply ensures_bind.mpr
  refine (unlinks .routes host).mono (fun _ between facts => ?_) (fun _ _ => id) fun _ => id
  obtain ⟨unrouted, _⟩ := facts
  show (self.metricsRemove participantId).Ensures _ between
  unfold metricsRemove
  apply ensures_ite.mpr
  constructor
  · intro missing
    exact ⟨unrouted, fun given => by simp [Option.isNone_iff_eq_none.mp missing] at given⟩
  · intro _
    refine (unlinks .targets between).mono (fun _ after facts => ?_) (fun _ _ => id) fun _ => id
    obtain ⟨untargeted, other⟩ := facts
    exact ⟨(other .routes (by simp)).trans unrouted, fun _ => untargeted⟩

/-- The container is there, is the only one of the participant's name, and no file has
changed since `start`. -/
structure Inspected (participantId : UUID) (containerId : String) (start host : Host) : Prop where
  only : OnlyBy (containerName participantId) containerId host.engine
  present : Present containerId host.engine
  files : host.files = start.files

/-- The container vanished: none has the name any longer, and the files are as they were. -/
structure Vanished (participantId : UUID) (start host : Host) : Prop where
  gone : Gone (containerName participantId) host.engine
  files : host.files = start.files

section Steps

variable {containerId : String} {start host : Host}

/-- An inspected container that is not there just before the next call. -/
theorem Inspected.vanished (inspected : Inspected participantId containerId start host)
    {dependencies : Dependencies} {event : Event}
    (vanishes : .vanishes containerId ∈ dependencies.drifts host.history.length) :
    Vanished participantId start ((dependencies.upcoming host).record event) := by
  have within := Engine.within_drifted host.engine (dependencies.drifts host.history.length)
  have only := onlyBy_survives _ _ _ _ within inspected.only
  have absent : ¬Present containerId (dependencies.upcoming host).engine :=
    absent_of_vanishes vanishes
  constructor
  · exact only.gone fun container member identity => absent ⟨container, member, identity⟩
  · exact inspected.files

/-- The inspection finds the container as it is just before the call, or misses it there. -/
theorem ensures_inspectFound :
    (self.inspectContainer (.byName (containerName participantId))).Ensures
      ⟨fun record after => after.history.length = host.history.length + 1 ∧
          ∃ container, (self.dependencies.upcoming host).engine.find?
            (.byName (containerName participantId)) = some container ∧
            container.toContainerRecord = record ∧
            Inspected participantId container.containerId host after,
        fun error after => error.isNotFound = true →
          (self.dependencies.upcoming host).engine.find? (.byName (containerName participantId)) =
            none ∧ Vanished participantId host after,
        fun _ => True⟩ host := by
  refine (ensures_told (inspectContainer_silent _)).mono (fun record after told => ?_)
    (fun error after told missing => ?_) fun _ => id
  · have ⟨answers, event, recorded⟩ := told
    have ⟨container, found, same⟩ := Call.answer_inspect answers
    have member := Engine.find?_mem found
    have named := Engine.find?_name found
    subst recorded
    refine ⟨rfl, container, found, same, ?_, ⟨container, member, rfl⟩, rfl⟩
    intro other otherMember otherNamed
    rw [Engine.eq_of_name otherMember member (otherNamed.trans named.symm)]
  · have ⟨answers, event, recorded⟩ := told missing
    have ⟨unfound, _⟩ := Call.onContainer_error answers
    subst recorded
    exact ⟨unfound, gone_of_missing unfound, rfl⟩

/-- Stopping the container. -/
theorem ensures_stopInspected (inspected : Inspected participantId containerId start host) :
    (self.stopContainer containerId).Ensures
      ⟨fun _ after => .vanishes containerId ∉ self.dependencies.drifts host.history.length ∧
          after.history.length = host.history.length + 1 ∧
          Inspected participantId containerId start after,
        fun error after => error.isNotFound = true →
          .vanishes containerId ∈ self.dependencies.drifts host.history.length ∧
          Vanished participantId start after,
        fun _ => True⟩ host := by
  refine (ensures_present (stopContainer_silent containerId) (fun _ _ _ answers => ?_)
    (fun _ _ _ answers => ?_) inspected.present).mono (fun _ after told => ?_)
    (fun error after told missing => ?_) fun _ => id
  · have ⟨container, found, _⟩ := Call.onContainer_ok answers
    exact present_of_found found
  · exact absent_of_missing (Call.onContainer_error answers).1
  · have ⟨stays, event, recorded⟩ := told
    have within : host.engine.Within ((Call.stopContainer containerId).effect self.dependencies
        host.history.length (self.dependencies.upcoming host)).engine :=
      (Engine.within_drifted _ _).trans (Engine.within_adjust _ _ _ _)
    have there : Present containerId (self.dependencies.upcoming host).engine :=
      (present_drifted inspected.present).mpr stays
    have present : Present containerId ((Call.stopContainer containerId).effect self.dependencies
        host.history.length (self.dependencies.upcoming host)).engine :=
      Call.present_effect (by simp) there
    subst recorded
    exact ⟨stays, rfl, onlyBy_survives _ _ _ _ within inspected.only, present, inspected.files⟩
  · have ⟨vanishes, event, recorded⟩ := told missing
    subst recorded
    exact ⟨vanishes, inspected.vanished vanishes⟩

/-- Removing the container. -/
theorem ensures_removeInspected (inspected : Inspected participantId containerId start host) :
    (self.removeContainer containerId).Ensures
      ⟨fun _ after => .vanishes containerId ∉ self.dependencies.drifts host.history.length ∧
          Gone (containerName participantId) after.engine,
        fun error after => error.isNotFound = true →
          .vanishes containerId ∈ self.dependencies.drifts host.history.length ∧
          Vanished participantId start after,
        fun _ => True⟩ host := by
  refine ((ensures_present (removeContainer_silent containerId) (fun _ _ _ answers => ?_)
    (fun _ _ _ answers => ?_) inspected.present).and (removeContainer_gone inspected.only)).mono
    (fun _ after facts => ?_) (fun error after facts missing => ?_) fun _ _ => trivial
  · have ⟨container, found, _⟩ := Call.onContainer_ok answers
    exact present_of_found found
  · exact absent_of_missing (Call.onContainer_error answers).1
  · exact ⟨facts.1.1, facts.2⟩
  · have ⟨vanishes, event, recorded⟩ := facts.1 missing
    subst recorded
    exact ⟨vanishes, inspected.vanished vanishes⟩

/-- Without a container of the name, withdrawing the files leaves no residue. -/
theorem unpublish_clears (gone : Gone (containerName participantId) host.engine) :
    (self.unpublish participantId).Ensures ⟨fun _ after => self.NoResidue participantId after,
      fun error _ => error.isNotFound = false, fun _ => True⟩ host :=
  ((unpublish_keeps_gone gone).and unpublish_withdraws).mono (fun _ _ both => ⟨both.1, both.2⟩)
    (fun _ _ both => both.2) fun _ _ => trivial

end Steps

/-- How a removal ends after the inspection has found the container. -/
theorem removeFound_ends {start host : Host} {container : Container} {index : Nat}
    (counted : host.history.length = index)
    (inspected : Inspected participantId container.containerId start host) :
    (do
      Program.runIf (container.state = .running) (self.stopContainer container.containerId)
      self.removeContainer container.containerId
      self.unpublish participantId : AgentProgram Unit).Ensures
      ⟨fun _ after => ¬self.dependencies.TakesAway container index ∧
          self.NoResidue participantId after,
        fun error after => error.isNotFound = true →
          self.dependencies.TakesAway container index ∧ Vanished participantId start after,
        fun _ => True⟩ host := by
  -- The last calls, the same whether or not the container had to be stopped.
  have last : ∀ {between : Host} {turn : Nat}, between.history.length = turn →
      Inspected participantId container.containerId start between →
      (do
        self.removeContainer container.containerId
        self.unpublish participantId : AgentProgram Unit).Ensures
        ⟨fun _ after => .vanishes container.containerId ∉ self.dependencies.drifts turn ∧
            self.NoResidue participantId after,
          fun error after => error.isNotFound = true →
            .vanishes container.containerId ∈ self.dependencies.drifts turn ∧
              Vanished participantId start after,
          fun _ => True⟩ between := by
    intro between turn atTurn inspected
    subst atTurn
    refine ensures_bind.mpr ((ensures_removeInspected inspected).mono (fun _ after facts => ?_)
      (fun _ _ => id) fun _ => id)
    refine (unpublish_clears facts.2).mono (fun _ _ cleared => ⟨facts.1, cleared⟩)
      (fun _ _ system missing => ?_) fun _ => id
    rw [system] at missing
    exact Bool.noConfusion missing
  by_cases running : container.state = .running
  · have stop : (self.stopContainer container.containerId).Ensures _ host :=
      ensures_stopInspected inspected
    rw [counted] at stop
    refine ensures_bind.mpr (ensures_runIf.mpr ⟨fun _ => stop.mono (fun _ between facts => ?_)
      (fun _ after facts missing => ?_) fun _ => id, fun idle => absurd running idle⟩)
    · have ⟨stays, later, inspected'⟩ := facts
      refine (last later inspected').mono (fun _ after facts' => ?_)
        (fun _ after facts' missing => ?_) fun _ => id
      · exact ⟨fun vanishes => vanishes.elim stays fun both => facts'.1 both.2, facts'.2⟩
      · have ⟨vanishes, vanished⟩ := facts' missing
        exact ⟨Or.inr ⟨running, vanishes⟩, vanished⟩
    · have ⟨vanishes, vanished⟩ := facts missing
      exact ⟨Or.inl vanishes, vanished⟩
  · refine ensures_bind.mpr (ensures_runIf.mpr ⟨fun run => absurd run running, fun _ => ?_⟩)
    refine (last counted inspected).mono (fun _ after facts => ?_)
      (fun _ after facts missing => ?_) fun _ => id
    · exact ⟨fun vanishes => vanishes.elim facts.1 fun both => running both.1, facts.2⟩
    · have ⟨vanishes, vanished⟩ := facts missing
      exact ⟨Or.inl vanishes, vanished⟩

/-- How a removal ends: it leaves no residue, or it raises `NotFoundError` and leaves none
because the inspection missed the container, or the files because the container vanished
later on. -/
theorem removeRuntime_ends {host : Host} : (self.removeRuntime participantId).Ensures
    ⟨fun _ after => ¬self.dependencies.VanishesMeanwhile participantId host ∧
        self.NoResidue participantId after,
      fun error after => error.isNotFound = true →
        self.dependencies.VanishesMeanwhile participantId host ∧
          Vanished participantId host after ∨
        ¬self.dependencies.VanishesMeanwhile participantId host ∧
          self.NoResidue participantId after,
      fun _ => True⟩ host := by
  refine ensures_bind.mpr (ensures_tryCatch.mpr (ensures_inspectFound.mono
    (fun record after found => ?_) (fun error after missed => ?_) fun _ => id))
  · have ⟨counted, container, shown, same, inspected⟩ := found
    subst same
    have exactly : self.dependencies.VanishesMeanwhile participantId host ↔
        self.dependencies.TakesAway container (host.history.length + 1) := by
      constructor
      · intro ⟨other, otherShown, takesAway⟩
        rw [shown] at otherShown
        cases otherShown
        exact takesAway
      · exact fun takesAway => ⟨container, shown, takesAway⟩
    rw [exactly]
    refine ensures_bind.mpr (ensures_requireOwned (fun _ => ?_) fun _ missing => ?_)
    · exact (removeFound_ends counted inspected).mono (fun _ _ => id)
        (fun _ _ ended missing => Or.inl (ended missing)) fun _ => id
    · exact Bool.noConfusion missing
  · refine ensures_bind.mpr (ensures_runIf.mpr ⟨fun missing => ?_, fun present => ?_⟩)
    · have ⟨unfound, vanished⟩ := missed missing
      have stays : ¬self.dependencies.VanishesMeanwhile participantId host := by
        intro ⟨container, found, _⟩
        rw [unfound] at found
        cases found
      refine (unpublish_clears vanished.gone).mono (fun _ after cleared _ => ?_)
        (fun error after system missing => ?_) fun _ => id
      · exact Or.inr ⟨stays, cleared⟩
      · rw [system] at missing
        exact Bool.noConfusion missing
    · exact fun missing => absurd missing present

end RuntimeService

/-! ## What the manager sees -/

section Manager

open RuntimeRequestHandler
open SessionManager (LocalRuntimeAgentProvider AgentRequester)

variable {service : RuntimeService} {participantId : UUID} {host after : Host}

/-- The path of the manager's request. -/
def runtimePath (participantId : UUID) : String := "/v1/runtimes/" ++ UUID.str participantId

/-- The manager's request, with whatever headers. -/
structure Deletes (participantId : UUID) (message : HttpRequest) : Prop where
  command : message.command = "DELETE"
  path : message.path = runtimePath participantId

theorem remove_ok {requester : AgentRequester} {status : ℤ} {document : PythonValue}
    (received : requester "DELETE" (runtimePath participantId) none = .ok (status, document))
    (accepted : LocalRuntimeAgentProvider.remove requester participantId = .ok ()) :
    status = 200 ∨ status = 404 := by
  by_contra refused
  obtain ⟨undone, found⟩ := not_or.mp refused
  unfold runtimePath at received
  unfold LocalRuntimeAgentProvider.remove at accepted
  rw [received] at accepted
  change (if status ≠ 200 ∧ status ≠ 404 then _ else _) = _ at accepted
  rw [if_pos ⟨undone, found⟩] at accepted
  exact nomatch accepted

/-- The removal returned, or raised `NotFoundError`. -/
def Removed (service : RuntimeService) (participantId : UUID) (host after : Host) : Prop :=
  service.removeRuntime participantId host = (.returned (), after) ∨
    ∃ error, error.isNotFound = true ∧
      service.removeRuntime participantId host = (.raised error, after)

theorem dispatch_deletes {health : AgentProgram Bool} {message : HttpRequest}
    (deletes : Deletes participantId message) :
    dispatch service health message = (do
      service.removeRuntime participantId
      pure (200, .object [("removed", .bool true)])) := by
  unfold dispatch dispatchRuntime
  simp [deletes.command, deletes.path, runtimePath, runtimeId_path]

/-- The statuses that the manager accepts stand for a removal that returned, or raised
`NotFoundError`. -/
theorem removed_of_accepted {health : AgentProgram Bool} {message : HttpRequest} {answer : Sent}
    (deletes : Deletes participantId message)
    (answered : serve service health message host = (.returned answer, after))
    (accepted : answer.1 = 200 ∨ answer.1 = 404) :
    Removed service participantId host after := by
  unfold serve at answered
  rw [tryCatch_apply, dispatch_deletes deletes, bind_apply] at answered
  rcases run : service.removeRuntime participantId host with ⟨outcome, later⟩
  cases outcome with
  | returned value =>
      rw [run] at answered
      cases answered
      exact Or.inl run
  | raised error =>
      rw [run] at answered
      cases answered
      refine Or.inr ⟨error, ?_, run⟩
      cases error <;> simp_all [Error.status, Error.isNotFound]
  | stopped =>
      rw [run] at answered
      cases answered

theorem after_of_removed (removed : Removed service participantId host after) :
    (service.removeRuntime participantId host).2 = after := by
  cases removed with
  | inl returned => rw [returned]
  | inr missed =>
      have ⟨error, _, raised⟩ := missed
      rw [raised]

/-- No container is left, and no file unless the container vanished meanwhile. -/
theorem residue_of_removed (removed : Removed service participantId host after) :
    Gone (containerName participantId) after.engine ∧
      (service.NoResidue participantId after ↔
        (service.dependencies.VanishesMeanwhile participantId host →
          service.Withdrawn participantId host)) := by
  have ends : (service.removeRuntime participantId).Ensures _ host :=
    RuntimeService.removeRuntime_ends
  unfold Ensures at ends
  have cleared : ∀ {vanishes kept : Prop}, ¬vanishes →
    service.NoResidue participantId after →
      Gone (containerName participantId) after.engine ∧
        (service.NoResidue participantId after ↔ (vanishes → kept)) := by
    intro vanishes kept stays residue
    exact ⟨residue.container, fun _ happens => absurd happens stays, fun _ => residue⟩
  cases removed with
  | inl returned =>
      rw [returned] at ends
      exact cleared ends.1 ends.2
  | inr missed =>
      have ⟨error, missing, raised⟩ := missed
      rw [raised] at ends
      cases ends missing with
      | inl both =>
          have ⟨vanishes, vanished⟩ := both
          refine ⟨vanished.gone, ?_⟩
          constructor
          · intro residue _
            exact (RuntimeService.Withdrawn.congr vanished.files).mp residue.files
          · intro kept
            exact ⟨vanished.gone,
              (RuntimeService.Withdrawn.congr vanished.files).mpr (kept vanishes)⟩
      | inr both => exact cleared both.1 both.2

/-- Whatever the engine does, a removal that the manager takes for done leaves no container
of the participant, and no file either, unless the container disappeared after it was
inspected: then the files are as they were before. Nothing of others changes, except what
their containers do on their own. -/
theorem removal_leaves_no_residue_iff (agent : Agent) (dependencies : Dependencies)
    (health : AgentProgram Bool) (requester : AgentRequester) (participantId : UUID)
    (message : HttpRequest) (answer : Sent) (document : PythonValue) (before after : Host)
    (deletes : Deletes participantId message)
    (answered : serve (agent.service dependencies) health message before =
      (.returned answer, after))
    (received : requester "DELETE" (runtimePath participantId) none = .ok (answer.1, document))
    (accepted : LocalRuntimeAgentProvider.remove requester participantId = .ok ()) :
    ((agent.service dependencies).NoResidue participantId after ↔
      (dependencies.VanishesMeanwhile participantId before →
        (agent.service dependencies).Withdrawn participantId before)) ∧
    (RuntimeService.Named participantId before.engine →
      ∀ container ∈ after.engine.containers, ¬OwnedBy participantId container.labels) ∧
    (∀ registry other, other ≠ participantId →
      after.published registry other = before.published registry other) ∧
    TouchesOwn (.remove participantId) before after := by
  have removed := removed_of_accepted deletes answered (remove_ok received accepted)
  have ⟨gone, exactly⟩ := residue_of_removed removed
  have ended := after_of_removed removed
  have touches := agent.run_touchesOwn ⟨.remove participantId, dependencies⟩ before
  rw [show (agent.run ⟨.remove participantId, dependencies⟩ before).2 = after from
    (map_after _ _ before).trans ended] at touches
  refine ⟨exactly, fun named container member owned => ?_,
    fun registry other differs => touches.published rfl registry differs, touches⟩
  have maintains := (RuntimeService.named_survives participantId).limited
    ((agent.service dependencies).limited_removeRuntime participantId)
    fun call ⟨known, tends⟩ => tends.creates
  have kept := (maintains before named).after
  rw [ended] at kept
  exact gone container member (kept container member owned)

/-! ## A container that exits and is swept away -/

/-- The running container of participant 2. -/
def servedContainer : Container where
  containerId := "c1"
  name := containerName 2
  state := .running
  healthStatus := .healthy
  labels := [(managedLabel, "true"), (participantLabel, UUID.str 2)]
  image := exampleConfig.approvedImage
  mounts := []

/-- It is published under its route. -/
def servedHost : Host where
  engine :=
    { containers := [servedContainer]
      issued := ["c1"]
      distinct := by simp
      named := by simp
      recorded := by simp [servedContainer] }
  files := Function.update (fun _ => ∅) .routes ((∅ : Directory).insert
    (Registry.routes.fileName 2)
    (.route ((exampleAgent.service .working).route 2 "/stream/0a" (containerName 2))))
  userFiles := ∅
  history := []

/-- The request of the manager to remove it. -/
def servedDeletion : HttpRequest where
  command := "DELETE"
  path := runtimePath 2
  contentType := none
  contentLength := none
  body := []

theorem served_container_is_removed_whole :
    ∃ after, serve (exampleAgent.service .working) (pure true) servedDeletion servedHost =
        (.returned (200, .object [("removed", .bool true)]), after) ∧
      (exampleAgent.service .working).NoResidue 2 after := by
  have answered : serve (exampleAgent.service .working) (pure true) servedDeletion servedHost =
      (.returned (200, .object [("removed", .bool true)]),
        (serve (exampleAgent.service .working) (pure true) servedDeletion servedHost).2) := rfl
  have leaves := removal_leaves_no_residue_iff exampleAgent .working (pure true)
    (fun _ _ _ => .ok (200, .dict [("removed", .bool true)])) 2 servedDeletion _ _ servedHost _
    ⟨rfl, rfl⟩ answered rfl rfl
  refine ⟨_, answered, leaves.1.mpr fun ⟨container, _, takesAway⟩ => ?_⟩
  cases takesAway with
  | inl vanishes => exact absurd vanishes List.not_mem_nil
  | inr both => exact absurd both.2 List.not_mem_nil

/-- Between its inspection and its stop the container disappears. -/
def Dependencies.fleeting : Dependencies :=
  { Dependencies.working with
    drifts := fun index => if index = 1 then [.vanishes "c1"] else [] }

/-- The manager takes the removal for done, and the route is still there. -/
theorem vanished_container_keeps_its_route :
    ¬∀ (agent : Agent) (dependencies : Dependencies) (health : AgentProgram Bool)
      (requester : AgentRequester) (participantId : UUID) (message : HttpRequest) (answer : Sent)
      (document : PythonValue) (before after : Host), Deletes participantId message →
      serve (agent.service dependencies) health message before = (.returned answer, after) →
      requester "DELETE" (runtimePath participantId) none = .ok (answer.1, document) →
      LocalRuntimeAgentProvider.remove requester participantId = .ok () →
      (agent.service dependencies).NoResidue participantId after := by
  intro always
  have residue := always exampleAgent .fleeting (pure true)
    (fun _ _ _ => .ok (404, .dict [("error", .str "Docker object was not found")])) 2
    servedDeletion (404, sentError "Docker object was not found") _ servedHost
    (serve (exampleAgent.service .fleeting) (pure true) servedDeletion servedHost).2
    ⟨rfl, rfl⟩ rfl rfl rfl
  have routed : ((serve (exampleAgent.service .fleeting) (pure true) servedDeletion
      servedHost).2.published .routes 2).isSome = true := by decide +kernel
  rw [residue.files.1] at routed
  cases routed

end Manager

end RetroBrowser.RuntimeAgent
