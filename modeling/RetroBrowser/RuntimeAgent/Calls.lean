import RetroBrowser.Foundation.Frame
import RetroBrowser.RuntimeAgent.Service

/-!
Owns what one call of the agent can do, and the quiet programs: those that
change neither containers nor registries, so that only containers themselves
move meanwhile.
-/

namespace RetroBrowser.RuntimeAgent

open RetroBrowser.Foundation

/-! ## One call -/

/-- Everything one call can do, each with what the plan says about the call. -/
inductive Happens (dependencies : Dependencies) (call : Call) (host : Host) :
    Outcome Error call.Answer → Host → Prop where
  | stopped (stops : dependencies.stops host.history.length call = true) :
      Happens dependencies call host .stopped host
  | returned (drifts : List Drift) (value : call.Answer)
      (answers : call.answer dependencies host.history.length (host.drifted drifts) = .ok value)
      (goesOn : dependencies.stops host.history.length call = false)
      (plan : dependencies.fault host.history.length call = none) :
      Happens dependencies call host (.returned value)
        ((call.effect dependencies host.history.length (host.drifted drifts)).record
          ⟨call, drifts, true, some value⟩)
  | lost (drifts : List Drift) (error : Error) (value : call.Answer)
      (answers : call.answer dependencies host.history.length (host.drifted drifts) = .ok value)
      (allowed : call.mayRaise error = true)
      (goesOn : dependencies.stops host.history.length call = false)
      (plan : dependencies.fault host.history.length call = some ⟨error, true⟩) :
      Happens dependencies call host (.raised error)
        ((call.effect dependencies host.history.length (host.drifted drifts)).record
          ⟨call, drifts, true, none⟩)
  | refused (drifts : List Drift) (error : Error)
      (answers : call.answer dependencies host.history.length (host.drifted drifts) =
        .error error)
      (goesOn : dependencies.stops host.history.length call = false)
      (plan : dependencies.fault host.history.length call = none) :
      Happens dependencies call host (.raised error)
        ((host.drifted drifts).record ⟨call, drifts, false, none⟩)
  | failed (drifts : List Drift) (error : Error) (allowed : call.mayRaise error = true)
      (goesOn : dependencies.stops host.history.length call = false) (applied : Bool)
      (plan : dependencies.fault host.history.length call = some ⟨error, applied⟩)
      (without : applied = true → ∃ refusal,
        call.answer dependencies host.history.length (host.drifted drifts) = .error refusal) :
      Happens dependencies call host (.raised error)
        ((host.drifted drifts).record ⟨call, drifts, false, none⟩)

theorem invoke_happens (dependencies : Dependencies) (call : Call) (host : Host) :
    Happens dependencies call host (dependencies.invoke call host).1
      (dependencies.invoke call host).2 := by
  unfold Dependencies.invoke
  by_cases stop : dependencies.stops host.history.length call = true
  · rw [if_pos stop]
    exact .stopped stop
  · rw [if_neg stop]
    have goesOn := Bool.eq_false_iff.mpr stop
    dsimp only
    rcases plan : dependencies.fault host.history.length call with _ | ⟨error, applied⟩
    · rcases answers : call.answer dependencies host.history.length
        (host.drifted (dependencies.drifts host.history.length)) with error | value
      · exact .refused _ _ answers goesOn plan
      · exact .returned _ _ answers goesOn plan
    · have allowed := dependencies.lawful _ _ _ plan
      rcases answers : call.answer dependencies host.history.length
        (host.drifted (dependencies.drifts host.history.length)) with refusal | value
      · exact .failed _ _ allowed goesOn applied plan fun _ => ⟨refusal, answers⟩
      · cases applied with
        | false => exact .failed _ _ allowed goesOn false plan fun same => by simp at same
        | true => exact .lost _ _ _ answers allowed goesOn plan

/-- A call ensures what every way it can happen meets. -/
theorem ensures_invoke {dependencies : Dependencies} {call : Call} {host : Host}
    {post : Post Host Error call.Answer}
    (every : ∀ outcome after, Happens dependencies call host outcome after →
      post.Holds (outcome, after)) : (dependencies.invoke call).Ensures post host :=
  every _ _ (invoke_happens dependencies call host)

/-! ## What calls leave alone -/

namespace Call

/-- The call changes neither containers nor registries. -/
def harmless : Call → Bool
  | .createContainer _ _ | .startContainer _ | .stopContainer _ | .removeContainer _
  | .write _ _ _ | .replace _ _ | .unlink _ _ => false
  | _ => true

variable {dependencies : Dependencies} {index : Nat} {host : Host}

@[simp] theorem effect_history (call : Call) :
    (call.effect dependencies index host).history = host.history := by
  cases call <;> simp only [effect] <;> try rfl
  all_goals split <;> rfl

theorem effect_harmless {call : Call} (harmless : call.harmless = true) :
    (call.effect dependencies index host).engine = host.engine ∧
      (call.effect dependencies index host).files = host.files := by
  cases call with
  | createContainer | startContainer | stopContainer | removeContainer | write | replace
  | unlink => exact absurd harmless (by simp [Call.harmless])
  | replaceText =>
      simp only [effect]
      split <;> exact ⟨rfl, rfl⟩
  | _ => exact ⟨rfl, rfl⟩

/-! ## What answers tell -/

theorem onContainer_ok {α : Type} {reference : Reference} {answer : Container → α} {value : α}
    (answered : onContainer host reference answer = .ok value) :
    ∃ container, host.engine.find? reference = some container ∧ answer container = value := by
  unfold onContainer at answered
  split at answered
  · next container found => exact ⟨container, found, Except.ok.inj answered⟩
  · simp at answered

/-- An inspection shows an existing container. -/
theorem answer_inspect {reference : Reference} {record : ContainerRecord}
    (answered : (Call.inspectContainer reference).answer dependencies index host = .ok record) :
    ∃ container, host.engine.find? reference = some container ∧
      container.toContainerRecord = record :=
  onContainer_ok answered

theorem onContainer_error {α : Type} {reference : Reference} {answer : Container → α}
    {error : Error} (answered : onContainer host reference answer = .error error) :
    host.engine.find? reference = none ∧ error = .notFound "Docker object was not found" := by
  unfold onContainer at answered
  split at answered
  · simp at answered
  · next missing => exact ⟨missing, (Except.error.inj answered).symm⟩

theorem onFile_error {α : Type} {content : Option α} {error : Error}
    (answered : onFile content = .error error) : error = .os "No such file or directory" := by
  cases content with
  | none => exact (Except.error.inj answered).symm
  | some held => simp [onFile] at answered

theorem onFile_map_error {α β : Type} {content : Option α}
    {transform : α → β} {error : Error}
    (answered : (onFile content).map transform = .error error) :
    error = .os "No such file or directory" := by
  cases content with
  | none => exact (Except.error.inj answered).symm
  | some held => simp [onFile, Except.map] at answered

/-- The host itself never makes a call raise `OwnershipError`. -/
theorem answer_error {call : Call} {error : Error}
    (answered : call.answer dependencies index host = .error error) (message : String) :
    error ≠ .ownership message := by
  rintro rfl
  cases call with
  | createContainer name payload =>
      simp only [answer] at answered
      split at answered
      · simp at answered
      · split at answered <;> simp at answered
  | startContainer | inspectContainer | stopContainer | removeContainer =>
      exact Error.noConfusion (onContainer_error answered).2
  | replace | replaceText => exact Error.noConfusion (onFile_map_error answered)
  | resolve | read => exact Error.noConfusion (onFile_error answered)
  | _ => simp [answer] at answered

/-- A new container has a fresh identifier and a free name. -/
theorem answer_create {name : String} {payload : Payload} {containerId : String}
    (answered : (Call.createContainer name payload).answer dependencies index host =
      .ok containerId) :
    ∃ fresh : containerId ∉ host.engine.issued ∧
        name ∉ host.engine.containers.map fun container => container.name,
      (Call.createContainer name payload).effect dependencies index host =
        host.withEngine (host.engine.insert (Engine.created containerId name payload)
          fresh.1 fresh.2) := by
  simp only [answer] at answered
  split at answered
  · simp at answered
  · next freshName =>
    split at answered
    · simp at answered
    · next freshId =>
      obtain rfl := Except.ok.inj answered
      exact ⟨⟨freshId, freshName⟩, dif_pos ⟨freshId, freshName⟩⟩

end Call

end RetroBrowser.RuntimeAgent
