import RetroBrowser.Foundation.Program

/-!
Owns postconditions of programs and what a program ensures. A postcondition has
one part for each way a program ends; the part for a stopped program is what
must hold at the moment the process dies, so proving a fact in all three parts
proves it at every moment of the run.

The rules are equivalences that follow the constructors of programs, so a goal
about a program unfolds into goals about its calls, one after the other.
-/

namespace RetroBrowser.Foundation

/-- What must hold for each way a program ends. -/
structure Post (σ ε α : Type) where
  returned : α → σ → Prop
  raised : ε → σ → Prop
  stopped : σ → Prop

namespace Post

variable {σ ε α β : Type}

/-- The postcondition on a program's end. -/
def Holds (post : Post σ ε α) : Outcome ε α × σ → Prop
  | (.returned value, world) => post.returned value world
  | (.raised error, world) => post.raised error world
  | (.stopped, world) => post.stopped world

/-- One fact about the world, whichever way the program ends. -/
def always (fact : σ → Prop) : Post σ ε α := ⟨fun _ => fact, fun _ => fact, fact⟩

end Post

namespace Program

variable {σ ε α β : Type}

/-- The program, run from `world`, ends in the postcondition. -/
def Ensures (program : Program σ ε α) (post : Post σ ε α) (world : σ) : Prop :=
  post.Holds (program world)

variable {post post' : Post σ ε α} {world : σ}

theorem ensures_pure {value : α} :
    (pure value : Program σ ε α).Ensures post world ↔ post.returned value world :=
  Iff.rfl

theorem ensures_throw {error : ε} :
    (throw error : Program σ ε α).Ensures post world ↔ post.raised error world :=
  Iff.rfl

/-- A sequence ensures what its first part ensures of the rest. -/
theorem ensures_bind {program : Program σ ε β} {next : β → Program σ ε α} :
    (program >>= next).Ensures post world ↔
      program.Ensures ⟨fun value after => (next value).Ensures post after, post.raised,
        post.stopped⟩ world := by
  unfold Ensures
  rw [bind_apply]
  rcases program world with ⟨outcome, after⟩
  cases outcome <;> rfl

theorem ensures_map {program : Program σ ε β} {transform : β → α} :
    (transform <$> program).Ensures post world ↔
      program.Ensures ⟨fun value => post.returned (transform value), post.raised,
        post.stopped⟩ world :=
  ensures_bind

/-- A handler continues from the error and the world the program left. -/
theorem ensures_tryCatch {program : Program σ ε α} {handler : ε → Program σ ε α} :
    (tryCatch program handler).Ensures post world ↔
      program.Ensures ⟨post.returned, fun error after => (handler error).Ensures post after,
        post.stopped⟩ world := by
  unfold Ensures
  rw [tryCatch_apply]
  rcases program world with ⟨outcome, after⟩
  cases outcome <;> rfl

theorem ensures_ite {condition : Prop} [Decidable condition] {yes no : Program σ ε α} :
    (if condition then yes else no).Ensures post world ↔
      (condition → yes.Ensures post world) ∧ (¬condition → no.Ensures post world) := by
  split
  · next holds => exact ⟨fun ensures => ⟨fun _ => ensures, fun not => absurd holds not⟩,
      fun both => both.1 holds⟩
  · next fails => exact ⟨fun ensures => ⟨fun yes => absurd yes fails, fun _ => ensures⟩,
      fun both => both.2 fails⟩

theorem ensures_raiseIf {condition : Prop} [Decidable condition] {error : ε}
    {post : Post σ ε PUnit} :
    (raiseIf condition error : Program σ ε PUnit).Ensures post world ↔
      (condition → post.raised error world) ∧ (¬condition → post.returned ⟨⟩ world) :=
  ensures_ite

theorem ensures_runIf {condition : Prop} [Decidable condition] {program : Program σ ε PUnit}
    {post : Post σ ε PUnit} : (runIf condition program).Ensures post world ↔
      (condition → program.Ensures post world) ∧ (¬condition → post.returned ⟨⟩ world) :=
  ensures_ite

theorem ensures_ofExcept {result : Except ε α} :
    (ofExcept result : Program σ ε α).Ensures post world ↔
      (∀ value, result = .ok value → post.returned value world) ∧
        ∀ error, result = .error error → post.raised error world := by
  cases result with
  | ok value =>
      exact ⟨fun holds => ⟨fun _ same => Except.ok.inj same ▸ holds, fun _ same => by simp at same⟩,
        fun both => both.1 value rfl⟩
  | error error =>
      exact ⟨fun holds => ⟨fun _ same => by simp at same,
          fun _ same => Except.error.inj same ▸ holds⟩,
        fun both => both.2 error rfl⟩

theorem Ensures.mono {program : Program σ ε α} (ensures : program.Ensures post world)
    (returned : ∀ value after, post.returned value after → post'.returned value after)
    (raised : ∀ error after, post.raised error after → post'.raised error after)
    (stopped : ∀ after, post.stopped after → post'.stopped after) :
    program.Ensures post' world := by
  unfold Ensures at ensures ⊢
  rcases run : program world with ⟨outcome, after⟩
  rw [run] at ensures
  cases outcome with
  | returned value => exact returned value after ensures
  | raised error => exact raised error after ensures
  | stopped => exact stopped after ensures

/-- A postcondition that always holds. -/
theorem ensures_of_forall {program : Program σ ε α}
    (returned : ∀ value after, post.returned value after)
    (raised : ∀ error after, post.raised error after) (stopped : ∀ after, post.stopped after) :
    program.Ensures post world := by
  unfold Ensures
  rcases program world with ⟨outcome, after⟩
  cases outcome with
  | returned value => exact returned value after
  | raised error => exact raised error after
  | stopped => exact stopped after

/-- What holds in every part holds of the world the program leaves. -/
theorem Ensures.after {program : Program σ ε α} {fact : σ → Prop}
    (ensures : program.Ensures (Post.always fact) world) : fact (program world).2 := by
  unfold Ensures at ensures
  rcases run : program world with ⟨outcome, after⟩
  rw [run] at ensures
  cases outcome <;> exact ensures

/-- What a program ensures of its error, where it raises one. -/
theorem Ensures.ofRaised {program : Program σ ε α} (ensures : program.Ensures post world)
    {error : ε} (raised : (program world).1 = .raised error) :
    post.raised error (program world).2 := by
  unfold Ensures at ensures
  rcases run : program world with ⟨outcome, after⟩
  rw [run] at ensures raised
  cases raised
  exact ensures

/-- What a program ensures of its value, where it returns one. -/
theorem Ensures.ofReturned {program : Program σ ε α} (ensures : program.Ensures post world)
    {value : α} (returned : (program world).1 = .returned value) :
    post.returned value (program world).2 := by
  unfold Ensures at ensures
  rcases run : program world with ⟨outcome, after⟩
  rw [run] at ensures returned
  cases returned
  exact ensures

/-- The run that gave the value may be used with what is ensured of it. -/
theorem Ensures.ran {program : Program σ ε α} (ensures : program.Ensures post world) :
    program.Ensures ⟨fun value after => post.returned value after ∧
      program world = (.returned value, after), post.raised, post.stopped⟩ world := by
  unfold Ensures at ensures ⊢
  rcases run : program world with ⟨outcome, after⟩
  rw [run] at ensures
  cases outcome with
  | returned value => exact ⟨ensures, rfl⟩
  | raised error => exact ensures
  | stopped => exact ensures

/-- A program that may neither raise nor stop returns. -/
theorem Ensures.returns {program : Program σ ε α} {onValue : α → σ → Prop}
    (ensures : program.Ensures ⟨onValue, fun _ _ => False, fun _ => False⟩ world) :
    ∃ value, (program world).1 = .returned value ∧ onValue value (program world).2 := by
  unfold Ensures at ensures
  rcases run : program world with ⟨outcome, after⟩
  rw [run] at ensures
  cases outcome with
  | returned value => exact ⟨value, rfl, ensures⟩
  | raised error => exact ensures.elim
  | stopped => exact ensures.elim

/-- Facts that hold in every part may be added to any postcondition. -/
theorem Ensures.and {program : Program σ ε α} (ensures : program.Ensures post world)
    (more : program.Ensures post' world) :
    program.Ensures ⟨fun value after => post.returned value after ∧ post'.returned value after,
      fun error after => post.raised error after ∧ post'.raised error after,
      fun after => post.stopped after ∧ post'.stopped after⟩ world := by
  unfold Ensures at ensures more ⊢
  rcases run : program world with ⟨outcome, after⟩
  rw [run] at ensures more
  cases outcome <;> exact ⟨ensures, more⟩

/-- A program ensures the run it makes. -/
theorem ensures_run (program : Program σ ε α) (world : σ) : program.Ensures
    ⟨fun value after => program world = (.returned value, after),
      fun error after => program world = (.raised error, after),
      fun after => program world = (.stopped, after)⟩ world := by
  unfold Ensures
  rcases program world with ⟨outcome, after⟩
  cases outcome <;> exact rfl

/-- A loop over a list: `fact` speaks of the items still to come. -/
theorem ensures_forM {ι : Type} {items : List ι} {body : ι → Program σ ε PUnit}
    {onError : ε → σ → Prop} {onStop : σ → Prop} (fact : List ι → σ → Prop)
    (start : fact items world)
    (round : ∀ item rest after, item ∈ items → fact (item :: rest) after →
      (body item).Ensures ⟨fun _ => fact rest, onError, onStop⟩ after) :
    (items.forM body).Ensures ⟨fun _ => fact [], onError, onStop⟩ world := by
  induction items generalizing world with
  | nil => exact start
  | cons item rest inductionHypothesis =>
      have first := round item rest world List.mem_cons_self start
      refine ensures_bind.mpr (first.mono (fun _ after holds => ?_) (fun _ _ => id) fun _ => id)
      exact inductionHypothesis holds fun other others later member =>
        round other others later (List.mem_cons_of_mem item member)

/-! ## Facts that a program maintains -/

/-- From every world in which the fact holds, it holds at every moment of the run. -/
def Maintains (fact : σ → Prop) (program : Program σ ε α) : Prop :=
  ∀ world, fact world → program.Ensures (Post.always fact) world

variable {fact : σ → Prop}

theorem maintains_pure (value : α) : (pure value : Program σ ε α).Maintains fact :=
  fun _ holds => holds

theorem maintains_throw (error : ε) : (throw error : Program σ ε α).Maintains fact :=
  fun _ holds => holds

theorem maintains_ite {condition : Prop} [Decidable condition] {yes no : Program σ ε α}
    (holds : condition → yes.Maintains fact) (fails : ¬condition → no.Maintains fact) :
    (if condition then yes else no).Maintains fact := by
  split
  · exact holds ‹_›
  · exact fails ‹_›

theorem maintains_raiseIf {condition : Prop} [Decidable condition] {error : ε} :
    (raiseIf condition error : Program σ ε PUnit).Maintains fact :=
  maintains_ite (fun _ => maintains_throw error) fun _ => maintains_pure _

theorem maintains_runIf {condition : Prop} [Decidable condition] {program : Program σ ε PUnit}
    (maintains : condition → program.Maintains fact) : (runIf condition program).Maintains fact :=
  maintains_ite maintains fun _ => maintains_pure _

theorem maintains_bind {program : Program σ ε β} {next : β → Program σ ε α}
    (first : program.Maintains fact) (rest : ∀ value, (next value).Maintains fact) :
    (program >>= next).Maintains fact := fun world holds =>
  ensures_bind.mpr ((first world holds).mono (fun value after => rest value after)
    (fun _ _ => id) fun _ => id)

theorem maintains_map {program : Program σ ε β} {transform : β → α}
    (maintains : program.Maintains fact) : (transform <$> program).Maintains fact :=
  maintains_bind maintains fun value => maintains_pure (transform value)

theorem maintains_tryCatch {program : Program σ ε α} {handler : ε → Program σ ε α}
    (body : program.Maintains fact) (handled : ∀ error, (handler error).Maintains fact) :
    (tryCatch program handler).Maintains fact := fun world holds =>
  ensures_tryCatch.mpr ((body world holds).mono (fun _ _ => id)
    (fun error after => handled error after) fun _ => id)

theorem maintains_forM {ι : Type} {items : List ι} {body : ι → Program σ ε PUnit}
    (round : ∀ item ∈ items, (body item).Maintains fact) : (items.forM body).Maintains fact :=
  fun _ holds => ensures_forM (fun _ => fact) holds fun item _ after member =>
    round item member after

/-! ## Errors that a program may raise -/

/-- From every world, whatever error the program raises is allowed. -/
def RaisesOnly (allowed : ε → Prop) (program : Program σ ε α) : Prop :=
  ∀ world, program.Ensures ⟨fun _ _ => True, fun error _ => allowed error,
    fun _ => True⟩ world

variable {allowed : ε → Prop}

theorem raisesOnly_pure (value : α) : (pure value : Program σ ε α).RaisesOnly allowed :=
  fun _ => trivial

theorem raisesOnly_throw {error : ε} (holds : allowed error) :
    (throw error : Program σ ε α).RaisesOnly allowed :=
  fun _ => holds

theorem raisesOnly_ite {condition : Prop} [Decidable condition] {yes no : Program σ ε α}
    (holds : condition → yes.RaisesOnly allowed) (fails : ¬condition → no.RaisesOnly allowed) :
    (if condition then yes else no).RaisesOnly allowed := by
  split
  · exact holds ‹_›
  · exact fails ‹_›

theorem raisesOnly_ofExcept {result : Except ε α}
    (holds : ∀ error, result = .error error → allowed error) :
    (ofExcept result : Program σ ε α).RaisesOnly allowed :=
  fun _ => ensures_ofExcept.mpr ⟨fun _ _ => trivial, holds⟩

theorem raisesOnly_bind {program : Program σ ε β} {next : β → Program σ ε α}
    (first : program.RaisesOnly allowed) (rest : ∀ value, (next value).RaisesOnly allowed) :
    (program >>= next).RaisesOnly allowed := fun world =>
  ensures_bind.mpr ((first world).mono (fun value after _ => rest value after)
    (fun _ _ => id) fun _ => id)

/-- A handler answers for the errors of its body. -/
theorem raisesOnly_tryCatch {program : Program σ ε α} {handler : ε → Program σ ε α}
    {inner : ε → Prop} (body : program.RaisesOnly inner)
    (handled : ∀ error, inner error → (handler error).RaisesOnly allowed) :
    (tryCatch program handler).RaisesOnly allowed := fun world =>
  ensures_tryCatch.mpr ((body world).mono (fun _ _ => id)
    (fun error after holds => handled error holds after) fun _ => id)

/-- A handler of all errors answers for what it raises itself. -/
theorem raisesOnly_handled {program : Program σ ε α} {handler : ε → Program σ ε α}
    (handled : ∀ error, (handler error).RaisesOnly allowed) :
    (tryCatch program handler).RaisesOnly allowed := fun _ =>
  ensures_tryCatch.mpr (ensures_of_forall (fun _ _ => trivial)
    (fun error after => handled error after) fun _ => trivial)

theorem raisesOnly_forM {ι : Type} {items : List ι} {body : ι → Program σ ε PUnit}
    (round : ∀ item ∈ items, (body item).RaisesOnly allowed) :
    (items.forM body).RaisesOnly allowed := fun _ =>
  ensures_forM (fun _ _ => True) trivial fun item _ after member _ => round item member after

/-- What a program may raise may be added to what it ensures. -/
theorem Ensures.raises {program : Program σ ε α} (ensures : program.Ensures post world)
    (raisesOnly : program.RaisesOnly allowed) :
    program.Ensures ⟨post.returned, fun error after => post.raised error after ∧ allowed error,
      post.stopped⟩ world :=
  (ensures.and (raisesOnly world)).mono (fun _ _ both => both.1) (fun _ _ => id)
    fun _ both => both.1

end Program

end RetroBrowser.Foundation
