import RetroBrowser.Foundation.Program

/-!
Owns runs side by side. Two programs are in lockstep when from related worlds
they end the same way and leave related worlds again. The rules follow the
constructors of programs, so only calls have to be compared.
-/

namespace RetroBrowser.Foundation.Program

variable {σ τ ε α β ι : Type}

/-- From related worlds the programs end alike, in related worlds. -/
def Lockstep (related : σ → τ → Prop) (program : Program σ ε α)
    (other : Program τ ε α) : Prop :=
  ∀ world world', related world world' →
    (program world).1 = (other world').1 ∧ related (program world).2 (other world').2

variable {related : σ → τ → Prop}

theorem lockstep_pure (value : α) :
    Lockstep related (pure value : Program σ ε α) (pure value : Program τ ε α) :=
  fun _ _ holds => ⟨rfl, holds⟩

theorem lockstep_throw (error : ε) :
    Lockstep related (throw error : Program σ ε α) (throw error : Program τ ε α) :=
  fun _ _ holds => ⟨rfl, holds⟩

theorem lockstep_ofExcept (result : Except ε α) :
    Lockstep related (ofExcept result : Program σ ε α) (ofExcept result : Program τ ε α) := by
  cases result with
  | ok value => exact lockstep_pure value
  | error error => exact lockstep_throw error

theorem lockstep_ite {condition : Prop} [Decidable condition] {yes no : Program σ ε α}
    {yes' no' : Program τ ε α} (holds : condition → Lockstep related yes yes')
    (fails : ¬condition → Lockstep related no no') :
    Lockstep related (if condition then yes else no) (if condition then yes' else no') := by
  split
  · exact holds ‹_›
  · exact fails ‹_›

theorem lockstep_bind {program : Program σ ε β} {program' : Program τ ε β}
    {next : β → Program σ ε α} {next' : β → Program τ ε α}
    (first : Lockstep related program program')
    (rest : ∀ value, Lockstep related (next value) (next' value)) :
    Lockstep related (program >>= next) (program' >>= next') := by
  intro world world' holds
  have ⟨same, left⟩ := first world world' holds
  rw [bind_apply, bind_apply]
  rcases run : program world with ⟨outcome, after⟩
  rcases run' : program' world' with ⟨outcome', after'⟩
  rw [run, run'] at same left
  obtain rfl : outcome = outcome' := same
  cases outcome with
  | returned value => exact rest value after after' left
  | raised error => exact ⟨rfl, left⟩
  | stopped => exact ⟨rfl, left⟩

theorem lockstep_map {program : Program σ ε β} {program' : Program τ ε β}
    {transform : β → α} (first : Lockstep related program program') :
    Lockstep related (transform <$> program) (transform <$> program') :=
  lockstep_bind first fun value => lockstep_pure (transform value)

theorem lockstep_tryCatch {program : Program σ ε α} {program' : Program τ ε α}
    {handler : ε → Program σ ε α} {handler' : ε → Program τ ε α}
    (body : Lockstep related program program')
    (handled : ∀ error, Lockstep related (handler error) (handler' error)) :
    Lockstep related (tryCatch program handler) (tryCatch program' handler') := by
  intro world world' holds
  have ⟨same, left⟩ := body world world' holds
  rw [tryCatch_apply, tryCatch_apply]
  rcases run : program world with ⟨outcome, after⟩
  rcases run' : program' world' with ⟨outcome', after'⟩
  rw [run, run'] at same left
  obtain rfl : outcome = outcome' := same
  cases outcome with
  | returned value => exact ⟨rfl, left⟩
  | raised error => exact handled error after after' left
  | stopped => exact ⟨rfl, left⟩

theorem lockstep_forM {items : List ι} {body : ι → Program σ ε PUnit}
    {body' : ι → Program τ ε PUnit}
    (round : ∀ item, Lockstep related (body item) (body' item)) :
    Lockstep related (items.forM body) (items.forM body') := by
  induction items with
  | nil => exact lockstep_pure _
  | cons item rest inductionHypothesis =>
      exact lockstep_bind (round item) fun _ => inductionHypothesis

end RetroBrowser.Foundation.Program
