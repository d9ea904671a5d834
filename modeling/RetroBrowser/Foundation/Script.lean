import RetroBrowser.Foundation.Program

/-!
Owns conversations: programs that run one after the other in the same world, and the simulation
of one world by another whose environment follows a script.

Contract: each round of the concrete world is answered by one behaviour of the abstract world's
environment. The rounds of a run make the script, so one environment explains the whole run.
-/

namespace RetroBrowser.Foundation.Program

variable {σ τ ε α β δ ι : Type}

/-- Programs one after the other, however each of them ends. -/
def inTurn : List (Program σ ε α) → σ → List (Outcome ε α) × σ
  | [], world => ([], world)
  | program :: rest, world =>
    let later := inTurn rest (program world).2
    ((program world).1 :: later.1, later.2)

theorem inTurn_cons (program : Program σ ε α) (rest : List (Program σ ε α)) (world : σ) :
    (inTurn (program :: rest) world).2 = (inTurn rest (program world).2).2 := rfl

/-- What goes back over each program goes back over all of them. -/
theorem of_inTurn {good : σ → Prop} {programs : List (Program σ ε α)} {world : σ}
    (back : ∀ program ∈ programs, ∀ world, good (program world).2 → good world)
    (finish : good (inTurn programs world).2) : good world := by
  induction programs generalizing world with
  | nil => exact finish
  | cons program rest inductionHypothesis =>
      apply back program List.mem_cons_self
      exact inductionHypothesis
        (fun other member => back other (List.mem_cons_of_mem program member)) finish

/-- The environment plays the script from this moment on. -/
def PlaysScript (plays : δ → Nat → β → Prop) (environment : δ) (moment : Nat)
    (script : List β) : Prop :=
  ∀ (round : Nat) behaviour, script[round]? = some behaviour →
    plays environment (moment + round) behaviour

theorem PlaysScript.first {plays : δ → Nat → β → Prop} {environment : δ} {moment : Nat}
    {behaviour : β} {script : List β}
    (playing : PlaysScript plays environment moment (behaviour :: script)) :
    plays environment moment behaviour :=
  playing 0 behaviour rfl

theorem PlaysScript.rest {plays : δ → Nat → β → Prop} {environment : δ} {moment : Nat}
    {behaviour : β} {script : List β}
    (playing : PlaysScript plays environment moment (behaviour :: script)) :
    PlaysScript plays environment (moment + 1) script := by
  intro round later member
  have played := playing (round + 1) later member
  rw [Nat.add_assoc, Nat.add_comm 1 round]
  exact played

/-- The abstract program ends as the concrete one does, one moment later, in a related world,
where its environment plays the behaviour. -/
def Answered (related : σ → τ → Prop) (moment : τ → Nat)
    (plays : δ → Nat → β → Prop)
    (concrete : Program σ ε α) (abstract : δ → Program τ ε α) (world : σ)
    (behaviour : β) : Prop :=
  ∀ environment world', related world world' → plays environment (moment world') behaviour →
    (abstract environment world').1 = (concrete world).1 ∧
      related (concrete world).2 (abstract environment world').2 ∧
      moment (abstract environment world').2 = moment world' + 1

variable {related : σ → τ → Prop} {moment : τ → Nat} {plays : δ → Nat → β → Prop}
  {concrete : ι → Program σ ε α} {abstract : δ → ι → Program τ ε α}
  {sound good : σ → Prop}

/-- Where each round is answered by some behaviour, a script answers the whole run. -/
theorem inTurn_scripted {items : List ι} {world : σ}
    (round : ∀ item ∈ items, ∀ world, sound world → good (concrete item world).2 →
      ∃ behaviour, Answered related moment plays (concrete item)
        (fun environment => abstract environment item) world behaviour)
    (keeps : ∀ item ∈ items, ∀ world, sound world → sound (concrete item world).2)
    (back : ∀ item ∈ items, ∀ world, good (concrete item world).2 → good world)
    (start : sound world) (finish : good (inTurn (items.map concrete) world).2) :
    ∃ script : List β, ∀ environment world', related world world' →
      PlaysScript plays environment (moment world') script →
      (inTurn (items.map (abstract environment)) world').1 =
          (inTurn (items.map concrete) world).1 ∧
        related (inTurn (items.map concrete) world).2
          (inTurn (items.map (abstract environment)) world').2 := by
  induction items generalizing world with
  | nil => exact ⟨[], fun _ _ starts _ => ⟨rfl, starts⟩⟩
  | cons item rest inductionHypothesis =>
      have backs : ∀ program ∈ rest.map concrete, ∀ world, good (program world).2 →
          good world := by
        intro program member
        have ⟨other, inside, same⟩ := List.mem_map.mp member
        subst same
        exact back other (List.mem_cons_of_mem item inside)
      have between : good (concrete item world).2 := of_inTurn backs finish
      have ⟨behaviour, answered⟩ := round item List.mem_cons_self world start between
      have ⟨script, scripted⟩ := inductionHypothesis
        (fun other member => round other (List.mem_cons_of_mem item member))
        (fun other member => keeps other (List.mem_cons_of_mem item member))
        (fun other member => back other (List.mem_cons_of_mem item member))
        (keeps item List.mem_cons_self world start) finish
      refine ⟨behaviour :: script, fun environment world' starts playing => ?_⟩
      have ⟨outcome, relates, later⟩ := answered environment world' starts playing.first
      have playing' := playing.rest
      rw [← later] at playing'
      have ⟨outcomes, last⟩ := scripted environment _ relates playing'
      constructor
      · show _ :: _ = _ :: _
        rw [outcome, outcomes]
      · exact last

end RetroBrowser.Foundation.Program
