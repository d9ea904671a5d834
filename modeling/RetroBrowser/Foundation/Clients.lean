import Mathlib.Logic.Function.Basic
import RetroBrowser.Foundation.Linearization

/-!
Owns clients that share a store. A client is a program that sends one command at
a time; the commands of different clients come to the store in any order, and in
between things happen to the store that no client asked for.

Contract: a guarded program keeps an invariant of the store at each of its
commands and changes the store only as all may rely on. Where every program is
guarded, the invariant holds in every run, and what the programs end with is as
their guards say.
-/

namespace RetroBrowser.Foundation.Concurrent

/-- A program that goes on with the reply to each of its commands. -/
inductive Client (γ : Type) (Reply : γ → Type) (α : Type) where
  | done (value : α)
  | send (command : γ) (next : Reply command → Client γ Reply α)

variable {κ ω ε γ δ σ ℓ α β : Type} {Reply : γ → Type}

namespace Client

def bind : Client γ Reply α → (α → Client γ Reply β) → Client γ Reply β
  | .done value, next => next value
  | .send command rest, next => .send command fun reply => bind (rest reply) next

instance : Monad (Client γ Reply) where
  pure := .done
  bind := bind

theorem bind_assoc {ζ : Type} (program : Client γ Reply α) (next : α → Client γ Reply β)
    (last : β → Client γ Reply ζ) :
    (program.bind next).bind last = program.bind fun value => (next value).bind last := by
  induction program with
  | done value => rfl
  | send command rest inductionHypothesis =>
      exact congrArg (Client.send command) (funext fun reply => inductionHypothesis reply)

/-- One command, for its reply. -/
def ask (command : γ) : Client γ Reply (Reply command) := .send command .done

/-- Every command that is sent and every value at the end meets its condition. -/
def All (sends : γ → Prop) (ends : α → Prop) : Client γ Reply α → Prop
  | .done value => ends value
  | .send command next => sends command ∧ ∀ reply, All sends ends (next reply)

theorem All.bind {sends : γ → Prop} {between : α → Prop} {ends : β → Prop}
    {program : Client γ Reply α} {next : α → Client γ Reply β}
    (first : program.All sends between)
    (rest : ∀ value, between value → (next value).All sends ends) :
    (program >>= next).All sends ends := by
  induction program with
  | done value => exact rest value first
  | send command following inductionHypothesis =>
      exact ⟨first.1, fun reply => inductionHypothesis reply (first.2 reply)⟩

theorem All.any (program : Client γ Reply α) :
    program.All (fun _ => True) fun _ => True := by
  induction program with
  | done value => trivial
  | send command next inductionHypothesis => exact ⟨trivial, inductionHypothesis⟩

theorem All.weaken {sends : γ → Prop} {ends ends' : α → Prop} {program : Client γ Reply α}
    (all : program.All sends ends) (implies : ∀ value, ends value → ends' value) :
    program.All sends ends' := by
  induction program with
  | done value => exact implies value all
  | send command next inductionHypothesis =>
      exact ⟨all.1, fun reply => inductionHypothesis reply (all.2 reply)⟩

end Client

/-- A store, the requests that clients begin with, and the events that befall the store. -/
structure Service (κ ω ε γ : Type) (Reply : γ → Type) (δ σ ℓ : Type) where
  store : σ
  connection : δ
  perform : (command : γ) → δ → σ → Reply command × δ × σ
  start : κ → ω → Option (ℓ × Client γ Reply ℓ)
  befall : ε → σ → Option σ
  reports : κ → ε → List ℓ

/-- What a token stands for: nothing yet, a running program, or something that is over. -/
inductive Process (γ : Type) (Reply : γ → Type) (ℓ : Type) where
  | idle
  | running (program : Client γ Reply ℓ)
  | finished

/-- The store with the clients. -/
structure Shared (κ γ : Type) (Reply : γ → Type) (δ σ ℓ : Type) where
  store : σ
  connections : κ → δ
  processes : κ → Process γ Reply ℓ

/-- A request begins, a client sends its next command or ends, or an event befalls the store. -/
inductive Move (κ ω ε : Type) where
  | request (token : κ) (request : ω)
  | advance (token : κ)
  | event (token : κ) (event : ε)
deriving DecidableEq, Repr

namespace Service

section Guards

variable (service : Service κ ω ε γ Reply δ σ ℓ) (holds : σ → Prop)
  (rely : σ → σ → Prop)

/-- Whatever the others do in the meantime, each command keeps the invariant and does to the
store what all rely on, and the value at the end is as it should be. -/
def Guarded (ends : α → σ → Prop) : Client γ Reply α → δ → σ → Prop
  | .done value, _, store => ∀ later, rely store later → holds later → ends value later
  | .send command next, connection, store => ∀ later, rely store later → holds later →
      let result := service.perform command connection later
      holds result.2.2 ∧ rely later result.2.2 ∧
        Guarded ends (next result.1) result.2.1 result.2.2

/-- The invariant holds, and every running program is guarded. -/
structure Guards (ends : κ → ℓ → σ → Prop) (state : Shared κ γ Reply δ σ ℓ) :
    Prop where
  invariant : holds state.store
  running : ∀ token program, state.processes token = .running program →
    Guarded service holds rely (ends token) program (state.connections token) state.store

variable {service holds rely}

/-- A guard lasts. -/
theorem Guarded.later {ends : α → σ → Prop} {program : Client γ Reply α} {connection : δ}
    {store after : σ} (trans : ∀ a b c, rely a b → rely b c → rely a c)
    (guarded : service.Guarded holds rely ends program connection store)
    (relies : rely store after) : service.Guarded holds rely ends program connection after := by
  cases program with
  | done value => exact fun later more => guarded later (trans _ _ _ relies more)
  | send command next => exact fun later more => guarded later (trans _ _ _ relies more)

theorem Guarded.weaken {ends ends' : α → σ → Prop} {program : Client γ Reply α}
    {connection : δ}
    {store : σ} (guarded : service.Guarded holds rely ends program connection store)
    (implies : ∀ value store, ends value store → ends' value store) :
    service.Guarded holds rely ends' program connection store := by
  induction program generalizing connection store with
  | done value => exact fun later relies invariant => implies _ _ (guarded later relies invariant)
  | send command next inductionHypothesis =>
      intro later relies invariant
      have ⟨kept, relied, following⟩ := guarded later relies invariant
      exact ⟨kept, relied, inductionHypothesis _ following⟩

/-- The invariant may be a stronger one, which all keep. -/
theorem Guarded.strengthen {holds' : σ → Prop} {ends : α → σ → Prop}
    {program : Client γ Reply α} {connection : δ} {store : σ}
    (guarded : service.Guarded holds rely ends program connection store)
    (implies : ∀ store, holds' store → holds store)
    (keeps : ∀ before after, holds' before → holds after →
      rely before after → holds' after) :
    service.Guarded holds' rely ends program connection store := by
  induction program generalizing connection store with
  | done value => exact fun later relies invariant => guarded later relies (implies _ invariant)
  | send command next inductionHypothesis =>
      intro later relies invariant
      have ⟨kept, relied, following⟩ := guarded later relies (implies _ invariant)
      exact ⟨keeps _ _ invariant kept relied, relied, inductionHypothesis _ following⟩

end Guards

variable [DecidableEq κ] (service : Service κ ω ε γ Reply δ σ ℓ)

/-- No request has begun. -/
def initial : Shared κ γ Reply δ σ ℓ :=
  ⟨service.store, fun _ => service.connection, fun _ => .idle⟩

/-- A client has sent a command and goes on with the reply. -/
def sent (state : Shared κ γ Reply δ σ ℓ) (token : κ) (command : γ)
    (next : Reply command → Client γ Reply ℓ) : Shared κ γ Reply δ σ ℓ :=
  let result := service.perform command (state.connections token) state.store
  ⟨result.2.2, Function.update state.connections token result.2.1,
    Function.update state.processes token (.running (next result.1))⟩

/-- What a move shows, and the state it leaves; nothing where it is not possible. -/
def move (state : Shared κ γ Reply δ σ ℓ) :
    Move κ ω ε → Option (List ℓ × Shared κ γ Reply δ σ ℓ)
  | .request token request =>
      match state.processes token, service.start token request with
      | .idle, some (label, program) =>
          some ([label],
            { state with processes := Function.update state.processes token (.running program) })
      | _, _ => none
  | .advance token =>
      match state.processes token with
      | .running (.done label) =>
          some ([label],
            { state with processes := Function.update state.processes token .finished })
      | .running (.send command next) => some ([], service.sent state token command next)
      | _ => none
  | .event token event =>
      match state.processes token, service.befall event state.store with
      | .idle, some store =>
          some (service.reports token event, { state with
            store, processes := Function.update state.processes token .finished })
      | _, _ => none

/-- The moves, one after the other. -/
def moves (state : Shared κ γ Reply δ σ ℓ) :
    List (Move κ ω ε) → Option (List ℓ × Shared κ γ Reply δ σ ℓ)
  | [] => some ([], state)
  | first :: rest => do
      let (labels, between) ← service.move state first
      let (shown, after) ← moves between rest
      pure (labels ++ shown, after)

/-- The service with its clients, which make no other moves than these. -/
def system (allowed : Move κ ω ε → Prop) : System (Shared κ γ Reply δ σ ℓ) ℓ where
  initial := service.initial
  Step := fun before labels after =>
    ∃ move, allowed move ∧ service.move before move = some (labels, after)

variable {service} {before after : Shared κ γ Reply δ σ ℓ} {labels : List ℓ}

section Sent

variable {token : κ} {command : γ} {next : Reply command → Client γ Reply ℓ}

@[simp] theorem sent_connection : (service.sent before token command next).connections token =
    (service.perform command (before.connections token) before.store).2.1 :=
  Function.update_self ..

@[simp] theorem sent_connection_of_ne {other : κ} (different : other ≠ token) :
    (service.sent before token command next).connections other = before.connections other :=
  Function.update_of_ne different _ _

theorem sent_eq {reply : Reply command} {connection : δ} {store : σ}
    (performed : service.perform command (before.connections token) before.store =
      (reply, connection, store)) :
    service.sent before token command next =
      ⟨store, Function.update before.connections token connection,
        Function.update before.processes token (.running (next reply))⟩ := by
  unfold sent
  rw [performed]

end Sent

/-- What one move can be. -/
theorem move_cases {move : Move κ ω ε}
    (moved : service.move before move = some (labels, after)) :
    (∃ token request label program, move = .request token request ∧
      before.processes token = .idle ∧ service.start token request = some (label, program) ∧
      labels = [label] ∧ after =
        { before with processes := Function.update before.processes token (.running program) }) ∨
    (∃ token label, move = .advance token ∧ before.processes token = .running (.done label) ∧
      labels = [label] ∧ after =
        { before with processes := Function.update before.processes token .finished }) ∨
    (∃ token command next, move = .advance token ∧
      before.processes token = .running (.send command next) ∧ labels = [] ∧
      after = service.sent before token command next) ∨
    (∃ token event store, move = .event token event ∧ before.processes token = .idle ∧
      service.befall event before.store = some store ∧ labels = service.reports token event ∧
      after = { before with
        store, processes := Function.update before.processes token .finished }) := by
  cases move with
  | request token request =>
      simp only [Service.move] at moved
      split at moved
      · cases moved
        exact Or.inl ⟨token, request, _, _, rfl, ‹_›, ‹_›, rfl, rfl⟩
      · cases moved
  | advance token =>
      simp only [Service.move] at moved
      split at moved
      · cases moved
        exact Or.inr (Or.inl ⟨token, _, rfl, ‹_›, rfl, rfl⟩)
      · cases moved
        exact Or.inr (Or.inr (Or.inl ⟨token, _, _, rfl, ‹_›, rfl, rfl⟩))
      · cases moved
  | event token event =>
      simp only [Service.move] at moved
      split at moved
      · cases moved
        exact Or.inr (Or.inr (Or.inr ⟨token, event, _, rfl, ‹_›, ‹_›, rfl, rfl⟩))
      · cases moved

theorem moves_cons {first : Move κ ω ε} {rest : List (Move κ ω ε)} {shown : List ℓ}
    (moved : service.moves before (first :: rest) = some (shown, after)) :
    ∃ labels between more, service.move before first = some (labels, between) ∧
      service.moves between rest = some (more, after) ∧ shown = labels ++ more := by
  simp only [moves, Option.bind_eq_bind, Option.bind_eq_some_iff, Option.pure_def,
    Option.some.injEq, Prod.mk.injEq, Prod.exists] at moved
  have ⟨labels, between, moved, more, after', further, equal, same⟩ := moved
  exact ⟨labels, between, more, moved, same ▸ further, equal.symm⟩

/-- What every move of a schedule keeps, all its moves keep. -/
theorem moves_keep (fact : List ℓ → Shared κ γ Reply δ σ ℓ → Prop)
    {schedule : List (Move κ ω ε)} (step : ∀ move ∈ schedule, ∀ labels shown before after,
      fact shown before → service.move before move = some (labels, after) →
      fact (shown ++ labels) after)
    {shown more : List ℓ} (start : fact shown before)
    (moved : service.moves before schedule = some (more, after)) : fact (shown ++ more) after := by
  induction schedule generalizing before shown more with
  | nil =>
      cases moved
      rwa [List.append_nil]
  | cons first rest inductionHypothesis =>
      have ⟨labels, between, further, moved, furthered, equal⟩ := moves_cons moved
      rw [equal, ← List.append_assoc]
      apply inductionHypothesis _ (step first List.mem_cons_self _ _ _ _ start moved) furthered
      exact fun move member => step move (List.mem_cons_of_mem _ member)

/-- A schedule of moves that are allowed is a run. -/
theorem run_of_moves {allowed : Move κ ω ε → Prop} {schedule : List (Move κ ω ε)}
    {shown : List ℓ} (each : ∀ move ∈ schedule, allowed move)
    (moved : service.moves service.initial schedule = some (shown, after)) :
    (service.system allowed).Run shown after :=
  moves_keep (fun shown state => (service.system allowed).Run shown state)
    (fun move member _ _ _ _ run moved => .step run ⟨move, each move member, moved⟩)
      .start moved

section Guards

variable {holds : σ → Prop} {rely : σ → σ → Prop} {ends : κ → ℓ → σ → Prop}

/-- The labels that begin a request, or that report an event. -/
def Announces (service : Service κ ω ε γ Reply δ σ ℓ) (label : ℓ) : Prop :=
  (∃ token request program, service.start token request = some (label, program)) ∨
    ∃ token event, label ∈ service.reports token event

/-- What holds of the new process and of the others, where one process is replaced. -/
theorem running_update {processes : κ → Process γ Reply ℓ} {token : κ}
    {process : Process γ Reply ℓ} {fact : κ → Client γ Reply ℓ → Prop}
    (own : ∀ program, process = .running program → fact token program)
    (others : ∀ other program, other ≠ token → processes other = .running program →
      fact other program) (other : κ) (program : Client γ Reply ℓ)
    (runs : Function.update processes token process other = .running program) :
    fact other program := by
  by_cases same : other = token
  · rw [same, Function.update_self] at runs
    rw [same]
    exact own program runs
  · rw [Function.update_of_ne same] at runs
    exact others other program same runs

/-- A move keeps the guards, where requests begin with guarded programs and the event, if it is
one, keeps the invariant and what all rely on. -/
theorem Guards.move (refl : ∀ store, rely store store)
    (trans : ∀ a b c, rely a b → rely b c → rely a c) {move : Move κ ω ε}
    (starts : ∀ token request, move = .request token request →
      ∀ label program connection store, holds store →
        service.start token request = some (label, program) →
        service.Guarded holds rely (ends token) program connection store)
    (befalls : ∀ token event, move = .event token event → ∀ store after,
      holds store → service.befall event store = some after → holds after ∧ rely store after)
    (guards : service.Guards holds rely ends before)
    (moved : service.move before move = some (labels, after)) :
    service.Guards holds rely ends after ∧ rely before.store after.store ∧
      ∀ label ∈ labels, service.Announces label ∨
        ∃ token, ends token label after.store := by
  have ⟨invariant, running⟩ := guards
  cases move_cases moved with
  | inl begins =>
      obtain ⟨token, request, label, program, rfl, idle, started, rfl, rfl⟩ := begins
      refine ⟨⟨invariant, running_update ?_ fun other program _ => running other program⟩,
        refl _, ?_⟩
      · intro own same
        cases same
        exact starts token request rfl label program _ _ invariant started
      · intro shown member
        rw [List.mem_singleton.mp member]
        exact Or.inl (Or.inl ⟨token, request, program, started⟩)
  | inr more =>
  cases more with
  | inl ended =>
      obtain ⟨token, label, rfl, runs, rfl, rfl⟩ := ended
      refine ⟨⟨invariant, running_update (fun _ same => by cases same) fun other program _ =>
        running other program⟩, refl _, ?_⟩
      intro shown member
      rw [List.mem_singleton.mp member]
      exact Or.inr ⟨token, running token _ runs _ (refl _) invariant⟩
  | inr more =>
  cases more with
  | inl sends =>
      obtain ⟨token, command, next, rfl, runs, rfl, rfl⟩ := sends
      have ⟨kept, relied, following⟩ := running token _ runs _ (refl _) invariant
      refine ⟨⟨kept, running_update ?_ ?_⟩, relied, by simp⟩
      · intro own same
        cases same
        rw [sent_connection]
        exact following
      · intro other program different runs'
        rw [sent_connection_of_ne different]
        exact (running other program runs').later trans relied
  | inr befallen =>
      obtain ⟨token, event, store, rfl, idle, happens, rfl, rfl⟩ := befallen
      have ⟨kept, relied⟩ := befalls token event rfl _ _ invariant happens
      refine ⟨⟨kept, running_update (fun _ same => by cases same) ?_⟩, relied, ?_⟩
      · intro other program _ runs
        exact (running other program runs).later trans relied
      · exact fun label member => Or.inl (Or.inr ⟨token, event, member⟩)

/-- The moves of a schedule keep the guards, and every answer is as its guard says in some state
on the way, which the last one may rely on. -/
theorem Guards.moves (refl : ∀ store, rely store store)
    (trans : ∀ a b c, rely a b → rely b c → rely a c) {schedule : List (Move κ ω ε)}
    (starts : ∀ token request, .request token request ∈ schedule →
      ∀ label program connection store, holds store →
        service.start token request = some (label, program) →
        service.Guarded holds rely (ends token) program connection store)
    (befalls : ∀ token event, .event token event ∈ schedule →
      ∀ store after, holds store → service.befall event store = some after →
      holds after ∧ rely store after)
    {shown : List ℓ} (guards : service.Guards holds rely ends before)
    (moved : service.moves before schedule = some (shown, after)) :
    service.Guards holds rely ends after ∧ rely before.store after.store ∧
      ∀ label ∈ shown, service.Announces label ∨
        ∃ token store, ends token label store ∧ rely store after.store := by
  induction schedule generalizing before shown with
  | nil =>
      cases moved
      exact ⟨guards, refl _, by simp⟩
  | cons first rest inductionHypothesis =>
      have ⟨labels, between, more, step, further, equal⟩ := moves_cons moved
      have ⟨kept, relied, answers⟩ := guards.move refl trans
        (fun token request same => starts token request (same ▸ List.mem_cons_self))
        (fun token event same => befalls token event (same ▸ List.mem_cons_self)) step
      have ⟨kept', relied', answers'⟩ := inductionHypothesis
        (fun token request member => starts token request (List.mem_cons_of_mem _ member))
        (fun token event member => befalls token event (List.mem_cons_of_mem _ member)) kept further
      refine ⟨kept', trans _ _ _ relied relied', ?_⟩
      intro label member
      rw [equal] at member
      cases List.mem_append.mp member with
      | inl now =>
          cases answers label now with
          | inl announced => exact Or.inl announced
          | inr answered =>
              have ⟨token, ends⟩ := answered
              exact Or.inr ⟨token, _, ends, relied'⟩
      | inr later => exact answers' label later

end Guards

end Service

end RetroBrowser.Foundation.Concurrent
