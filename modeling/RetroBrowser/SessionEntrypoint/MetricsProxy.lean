import RetroBrowser.Foundation.Url

/-!
Owns the metrics proxy of a runtime: what `do_GET` makes of the target of a request,
and which requests it sends to the stream server.
-/

namespace RetroBrowser.SessionEntrypoint

open RetroBrowser.Foundation
open RetroBrowser.Foundation.Url

/-- What the handler reads of `os.environ`. -/
structure Environment where
  metricsToken : Text
  subfolder : Text
  masterToken : Text

/-- A request to the stream server. -/
structure Request where
  url : Text
  authorization : Text
deriving DecidableEq, Repr

/-- What `urlopen` and reading the answer come to. -/
inductive Upstream where
  | data (bytes : List UInt8)
  | unavailable
  | raised (error : String)

/-- The answer of the handler. -/
structure Response where
  status : ℕ
  body : List UInt8
deriving DecidableEq, Repr

/-- An exception that leaves the handler: then nothing is answered. -/
inductive Escape where
  | valueError
  | typeError (message : String)
  | other (error : String)
deriving DecidableEq, Repr

def maxMetricsBytes : ℕ := 2 * 1024 * 1024

/-- A response with an ASCII text. -/
def respond (status : ℕ) (body : String) : Response :=
  ⟨status, body.toList.map fun character => UInt8.ofNat character.toNat⟩

/-- The request for the metrics. -/
def Environment.request (environment : Environment) : Request where
  url := "http://127.0.0.1:8080".toList ++ environment.subfolder ++ "/api/metrics".toList
  authorization := "Bearer ".toList ++ environment.masterToken

/-- What becomes of the answer of the stream server. -/
def relay : Upstream → Except Escape Response
  | .data bytes =>
    if maxMetricsBytes < bytes.length then .ok (respond 502 "upstream response too large\n")
    else .ok ⟨200, bytes⟩
  | .unavailable => .ok (respond 502 "metrics upstream unavailable\n")
  | .raised error => .error (.other error)

/-- `do_GET`, with the requests it sent. -/
def doGet (environment : Environment) (urlopen : Request → Upstream) (target : Text) :
    List Request × Except Escape Response :=
  match urlsplit target with
  | none => ([], .error .valueError)
  | some parsed =>
    if parsed.path = "/healthz".toList then ([], .ok (respond 200 "ok\n"))
    else
      let supplied := getValues (parseQs parsed.query) "token".toList
      if parsed.path ≠ "/metrics".toList then ([], .ok (respond 401 "unauthorized\n"))
      else
        match supplied with
        | [token] =>
          match compareDigest token environment.metricsToken with
          | .error message => ([], .error (.typeError message))
          | .ok false => ([], .ok (respond 401 "unauthorized\n"))
          | .ok true => ([environment.request], relay (urlopen environment.request))
        | _ => ([], .ok (respond 401 "unauthorized\n"))

/-! ## What the gate is for -/

/-- The target asks whether the proxy is there. -/
def AsksHealth (target : Text) : Prop :=
  ∃ parsed, urlsplit target = some parsed ∧ parsed.path = "/healthz".toList

/-- The target asks for the metrics with exactly one token, which is the configured one. -/
def Admitted (environment : Environment) (target : Text) : Prop :=
  ∃ parsed, urlsplit target = some parsed ∧ parsed.path = "/metrics".toList ∧
    valuesOf parsed.query "token".toList = [environment.metricsToken]

/-- The stream server is asked just for the admitted targets, and all others but a
health check are answered with 401. -/
def ShutsOut (environment : Environment) (urlopen : Request → Upstream) (target : Text) : Prop :=
  ¬AsksHealth target →
    ((doGet environment urlopen target).1 ≠ [] ↔ Admitted environment target) ∧
    (¬Admitted environment target →
      (doGet environment urlopen target).2 = .ok (respond 401 "unauthorized\n"))

/-- The target is well formed, and where it asks for the metrics with a single token,
this and the configured one are ASCII. -/
def Readable (environment : Environment) (target : Text) : Prop :=
  ∃ parsed, urlsplit target = some parsed ∧
    (parsed.path = "/metrics".toList → ∀ token,
      valuesOf parsed.query "token".toList = [token] →
        isAscii token = true ∧ isAscii environment.metricsToken = true)

/-- A target that is neither malformed nor a health check. -/
theorem doGet_guarded {target : Text} {parsed : SplitResult}
    (parts : urlsplit target = some parsed) (other : parsed.path ≠ "/healthz".toList)
    (environment : Environment) (urlopen : Request → Upstream) :
    doGet environment urlopen target =
      if parsed.path ≠ "/metrics".toList then ([], .ok (respond 401 "unauthorized\n"))
      else
        match valuesOf parsed.query "token".toList with
        | [token] =>
          match compareDigest token environment.metricsToken with
          | .error message => ([], .error (.typeError message))
          | .ok false => ([], .ok (respond 401 "unauthorized\n"))
          | .ok true => ([environment.request], relay (urlopen environment.request))
        | _ => ([], .ok (respond 401 "unauthorized\n")) := by
  unfold doGet
  rw [parts]
  dsimp only
  rw [if_neg other, getValues_parseQs]

theorem shutsOut_of_refused {environment : Environment} {urlopen : Request → Upstream}
    {target : Text} (refused : ¬Admitted environment target)
    (answer : doGet environment urlopen target = ([], .ok (respond 401 "unauthorized\n"))) :
    ShutsOut environment urlopen target := by
  intro _
  rw [answer]
  exact ⟨⟨fun sent => absurd rfl sent, fun admitted => absurd admitted refused⟩,
    fun _ => rfl⟩

theorem shutsOut_of_sent {environment : Environment} {urlopen : Request → Upstream}
    {target : Text} (admitted : Admitted environment target)
    (sent : (doGet environment urlopen target).1 ≠ []) : ShutsOut environment urlopen target :=
  fun _ => ⟨⟨fun _ => admitted, fun _ => sent⟩, fun refused => absurd admitted refused⟩

/-- An exception is not an answer, and it leaves before the stream server is asked. -/
theorem not_shutsOut_of_escape {environment : Environment} {urlopen : Request → Upstream}
    {target : Text} {escape : Escape}
    (answer : doGet environment urlopen target = ([], .error escape)) :
    ¬ShutsOut environment urlopen target := by
  intro closed
  have guarded : ¬AsksHealth target := by
    intro ⟨parsed, parts, health⟩
    rw [doGet, parts] at answer
    dsimp only at answer
    rw [if_pos health] at answer
    simp at answer
  have ⟨asked, answered⟩ := closed guarded
  rw [answer] at asked answered
  have refused : ¬Admitted environment target := fun admitted => asked.mpr admitted rfl
  simpa using answered refused

/-- The gate shuts out just where the target is readable. -/
theorem shutsOut_iff (environment : Environment) (urlopen : Request → Upstream) (target : Text) :
    ShutsOut environment urlopen target ↔ Readable environment target := by
  cases parts : urlsplit target with
  | none =>
      have answer : doGet environment urlopen target = ([], .error .valueError) := by
        simp [doGet, parts]
      have unreadable : ¬Readable environment target := by simp [Readable, parts]
      exact iff_of_false (not_shutsOut_of_escape answer) unreadable
  | some parsed =>
      have admits : Admitted environment target ↔ parsed.path = "/metrics".toList ∧
          valuesOf parsed.query "token".toList = [environment.metricsToken] := by
        simp only [Admitted, parts, Option.some.injEq, exists_eq_left']
      have reads : Readable environment target ↔ (parsed.path = "/metrics".toList → ∀ token,
          valuesOf parsed.query "token".toList = [token] →
            isAscii token = true ∧ isAscii environment.metricsToken = true) := by
        simp only [Readable, parts, Option.some.injEq, exists_eq_left']
      by_cases health : parsed.path = "/healthz".toList
      · have asks : AsksHealth target := ⟨parsed, parts, health⟩
        rw [reads, health]
        exact ⟨fun _ metrics => absurd metrics (by decide), fun _ guarded =>
          absurd asks guarded⟩
      have answer := doGet_guarded parts health environment urlopen
      by_cases metrics : parsed.path = "/metrics".toList
      swap
      · rw [if_pos metrics] at answer
        refine iff_of_true (shutsOut_of_refused ?_ answer) (reads.mpr fun same =>
          absurd same metrics)
        exact fun admitted => metrics (admits.mp admitted).1
      rw [if_neg (not_not_intro metrics)] at answer
      by_cases single : ∃ token, valuesOf parsed.query "token".toList = [token]
      swap
      · have refused : ¬Admitted environment target := fun admitted =>
          single ⟨environment.metricsToken, (admits.mp admitted).2⟩
        refine iff_of_true (shutsOut_of_refused refused ?_)
          (reads.mpr fun _ token tokens => absurd ⟨token, tokens⟩ single)
        rw [answer]
        split
        · next token tokens => exact absurd ⟨token, tokens⟩ single
        · rfl
      have ⟨token, tokens⟩ := single
      rw [tokens] at answer admits
      by_cases ascii : isAscii token = true ∧ isAscii environment.metricsToken = true
      · have readable : Readable environment target := by
          refine reads.mpr fun _ other others => ?_
          rw [tokens, List.cons.injEq] at others
          exact others.1 ▸ ascii
        refine iff_of_true ?_ readable
        dsimp only at answer
        rw [compareDigest, if_pos ascii] at answer
        by_cases same : token = environment.metricsToken
        · refine shutsOut_of_sent (admits.mpr ⟨metrics, by rw [same]⟩) ?_
          rw [answer, beq_iff_eq.mpr same]
          exact List.cons_ne_nil _ _
        · refine shutsOut_of_refused (fun admitted => ?_) ?_
          · exact same (List.cons.inj (admits.mp admitted).2).1
          · rw [answer, beq_eq_false_iff_ne.mpr same]
      · dsimp only at answer
        rw [compareDigest, if_neg ascii] at answer
        exact iff_of_false (not_shutsOut_of_escape answer) fun readable =>
          ascii (reads.mp readable metrics token tokens)

end RetroBrowser.SessionEntrypoint
