import RetroBrowser.SessionEntrypoint.MetricsProxy
import RetroBrowser.SessionManager.Api.Authentication

/-!
Owns that the two credential gates, of the Session Manager's API and of the metrics
proxy, answer 401 to whatever they do not accept.

Contract: a header and a target are bytes read as Latin-1.
-/

namespace RetroBrowser.SessionEntrypoint

open RetroBrowser.Foundation.Url
open RetroBrowser.SessionManager (FailsClosed Comparable authenticateService)

/-- The API's gate fails closed just where it compares ASCII texts, and the proxy's just
where the target is well formed and it compares ASCII texts. -/
theorem gates_fail_closed (expectedToken : Text) (header : Option (List UInt8))
    (environment : Environment) (urlopen : Request → Upstream) (target : List UInt8) :
    (FailsClosed expectedToken (header.map latin1) ↔
      Comparable expectedToken (header.map latin1)) ∧
    (ShutsOut environment urlopen (latin1 target) ↔ Readable environment (latin1 target)) :=
  ⟨SessionManager.failsClosed_iff expectedToken header,
    shutsOut_iff environment urlopen (latin1 target)⟩

/-- The bytes of a text in UTF-8. -/
private def sent (text : String) : List UInt8 := text.toUTF8.toList

/-- A token that `create_app` takes: it has 33 characters. -/
private def serviceToken : List Char := "session-manager-service-secret-01".toList

private def environment : Environment where
  metricsToken := "runtime-metrics-secret-0123456789".toList
  subfolder := "/session".toList
  masterToken := "selkies-master-secret-0123456789".toList

/-- A credential and a token with an accent end in a `TypeError`, and an unclosed bracket
in a `ValueError`: none of them is a 401. -/
theorem gates_raise :
    authenticateService serviceToken (some (latin1 (sent "Bearer é"))) =
      .error (.typeError "comparing strings with non-ASCII characters is not supported") ∧
    ¬FailsClosed serviceToken (some (latin1 (sent "Bearer é"))) ∧
    (doGet environment (fun _ => .data []) (latin1 (sent "/metrics?token=%C3%A9"))).2 =
      .error (.typeError "comparing strings with non-ASCII characters is not supported") ∧
    ¬ShutsOut environment (fun _ => .data []) (latin1 (sent "/metrics?token=%C3%A9")) ∧
    (doGet environment (fun _ => .data []) (latin1 (sent "http://["))).2 = .error .valueError ∧
    ¬ShutsOut environment (fun _ => .data []) (latin1 (sent "http://[")) := by
  have bearer : authenticateService serviceToken (some (latin1 (sent "Bearer é"))) =
      .error (.typeError "comparing strings with non-ASCII characters is not supported") := by
    decide +kernel
  have metrics : doGet environment (fun _ => .data []) (latin1 (sent "/metrics?token=%C3%A9")) =
      ([], .error (.typeError "comparing strings with non-ASCII characters is not supported")) := by
    decide +kernel
  have bracket : doGet environment (fun _ => .data []) (latin1 (sent "http://[")) =
      ([], .error .valueError) := by
    decide +kernel
  exact ⟨bearer, SessionManager.not_failsClosed_of_typeError bearer,
    congrArg Prod.snd metrics, not_shutsOut_of_escape metrics,
    congrArg Prod.snd bracket, not_shutsOut_of_escape bracket⟩

end RetroBrowser.SessionEntrypoint
