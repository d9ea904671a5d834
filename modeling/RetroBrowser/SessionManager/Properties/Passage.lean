import RetroBrowser.SessionEntrypoint.Properties.Handover
import RetroBrowser.SessionManager.Properties.Requests

/-!
Owns the composition of the three models of a creation request: the service's request, the
agent's and the specification that the launcher reads.

Contract: three programs read the same fields with models of their own. A name that the service
allows is short enough for the launcher, so of what the agent's model accepts the launcher's
refuses nothing but a path in the container that is too long. The agent's checks between its
model and the file are left out here.
-/

namespace RetroBrowser.SessionManager

open RetroBrowser.Foundation
open RuntimeAgent (CreateRuntimeRequest RuntimeRequestHandler.body RuntimeService exampleAgent
  exampleTables)
open SessionEntrypoint (RuntimeSpec canonicalPath loadRuntimeSpec specified)

/-- The agent's reader accepts what the adapter sends, and the launcher's reader the text that the
agent makes of it, if and only if the request fits the agent's bounds and the path in the
container has at most 4096 characters; then the launcher has read what the service asked for. -/
theorem readers_compose_iff (provider : LocalRuntimeAgentProvider) (self : RuntimeService)
    (request : RuntimeRequest) (spec : RuntimeSpec) (askable : provider.Askable request)
    (agrees : Hostname.AgreesOnAscii self.library.tables.isAlnum)
    (lower : self.library.tables.lower "application/json".toList = "application/json".toList) :
    (∃ members read,
        RuntimeRequestHandler.body self.library.tables
          (AgentSocket.sent "POST" "/v1/runtimes" (some (provider.payload request))) =
            .ok members ∧
        CreateRuntimeRequest.modelValidate self.library.tables (.object members) = .ok read ∧
        loadRuntimeSpec self.library.tables (.written (self.specText read)) = .ok spec) ↔
      spec = specified self (provider.asked request) ∧ provider.Fits request ∧
        (canonicalPath self (provider.asked request)).length ≤ 4096 := by
  have short : (provider.asked request).playerName.length ≤ 31 := by
    have fields := askable.fields
    simp only [RuntimeRequest.valid, lengthBetween, Bool.and_eq_true, decide_eq_true_eq, and_assoc]
      at fields
    exact fields.2.2.1
  constructor
  · rintro ⟨members, read, body, validated, loaded⟩
    obtain ⟨same, valid, _⟩ := (LocalRuntimeAgentProvider.handed askable.config lower read).mp
      ⟨members, body, validated⟩
    subst same
    obtain ⟨reads, accepted⟩ := (SessionEntrypoint.loadRuntimeSpec_specText self _ spec
      (SessionEntrypoint.port_le _ valid)).mp loaded
    have path := ((SessionEntrypoint.errors_specified valid).mp accepted).2
    exact ⟨reads, (askable.valid_asked_iff agrees).mp valid, path⟩
  · rintro ⟨reads, fits, path⟩
    have valid := (askable.valid_asked_iff agrees).mpr fits
    obtain ⟨members, body, validated⟩ := (LocalRuntimeAgentProvider.handed askable.config lower
      (provider.asked request)).mpr
      ⟨rfl, valid, askable.payload_length_le fits⟩
    have accepted := (SessionEntrypoint.errors_specified valid).mpr ⟨short, path⟩
    have loaded := (SessionEntrypoint.loadRuntimeSpec_specText self _ spec
      (SessionEntrypoint.port_le _ valid)).mpr ⟨reads, accepted⟩
    exact ⟨members, provider.asked request, body, validated, loaded⟩

theorem example_readers_compose : ∃ members read,
    RuntimeRequestHandler.body exampleTables
      (AgentSocket.sent "POST" "/v1/runtimes" (some (exampleAdapter.payload exampleHostRequest))) =
        .ok members ∧
    CreateRuntimeRequest.modelValidate exampleTables (.object members) = .ok read ∧
    loadRuntimeSpec exampleTables (.written ((exampleAgent.service .working).specText read)) =
      .ok (specified (exampleAgent.service .working) (exampleAdapter.asked exampleHostRequest)) :=
  (readers_compose_iff exampleAdapter (exampleAgent.service .working) exampleHostRequest _
    exampleHostRequest_askable exampleTables_agrees (by decide)).mpr
    ⟨rfl, exampleHostRequest_fits, by decide⟩

end RetroBrowser.SessionManager
