import Mathlib.Data.Bool.AllAny
import RetroBrowser.Foundation.Hostname
import RetroBrowser.Foundation.Url
import RetroBrowser.RuntimeAgent.Models.Runtime
import RetroBrowser.SessionEntrypoint.Models

/-!
Owns which Netplay hosts the agent and the launcher accept: the same ones, and host
names over whatever `isalnum` takes for a letter.
-/

namespace RetroBrowser.SessionEntrypoint

open RetroBrowser.Foundation
open RetroBrowser.Foundation.Hostname
open RetroBrowser.RuntimeAgent (NetplayRequest)

/-- The agent's value for a role. -/
def NetplayRole.asRequested : NetplayRole → RuntimeAgent.NetplayRole
  | .standalone => .standalone
  | .host => .host
  | .client => .client

/-- The launcher accepts the specification. -/
def NetplaySpec.accepted (tables : PythonText.CharacterTables) (spec : NetplaySpec) : Prop :=
  spec.errors tables = []

/-- The agent accepts the same values. -/
def NetplaySpec.requested (tables : PythonText.CharacterTables) (spec : NetplaySpec) : Prop :=
  NetplayRequest.valid tables ⟨spec.role.asRequested, spec.host, spec.port⟩ = true

/-- Both validators agree on the host, for each role and port, and for a client on an
allowed port they accept just the host names over the ASCII letters and digits. -/
def HostGrammar (tables : PythonText.CharacterTables) (host : String) : Prop :=
  (∀ role port, NetplaySpec.requested tables ⟨role, some host, port⟩ ↔
    NetplaySpec.accepted tables ⟨role, some host, port⟩) ∧
  ∀ port, 1024 ≤ port → port ≤ 65535 →
    (NetplaySpec.accepted tables ⟨.client, some host, port⟩ ↔
      IsHostname Char.isAlphanum host.toList)

variable {tables : PythonText.CharacterTables}

theorem hostLabel_iff (label : Text) :
    NetplayRequest.hostLabel tables label = true ↔ IsLabel tables.isAlnum label := by
  rw [isLabel_iff, NetplayRequest.hostLabel]
  simp only [Bool.and_eq_true, decide_eq_true_eq, List.all_eq_true, Bool.or_eq_true, beq_iff_eq,
    and_assoc]

/-- The launcher refuses just the labels the agent does not accept. -/
theorem refusedLabel_eq (label : Text) :
    NetplaySpec.refusedLabel tables label = !NetplayRequest.hostLabel tables label := by
  unfold NetplaySpec.refusedLabel NetplayRequest.hostLabel
  cases label with
  | nil => rfl
  | cons head rest =>
      have long : decide (63 < (head :: rest).length) = !decide ((head :: rest).length ≤ 63) := by
        rw [Bool.eq_iff_iff, Bool.not_eq_true', decide_eq_true_eq, decide_eq_false_iff_not]
        exact Nat.not_le.symm
      rw [long, List.isEmpty_cons, Bool.false_or, Bool.not_and, Bool.not_and, Bool.not_and,
        List.not_all_eq_any_not]

theorem hostLabels_iff (host : String) :
    NetplayRequest.hostLabels tables host = true ↔
      ∀ label ∈ host.toList.splitOn '.', IsLabel tables.isAlnum label := by
  simp only [NetplayRequest.hostLabels, List.all_eq_true, hostLabel_iff]

theorem validateHost_iff (host : String) :
    NetplaySpec.validateHost tables (some host) = .ok () ↔
      NetplayRequest.hostLabels tables host = true := by
  have labels : (host.toList.splitOn '.').any (NetplaySpec.refusedLabel tables) =
      !NetplayRequest.hostLabels tables host := by
    unfold NetplayRequest.hostLabels
    rw [List.not_all_eq_any_not]
    exact congrArg _ (funext refusedLabel_eq)
  unfold NetplaySpec.validateHost
  dsimp only
  rw [labels]
  cases NetplayRequest.hostLabels tables host <;> simp

/-- What both validators ask for: an allowed port, and just for a client a host, of an
allowed length and with such labels. -/
structure NetplaySpec.Acceptable (tables : PythonText.CharacterTables) (spec : NetplaySpec) :
    Prop where
  port : 1024 ≤ spec.port ∧ spec.port ≤ 65535
  host : ∀ host ∈ spec.host,
    Pattern.lengthBetween 1 253 host = true ∧ NetplayRequest.hostLabels tables host = true
  role : spec.host.isSome = true ↔ spec.role = .client

theorem accepted_iff (spec : NetplaySpec) : spec.accepted tables ↔ spec.Acceptable tables := by
  have hosts : spec.host.all (Pattern.lengthBetween 1 253) = true ∧
      NetplaySpec.validateHost tables spec.host = .ok () ↔ ∀ host ∈ spec.host,
        Pattern.lengthBetween 1 253 host = true ∧
          NetplayRequest.hostLabels tables host = true := by
    cases spec.host with
    | none => simp [NetplaySpec.validateHost]
    | some host => simp [validateHost_iff]
  unfold NetplaySpec.accepted NetplaySpec.errors
  rw [modelErrors_eq_nil, List.append_eq_nil_iff, fieldErrors_eq_nil, fieldErrors_eq_nil,
    NetplaySpec.validateRoleHost_ok, hosts, Bool.and_eq_true, decide_eq_true_eq, decide_eq_true_eq]
  constructor
  · intro ⟨⟨host, port, _⟩, role⟩
    exact ⟨port, host, role⟩
  · intro ⟨port, host, role⟩
    exact ⟨⟨host, port, rfl⟩, role⟩

theorem requested_iff (spec : NetplaySpec) : spec.requested tables ↔ spec.Acceptable tables := by
  have roles : (spec.host.isSome == (spec.role.asRequested == .client)) = true ↔
      (spec.host.isSome = true ↔ spec.role = .client) := by
    cases spec.host <;> cases spec.role <;> simp [NetplayRole.asRequested]
  unfold NetplaySpec.requested NetplayRequest.valid
  simp only [Bool.and_eq_true, decide_eq_true_eq, Option.all_eq_true, roles]
  constructor
  · intro ⟨⟨port, host⟩, role⟩
    exact ⟨port, host, role⟩
  · intro ⟨port, host, role⟩
    exact ⟨⟨port, host⟩, role⟩

/-- For a client on an allowed port these are the host names over the letters of the tables. -/
theorem acceptable_client (noDot : tables.isAlnum '.' = false) {port : ℕ}
    (allowed : 1024 ≤ port ∧ port ≤ 65535) (host : String) :
    NetplaySpec.Acceptable tables ⟨.client, some host, port⟩ ↔
      IsHostname tables.isAlnum host.toList := by
  have lengths : Pattern.lengthBetween 1 253 host = true ↔
      host.toList ≠ [] ∧ host.toList.length ≤ 253 := by
    rw [Pattern.lengthBetween, Bool.and_eq_true, decide_eq_true_eq, decide_eq_true_eq,
      ← String.length_toList, Nat.one_le_iff_ne_zero, ne_eq, List.length_eq_zero_iff]
  rw [isHostname_iff noDot, ← hostLabels_iff, ← and_assoc, ← lengths]
  constructor
  · intro acceptable
    exact acceptable.host host rfl
  · intro accepted
    refine ⟨allowed, fun other member => ?_, by simp⟩
    rw [← Option.some.inj member]
    exact accepted

/-- The grammar is kept where the letters of the tables make no other host names. -/
theorem hostGrammar_iff (noDot : tables.isAlnum '.' = false) (host : String) :
    HostGrammar tables host ↔
      (IsHostname tables.isAlnum host.toList ↔ IsHostname Char.isAlphanum host.toList) := by
  have client : ∀ port, 1024 ≤ port → port ≤ 65535 →
      (NetplaySpec.accepted tables ⟨.client, some host, port⟩ ↔
        IsHostname tables.isAlnum host.toList) := by
    intro port low high
    rw [accepted_iff, acceptable_client noDot ⟨low, high⟩]
  constructor
  · intro ⟨_, grammar⟩
    rw [← client 1024 (by decide) (by decide)]
    exact grammar 1024 (by decide) (by decide)
  · intro same
    refine ⟨fun role port => ?_, fun port low high => ?_⟩
    · rw [requested_iff, accepted_iff]
    · rw [client port low high, same]

/-- The grammar is kept just for the hosts that are ASCII, or would be no host name with
the letter `a` in the place of each of their letters. -/
theorem netplay_hosts_exact (tables : PythonText.CharacterTables)
    (agrees : AgreesOnAscii tables.isAlnum) (host : String) :
    HostGrammar tables host ↔ (∀ character ∈ host.toList, character.toNat < 128) ∨
      ¬IsHostname Char.isAlphanum (fold tables.isAlnum host.toList) := by
  rw [hostGrammar_iff agrees.dot, isHostname_exact agrees]

/-- `isalnum` and `lower` of the Latin-1 characters. -/
def latin1Tables : PythonText.CharacterTables where
  isAlnum := fun character => character.isAlphanum ||
    [0xAA, 0xB2, 0xB3, 0xB5, 0xB9, 0xBA, 0xBC, 0xBD, 0xBE].contains character.toNat ||
    (0xC0 ≤ character.toNat && character.toNat ≤ 0xFF && character.toNat != 0xD7 &&
      character.toNat != 0xF7)
  lower := fun text => text.map Url.lowerLatin1

theorem latin1Tables_agrees : AgreesOnAscii latin1Tables.isAlnum := by
  intro character ascii
  have listed :
    ∀ point < 128, ([0xAA, 0xB2, 0xB3, 0xB5, 0xB9, 0xBA, 0xBC, 0xBD, 0xBE].contains point ||
      (0xC0 ≤ point && point ≤ 0xFF && point != 0xD7 && point != 0xF7)) = false := by decide
  show (_ || _ || _) = _
  rw [Bool.or_assoc, listed character.toNat ascii, Bool.or_false]

/-- A host name without accents keeps the grammar. -/
theorem netplay_hosts_plain : HostGrammar latin1Tables "retro-host.local" :=
  (netplay_hosts_exact latin1Tables latin1Tables_agrees "retro-host.local").mpr
    (Or.inl (List.all_iff_forall_prop.mp (by decide)))

/-- A host name with an accent is accepted. -/
theorem netplay_hosts_accent : ¬HostGrammar latin1Tables "café.local" := by
  rw [hostGrammar_iff (by decide)]
  intro same
  have host : IsHostname latin1Tables.isAlnum "café.local".toList := by
    rw [isHostname_iff (by decide)]
    decide +kernel
  exact absurd ((same.mp host).ascii 'é' (by decide)) (by decide)

end RetroBrowser.SessionEntrypoint
