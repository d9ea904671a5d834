import Mathlib.Data.Bool.AllAny
import Mathlib.Data.List.Forall2
import RetroBrowser.Foundation.Url

/-!
Owns the credential check of the Session Manager's API: what `authenticate_service`
makes of the `Authorization` header.
-/

namespace RetroBrowser.SessionManager

open RetroBrowser.Foundation
open RetroBrowser.Foundation.Url

structure HTTPException where
  statusCode : ℕ
  detail : String
  headers : List (String × String)
deriving DecidableEq, Repr

/-- What the check raises: an answer, or the `TypeError` of `compare_digest`. -/
inductive Rejection where
  | http (exception : HTTPException)
  | typeError (message : String)
deriving DecidableEq, Repr

/-- `HTTP_401_UNAUTHORIZED`, as the check raises it. -/
def unauthorized : HTTPException where
  statusCode := 401
  detail := "invalid service credential"
  headers := [("WWW-Authenticate", "Bearer")]

/-- `authenticate_service`; `and` compares the credential only under the right scheme. -/
def authenticateService (expectedToken : Text) (authorization : Option Text) :
    Except Rejection Unit :=
  match partition ' ' (authorization.getD []) with
  | (scheme, some credential) =>
    if scheme.map lowerLatin1 = "bearer".toList then
      match compareDigest credential expectedToken with
      | .ok true => .ok ()
      | .ok false => .error (.http unauthorized)
      | .error message => .error (.typeError message)
    else .error (.http unauthorized)
  | (_, none) => .error (.http unauthorized)

/-! ## What the check is for -/

/-- The word `bearer`, in any case. -/
def IsBearer (scheme : Text) : Prop :=
  List.Forall₂ (fun letter small => letter = small ∨ letter = small.toUpper)
    scheme "bearer".toList

/-- The header is the word, one space, and exactly the token. -/
def Authorized (expectedToken : Text) (authorization : Option Text) : Prop :=
  ∃ scheme, IsBearer scheme ∧ authorization = some (scheme ++ ' ' :: expectedToken)

/-- The check accepts just the authorized headers, and answers 401 to all others. -/
def FailsClosed (expectedToken : Text) (authorization : Option Text) : Prop :=
  (Authorized expectedToken authorization →
    authenticateService expectedToken authorization = .ok ()) ∧
  (¬Authorized expectedToken authorization →
    authenticateService expectedToken authorization = .error (.http unauthorized))

/-- Where the scheme is `bearer`, the credential and the token are ASCII. -/
def Comparable (expectedToken : Text) (authorization : Option Text) : Prop :=
  ∀ scheme credential, IsBearer scheme → authorization = some (scheme ++ ' ' :: credential) →
    isAscii credential = true ∧ isAscii expectedToken = true

/-- Of the Latin-1 characters only the two cases of a letter of `bearer` become it. -/
theorem lowerLatin1_letter : ∀ point < 256, ∀ small ∈ "bear".toList,
    lowerLatin1 (Char.ofNat point) = small ↔
      Char.ofNat point = small ∨ Char.ofNat point = small.toUpper := by
  have listed : ∀ point < 256, ("bear".toList.all fun small =>
      lowerLatin1 (Char.ofNat point) = small ↔
        Char.ofNat point = small ∨ Char.ofNat point = small.toUpper) = true := by
    decide +kernel
  exact fun point low => List.all_iff_forall_prop.mp (listed point low)

theorem lower_eq_iff {scheme smalls : Text} (single : ∀ letter ∈ scheme, letter.toNat < 256)
    (letters : ∀ small ∈ smalls, small ∈ "bear".toList) :
    scheme.map lowerLatin1 = smalls ↔
      List.Forall₂ (fun letter small => letter = small ∨ letter = small.toUpper) scheme
        smalls := by
  induction scheme generalizing smalls with
  | nil => simp [List.forall₂_nil_left_iff, eq_comm]
  | cons letter rest inductionHypothesis =>
      cases smalls with
      | nil => simp [List.forall₂_nil_right_iff]
      | cons small others =>
          have one := lowerLatin1_letter letter.toNat (single letter List.mem_cons_self) small
            (letters small List.mem_cons_self)
          rw [Char.ofNat_toNat] at one
          rw [List.map_cons, List.cons.injEq, List.forall₂_cons, one, inductionHypothesis
            (fun other member => single other (List.mem_cons_of_mem letter member))
            fun other member => letters other (List.mem_cons_of_mem small member)]

theorem lower_eq_bearer {scheme : Text} (single : ∀ letter ∈ scheme, letter.toNat < 256) :
    scheme.map lowerLatin1 = "bearer".toList ↔ IsBearer scheme :=
  lower_eq_iff single (List.all_iff_forall_prop.mp (by decide))

theorem IsBearer.no_space {scheme : Text} (bearer : IsBearer scheme) : ' ' ∉ scheme := by
  intro member
  have none : ∀ {scheme smalls : Text}, List.Forall₂ (fun letter small => letter = small ∨
      letter = small.toUpper) scheme smalls → (∀ small ∈ smalls, small ∈ "bear".toList) →
        ' ' ∉ scheme := by
    intro scheme smalls matched
    induction matched with
    | nil => simp
    | @cons letter small rest others first _ inductionHypothesis =>
        intro letters inside
        rcases List.mem_cons.mp inside with same | later
        · have possible : ∀ small ∈ "bear".toList, ' ' ≠ small ∧ ' ' ≠ small.toUpper :=
            List.all_iff_forall_prop.mp (by decide)
          have ⟨lower, upper⟩ := possible small (letters small List.mem_cons_self)
          exact (same ▸ first).elim lower upper
        · exact inductionHypothesis (fun other member =>
            letters other (List.mem_cons_of_mem small member)) later
  exact none bearer (List.all_iff_forall_prop.mp (by decide)) member

/-- A byte read as Latin-1 is one of 256 characters. -/
theorem toNat_lt_of_mem_latin1 {bytes : List UInt8} {character : Char}
    (member : character ∈ latin1 bytes) : character.toNat < 256 := by
  have ⟨byte, _, equal⟩ := List.mem_map.mp member
  have each : ∀ point < 256, (Char.ofNat point).toNat = point := by decide +kernel
  rw [← equal, each byte.toNat byte.toNat_lt]
  exact byte.toNat_lt

/-- The check reads the scheme and the credential as the text shows them. -/
theorem authenticateService_bearer {scheme : Text} (bearer : IsBearer scheme)
    (single : ∀ letter ∈ scheme, letter.toNat < 256) (credential expectedToken : Text) :
    authenticateService expectedToken (some (scheme ++ ' ' :: credential)) =
      match compareDigest credential expectedToken with
      | .ok true => .ok ()
      | .ok false => .error (.http unauthorized)
      | .error message => .error (.typeError message) := by
  unfold authenticateService
  rw [Option.getD_some, partition_append bearer.no_space]
  dsimp only
  rw [if_pos ((lower_eq_bearer single).mpr bearer)]

/-- Every other header is answered with 401. -/
theorem authenticateService_other {authorization : Option Text}
    (single : ∀ character ∈ authorization.getD [], character.toNat < 256)
    (other : ∀ scheme credential, IsBearer scheme →
      authorization ≠ some (scheme ++ ' ' :: credential))
    (expectedToken : Text) :
    authenticateService expectedToken authorization = .error (.http unauthorized) := by
  unfold authenticateService
  rcases parted : partition ' ' (authorization.getD []) with ⟨scheme, rest⟩
  cases rest with
  | none => rfl
  | some credential =>
      have ⟨_, equal⟩ := partition_some.mp parted
      refine if_neg fun lower => ?_
      have inside : ∀ letter ∈ scheme, letter.toNat < 256 := fun letter member =>
        single letter (equal ▸ List.mem_append_left _ member)
      refine other scheme credential ((lower_eq_bearer inside).mp lower) ?_
      cases authorization with
      | none => simp at equal
      | some text => exact congrArg some equal

/-- A `TypeError` is neither an acceptance nor a 401. -/
theorem not_failsClosed_of_typeError {expectedToken : Text} {authorization : Option Text}
    {message : String}
    (answer : authenticateService expectedToken authorization = .error (.typeError message)) :
    ¬FailsClosed expectedToken authorization := by
  intro closed
  by_cases accepted : Authorized expectedToken authorization
  · have other := closed.1 accepted
    simp [answer] at other
  · have other := closed.2 accepted
    simp [answer] at other

/-- The check fails closed just when the two texts it compares are ASCII. -/
theorem failsClosed_iff (expectedToken : Text) (header : Option (List UInt8)) :
    FailsClosed expectedToken (header.map latin1) ↔
      Comparable expectedToken (header.map latin1) := by
  have single : ∀ character ∈ (header.map latin1).getD [], character.toNat < 256 := by
    intro character member
    cases header with
    | none => simp at member
    | some bytes => exact toNat_lt_of_mem_latin1 member
  by_cases presented : ∃ scheme credential, IsBearer scheme ∧
      header.map latin1 = some (scheme ++ ' ' :: credential)
  · have ⟨scheme, credential, bearer, equal⟩ := presented
    have inside : ∀ letter ∈ scheme, letter.toNat < 256 := fun letter member =>
      single letter (by rw [equal]; exact List.mem_append_left _ member)
    have unique : ∀ scheme' credential' : Text, IsBearer scheme' →
        some (scheme ++ ' ' :: credential) = some (scheme' ++ ' ' :: credential') →
          credential = credential' := by
      intro scheme' credential' bearer' same
      have parted := partition_append bearer.no_space credential
      rw [Option.some.inj same, partition_append bearer'.no_space] at parted
      exact (Option.some.inj (Prod.mk.inj parted).2).symm
    have authorized : Authorized expectedToken (header.map latin1) ↔
        credential = expectedToken := by
      constructor
      · intro ⟨scheme', bearer', same⟩
        exact unique scheme' expectedToken bearer' (equal.symm.trans same)
      · intro same
        exact ⟨scheme, bearer, same ▸ equal⟩
    have answer := authenticateService_bearer bearer inside credential expectedToken
    rw [← equal] at answer
    by_cases ascii : isAscii credential = true ∧ isAscii expectedToken = true
    · rw [compareDigest, if_pos ascii] at answer
      refine ⟨fun _ scheme' credential' bearer' same => ?_, fun _ => ⟨fun accepted => ?_,
        fun refused => ?_⟩⟩
      · rw [← unique scheme' credential' bearer' (equal.symm.trans same)]
        exact ascii
      · rw [answer, authorized.mp accepted]
        simp
      · have differs : (credential == expectedToken) = false :=
          beq_eq_false_iff_ne.mpr fun same => refused (authorized.mpr same)
        rw [answer, differs]
    · rw [compareDigest, if_neg ascii] at answer
      exact iff_of_false (not_failsClosed_of_typeError answer) fun comparable =>
        ascii (comparable scheme credential bearer equal)
  · have other : ∀ scheme credential, IsBearer scheme →
        header.map latin1 ≠ some (scheme ++ ' ' :: credential) :=
      fun scheme credential bearer same => presented ⟨scheme, credential, bearer, same⟩
    refine ⟨fun _ scheme credential bearer same => absurd same (other scheme credential bearer),
      fun _ =>
        ⟨fun ⟨scheme, bearer, same⟩ => absurd same (other scheme _ bearer), fun _ => ?_⟩⟩
    exact authenticateService_other single other expectedToken

end RetroBrowser.SessionManager
