import Invetrixa.Correctness.SignIns

/-!
# Credentials

Signing in and the endpoints on the second factor never touch a token, the history of passwords, or
what an account is recovered by: its address and whether it is verified, its password, and whether
it is active.

## Main definitions

- `AuthStore.credentials` — what an account is recovered by

## Main results

- `keeps_auth` — sign-ins and requests on the second factor keep the credentials
-/

namespace Invetrixa

open Rowstore Requests

/-- The accounts as far as recovery reads them. -/
@[ext]
structure Recoverable where
  users : Serial Credentials
  verificationTokens : Serial VerificationToken
  passwordHistory : Serial PasswordHistory

/-- The credentials of all users, with the tokens and the password history. -/
def AuthStore.credentials (s : AuthStore) : Recoverable where
  users := s.users.map User.credentials
  verificationTokens := s.verificationTokens
  passwordHistory := s.passwordHistory

/-- A write that leaves the credentials of every row. -/
theorem credentials_modifyUser {f : User → User}
    (hf : ∀ row, (f row).credentials = row.credentials) (id : Id) (s : AuthStore) :
    (s.modifyUser id f).credentials = s.credentials := by
  have hrows : (s.users.modify id f).map User.credentials = s.users.map User.credentials := by
    have hmodify : (s.users.modify id f).map User.credentials =
        (s.users.map User.credentials).modify id fun c => c := Serial.map_modify hf id
    rw [hmodify]
    apply Serial.eq_of_rows
    · exact congrArg Table.rows (Table.modify_eq_self fun _ _ => rfl)
    · rfl
  simp only [AuthStore.credentials, AuthStore.modifyUser, hrows]

variable {rt : Runtime} {http : HttpRequest} {entropy : Entropy}

theorem checksLeave_credentials : ChecksLeave AuthStore.credentials where
  user s id _ hf := credentials_modifyUser hf id s
  device _ _ _ _ := rfl
  codes _ _ _ := rfl

theorem factorsLeave_credentials : FactorsLeave AuthStore.credentials :=
  ⟨checksLeave_credentials, fun _ _ => rfl⟩

theorem signInsLeave_credentials : SignInsLeave AuthStore.credentials :=
  ⟨checksLeave_credentials, fun _ _ _ => rfl⟩

theorem keeps_serve (sessionUser : SessionStateSnapshot) (request : TwoFactorRequest) :
    Handler.Keeps AuthStore.credentials
      (AuthController.serve rt http entropy sessionUser request) := by
  cases request with
  | verifyTwoFactor dto =>
    exact (factorsLeave_credentials.verifyTwoFactor sessionUser.id dto).bind fun _ =>
      signInsLeave_credentials.withNewSession _ _
  | enableTwoFactor dto =>
    exact (factorsLeave_credentials.enableTwoFactor sessionUser.id dto).bind fun _ =>
      signInsLeave_credentials.withNewSession _ _
  | disableTwoFactor dto =>
    exact (factorsLeave_credentials.disableTwoFactor sessionUser.id dto).bind fun _ =>
      signInsLeave_credentials.withNewSession _ _
  | _ => exact signInsLeave_credentials.serve sessionUser rfl

variable (rt http entropy) in
/-- Sign-ins and requests on the second factor keep the credentials, the tokens and the password
history. -/
theorem keeps_auth (request : AuthRequest) :
    Handler.Keeps AuthStore.credentials (AuthController.handle rt http entropy request) := by
  cases request with
  | login email password => exact signInsLeave_credentials.login email password
  | twoFactor request =>
    apply Handler.Keeps.bind (Handler.Keeps.read _)
    exact fun user => keeps_serve user request

end Invetrixa
