import SealedToken.Error
import SealedToken.Text.Split

/-! # Authorization values

A token as the value of an authorization header: the scheme, one blank, and
the token, which holds no blank itself. -/

namespace SealedToken.Authorization

def scheme : String := "Bearer"

/-- The token in an authorization value. -/
def token (value : String) : Except Error String :=
  match Split.parts ' ' value.toList with
  | [first, second] =>
    if first = scheme.toList then .ok (String.ofList second) else .error .authorizationForm
  | _ => .error .authorizationForm

end SealedToken.Authorization
