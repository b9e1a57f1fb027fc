import EngineeringPlatform.Checked
import EngineeringPlatform.Platform
namespace EngineeringPlatform.Identity
open Checked

inductive AccountStatus where
  | pendingInit
  | enabled
  | disabled
  | restricted
  deriving DecidableEq

-- The safe projection of an account that the other modules read.
structure AccountView where
  id : String
  employeeNo : String
  displayName : String
  status : AccountStatus
  initialized : Bool
  deriving DecidableEq

def AccountView.effective (account : AccountView) : Bool :=
  account.status = .enabled ∧ account.initialized = true

end EngineeringPlatform.Identity
