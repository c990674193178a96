import OracleIndexer.Feed.CountRadix
import OracleIndexer.Feed.SizeTable
import OracleIndexer.Indexer.Role
set_option autoImplicit false

/-!
# Settings

The network that is indexed, how its messages are read, whether failing events are left out, and the
contracts of each known deployment.
-/

namespace OracleIndexer

/-- The contracts of a network. -/
structure Deployment where
  address : Role → Option String
  deriving Inhabited

/-- What indexers are run with. -/
structure Settings where
  network : String
  skipFailed : Bool
  sizeTable : Feed.SizeTable
  countRadix : Feed.CountRadix
  deployments : List (String × Deployment)
  deriving Inhabited

namespace Settings

/-- The network that is indexed unless the configuration names one. -/
def defaultNetwork : String := "starknet-mainnet"

/-- The deployment on the network that is indexed. -/
def deployment (settings : Settings) : Outcome Deployment :=
  match settings.deployments.lookup settings.network with
  | some deployment => .ok deployment
  | none => .error (.noDeployment settings.network)

/-- The contract in a role that may be unknown; a name without a role has no contract. -/
def contractOf (settings : Settings) (role : Option Role) (name : String) : Outcome String := do
  let deployment ← settings.deployment
  match role.bind deployment.address with
  | some address => return address
  | none => .error (.noContract name settings.network)

/-- The contract in a role. -/
def contract (settings : Settings) (role : Role) : Outcome String :=
  settings.contractOf (some role) role.name

/-- The contract in the role with a name. -/
def contractNamed (settings : Settings) (name : String) : Outcome String :=
  settings.contractOf (Role.ofName? name) name

@[simp] theorem contractNamed_name (settings : Settings) (role : Role) :
    settings.contractNamed role.name = settings.contract role := by
  simp [contractNamed, contract]

end Settings

end OracleIndexer
