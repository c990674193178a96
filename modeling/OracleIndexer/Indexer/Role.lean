set_option autoImplicit false

/-!
# Contract roles

The parts that contracts play in a deployment.
-/

namespace OracleIndexer

/-- The part of a contract. -/
inductive Role where
  | oracle
  | checkpointOracle
  | futureOracle
  | vrf
  | oracleAssertions
  | mailbox
  deriving DecidableEq, Repr, Inhabited

namespace Role

/-- The name of a role in configurations. -/
def name : Role → String
  | .oracle => "oracle"
  | .checkpointOracle => "checkpoint_oracle"
  | .futureOracle => "future_oracle"
  | .vrf => "vrf"
  | .oracleAssertions => "oracle_assertions"
  | .mailbox => "hyperlane_mailbox"

/-- All roles, in the order of a deployment's fields. -/
def all : List Role :=
  [.oracle, .checkpointOracle, .futureOracle, .vrf, .oracleAssertions, .mailbox]

/-- The role with a name. -/
def ofName? (s : String) : Option Role := all.find? fun role => role.name == s

@[simp] theorem ofName?_name (role : Role) : ofName? role.name = some role := by
  cases role <;> decide

end Role

end OracleIndexer
