import OracleIndexer.Journal
set_option autoImplicit false

/-!
# Thresholds

From which level on notes are shown.  A threshold is given as a rank, or as the name of a level in
either case; where none is given the environment may name one.
-/

namespace OracleIndexer.Threshold

/-- The ranks of the named levels. -/
def ranks : List (String × Int) :=
  [("CRITICAL", 50), ("FATAL", 50), ("ERROR", 40), ("WARN", 30), ("WARNING", 30), ("INFO", 20),
   ("DEBUG", 10), ("NOTSET", 0)]

/-- The threshold where none is named, or a name is unknown. -/
def standard : Int := 20

/-- The threshold of a run that is to tell everything. -/
def verbose : Int := 10

/-- The threshold of the library that hashes names, which is kept quiet. -/
def hashing : Int := 30

/-- The form of a line of the log. -/
def lineForm : String := "%(asctime)s [%(levelname)s] %(name)s: %(message)s"

/-- A letter of a level's name in upper case.  Besides the ASCII letters, two others have ASCII
capitals. -/
def capital (c : Char) : Char :=
  if c.toNat = 0x131 then 'I'
  else if c.toNat = 0x17F then 'S'
  else c.toUpper

/-- The threshold that a name stands for. -/
def ofName (name : String) : Int :=
  (ranks.lookup (String.ofList (name.toList.map capital))).getD standard

/-- What a threshold is asked for by. -/
inductive Request where
  | none
  | rank (value : Int)
  | name (value : String)
  deriving DecidableEq, Repr, Inhabited

/-- The threshold that the environment names. -/
def ofEnvironment (level : Option String) : Int := (level.map ofName).getD standard

/-- The threshold asked for, where none is the one that the environment names. -/
def resolve (environment : Option String) : Request → Int
  | .none => ofEnvironment environment
  | .rank value => value
  | .name value => ofName value

end OracleIndexer.Threshold
