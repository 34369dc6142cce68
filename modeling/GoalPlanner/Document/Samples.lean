import GoalPlanner.Document.Load

/-!
# Sample domains

Two small documents that come with the planner (`samples`), and what they give (`loadSamples`).
-/

namespace GoalPlanner.Document

/-- A mapping with texts as keys. -/
def record (fields : List (String × Value)) : Value := .mapping (fields.map fun f => (.text f.1, f.2))

/-- Conditions that hold and conditions that do not. -/
def flags (conditions : List (String × Bool)) : Value := record (conditions.map fun c => (c.1, .bool c.2))

/-- An action with requirements and effects. -/
def sampleAction (name : String) (pre eff : List (String × Bool)) (cost : Float) : Value :=
  record ([("name", .text name)] ++ (if pre.isEmpty then [] else [("preconditions", flags pre)])
    ++ [("effects", flags eff), ("cost", .float cost)])

/-- How to get away with murder: money has to be raised for the weapon, and once more for the bribe. -/
def crime : Value := record [
  ("actions", .list [
    sampleAction "Cook drugs" [] [("hasDrugs", true), ("legalPeril", true)] 1.2,
    sampleAction "Sell drugs" [("hasDrugs", true)]
      [("hasDrugs", false), ("hasMoney", true), ("legalPeril", true)] 1.2,
    sampleAction "Buy gun" [("hasMoney", true)] [("hasGun", true), ("hasMoney", false)] 1,
    sampleAction "Bribe cop" [("hasMoney", true)] [("legalPeril", false), ("hasMoney", false)] 2,
    sampleAction "Shoot enemy" [("hasGun", true)] [("enemyDead", true), ("legalPeril", true)] 1,
    sampleAction "Buy poison" [("hasMoney", true)] [("hasPoison", true), ("hasMoney", false)] 3,
    sampleAction "Poison enemy" [("hasPoison", true)] [("enemyDead", true), ("legalPeril", true)] 1]),
  ("goals", .list [
    record [("name", .text "getAwayWithMurder"),
      ("preconditions", flags [("enemyDead", true), ("legalPeril", false)]), ("value", .float 10)],
    record [("name", .text "hasGun"), ("value", .float 1)]])]

/-- How to greet: a greeting has to be found, and then said. -/
def helloWorld : Value := record [
  ("actions", .list [
    record [("name", .text "find_greeting"), ("post", .list [.text "has_greeting"]), ("cost", .float 0.2)],
    record [("name", .text "say_hello"), ("pre", .list [.text "has_greeting"]),
      ("post", .list [.text "said_hello"]), ("cost", .float 0.3), ("value", .float 0.1)]]),
  ("goals", .list [
    record [("name", .text "greeted"), ("preconditions", flags [("said_hello", true)]), ("value", .float 1),
      ("description", .text "Somebody has been greeted")]]),
  ("world_state", flags [("has_greeting", false), ("said_hello", false)])]

/-- The documents that come with the planner. -/
def samples : Tree Value := [(["crime.yaml"], crime), (["hello_world.yaml"], helloWorld)]

/-- The domains that come with the planner. -/
def loadSamples : Except DocumentError (Table String Loaded) := loadDomains (.ofTree samples) ⟨"", []⟩

end GoalPlanner.Document
