/-!
# What cases discover

Early cases of a plan find out what there is: protocols, agents, domains and how many of each.
Later cases walk through what was found.  Findings are kept by name, lists and single values apart.
-/

namespace PlatformAudit

namespace Entity

def protocols : String := "protocols"

def agents : String := "agents"

def domains : String := "domains"

def protocolCount : String := "num_protocols"

def agentCount : String := "num_agents"

def domainCount : String := "num_domains"

end Entity

/-- Findings by name. -/
structure Discovery where
  lists : List (String × List UInt32) := []
  values : List (String × UInt32) := []
deriving DecidableEq, Repr

namespace Discovery

/-- A change of the findings. -/
inductive Edit where
  /-- Puts a list in place of the one before. -/
  | record (name : String) (ids : List UInt32)
  | extend (name : String) (ids : List UInt32)
  /-- Puts a value in place of the one before. -/
  | setValue (name : String) (value : UInt32)
deriving DecidableEq, Repr

def assign {α : Type} (name : String) (value : α) : List (String × α) → List (String × α)
  | [] => [(name, value)]
  | entry :: rest =>
      if entry.1 = name then (name, value) :: rest else entry :: assign name value rest

def lookup? {α : Type} (name : String) (entries : List (String × α)) : Option α :=
  (entries.find? (·.1 = name)).map (·.2)

/-- The list found under a name, empty if there is none. -/
def list (findings : Discovery) (name : String) : List UInt32 :=
  (lookup? name findings.lists).getD []

def value? (findings : Discovery) (name : String) : Option UInt32 :=
  lookup? name findings.values

def edit (findings : Discovery) : Edit → Discovery
  | .record name ids => { findings with lists := assign name ids findings.lists }
  | .extend name ids =>
      { findings with lists := assign name (findings.list name ++ ids) findings.lists }
  | .setValue name value => { findings with values := assign name value findings.values }

end Discovery

end PlatformAudit
