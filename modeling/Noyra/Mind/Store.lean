import Noyra.Mind.Consolidation

/-!
# The memory store

All operations on memories over the same tables: what `MemoryStore`, `MemoryIntegrationSupervisor` and
`MemoryConsolidator` commit, in any order.
-/

namespace Noyra.Mind
open Noyra.Lib

inductive StoreAction
  | life (action : LifeAction)
  | integration (call : Call)

variable (cfg : ConsolidationConfig)

def ConsolidationTables.act (t : ConsolidationTables) : StoreAction → ConsolidationTables
  | .life action => t.step cfg action
  | .integration call => { t with toIntegrationTables := (t.toIntegrationTables.call cfg.toIntegrationConfig call).2 }

def storeMachine : Machine ConsolidationTables StoreAction where
  init t := t.memories.rows = [] ∧ t.integrations.rows = [] ∧ t.revisions = [] ∧ t.accesses.rows = [] ∧
    t.runs.rows = [] ∧ t.members.rows = []
  step := ConsolidationTables.act cfg

end Noyra.Mind
