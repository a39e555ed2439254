import Replicat.Lib.Served
import Replicat.Storage.Clones
import Replicat.Storage.Linearizable

/-!
# The node on its threads

Behind each `StorageHandle` is a thread that runs the tasks it receives over a channel of `CAPACITY`
tasks; the core and the clones send them and wait, and any of their calls may be dropped at any point.
`node_on_threads`: whatever comes of that is what `sharedNode` comes to, whose calls make each task at
once where they are.
-/

namespace Replicat

open Sqlite Atomics Atomics.Prog

section Node

variable {U T α ι : Type} [Serde LogId] [Serde Vote] [Serde Entry] [Serde EffectiveMembership]
  [Serde SnapshotMeta] [DecidableEq ι]

/-- The calls of a node, and the threads of its handles. -/
abbrev NodeThreads (ι U α : Type) : Type := Served (Option ι) StorageHandle (World U) fun _ => α

/-- The calls that are between two tasks, or have returned, are where they are in the pool. -/
def NodeThreads.At (c : NodeThreads ι U α) (p : Pool (Option ι) (World U) fun _ => α) : Prop :=
  c.state = p.state ∧ ∀ i q, c.stage i = .ready q → p.threads i = q

omit [Serde LogId] [Serde Vote] [Serde Entry] [Serde EffectiveMembership] [Serde SnapshotMeta] [DecidableEq ι] in
theorem at_of_sim {c : NodeThreads ι U α} {p : Pool (Option ι) (World U) fun _ => α} (h : Served.Sim c p) : c.At p :=
  ⟨h.state, fun i q hq => h.calls.left i q (by rw [hq]; rfl)⟩

variable {env : Env U} {store : RaftStore} {callers : Option ι → Caller (UserCall T) UserCall.Answer α}

/-- **The node on its threads**: under every interleaving of the calls with the threads, whatever is
dropped and whatever fails, it is where the atomic tasks take it. -/
theorem node_on_threads (w : World U) (fails : Option ι → Nat → Bool) {c : NodeThreads ι U α}
    (hrun : Served.Steps capacity (.start (sharedNode env store w callers fails)) c) :
    let node := sharedNode env store w callers fails
    ∃ sched, c.At (node.run sched) ∧
      -- in real time: what comes later is after it
      (∀ c', Served.Steps capacity c c' → ∃ more, NodeThreads.At c' (node.run (sched ++ more))) ∧
      -- each thread by itself answers the calls that wait for it, and makes room for the others
      ∀ h, ∃ c', Served.ThreadSteps h c c' ∧ c'.queue h = [] ∧
        ∀ i, c.stage i = .waiting h → ∃ q, c'.reply i = some q := by
  intro node
  obtain ⟨sched, hs⟩ := (Served.sim_start node).steps hrun
  refine ⟨sched, at_of_sim hs, fun c' hrun' => ?_, hs.answered⟩
  obtain ⟨more, hs'⟩ := hs.steps hrun'
  rw [← Pool.run_append] at hs'
  exact ⟨more, at_of_sim hs'⟩

end Node

/-! ### A build that is dropped while its task is in the channel -/

theorem node_on_threads_listing : ∃ c : NodeThreads Bool Catalog (Option (List String)),
    c.stage (some false) = .dropped ∧ (∃ x, c.server .logDb = .replying x) ∧
      ∃ sched, c.At (listingNode.run sched) := by
  let start : NodeThreads Bool Catalog (Option (List String)) := .start listingNode
  obtain ⟨t, ht⟩ : ∃ t : Task _ _, listingNode.threads (some false) = t.prog := ⟨⟨_, _⟩, rfl⟩
  obtain ⟨c, hrun, hdropped, hserver⟩ := start.dropped_runs (congrArg Stage.ready ht) rfl rfl (Nat.zero_lt_succ 9)
  obtain ⟨sched, hat, -, -⟩ := node_on_threads _ _ hrun
  exact ⟨c, hdropped, ⟨_, hserver⟩, sched, hat⟩

end Replicat
