import Montana.Common.Reference
import Montana.Node.Lifecycle

/-! A chain that does not grow and roles that have nothing to do. -/

namespace Montana.Reference

open Lifecycle

structure FixedTip where
  tip : Nat
  deriving DecidableEq, Repr

instance : BlockProducer FixedTip Unit where
  getChainTip producer := (.ok producer.tip, producer)
  getBlock producer number := (.ok (if number ≤ producer.tip then some () else none), producer)

/-- A role that is idle in every tick and reports nothing. -/
inductive IdleRole where
  | idle
  deriving DecidableEq, Repr

instance : Role IdleRole Files Unit where
  resume role _ := (.ok (), role)
  tick role _ files := (.done .idle, role, files)
  checkpoint _ := {}

/-- A node with both roles on a chain of so many blocks. -/
def idleNode (loaded : Checkpoint) (tip : Nat) : Node FixedTip IdleRole IdleRole Files :=
  let builder : NodeBuilder FixedTip IdleRole IdleRole := {
    config := { checkpointPath := "cp" }
    syncStage := some (SyncStage.new ⟨tip⟩ {} 0)
    sequencer := some .idle
    validator := some .idle }
  builder.startingFrom loaded ⟨[("cp", loaded)]⟩ 0

/-- A round in which nothing happens from outside. -/
def quietRound : Round Unit Unit := { sequencer := (), validator := () }

end Montana.Reference
