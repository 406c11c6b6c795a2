import Mathlib

/-!
# Ledgers

What a program has allocated and what it has freed, in order.  A block that is
allocated anew is another block.
-/

namespace GardHub
namespace Foundation

variable {block : Type}

/-- The blocks that were allocated and those that were freed. -/
structure Ledger (block : Type) where
  allocated : List block
  freed : List block
deriving DecidableEq

namespace Ledger

/-- Nothing has been allocated. -/
def empty : Ledger block :=
  { allocated := [], freed := [] }

def allocate (ledger : Ledger block) (blocks : List block) : Ledger block :=
  { ledger with allocated := ledger.allocated ++ blocks }

def free (ledger : Ledger block) (b : block) : Ledger block :=
  { ledger with freed := ledger.freed ++ [b] }

/-- Every block that was allocated has been freed once. -/
def Settled [DecidableEq block] (ledger : Ledger block) : Prop :=
  forall b, b ∈ ledger.allocated -> ledger.freed.count b = 1

@[simp] theorem allocate_freed (ledger : Ledger block) (blocks : List block) :
    (ledger.allocate blocks).freed = ledger.freed := rfl

@[simp] theorem mem_allocate (ledger : Ledger block) (blocks : List block)
    (b : block) :
    b ∈ (ledger.allocate blocks).allocated <->
      b ∈ ledger.allocated ∨ b ∈ blocks := by
  simp [allocate]

@[simp] theorem free_allocated (ledger : Ledger block) (b : block) :
    (ledger.free b).allocated = ledger.allocated := rfl

@[simp] theorem mem_free (ledger : Ledger block) (b c : block) :
    c ∈ (ledger.free b).freed <-> c ∈ ledger.freed ∨ c = b := by
  simp [free]

end Ledger

end Foundation
end GardHub
