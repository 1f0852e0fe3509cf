import Mathlib.Algebra.Group.Nat.Defs
import Mathlib.Logic.Function.Basic

/-! # Shared cells

Reference-counted cells by address. A cell is freed by nobody here: who still refers
to it is the business of the structure that holds the addresses, and addresses are
not used twice. -/

namespace RustyCore

/-- The cells allocated so far, at the addresses below `next`. -/
structure Heap (β : Type*) where
  read : ℕ → β
  next : ℕ

namespace Heap

variable {β : Type*}

def empty (b : β) : Heap β := ⟨fun _ => b, 0⟩

/-- A fresh cell that holds `b`, at the address `heap.next`. -/
def alloc (heap : Heap β) (b : β) : Heap β :=
  ⟨Function.update heap.read heap.next b, heap.next + 1⟩

/-- Change the contents of a cell. -/
def modify (heap : Heap β) (address : ℕ) (f : β → β) : Heap β :=
  ⟨Function.update heap.read address (f (heap.read address)), heap.next⟩

@[simp] theorem next_alloc (heap : Heap β) (b : β) : (heap.alloc b).next = heap.next + 1 := rfl

@[simp] theorem read_alloc_next (heap : Heap β) (b : β) :
    (heap.alloc b).read heap.next = b := Function.update_self ..

theorem read_alloc_of_lt {heap : Heap β} {address : ℕ} (h : address < heap.next) (b : β) :
    (heap.alloc b).read address = heap.read address :=
  Function.update_of_ne (Nat.ne_of_lt h) ..

@[simp] theorem next_modify (heap : Heap β) (address : ℕ) (f : β → β) :
    (heap.modify address f).next = heap.next := rfl

theorem read_modify (heap : Heap β) (address address' : ℕ) (f : β → β) :
    (heap.modify address f).read address' =
      if address' = address then f (heap.read address) else heap.read address' :=
  Function.update_apply ..

end Heap

end RustyCore
