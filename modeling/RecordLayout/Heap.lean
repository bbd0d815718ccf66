import RecordLayout.Memory

/-!
# Heaps of memories

A heap holds every linear memory made so far, each known by the order of its making.  Views of
records name the memory they live in by that id, so that two views can be told to live in the
same memory or in different ones.
-/

namespace RecordLayout

/-- A memory, by the order of its making. -/
structure MemoryId where
  index : Nat
  deriving DecidableEq, Repr, Inhabited, Hashable

/-- All memories made so far. -/
structure Heap where
  memories : Array Memory := #[]
  deriving Inhabited

namespace Heap

/-- The memory with an id. -/
def get? (h : Heap) (m : MemoryId) : Option Memory := h.memories[m.index]?

/-- Adds a memory. -/
def add (h : Heap) (m : Memory) : Heap × MemoryId :=
  (⟨h.memories.push m⟩, ⟨h.memories.size⟩)

/-- Replaces the memory with an id. -/
def set (h : Heap) (id : MemoryId) (m : Memory) : Heap :=
  ⟨h.memories.modify id.index fun _ => m⟩

/-- Runs a change of one memory, keeping the heap's other memories. -/
def update (h : Heap) (id : MemoryId) (f : Memory → Except Failure Memory) : Except Failure Heap :=
  match h.get? id with
  | some m => (f m).map (h.set id ·)
  | none => .error (Failure.nilPointer .memory [] "memory")

end Heap

end RecordLayout
