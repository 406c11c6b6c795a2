import Mathlib

/-!
# List objects

Lists that a program refers to and changes in place, as Python has them.  A
variable holds a reference; two variables may refer to the same list, and then
both see what is done to it.
-/

namespace GardHub
namespace Foundation

variable {item : Type}

/-- The list objects that have been made, in the order in which they were. -/
structure ListHeap (item : Type) where
  objects : List (List item)

namespace ListHeap

def size (h : ListHeap item) : Nat :=
  h.objects.length

/-- What the list holds that a reference is to. -/
def get (h : ListHeap item) (ref : Nat) : List item :=
  h.objects.getD ref []

/-- Make a list, the reference to which is the old size. -/
def make (h : ListHeap item) (items : List item) : ListHeap item :=
  ⟨h.objects ++ [items]⟩

/-- Let a list hold other items. -/
def put (h : ListHeap item) (ref : Nat) (items : List item) : ListHeap item :=
  ⟨h.objects.set ref items⟩

/-- `append` -/
def append (h : ListHeap item) (ref : Nat) (a : item) : ListHeap item :=
  h.put ref (h.get ref ++ [a])

/-- `clear` -/
def clear (h : ListHeap item) (ref : Nat) : ListHeap item :=
  h.put ref []

variable {h : ListHeap item} {ref other : Nat} {items : List item}

@[simp] theorem size_make : (h.make items).size = h.size + 1 := by
  simp [size, make]

@[simp] theorem size_put : (h.put ref items).size = h.size := by
  simp [size, put]

@[simp] theorem size_append {a : item} : (h.append ref a).size = h.size :=
  size_put

@[simp] theorem size_clear : (h.clear ref).size = h.size :=
  size_put

@[simp] theorem get_make_new : (h.make items).get h.size = items := by
  simp [get, make, size]

theorem get_make_old (href : ref < h.size) :
    (h.make items).get ref = h.get ref := by
  rw [size] at href
  simp [get, make, List.getElem?_append_left href]

theorem get_put_self (href : ref < h.size) : (h.put ref items).get ref = items := by
  rw [size] at href
  simp [get, put, href]

theorem get_put_other (hne : other ≠ ref) :
    (h.put ref items).get other = h.get other := by
  simp [get, put, List.getElem?_set_ne hne.symm]

end ListHeap

end Foundation
end GardHub
