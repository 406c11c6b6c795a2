import GardHub.Foundation.MachineInt
import GardHub.Foundation.Memory

/-!
# Structures in memory

Where a C compiler puts the fields of a structure: each field at the first
offset behind the one before it that its alignment allows, and the size rounded
up to the largest alignment.  What lies between two fields is not theirs.

A structure that declares a byte where another one declares a `bool` has its
fields in the same places, and reads the values of the other.
-/

namespace GardHub
namespace Foundation

/-- The types of the fields. -/
inductive FieldType where
  | uint32
  | int32
  | uint8
  | bool
deriving DecidableEq

/-- The size of a field, which is also its alignment. -/
def FieldType.size : FieldType -> Nat
  | .uint32 | .int32 => 4
  | .uint8 | .bool => 1

/-- The first multiple of an alignment that is not below an offset. -/
def alignUp (alignment offset : Nat) : Nat :=
  (offset + alignment - 1) / alignment * alignment

/-- The offsets of fields that start behind an offset. -/
def fieldOffsets : Nat -> List FieldType -> List Nat
  | _, [] => []
  | offset, field :: rest =>
      let start := alignUp field.size offset
      start :: fieldOffsets (start + field.size) rest

/-- The end of the last of such fields. -/
def fieldsEnd : Nat -> List FieldType -> Nat
  | offset, [] => offset
  | offset, field :: rest =>
      fieldsEnd (alignUp field.size offset + field.size) rest

/-- The offset of a field of a structure. -/
def fieldOffset (fields : List FieldType) (index : Nat) : Nat :=
  (fieldOffsets 0 fields).getD index 0

/-- The size of a structure. -/
def structSize (fields : List FieldType) : Nat :=
  alignUp ((fields.map FieldType.size).foldr max 1) (fieldsEnd 0 fields)

theorem fieldOffsets_congr {fields fields' : List FieldType}
    (h : fields.map FieldType.size = fields'.map FieldType.size)
    (offset : Nat) :
    fieldOffsets offset fields = fieldOffsets offset fields' := by
  induction fields generalizing fields' offset with
  | nil =>
      cases fields' with
      | nil =>
          rfl
      | cons field rest =>
          cases h
  | cons field rest ih =>
      cases fields' with
      | nil =>
          cases h
      | cons field' rest' =>
          simp only [List.map_cons, List.cons.injEq] at h
          rw [fieldOffsets, fieldOffsets, h.1, ih h.2]

theorem fieldsEnd_congr {fields fields' : List FieldType}
    (h : fields.map FieldType.size = fields'.map FieldType.size)
    (offset : Nat) : fieldsEnd offset fields = fieldsEnd offset fields' := by
  induction fields generalizing fields' offset with
  | nil =>
      cases fields' with
      | nil =>
          rfl
      | cons field rest =>
          cases h
  | cons field rest ih =>
      cases fields' with
      | nil =>
          cases h
      | cons field' rest' =>
          simp only [List.map_cons, List.cons.injEq] at h
          rw [fieldsEnd, fieldsEnd, h.1, ih h.2]

theorem structSize_congr {fields fields' : List FieldType}
    (h : fields.map FieldType.size = fields'.map FieldType.size) :
    structSize fields = structSize fields' := by
  rw [structSize, structSize, h, fieldsEnd_congr h]

/-!
## Values
-/

/-- The value of a field at an offset.  A `bool` is 0 or 1. -/
def FieldType.value (bytes : List UInt8) (offset : Nat) : FieldType -> Int
  | .uint32 => fieldValue bytes offset 4
  | .int32 => toInt32 (fieldValue bytes offset 4)
  | .uint8 => fieldValue bytes offset 1
  | .bool => if fieldValue bytes offset 1 = 0 then 0 else 1

/-- The value of a field of the structure that starts at an offset. -/
def structField (fields : List FieldType) (bytes : List UInt8)
    (start index : Nat) : Int :=
  (fields.getD index .uint8).value bytes (start + fieldOffset fields index)

/-- A field declared again in the same way, or a `bool` declared as a byte. -/
inductive FieldType.Mirrors : FieldType -> FieldType -> Prop where
  | same (field : FieldType) : Mirrors field field
  | byte : Mirrors .bool .uint8

theorem FieldType.Mirrors.size_eq {field field' : FieldType}
    (h : field.Mirrors field') : field.size = field'.size := by
  cases h <;> rfl

theorem map_size_eq_of_mirrors {fields fields' : List FieldType}
    (h : List.Forall₂ FieldType.Mirrors fields fields') :
    fields.map FieldType.size = fields'.map FieldType.size := by
  induction h with
  | nil =>
      rfl
  | cons hfield hrest ih =>
      rw [List.map_cons, List.map_cons, hfield.size_eq, ih]

theorem getD_mirrors {fields fields' : List FieldType}
    (h : List.Forall₂ FieldType.Mirrors fields fields') (index : Nat) :
    (fields.getD index .uint8).Mirrors (fields'.getD index .uint8) := by
  induction h generalizing index with
  | nil =>
      exact .same _
  | cons hfield hrest ih =>
      cases index with
      | zero =>
          exact hfield
      | succ index =>
          exact ih index

/-- A mirrored structure reads the values of the fields, as long as what is
declared as a `bool` has the value of one. -/
theorem structField_mirror {fields fields' : List FieldType}
    (h : List.Forall₂ FieldType.Mirrors fields fields') (bytes : List UInt8)
    (start index : Nat)
    (hbool : fields.getD index .uint8 = .bool ->
      fieldValue bytes (start + fieldOffset fields index) 1 ≤ 1) :
    structField fields' bytes start index =
      structField fields bytes start index := by
  have hoffset : fieldOffset fields' index = fieldOffset fields index := by
    rw [fieldOffset, fieldOffset,
      fieldOffsets_congr (map_size_eq_of_mirrors h)]
  have hfield := getD_mirrors h index
  rw [structField, structField, hoffset]
  generalize fields.getD index .uint8 = field at hfield hbool
  generalize fields'.getD index .uint8 = field' at hfield
  cases hfield with
  | same =>
      rfl
  | byte =>
      have hle := hbool rfl
      simp only [FieldType.value]
      split <;> lia

/-- A field of bytes that were loaded lies in memory behind their start. -/
theorem fieldValue_load (m : Memory) (a : Int) {count offset width : Nat}
    (h : offset + width ≤ count) :
    fieldValue (m.load a count) offset width =
      leValue (m.load (a + offset) width) := by
  have hcount : count = offset + (width + (count - (offset + width))) := by
    lia
  rw [fieldValue, hcount, Memory.load_add, Memory.load_add,
    List.drop_left' (Memory.load_length m a offset),
    List.take_left' (Memory.load_length m _ width)]

end Foundation
end GardHub
