import GardHub.KtLib.Metadata

/-!
# Filling faces

What one step of a pass over the users does to the buffer it fills.
-/

namespace GardHub
namespace KtLib

open Foundation
open Interface

@[simp] theorem box_length (rx : Memory) (i : Int) :
    (personLeft rx i).length = 4 ∧ (personTop rx i).length = 4 ∧
      (personRight rx i).length = 4 ∧ (personBottom rx i).length = 4 := by
  simp [personLeft, personTop, personRight, personBottom]

theorem leValue_faceId (rx : Memory) (i : Int) :
    leValue (leBytes 4 (faceIdOfTrackedUser rx i)) = faceIdOfTrackedUser rx i :=
  leValue_leBytes_of_lt (lt_trans (faceIdOfTrackedUser_lt rx i) (by norm_num))

/-- The face of a user as the wire has it. -/
def wireFace (rx : Memory) (ideal : Option Nat) (faceId i : Nat) : FaceData :=
  { fdFaceId := faceId
    idealPerson := ideal = some i
    fdLeft := toInt32 (leValue (personLeft rx i))
    fdTop := toInt32 (leValue (personTop rx i))
    fdRight := toInt32 (leValue (personRight rx i))
    fdBottom := toInt32 (leValue (personBottom rx i))
    fdSafetyHatOn := false
    fdSafetyGlassesOn := false
    fdSafetyGlovesOn := false }

theorem readFace_congr_faceId {heap heap' : Memory} {p : Int} {j : Nat}
    (h : forall x, p + pdFaces j + 4 ≤ x -> x < p + pdFaces j + 27 ->
      heap x = heap' x) :
    readFace heap p j =
      { readFace heap' p j with fdFaceId := heap.load32 (p + pdFaces j) } := by
  have hload : forall a, p + pdFaces j + 4 ≤ a -> a + 4 ≤ p + pdFaces j + 27 ->
      heap.load32 a = heap'.load32 a := by
    intro a hlow hhigh
    exact Memory.load32_congr fun x hx hx' => h x (by lia) (by lia)
  simp only [readFace]
  rw [hload (p + pdFaces j + 8) (by lia) (by lia),
    hload (p + pdFaces j + 12) (by lia) (by lia),
    hload (p + pdFaces j + 16) (by lia) (by lia),
    hload (p + pdFaces j + 20) (by lia) (by lia), h _ (by lia) (by lia),
    h (p + pdFaces j + 24) (by lia) (by lia),
    h (p + pdFaces j + 25) (by lia) (by lia),
    h (p + pdFaces j + 26) (by lia) (by lia)]

theorem readFace_congr {heap heap' : Memory} {p : Int} {j : Nat}
    (h : forall x, p + pdFaces j ≤ x -> x < p + pdFaces j + 27 ->
      heap x = heap' x) : readFace heap p j = readFace heap' p j := by
  have hfaceId : heap.load32 (p + pdFaces j) = heap'.load32 (p + pdFaces j) :=
    Memory.load32_congr fun x hx hx' => h x hx (by lia)
  rw [readFace_congr_faceId fun x hx hx' => h x (by lia) hx', hfaceId]
  simp only [readFace]

section Fill

variable {rx : Memory} {ideal : Option Nat} {out : MetaBuffer}
  {idSlot slot i : Nat} {st : FacePass}

@[simp] theorem fillFace_countOfIdentifiedUsers :
    (fillFace rx ideal out idSlot slot i st).countOfIdentifiedUsers =
      st.countOfIdentifiedUsers := by
  unfold fillFace
  split <;> rfl

@[simp] theorem fillFace_countOfUnidentifiedUsers :
    (fillFace rx ideal out idSlot slot i st).countOfUnidentifiedUsers =
      st.countOfUnidentifiedUsers := by
  unfold fillFace
  split <;> rfl

/-- Filling in a face touches the face id of one slot and the fields of
another. -/
theorem fillFace_heap_of_not_mem {x : Int}
    (hid : x < out.address + pdFaces idSlot ∨
      out.address + pdFaces idSlot + 4 ≤ x)
    (hface : x < out.address + pdFaces slot ∨
      out.address + pdFaces slot + 27 ≤ x) :
    (fillFace rx ideal out idSlot slot i st).heap x = st.heap x := by
  unfold fillFace
  split <;>
    simp (disch := first | (simp only [leBytes_length, box_length,
        List.length_singleton] <;> omega) | fail) only [FacePass.put,
      Memory.store_apply_of_not_mem]

/-- The slot that is filled in holds the user's face; its face id is set only
if that went to the same slot, or if the user is the ideal one. -/
theorem readFace_fillFace_slot :
    readFace (fillFace rx ideal out idSlot slot i st).heap out.address slot =
      wireFace rx ideal
        (if idSlot = slot ∨ ideal = some i then faceIdOfTrackedUser rx i
          else st.heap.load32 (out.address + pdFaces slot)) i := by
  by_cases hideal : ideal = some i
  · simp (disch := first | rfl | (simp only [pdFaces, leBytes_length,
        box_length, List.length_singleton] <;> omega) | fail) only [fillFace,
      readFace, wireFace, FacePass.put, if_pos hideal,
      Memory.load32_store_disjoint, Memory.load32_store_same,
      Memory.store_byte_same, Memory.store_apply_of_not_mem, leValue_faceId]
    simp [hideal]
  · by_cases hslot : idSlot = slot
    · subst hslot
      simp (disch := first | rfl | (simp only [pdFaces, leBytes_length,
          box_length, List.length_singleton] <;> omega) | fail) only [fillFace,
        readFace, wireFace, FacePass.put, if_neg hideal,
        Memory.load32_store_disjoint, Memory.load32_store_same,
        Memory.store_byte_same, Memory.store_apply_of_not_mem, leValue_faceId]
      simp [hideal]
    · have hapart : idSlot < slot ∨ slot < idSlot := by lia
      simp (disch := first | rfl | (simp only [pdFaces, leBytes_length,
          box_length, List.length_singleton] <;> omega) | fail) only [fillFace,
        readFace, wireFace, FacePass.put, if_neg hideal,
        Memory.load32_store_disjoint, Memory.load32_store_same,
        Memory.store_byte_same, Memory.store_apply_of_not_mem]
      simp [hideal, hslot]

theorem load32_fillFace_idSlot (h : idSlot ≠ slot) :
    (fillFace rx ideal out idSlot slot i st).heap.load32
        (out.address + pdFaces idSlot) =
      faceIdOfTrackedUser rx i := by
  have hapart : idSlot < slot ∨ slot < idSlot := by lia
  unfold fillFace
  split <;>
    simp (disch := first | rfl | (simp only [pdFaces, leBytes_length,
        box_length, List.length_singleton] <;> omega) | fail) only
      [FacePass.put, Memory.load32_store_disjoint, Memory.load32_store_same,
      leValue_faceId]

theorem readFace_fillFace_idSlot (h : idSlot ≠ slot) :
    readFace (fillFace rx ideal out idSlot slot i st).heap out.address idSlot =
      { readFace st.heap out.address idSlot with
        fdFaceId := faceIdOfTrackedUser rx i } := by
  have hsame : forall x, out.address + pdFaces idSlot + 4 ≤ x ->
      x < out.address + pdFaces idSlot + 27 ->
      (fillFace rx ideal out idSlot slot i st).heap x = st.heap x := by
    intro x hlow hhigh
    apply fillFace_heap_of_not_mem (Or.inr hlow)
    simp only [pdFaces] at *
    lia
  rw [readFace_congr_faceId hsame, load32_fillFace_idSlot h]

theorem readFace_fillFace_other {j : Nat} (hslot : j ≠ slot)
    (hid : j ≠ idSlot) :
    readFace (fillFace rx ideal out idSlot slot i st).heap out.address j =
      readFace st.heap out.address j := by
  apply readFace_congr
  intro x hlow hhigh
  apply fillFace_heap_of_not_mem <;> simp only [pdFaces] at * <;> lia

theorem load32_fillFace_other {j : Nat} (hslot : j ≠ slot) (hid : j ≠ idSlot) :
    (fillFace rx ideal out idSlot slot i st).heap.load32
        (out.address + pdFaces j) =
      st.heap.load32 (out.address + pdFaces j) := by
  apply Memory.load32_congr
  intro x hlow hhigh
  apply fillFace_heap_of_not_mem <;> simp only [pdFaces] at * <;> lia

end Fill

/-!
## What is put into a buffer
-/

/-- The bytes are put inside the declared length of the buffer. -/
def MetaStore.InBounds (x : MetaStore) : Prop :=
  x.offset + x.bytes.length ≤ x.declared

instance (x : MetaStore) : Decidable x.InBounds :=
  inferInstanceAs (Decidable (_ ≤ _))

/-- Bytes were put behind the face count, all of them inside their buffer
exactly if something holds. -/
def PutsFaces (fits : Prop) (before after : List MetaStore) : Prop :=
  exists new, after = before ++ new ∧ (forall x, x ∈ new -> 4 ≤ x.offset) ∧
    ((forall x, x ∈ new -> x.InBounds) <-> fits)

theorem PutsFaces.refl {fits : Prop} (hfits : fits) (stores : List MetaStore) :
    PutsFaces fits stores stores :=
  ⟨[], by simp, by simp, by simpa using hfits⟩

theorem PutsFaces.trans {fits fits' : Prop} {before mid after : List MetaStore}
    (h : PutsFaces fits before mid) (h' : PutsFaces fits' mid after) :
    PutsFaces (fits ∧ fits') before after := by
  rcases h with ⟨new, rfl, hbehind, hbounds⟩
  rcases h' with ⟨new', rfl, hbehind', hbounds'⟩
  refine ⟨new ++ new', List.append_assoc _ _ _, ?_, ?_⟩
  · intro x hx
    rcases List.mem_append.mp hx with hx | hx
    · exact hbehind x hx
    · exact hbehind' x hx
  · rw [← hbounds, ← hbounds']
    exact List.forall_mem_append

theorem PutsFaces.congr {fits fits' : Prop} {before after : List MetaStore}
    (h : PutsFaces fits before after) (hiff : fits <-> fits') :
    PutsFaces fits' before after := by
  rcases h with ⟨new, hafter, hbehind, hbounds⟩
  exact ⟨new, hafter, hbehind, hbounds.trans hiff⟩

/-- What is put into a buffer for one face. -/
def faceStores (rx : Memory) (ideal : Option Nat) (out : MetaBuffer)
    (idSlot slot i : Nat) : List MetaStore :=
  [⟨out.length, pdFaces idSlot, leBytes 4 (faceIdOfTrackedUser rx i)⟩,
    ⟨out.length, pdFaces slot + 8, personLeft rx i⟩,
    ⟨out.length, pdFaces slot + 12, personTop rx i⟩,
    ⟨out.length, pdFaces slot + 16, personRight rx i⟩,
    ⟨out.length, pdFaces slot + 20, personBottom rx i⟩] ++
  (if ideal = some i then
    [⟨out.length, pdFaces slot + 4, [1]⟩,
      ⟨out.length, pdFaces slot, leBytes 4 (faceIdOfTrackedUser rx i)⟩]
  else [⟨out.length, pdFaces slot + 4, [0]⟩]) ++
  [⟨out.length, pdFaces slot + 24, [0]⟩, ⟨out.length, pdFaces slot + 25, [0]⟩,
    ⟨out.length, pdFaces slot + 26, [0]⟩]

theorem fillFace_stores (rx : Memory) (ideal : Option Nat) (out : MetaBuffer)
    (idSlot slot i : Nat) (st : FacePass) :
    (fillFace rx ideal out idSlot slot i st).stores =
      st.stores ++ faceStores rx ideal out idSlot slot i := by
  unfold fillFace faceStores
  split <;> simp [FacePass.put]

/-- A face fits if its last flag does and, in its own slot, the face id. -/
theorem fillFace_putsFaces (rx : Memory) (ideal : Option Nat)
    (out : MetaBuffer) (idSlot slot i : Nat) (st : FacePass) :
    PutsFaces (pdFaces idSlot + 4 ≤ out.length ∧
        pdFaces slot + 27 ≤ out.length)
      st.stores (fillFace rx ideal out idSlot slot i st).stores := by
  refine ⟨_, fillFace_stores rx ideal out idSlot slot i st, ?_, ?_⟩
  · unfold faceStores
    split <;> simp [pdFaces]
  · unfold faceStores
    split
    · simp [MetaStore.InBounds, pdFaces]
      lia
    · simp [MetaStore.InBounds, pdFaces]
      lia

/-!
## Passes

The users of one kind, in wire order.
-/

def identifiedUsers (rx : Memory) (n : Nat) : List Nat :=
  (List.range n).filter fun i => faceIdOfTrackedUser rx i ≠ 0

def unidentifiedUsers (rx : Memory) (n : Nat) : List Nat :=
  (List.range n).filter fun i => faceIdOfTrackedUser rx i = 0

theorem identifiedUsers_succ (rx : Memory) (n : Nat) :
    identifiedUsers rx (n + 1) =
      identifiedUsers rx n ++
        if faceIdOfTrackedUser rx n = 0 then [] else [n] := by
  by_cases h : faceIdOfTrackedUser rx n = 0
  · simp [identifiedUsers, List.range_succ, List.filter_append, h]
  · simp [identifiedUsers, List.range_succ, List.filter_append, h]

theorem unidentifiedUsers_succ (rx : Memory) (n : Nat) :
    unidentifiedUsers rx (n + 1) =
      unidentifiedUsers rx n ++
        if faceIdOfTrackedUser rx n = 0 then [n] else [] := by
  by_cases h : faceIdOfTrackedUser rx n = 0
  · simp [unidentifiedUsers, List.range_succ, List.filter_append, h]
  · simp [unidentifiedUsers, List.range_succ, List.filter_append, h]

/-- Every user is of one of the two kinds. -/
theorem identifiedUsers_add_unidentifiedUsers (rx : Memory) (n : Nat) :
    (identifiedUsers rx n).length + (unidentifiedUsers rx n).length = n := by
  induction n with
  | zero =>
      rfl
  | succ n ih =>
      rw [identifiedUsers_succ, unidentifiedUsers_succ]
      split <;> simp <;> lia

/-- The faces in the first slots of a buffer. -/
def readFaces (heap : Memory) (p : Int) (count : Nat) : List FaceData :=
  (List.range count).map (readFace heap p)

theorem readFaces_succ (heap : Memory) (p : Int) (count : Nat) :
    readFaces heap p (count + 1) =
      readFaces heap p count ++ [readFace heap p count] := by
  simp [readFaces, List.range_succ]

theorem readFaces_congr {heap heap' : Memory} {p : Int} {count : Nat}
    (h : forall j, j < count -> readFace heap p j = readFace heap' p j) :
    readFaces heap p count = readFaces heap' p count := by
  apply List.map_congr_left
  intro j hj
  exact h j (List.mem_range.mp hj)

/-- Memory is the same except for the fields of the first faces of a buffer. -/
def SameBehindFaces (p : Int) (count : Nat) (heap heap' : Memory) : Prop :=
  forall x, x < p + 4 ∨ p + pdFaces count ≤ x -> heap' x = heap x

/-- The pass over the identified users stops at one of them whose record has
another type. -/
def identifiedStop (rx : Memory) (i : Nat) : Bool :=
  faceIdOfTrackedUser rx i ≠ 0 ∧
    userDataType rx i ≠ AppHmiMetadataOutputDataType.userOutputData.code

/-- So does the pass over the others. -/
def unidentifiedStop (rx : Memory) (i : Nat) : Bool :=
  faceIdOfTrackedUser rx i = 0 ∧
    userDataType rx i ≠ AppHmiMetadataOutputDataType.userOutputData.code

/-- Where the pass over the identified users stands behind `n` users. -/
structure IdentifiedPass (rx : Memory) (ideal : Option Nat) (out : MetaBuffer)
    (start : FacePass) (n : Nat) (st : FacePass) : Prop where
  identified : st.countOfIdentifiedUsers = (identifiedUsers rx n).length
  unidentified : st.countOfUnidentifiedUsers =
    (unidentifiedUsers rx n).length
  faces : readFaces st.heap out.address st.countOfIdentifiedUsers =
    (identifiedUsers rx n).map fun i : Nat =>
      wireFace rx ideal (faceIdOfTrackedUser rx i) i
  same : SameBehindFaces out.address st.countOfIdentifiedUsers start.heap
    st.heap
  stores : PutsFaces
    (st.countOfIdentifiedUsers ≠ 0 ->
      pdFaces st.countOfIdentifiedUsers ≤ out.length + 1)
    start.stores st.stores

theorem SameBehindFaces.fillFace {rx : Memory} {ideal : Option Nat}
    {out : MetaBuffer} {heap : Memory} {count idSlot slot i : Nat}
    {st : FacePass} {count' : Nat}
    (h : SameBehindFaces out.address count heap st.heap)
    (hid : idSlot < count') (hslot : slot < count') (hle : count ≤ count') :
    SameBehindFaces out.address count' heap
      (fillFace rx ideal out idSlot slot i st).heap := by
  intro x hx
  simp only [pdFaces] at hx
  rw [fillFace_heap_of_not_mem]
  · apply h
    simp only [pdFaces]
    lia
  · simp only [pdFaces]
    lia
  · simp only [pdFaces]
    lia

theorem identifiedUser_step {rx : Memory} {ideal : Option Nat}
    {out : MetaBuffer} {start st : FacePass} {n : Nat}
    (hgoes : identifiedStop rx n = false)
    (h : IdentifiedPass rx ideal out start n st) :
    (identifiedUser rx ideal out n st).1 = none ∧
      IdentifiedPass rx ideal out start (n + 1)
        (identifiedUser rx ideal out n st).2 := by
  unfold identifiedUser
  by_cases hface : faceIdOfTrackedUser rx n = 0
  · rw [if_pos hface]
    refine ⟨rfl, ⟨?_, ?_, ?_, h.same, h.stores⟩⟩
    · simpa [identifiedUsers_succ, hface] using h.identified
    · simpa [unidentifiedUsers_succ, hface] using h.unidentified
    · simpa [identifiedUsers_succ, hface] using h.faces
  · have htype : ¬ userDataType rx n ≠
        AppHmiMetadataOutputDataType.userOutputData.code := by
      intro hother
      simp [identifiedStop, hface] at hgoes
      exact hother hgoes
    rw [if_neg hface, if_neg htype]
    refine ⟨rfl, ⟨?_, ?_, ?_, ?_, ?_⟩⟩
    · simpa [identifiedUsers_succ, hface] using h.identified
    · simpa [unidentifiedUsers_succ, hface] using h.unidentified
    · change readFaces _ _ (st.countOfIdentifiedUsers + 1) = _
      have hkept : readFaces (fillFace rx ideal out st.countOfIdentifiedUsers
          st.countOfIdentifiedUsers n st).heap out.address
          st.countOfIdentifiedUsers =
          readFaces st.heap out.address st.countOfIdentifiedUsers := by
        apply readFaces_congr
        intro j hj
        exact readFace_fillFace_other (by lia) (by lia)
      rw [readFaces_succ, readFace_fillFace_slot, if_pos (Or.inl rfl), hkept,
        h.faces, identifiedUsers_succ, if_neg hface, List.map_append]
      rfl
    · exact h.same.fillFace (Nat.lt_succ_self _) (Nat.lt_succ_self _)
        (Nat.le_succ _)
    · apply (h.stores.trans (fillFace_putsFaces rx ideal out
        st.countOfIdentifiedUsers st.countOfIdentifiedUsers n st)).congr
      simp only [pdFaces]
      lia

/-- The face id that ends up with a user who has not been identified: zero where
it was written, and what the buffer held before everywhere else. -/
def leftFaceId (ideal : Option Nat) (identified : Nat) (heap : Memory)
    (p : Int) (j i : Nat) : Nat :=
  if identified = j ∨ ideal = some i then 0 else heap.load32 (p + pdFaces j)

/-- Where the pass over the other users stands behind `n` users. -/
structure UnidentifiedPass (rx : Memory) (ideal : Option Nat)
    (out : MetaBuffer) (start : FacePass) (n : Nat) (st : FacePass) :
    Prop where
  identified : st.countOfIdentifiedUsers = start.countOfIdentifiedUsers
  unidentified : st.countOfUnidentifiedUsers =
    (unidentifiedUsers rx n).length
  faces : readFaces st.heap out.address st.countOfUnidentifiedUsers =
    (unidentifiedUsers rx n).mapIdx fun j i =>
      wireFace rx ideal (leftFaceId ideal start.countOfIdentifiedUsers
        start.heap out.address j i) i
  later : forall j, st.countOfUnidentifiedUsers ≤ j ->
    j ≠ start.countOfIdentifiedUsers ->
    st.heap.load32 (out.address + pdFaces j) =
      start.heap.load32 (out.address + pdFaces j)
  same : SameBehindFaces out.address
    (max st.countOfUnidentifiedUsers (start.countOfIdentifiedUsers + 1))
    start.heap st.heap
  stores : PutsFaces
    (st.countOfUnidentifiedUsers ≠ 0 ->
      pdFaces start.countOfIdentifiedUsers + 4 ≤ out.length ∧
        pdFaces st.countOfUnidentifiedUsers ≤ out.length + 1)
    start.stores st.stores

/-- A face that the pass has filled in where the face ids go has face id zero. -/
theorem UnidentifiedPass.faceId_eq_zero {rx : Memory} {ideal : Option Nat}
    {out : MetaBuffer} {start st : FacePass} {n : Nat}
    (h : UnidentifiedPass rx ideal out start n st)
    (hlt : start.countOfIdentifiedUsers < st.countOfUnidentifiedUsers) :
    (readFace st.heap out.address start.countOfIdentifiedUsers).fdFaceId =
      0 := by
  have hface := congrArg (fun faces => faces[start.countOfIdentifiedUsers]?)
    h.faces
  have hlength : start.countOfIdentifiedUsers <
      (unidentifiedUsers rx n).length := by
    rw [← h.unidentified]
    exact hlt
  simp only [readFaces, List.getElem?_map, List.getElem?_range hlt,
    List.getElem?_mapIdx, List.getElem?_eq_getElem hlength, Option.map_some,
    Option.some.injEq] at hface
  rw [hface]
  simp [wireFace, leftFaceId]

theorem unidentifiedUser_step {rx : Memory} {ideal : Option Nat}
    {out : MetaBuffer} {start st : FacePass} {n : Nat}
    (hgoes : unidentifiedStop rx n = false)
    (h : UnidentifiedPass rx ideal out start n st) :
    (unidentifiedUser rx ideal out n st).1 = none ∧
      UnidentifiedPass rx ideal out start (n + 1)
        (unidentifiedUser rx ideal out n st).2 := by
  unfold unidentifiedUser
  by_cases hface : faceIdOfTrackedUser rx n = 0
  · have htype : ¬ userDataType rx n ≠
        AppHmiMetadataOutputDataType.userOutputData.code := by
      intro hother
      simp [unidentifiedStop, hface] at hgoes
      exact hother hgoes
    rw [if_neg (not_not.mpr hface), if_neg htype]
    have hcount := h.unidentified
    have hidentified := h.identified
    refine ⟨rfl, ⟨?_, ?_, ?_, ?_, ?_, ?_⟩⟩
    · simpa using h.identified
    · simpa [unidentifiedUsers_succ, hface] using h.unidentified
    · change readFaces _ _ (st.countOfUnidentifiedUsers + 1) = _
      have hkept : readFaces (fillFace rx ideal out st.countOfIdentifiedUsers
          st.countOfUnidentifiedUsers n st).heap out.address
          st.countOfUnidentifiedUsers =
          readFaces st.heap out.address st.countOfUnidentifiedUsers := by
        apply readFaces_congr
        intro j hj
        by_cases hid : j = st.countOfIdentifiedUsers
        · have hzero := h.faceId_eq_zero (by rw [← h.identified, ← hid]; exact hj)
          rw [← h.identified] at hzero
          rw [hid, readFace_fillFace_idSlot (by lia), hface, ← hzero]
        · exact readFace_fillFace_other (by lia) hid
      have hslot : (if st.countOfIdentifiedUsers =
            st.countOfUnidentifiedUsers ∨ ideal = some n then
          faceIdOfTrackedUser rx n
          else st.heap.load32 (out.address +
            pdFaces st.countOfUnidentifiedUsers)) =
          leftFaceId ideal start.countOfIdentifiedUsers start.heap out.address
            st.countOfUnidentifiedUsers n := by
        rw [leftFaceId, hface, h.identified]
        by_cases hset : start.countOfIdentifiedUsers =
            st.countOfUnidentifiedUsers ∨ ideal = some n
        · rw [if_pos hset, if_pos hset]
        · rw [if_neg hset, if_neg hset]
          exact h.later _ (le_refl _) (fun heq => hset (Or.inl heq.symm))
      rw [readFaces_succ, readFace_fillFace_slot, hkept, hslot, h.faces,
        unidentifiedUsers_succ, if_pos hface, List.mapIdx_concat, hcount]
    · intro j hj hother
      have hcountj : st.countOfUnidentifiedUsers + 1 ≤ j := hj
      rw [← h.later j (by lia) hother]
      exact load32_fillFace_other (by lia) (by lia)
    · exact h.same.fillFace (by simp; lia) (by simp) (by simp; lia)
    · apply (h.stores.trans (fillFace_putsFaces rx ideal out
        st.countOfIdentifiedUsers st.countOfUnidentifiedUsers n st)).congr
      simp only [pdFaces, hidentified]
      lia
  · rw [if_pos hface]
    refine ⟨rfl, ⟨h.identified, ?_, ?_, h.later, h.same, h.stores⟩⟩
    · simpa [unidentifiedUsers_succ, hface] using h.unidentified
    · simpa [unidentifiedUsers_succ, hface] using h.faces

/-- The pass over the identified users gets to the first one that stops it. -/
theorem identifiedUsers_pass (rx : Memory) (ideal : Option Nat)
    (out : MetaBuffer) {start : FacePass} (n : Nat)
    (hidentified : start.countOfIdentifiedUsers = 0)
    (hunidentified : start.countOfUnidentifiedUsers = 0) :
    exists st,
      IdentifiedPass rx ideal out start (firstStop (identifiedStop rx) n) st ∧
      ((firstStop (identifiedStop rx) n = n ∧
          loopOver (identifiedUser rx ideal out) (List.range n) start =
            (none, st)) ∨
        (firstStop (identifiedStop rx) n < n ∧
          loopOver (identifiedUser rx ideal out) (List.range n) start =
            (some .userDataType, st))) := by
  apply loopOver_range_firstStop
  · intro i hgoes st h
    exact identifiedUser_step hgoes h
  · intro i hstops st
    simp only [identifiedStop, decide_eq_true_eq] at hstops
    rw [identifiedUser, if_neg hstops.1, if_pos hstops.2]
  · refine ⟨hidentified, hunidentified, ?_, fun x _ => rfl,
      PutsFaces.refl ?_ _⟩
    · rw [hidentified]
      rfl
    · intro hne
      exact absurd hidentified hne

/-- The pass over the other users gets to the first one that stops it. -/
theorem unidentifiedUsers_pass (rx : Memory) (ideal : Option Nat)
    (out : MetaBuffer) {start : FacePass} (n : Nat)
    (hunidentified : start.countOfUnidentifiedUsers = 0) :
    exists st,
      UnidentifiedPass rx ideal out start
        (firstStop (unidentifiedStop rx) n) st ∧
      ((firstStop (unidentifiedStop rx) n = n ∧
          loopOver (unidentifiedUser rx ideal out) (List.range n) start =
            (none, st)) ∨
        (firstStop (unidentifiedStop rx) n < n ∧
          loopOver (unidentifiedUser rx ideal out) (List.range n) start =
            (some .unidentifiedDataType, st))) := by
  apply loopOver_range_firstStop
  · intro i hgoes st h
    exact unidentifiedUser_step hgoes h
  · intro i hstops st
    simp only [unidentifiedStop, decide_eq_true_eq] at hstops
    rw [unidentifiedUser, if_neg (not_not.mpr hstops.1), if_pos hstops.2]
  · refine ⟨rfl, hunidentified, ?_, fun j _ _ => rfl, fun x _ => rfl,
      PutsFaces.refl ?_ _⟩
    · rw [hunidentified]
      rfl
    · intro hne
      exact absurd hunidentified hne

/-!
A pass over users whose records have the right type gets to the last one.
-/

theorem identifiedUsers_pass_of_type (rx : Memory) (ideal : Option Nat)
    (out : MetaBuffer) {start : FacePass} {n : Nat}
    (hidentified : start.countOfIdentifiedUsers = 0)
    (hunidentified : start.countOfUnidentifiedUsers = 0)
    (htype : forall i : Nat, i < n -> userDataType rx i =
      AppHmiMetadataOutputDataType.userOutputData.code) :
    exists st,
      loopOver (identifiedUser rx ideal out) (List.range n) start =
        (none, st) ∧
      IdentifiedPass rx ideal out start n st := by
  have hall : firstStop (identifiedStop rx) n = n := by
    apply firstStop_eq
    intro i hi
    simp [identifiedStop, htype i hi]
  rcases identifiedUsers_pass rx ideal out n hidentified hunidentified
    with ⟨st, hpass, ⟨-, hloop⟩ | ⟨hlt, -⟩⟩
  · rw [hall] at hpass
    exact ⟨st, hloop, hpass⟩
  · lia

theorem unidentifiedUsers_pass_of_type (rx : Memory) (ideal : Option Nat)
    (out : MetaBuffer) {start : FacePass} {n : Nat}
    (hunidentified : start.countOfUnidentifiedUsers = 0)
    (htype : forall i : Nat, i < n -> userDataType rx i =
      AppHmiMetadataOutputDataType.userOutputData.code) :
    exists st,
      loopOver (unidentifiedUser rx ideal out) (List.range n) start =
        (none, st) ∧
      UnidentifiedPass rx ideal out start n st := by
  have hall : firstStop (unidentifiedStop rx) n = n := by
    apply firstStop_eq
    intro i hi
    simp [unidentifiedStop, htype i hi]
  rcases unidentifiedUsers_pass rx ideal out n hunidentified
    with ⟨st, hpass, ⟨-, hloop⟩ | ⟨hlt, -⟩⟩
  · rw [hall] at hpass
    exact ⟨st, hloop, hpass⟩
  · lia

end KtLib
end GardHub
