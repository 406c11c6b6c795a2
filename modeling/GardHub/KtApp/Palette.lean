import GardHub.Foundation.Lists
import GardHub.Foundation.Loop
import GardHub.Foundation.OrderedMap

/-!
# Colours of the boxes

A box that is not ideal is drawn in a colour of a palette.  Its key has an index
into the palette that is kept from frame to frame.  Two boxes of a frame are to
differ as long as there are colours.
-/

namespace GardHub
namespace KtApp

open Foundation

/-! ## The keys -/

/-- What is read of the dictionary of a face; an entry may be missing. -/
structure Bbox where
  faceId : Option Int
  ideal : Option Int
  x1 : Option Int
  y1 : Option Int

def Bbox.isIdeal (b : Bbox) : Bool :=
  b.ideal.getD 0 ≠ 0

inductive PaletteKey where
  | id (fid : Int)
  | u (column row : Int)
deriving DecidableEq

/-- `_bbox_palette_key` -/
def bboxPaletteKey (b : Bbox) : PaletteKey :=
  let fid := b.faceId.getD 0
  if fid ≠ 0 then .id fid
  else .u ((b.x1.getD 0).fdiv 48) ((b.y1.getD 0).fdiv 48)

/-! ## The colours of a frame -/

/-- The settings of the overlay, and what `hash` is in this process. -/
structure Overlay (colour : Type) where
  idealBgr : colour
  nonIdealPalette : List colour
  hash : PaletteKey -> Int

abbrev PaletteMap := OrderedMap PaletteKey Nat

/-- `_first_free_palette_index` -/
def firstFreePaletteIndex (hash : PaletteKey -> Int) (used : List Nat) (n : Nat)
    (key : PaletteKey) : Nat :=
  match (List.range n).find? fun j => j ∉ used with
  | some j => j
  | none => (hash key % n).toNat

/-- The map with an index for a key, which is a new one if it had none. -/
def withKey (hash : PaletteKey -> Int) (n : Nat) (key : PaletteKey)
    (map : PaletteMap) : PaletteMap :=
  if key ∈ map.keys then map
  else map.assign key (firstFreePaletteIndex hash map.values n key)

/-- The index of a key in a frame, with the map, from what the frame has used. -/
def assignIndex (hash : PaletteKey -> Int) (n : Nat) (key : PaletteKey)
    (map : PaletteMap) (used : List Nat) : Nat × PaletteMap :=
  let known := withKey hash n key map
  -- The key has an index by now.
  let pref := (known.get key).getD 0
  if pref ∈ used then
    let idx := firstFreePaletteIndex hash used n key
    (idx, known.assign key idx)
  else (pref, known)

/-- The variables of the loop over the boxes.  The set of what is used is kept
in the order in which it has grown. -/
structure FrameColours (colour : Type) where
  map : PaletteMap
  usedThisFrame : List Nat
  byIndex : OrderedMap Nat colour

inductive PaletteError where
  | indexError
deriving DecidableEq

variable {colour : Type}

/-- The body of the loop for a box and its place among the boxes. -/
def assignColour (overlay : Overlay colour) (box : Bbox × Nat)
    (s : FrameColours colour) : Option PaletteError × FrameColours colour :=
  let palette := overlay.nonIdealPalette
  let (idx, map) := assignIndex overlay.hash palette.length (bboxPaletteKey box.1)
    s.map s.usedThisFrame
  let used := s.usedThisFrame ++ [idx]
  match palette[idx]? with
  | none => (some .indexError, ⟨map, used, s.byIndex⟩)
  | some bgr => (none, ⟨map, used, s.byIndex.assign box.2 bgr⟩)

/-- The boxes that are not ideal, with their places. -/
def nonIdealBoxes (bboxes : List Bbox) : List (Bbox × Nat) :=
  bboxes.zipIdx.filter fun box => !box.1.isIdeal

/-- The loop that fills `out`; a place without a colour is a `KeyError`. -/
def outColours (overlay : Overlay colour) (byIndex : OrderedMap Nat colour) :
    List (Bbox × Nat) -> Option (List colour)
  | [] => some []
  | box :: rest =>
      let found := if box.1.isIdeal then some overlay.idealBgr else byIndex.get box.2
      found.bind fun bgr => (outColours overlay byIndex rest).map (bgr :: ·)

def runFrame (overlay : Overlay colour) (map : PaletteMap) (bboxes : List Bbox) :
    Option PaletteError × FrameColours colour :=
  loopOver (assignColour overlay) (nonIdealBoxes bboxes) ⟨map, [], .empty⟩

/-- `_bbox_colors_for_frame`, from one map of the keys to the next.  Without a
list it has raised an exception. -/
def bboxColorsForFrame (overlay : Overlay colour) (map : PaletteMap)
    (bboxes : List Bbox) : Option (List colour) × PaletteMap :=
  match runFrame overlay map bboxes with
  | (none, s) => (outColours overlay s.byIndex bboxes.zipIdx, s.map)
  | (some _, s) => (none, s.map)

/-- The indices that the boxes get that are not ideal, in their order. -/
def frameIndices (overlay : Overlay colour) (map : PaletteMap)
    (bboxes : List Bbox) : List Nat :=
  (runFrame overlay map bboxes).2.usedThisFrame

/-- The map after a sequence of frames. -/
def mapAfter (overlay : Overlay colour) (frames : List (List Bbox)) : PaletteMap :=
  frames.foldl (fun map bboxes => (bboxColorsForFrame overlay map bboxes).2) .empty

/-! ## The search for an index -/

section Search

variable {hash : PaletteKey -> Int} {n : Nat} {key : PaletteKey}

theorem firstFreePaletteIndex_lt (hn : 0 < n) (used : List Nat) :
    firstFreePaletteIndex hash used n key < n := by
  unfold firstFreePaletteIndex
  split
  next j hj =>
    exact List.mem_range.mp (List.mem_of_find?_eq_some hj)
  next =>
    have hlt : hash key % n < n := Int.emod_lt_of_pos _ (by lia)
    have hnn : 0 ≤ hash key % n := Int.emod_nonneg _ (by lia)
    lia

/-- As long as there is a free index, the search finds one. -/
theorem firstFreePaletteIndex_free {used : List Nat} (h : used.length < n) :
    firstFreePaletteIndex hash used n key ∉ used := by
  rcases exists_lt_not_mem h with ⟨free, hlt, hfree⟩
  unfold firstFreePaletteIndex
  split
  next j hj =>
    simpa using List.find?_some hj
  next hnone =>
    have hused := List.find?_eq_none.mp hnone free (List.mem_range.mpr hlt)
    exact absurd hfree (by simpa using hused)

end Search

/-! ## The index of a key -/

section Index

variable {hash : PaletteKey -> Int} {n : Nat} {key : PaletteKey}
  {map : PaletteMap} {used : List Nat}

/-- Every index of the map is one of the palette. -/
def IndicesBelow (n : Nat) (map : PaletteMap) : Prop :=
  forall key idx, map.get key = some idx -> idx < n

theorem indicesBelow_assign {idx : Nat} (h : IndicesBelow n map) (hidx : idx < n) :
    IndicesBelow n (map.assign key idx) := by
  intro other idx' hget
  by_cases hother : other = key
  · rw [hother, OrderedMap.assign_get_self] at hget
    cases hget
    exact hidx
  · rw [OrderedMap.assign_get_of_ne hother] at hget
    exact h other idx' hget

theorem withKey_known {idx : Nat} (hget : map.get key = some idx) :
    withKey hash n key map = map := by
  have hmem : key ∈ map.keys := (map.mem_iff key).mpr (by rw [hget]; rfl)
  rw [withKey, if_pos hmem]

theorem withKey_get (hash : PaletteKey -> Int) (n : Nat) (key : PaletteKey)
    (map : PaletteMap) : exists idx, (withKey hash n key map).get key = some idx := by
  unfold withKey
  split
  next hmem =>
    exact Option.isSome_iff_exists.mp ((map.mem_iff key).mp hmem)
  next =>
    exact ⟨_, OrderedMap.assign_get_self⟩

theorem indicesBelow_withKey (hn : 0 < n) (h : IndicesBelow n map) :
    IndicesBelow n (withKey hash n key map) := by
  unfold withKey
  split
  · exact h
  · exact indicesBelow_assign h (firstFreePaletteIndex_lt hn _)

/-- A key that has an index which the frame has not used keeps it. -/
theorem assignIndex_known {idx : Nat} (hget : map.get key = some idx)
    (hfree : idx ∉ used) : assignIndex hash n key map used = (idx, map) := by
  simp only [assignIndex, withKey_known hget, hget, Option.getD_some, if_neg hfree]

/-- A new key gets an index that no key has, if there is one. -/
theorem assignIndex_new (hnew : key ∉ map.keys)
    (hfree : firstFreePaletteIndex hash map.values n key ∉ used) :
    assignIndex hash n key map used =
      (firstFreePaletteIndex hash map.values n key,
        map.assign key (firstFreePaletteIndex hash map.values n key)) := by
  simp only [assignIndex, withKey, if_neg hnew, OrderedMap.assign_get_self,
    Option.getD_some, if_neg hfree]

theorem assignIndex_below (hash : PaletteKey -> Int) (key : PaletteKey)
    (used : List Nat) (hn : 0 < n) (h : IndicesBelow n map) :
    (assignIndex hash n key map used).1 < n ∧
      IndicesBelow n (assignIndex hash n key map used).2 := by
  have hknown : IndicesBelow n (withKey hash n key map) := indicesBelow_withKey hn h
  rcases withKey_get hash n key map with ⟨pref, hpref⟩
  simp only [assignIndex, hpref, Option.getD_some]
  split
  · have hidx : firstFreePaletteIndex hash used n key < n :=
      firstFreePaletteIndex_lt hn used
    exact ⟨hidx, indicesBelow_assign hknown hidx⟩
  · exact ⟨hknown key pref hpref, hknown⟩

/-- As long as a frame has not used all indices, a box gets another one. -/
theorem assignIndex_free (hash : PaletteKey -> Int) (key : PaletteKey)
    (map : PaletteMap) (h : used.length < n) :
    (assignIndex hash n key map used).1 ∉ used := by
  rcases withKey_get hash n key map with ⟨pref, hpref⟩
  simp only [assignIndex, hpref, Option.getD_some]
  split
  · exact firstFreePaletteIndex_free h
  · assumption

end Index

/-! ## A frame -/

section Frame

variable {overlay : Overlay colour}

/-- What holds behind some boxes of a frame: each has an index and its colour,
and no two have the same as long as there are no more boxes than colours. -/
structure Coloured (overlay : Overlay colour) (boxes : List (Bbox × Nat))
    (s : FrameColours colour) : Prop where
  below : IndicesBelow overlay.nonIdealPalette.length s.map
  count : s.usedThisFrame.length = boxes.length
  colour : forall p, p ∈ boxes.zip s.usedThisFrame ->
    p.2 < overlay.nonIdealPalette.length ∧
      s.byIndex.get p.1.2 = overlay.nonIdealPalette[p.2]?
  apart : boxes.length ≤ overlay.nonIdealPalette.length -> s.usedThisFrame.Nodup

theorem assignColour_eq {box : Bbox × Nat} {s : FrameColours colour} {idx : Nat}
    {map : PaletteMap} (hidx : idx < overlay.nonIdealPalette.length)
    (hassign : assignIndex overlay.hash overlay.nonIdealPalette.length
      (bboxPaletteKey box.1) s.map s.usedThisFrame = (idx, map)) :
    assignColour overlay box s =
      (none, ⟨map, s.usedThisFrame ++ [idx],
        s.byIndex.assign box.2 overlay.nonIdealPalette[idx]⟩) := by
  simp only [assignColour, hassign, List.getElem?_eq_getElem hidx]

theorem coloured_step (hn : 0 < overlay.nonIdealPalette.length)
    {boxes : List (Bbox × Nat)} {box : Bbox × Nat} {s : FrameColours colour}
    (hplace : box.2 ∉ boxes.map Prod.snd) (h : Coloured overlay boxes s) :
    (assignColour overlay box s).1 = none ∧
      Coloured overlay (boxes ++ [box]) (assignColour overlay box s).2 := by
  obtain ⟨idx, map, hassign⟩ : exists idx map,
      assignIndex overlay.hash overlay.nonIdealPalette.length
        (bboxPaletteKey box.1) s.map s.usedThisFrame = (idx, map) :=
    ⟨_, _, rfl⟩
  have hbelow : idx < overlay.nonIdealPalette.length ∧
      IndicesBelow overlay.nonIdealPalette.length map := by
    have hindex := assignIndex_below overlay.hash (bboxPaletteKey box.1)
      s.usedThisFrame hn h.below
    rwa [hassign] at hindex
  rw [assignColour_eq hbelow.1 hassign]
  refine ⟨rfl, hbelow.2, ?_, ?_, ?_⟩
  · simp only [List.length_append, h.count]
    rfl
  · intro p hp
    rw [List.zip_append h.count.symm] at hp
    rcases List.mem_append.mp hp with hp | hp
    · have hother : p.1.2 ≠ box.2 := by
        intro heq
        apply hplace
        rw [← heq]
        exact List.mem_map_of_mem (List.of_mem_zip hp).1
      rw [OrderedMap.assign_get_of_ne hother]
      exact h.colour p hp
    · rcases List.mem_singleton.mp hp with rfl
      exact ⟨hbelow.1, by
        rw [OrderedMap.assign_get_self, List.getElem?_eq_getElem hbelow.1]⟩
  · intro hle
    rw [List.length_append, List.length_singleton] at hle
    have hfree := assignIndex_free overlay.hash (bboxPaletteKey box.1) s.map
      (by rw [h.count]; lia :
        s.usedThisFrame.length < overlay.nonIdealPalette.length)
    rw [hassign] at hfree
    exact (h.apart (by lia)).append (List.nodup_singleton idx) (by simpa using hfree)

theorem nonIdealBoxes_places (bboxes : List Bbox) :
    ((nonIdealBoxes bboxes).map Prod.snd).Nodup := by
  have hall : (bboxes.zipIdx.map Prod.snd).Nodup := by
    rw [List.zipIdx_map_snd]
    exact List.nodup_range'
  exact hall.sublist (List.filter_sublist.map Prod.snd)

/-- The loop over the boxes ends regularly. -/
theorem runFrame_coloured (hn : 0 < overlay.nonIdealPalette.length)
    {map : PaletteMap} (hmap : IndicesBelow overlay.nonIdealPalette.length map)
    (bboxes : List Bbox) :
    (runFrame overlay map bboxes).1 = none ∧
      Coloured overlay (nonIdealBoxes bboxes) (runFrame overlay map bboxes).2 := by
  have hstart : Coloured overlay [] ⟨map, [], .empty⟩ :=
    ⟨hmap, rfl, fun _ hp => absurd hp List.not_mem_nil, fun _ => List.nodup_nil⟩
  have hbody : forall front box back, nonIdealBoxes bboxes = front ++ box :: back ->
      forall s, Coloured overlay front s ->
        (assignColour overlay box s).1 = none ∧
          Coloured overlay (front ++ [box]) (assignColour overlay box s).2 := by
    intro front box back hsplit s hs
    exact coloured_step hn (value_not_mem_front (nonIdealBoxes_places bboxes) hsplit) hs
  rcases loopOver_all (nonIdealBoxes bboxes) hbody hstart with ⟨s', hloop, hs'⟩
  rw [runFrame, hloop]
  exact ⟨rfl, hs'⟩

/-- The colour that `out` gets for a box. -/
def foundColour (overlay : Overlay colour) (byIndex : OrderedMap Nat colour)
    (box : Bbox × Nat) : Option colour :=
  if box.1.isIdeal then some overlay.idealBgr else byIndex.get box.2

theorem outColours_found {byIndex : OrderedMap Nat colour}
    {boxes : List (Bbox × Nat)}
    (h : forall box, box ∈ boxes -> (foundColour overlay byIndex box).isSome = true) :
    exists colours, outColours overlay byIndex boxes = some colours ∧
      boxes.map (foundColour overlay byIndex) = colours.map some := by
  induction boxes with
  | nil =>
      exact ⟨[], rfl, rfl⟩
  | cons box rest ih =>
      rcases ih fun other hother => h other (List.mem_cons_of_mem _ hother)
        with ⟨colours, hout, hmap⟩
      rcases Option.isSome_iff_exists.mp (h box List.mem_cons_self) with ⟨bgr, hbgr⟩
      refine ⟨bgr :: colours, ?_, ?_⟩
      · change (foundColour overlay byIndex box).bind _ = _
        rw [hbgr, hout]
        rfl
      · rw [List.map_cons, List.map_cons, hbgr, hmap]

/-- There is a colour for each box: that of an ideal box, or the one that stands
in the palette at the index of the box. -/
structure ColoursBoxes (overlay : Overlay colour) (bboxes : List Bbox)
    (indices : List Nat) (colours : List colour) : Prop where
  length : colours.length = bboxes.length
  ideal : forall (i : Nat) (b : Bbox), bboxes[i]? = some b -> b.isIdeal = true ->
    colours[i]? = some overlay.idealBgr
  count : indices.length = (nonIdealBoxes bboxes).length
  nonIdeal : forall p, p ∈ (nonIdealBoxes bboxes).zip indices ->
    p.2 < overlay.nonIdealPalette.length ∧
      colours[p.1.2]? = overlay.nonIdealPalette[p.2]?

theorem mem_nonIdealBoxes {bboxes : List Bbox} {box : Bbox × Nat} :
    box ∈ nonIdealBoxes bboxes <->
      bboxes[box.2]? = some box.1 ∧ box.1.isIdeal = false := by
  rw [nonIdealBoxes, List.mem_filter, List.mem_zipIdx_iff_getElem?]
  simp

theorem colours_getElem {byIndex : OrderedMap Nat colour} {bboxes : List Bbox}
    {colours : List colour} {i : Nat} {b : Bbox}
    (h : bboxes.zipIdx.map (foundColour overlay byIndex) = colours.map some)
    (hb : bboxes[i]? = some b) : colours[i]? = foundColour overlay byIndex (b, i) := by
  have hplace := congrArg (fun found => found[i]?) h
  simp only [List.getElem?_map, List.getElem?_zipIdx, hb, Option.map_some,
    Nat.zero_add] at hplace
  cases hcolour : colours[i]? with
  | none =>
      rw [hcolour] at hplace
      cases hplace
  | some bgr =>
      rw [hcolour] at hplace
      exact (Option.some.inj hplace).symm

theorem bboxColorsForFrame_coloursBoxes
    (hn : 0 < overlay.nonIdealPalette.length) {map : PaletteMap}
    (hmap : IndicesBelow overlay.nonIdealPalette.length map) (bboxes : List Bbox) :
    exists colours, (bboxColorsForFrame overlay map bboxes).1 = some colours ∧
      ColoursBoxes overlay bboxes (frameIndices overlay map bboxes) colours := by
  rcases hrun : runFrame overlay map bboxes with ⟨stopped, s⟩
  have hcoloured := runFrame_coloured hn hmap bboxes
  rw [hrun] at hcoloured
  rcases hcoloured with ⟨rfl, h⟩
  have hfound : forall box, box ∈ bboxes.zipIdx ->
      (foundColour overlay s.byIndex box).isSome = true := by
    intro box hbox
    cases hideal : box.1.isIdeal with
    | true =>
        rw [foundColour, hideal]
        rfl
    | false =>
        have hmem : box ∈ nonIdealBoxes bboxes := by
          rw [mem_nonIdealBoxes]
          exact ⟨List.mem_zipIdx_iff_getElem?.mp hbox, hideal⟩
        rw [← List.map_fst_zip h.count.ge] at hmem
        rcases List.mem_map.mp hmem with ⟨p, hp, rfl⟩
        have hcolour := h.colour p hp
        rw [foundColour, hideal, hcolour.2, List.getElem?_eq_getElem hcolour.1]
        rfl
  rcases outColours_found hfound with ⟨colours, hout, hmapped⟩
  refine ⟨colours, ?_, ?_, ?_, ?_, ?_⟩
  · rw [bboxColorsForFrame, hrun]
    exact hout
  · have hlength := congrArg List.length hmapped
    simpa using hlength.symm
  · intro i b hb hideal
    rw [colours_getElem hmapped hb, foundColour, if_pos hideal]
  · rw [frameIndices, hrun]
    exact h.count
  · intro p hp
    rw [frameIndices, hrun] at hp
    have hcolour := h.colour p hp
    have hbox := mem_nonIdealBoxes.mp (List.of_mem_zip hp).1
    refine ⟨hcolour.1, ?_⟩
    rw [colours_getElem hmapped hbox.1, ← hcolour.2, foundColour]
    simp [hbox.2]

theorem bboxColorsForFrame_map (overlay : Overlay colour) (map : PaletteMap)
    (bboxes : List Bbox) :
    (bboxColorsForFrame overlay map bboxes).2 = (runFrame overlay map bboxes).2.map := by
  rcases hrun : runFrame overlay map bboxes with ⟨stopped, s⟩
  rw [bboxColorsForFrame, hrun]
  cases stopped <;> rfl

theorem bboxColorsForFrame_below (hn : 0 < overlay.nonIdealPalette.length)
    {map : PaletteMap} (hmap : IndicesBelow overlay.nonIdealPalette.length map)
    (bboxes : List Bbox) :
    IndicesBelow overlay.nonIdealPalette.length
      (bboxColorsForFrame overlay map bboxes).2 := by
  rw [bboxColorsForFrame_map]
  exact (runFrame_coloured hn hmap bboxes).2.below

theorem mapAfter_append (overlay : Overlay colour) (frames later : List (List Bbox)) :
    mapAfter overlay (frames ++ later) =
      later.foldl (fun map bboxes => (bboxColorsForFrame overlay map bboxes).2)
        (mapAfter overlay frames) :=
  List.foldl_append

theorem mapAfter_below (hn : 0 < overlay.nonIdealPalette.length)
    (frames : List (List Bbox)) :
    IndicesBelow overlay.nonIdealPalette.length (mapAfter overlay frames) := by
  have hempty : IndicesBelow overlay.nonIdealPalette.length .empty := by
    intro key idx hget
    cases hget
  apply List.foldlRecOn frames _ hempty
  intro map hmap bboxes _
  exact bboxColorsForFrame_below hn hmap bboxes

end Frame

/-! ## Indices that stay -/

section Stay

variable {overlay : Overlay colour} {seen : List PaletteKey}

/-- The keys that a frame looks up. -/
def frameKeys (bboxes : List Bbox) : List PaletteKey :=
  (nonIdealBoxes bboxes).map fun box => bboxPaletteKey box.1

/-- There is an index for every key of the frames, and no key comes twice in one
of them. -/
structure RoomForAll (n : Nat) (frames : List (List Bbox)) : Prop where
  room : (frames.flatMap frameKeys).toFinset.card ≤ n
  once : forall bboxes, bboxes ∈ frames -> (frameKeys bboxes).Nodup

/-- One map has the indices of another, and perhaps more. -/
def KeepsIndices (before after : PaletteMap) : Prop :=
  forall key idx, before.get key = some idx -> after.get key = some idx

theorem KeepsIndices.trans {first second third : PaletteMap}
    (h : KeepsIndices first second) (h' : KeepsIndices second third) :
    KeepsIndices first third :=
  fun key idx hget => h' key idx (h key idx hget)

/-- No two keys of the map have the same index, and all have been seen. -/
structure Spread (seen : List PaletteKey) (map : PaletteMap) : Prop where
  injective : forall key other idx, map.get key = some idx ->
    map.get other = some idx -> key = other
  seen : map.keys ⊆ seen

theorem Spread.free {map : PaletteMap} {n : Nat} {key : PaletteKey}
    (h : Spread seen map) (hroom : seen.toFinset.card ≤ n) (hkey : key ∈ seen)
    (hnew : key ∉ map.keys) (hash : PaletteKey -> Int) :
    firstFreePaletteIndex hash map.values n key ∉ map.values := by
  have hnodup : (key :: map.keys).Nodup := List.nodup_cons.mpr ⟨hnew, map.nodup⟩
  have hsub : (key :: map.keys).toFinset ⊆ seen.toFinset := by
    intro other hother
    rw [List.mem_toFinset, List.mem_cons] at hother
    rw [List.mem_toFinset]
    rcases hother with rfl | hother
    · exact hkey
    · exact h.seen hother
  have hcard := Finset.card_le_card hsub
  rw [List.toFinset_card_of_nodup hnodup, List.length_cons] at hcard
  have hvalues := map.values_length_le
  exact firstFreePaletteIndex_free (by lia)

theorem Spread.assign {map : PaletteMap} {key : PaletteKey} {idx : Nat}
    (h : Spread seen map) (hkey : key ∈ seen) (hfree : idx ∉ map.values) :
    Spread seen (map.assign key idx) := by
  have hother : forall other, map.get other ≠ some idx := by
    intro other hget
    exact hfree (OrderedMap.mem_values.mpr ⟨other, hget⟩)
  constructor
  · intro first second idx' hfirst hsecond
    by_cases hone : first = key
    · by_cases htwo : second = key
      · rw [hone, htwo]
      · rw [hone, OrderedMap.assign_get_self] at hfirst
        rw [OrderedMap.assign_get_of_ne htwo] at hsecond
        cases hfirst
        exact absurd hsecond (hother second)
    · rw [OrderedMap.assign_get_of_ne hone] at hfirst
      by_cases htwo : second = key
      · rw [htwo, OrderedMap.assign_get_self] at hsecond
        cases hsecond
        exact absurd hfirst (hother first)
      · rw [OrderedMap.assign_get_of_ne htwo] at hsecond
        exact h.injective first second idx' hfirst hsecond
  · intro other hmem
    by_cases hone : other = key
    · rw [hone]
      exact hkey
    · rw [OrderedMap.mem_iff, OrderedMap.assign_get_of_ne hone, ← map.mem_iff] at hmem
      exact h.seen hmem

/-- What holds behind some boxes of a frame if there is room for all keys: the
index that a box has got is the one of its key. -/
structure Settled (seen : List PaletteKey) (before : PaletteMap)
    (boxes : List (Bbox × Nat)) (s : FrameColours colour) : Prop where
  spread : Spread seen s.map
  kept : KeepsIndices before s.map
  used : s.usedThisFrame.map some =
    boxes.map fun box => s.map.get (bboxPaletteKey box.1)

section Step

variable {before : PaletteMap} {boxes : List (Bbox × Nat)} {s : FrameColours colour}

theorem Settled.used_get (h : Settled seen before boxes s) {idx : Nat}
    (hidx : idx ∈ s.usedThisFrame) :
    exists box, box ∈ boxes ∧ s.map.get (bboxPaletteKey box.1) = some idx := by
  have hmem : some idx ∈ s.usedThisFrame.map some := List.mem_map_of_mem hidx
  rw [h.used] at hmem
  exact List.mem_map.mp hmem

theorem Settled.get_box (h : Settled seen before boxes s) {box : Bbox × Nat}
    (hbox : box ∈ boxes) : exists idx, s.map.get (bboxPaletteKey box.1) = some idx := by
  have hmem : s.map.get (bboxPaletteKey box.1) ∈
      boxes.map fun box => s.map.get (bboxPaletteKey box.1) :=
    List.mem_map_of_mem hbox
  rw [← h.used] at hmem
  rcases List.mem_map.mp hmem with ⟨idx, _, hidx⟩
  exact ⟨idx, hidx.symm⟩

/-- A key that the frame has not looked up gets an index of its own, and no other
key loses its index. -/
theorem Settled.assigned (h : Settled seen before boxes s) {n : Nat}
    {key : PaletteKey} (hroom : seen.toFinset.card ≤ n) (hkey : key ∈ seen)
    (honce : key ∉ boxes.map fun box => bboxPaletteKey box.1)
    (hash : PaletteKey -> Int) :
    exists idx map, assignIndex hash n key s.map s.usedThisFrame = (idx, map) ∧
      Spread seen map ∧ KeepsIndices s.map map ∧ map.get key = some idx := by
  cases hget : s.map.get key with
  | some idx =>
      have hfree : idx ∉ s.usedThisFrame := by
        intro hused
        rcases h.used_get hused with ⟨box, hbox, hsame⟩
        have heq := h.spread.injective key _ idx hget hsame
        exact honce (List.mem_map.mpr ⟨box, hbox, heq.symm⟩)
      exact ⟨idx, s.map, assignIndex_known hget hfree, h.spread, fun _ _ hold => hold, hget⟩
  | none =>
      have hnew : key ∉ s.map.keys := by
        rw [OrderedMap.mem_iff, hget]
        exact Bool.false_ne_true
      have hvalues := h.spread.free hroom hkey hnew hash
      have hfree : firstFreePaletteIndex hash s.map.values n key ∉ s.usedThisFrame := by
        intro hused
        rcases h.used_get hused with ⟨box, _, hsame⟩
        exact hvalues (OrderedMap.mem_values.mpr ⟨_, hsame⟩)
      refine ⟨_, _, assignIndex_new hnew hfree, h.spread.assign hkey hvalues, ?_,
        OrderedMap.assign_get_self⟩
      intro other idx hold
      have hother : other ≠ key := by
        rintro rfl
        rw [hget] at hold
        cases hold
      rw [OrderedMap.assign_get_of_ne hother]
      exact hold

theorem assignColour_variables (overlay : Overlay colour) (box : Bbox × Nat)
    {idx : Nat} {map : PaletteMap}
    (hassign : assignIndex overlay.hash overlay.nonIdealPalette.length
      (bboxPaletteKey box.1) s.map s.usedThisFrame = (idx, map)) :
    (assignColour overlay box s).2.map = map ∧
      (assignColour overlay box s).2.usedThisFrame = s.usedThisFrame ++ [idx] := by
  simp only [assignColour, hassign]
  cases overlay.nonIdealPalette[idx]? <;> exact ⟨rfl, rfl⟩

theorem settled_step (h : Settled seen before boxes s) {box : Bbox × Nat}
    (hroom : seen.toFinset.card ≤ overlay.nonIdealPalette.length)
    (hkey : bboxPaletteKey box.1 ∈ seen)
    (honce : bboxPaletteKey box.1 ∉ boxes.map fun box => bboxPaletteKey box.1) :
    Settled seen before (boxes ++ [box]) (assignColour overlay box s).2 := by
  rcases h.assigned hroom hkey honce overlay.hash
    with ⟨idx, map, hassign, hspread, hkept, hget⟩
  rcases assignColour_variables overlay box hassign with ⟨hmap, hused⟩
  constructor
  · rw [hmap]
    exact hspread
  · rw [hmap]
    exact h.kept.trans hkept
  · have hold : (boxes.map fun box => map.get (bboxPaletteKey box.1)) =
        boxes.map fun box => s.map.get (bboxPaletteKey box.1) := by
      apply List.map_congr_left
      intro other hother
      rcases h.get_box hother with ⟨idx', hidx'⟩
      rw [hidx', hkept _ _ hidx']
    rw [hmap, hused, List.map_append, List.map_append, hold, h.used, List.map_singleton,
      List.map_singleton, hget]

end Step

theorem runFrame_settled {map : PaletteMap} {bboxes : List Bbox}
    (hn : 0 < overlay.nonIdealPalette.length)
    (hbelow : IndicesBelow overlay.nonIdealPalette.length map) (hspread : Spread seen map)
    (hroom : seen.toFinset.card ≤ overlay.nonIdealPalette.length)
    (hseen : frameKeys bboxes ⊆ seen) (honce : (frameKeys bboxes).Nodup) :
    Settled seen map (nonIdealBoxes bboxes) (runFrame overlay map bboxes).2 := by
  have hstart : Coloured overlay [] ⟨map, [], .empty⟩ ∧
      Settled seen map [] (⟨map, [], .empty⟩ : FrameColours colour) :=
    ⟨⟨hbelow, rfl, fun _ hp => absurd hp List.not_mem_nil, fun _ => List.nodup_nil⟩,
      hspread, fun _ _ hget => hget, rfl⟩
  have hbody : forall front box back, nonIdealBoxes bboxes = front ++ box :: back ->
      forall s, Coloured overlay front s ∧ Settled seen map front s ->
        (assignColour overlay box s).1 = none ∧
          Coloured overlay (front ++ [box]) (assignColour overlay box s).2 ∧
          Settled seen map (front ++ [box]) (assignColour overlay box s).2 := by
    intro front box back hsplit s hs
    have hplace := value_not_mem_front (nonIdealBoxes_places bboxes) hsplit
    have hkey : bboxPaletteKey box.1 ∈ seen := by
      apply hseen
      rw [frameKeys, hsplit, List.map_append, List.map_cons]
      exact List.mem_append_right _ List.mem_cons_self
    have hstep := coloured_step hn hplace hs.1
    exact ⟨hstep.1, hstep.2,
      settled_step hs.2 hroom hkey (value_not_mem_front honce hsplit)⟩
  rcases loopOver_all (nonIdealBoxes bboxes) hbody hstart with ⟨s', hloop, hs'⟩
  rw [runFrame, hloop]
  exact hs'.2

/-- The keys of the frames have all been seen, and none comes twice in one. -/
def SeenOnce (seen : List PaletteKey) (frames : List (List Bbox)) : Prop :=
  forall bboxes, bboxes ∈ frames -> frameKeys bboxes ⊆ seen ∧ (frameKeys bboxes).Nodup

section Frames

variable (hn : 0 < overlay.nonIdealPalette.length)
  (hroom : seen.toFinset.card ≤ overlay.nonIdealPalette.length)
include hn hroom

theorem mapAfter_settled {frames : List (List Bbox)} {bboxes : List Bbox}
    (hspread : Spread seen (mapAfter overlay frames))
    (hframe : frameKeys bboxes ⊆ seen ∧ (frameKeys bboxes).Nodup) :
    Settled seen (mapAfter overlay frames) (nonIdealBoxes bboxes)
      (runFrame overlay (mapAfter overlay frames) bboxes).2 :=
  runFrame_settled hn (mapAfter_below hn frames) hspread hroom hframe.1 hframe.2

theorem mapAfter_spread {frames : List (List Bbox)} (h : SeenOnce seen frames) :
    Spread seen (mapAfter overlay frames) := by
  induction frames using List.reverseRecOn with
  | nil =>
      constructor
      · intro key other idx hget
        cases hget
      · exact List.nil_subset seen
  | append_singleton frames bboxes ih =>
      have hfront : SeenOnce seen frames :=
        fun other hother => h other (List.mem_append_left _ hother)
      have hlast := h bboxes (List.mem_append_right _ List.mem_cons_self)
      have hsettled := mapAfter_settled hn hroom (ih hfront) hlast
      rw [mapAfter_append, List.foldl_cons, List.foldl_nil, bboxColorsForFrame_map]
      exact hsettled.spread

theorem mapAfter_keeps {frames later : List (List Bbox)}
    (h : SeenOnce seen (frames ++ later)) :
    KeepsIndices (mapAfter overlay frames) (mapAfter overlay (frames ++ later)) := by
  induction later using List.reverseRecOn with
  | nil =>
      rw [List.append_nil]
      exact fun _ _ hget => hget
  | append_singleton later bboxes ih =>
      rw [← List.append_assoc] at h ⊢
      have hfront : SeenOnce seen (frames ++ later) :=
        fun other hother => h other (List.mem_append_left _ hother)
      have hlast := h bboxes (List.mem_append_right _ List.mem_cons_self)
      have hsettled := mapAfter_settled hn hroom (mapAfter_spread hn hroom hfront) hlast
      rw [mapAfter_append overlay (frames ++ later), List.foldl_cons, List.foldl_nil,
        bboxColorsForFrame_map]
      exact (ih hfront).trans hsettled.kept

/-- A box is drawn with the index that its key has in the end. -/
theorem frameIndices_settled {frames later : List (List Bbox)} {bboxes : List Bbox}
    (h : SeenOnce seen (frames ++ bboxes :: later)) :
    (frameIndices overlay (mapAfter overlay frames) bboxes).map some =
      (frameKeys bboxes).map (mapAfter overlay (frames ++ bboxes :: later)).get := by
  have hfront : SeenOnce seen frames :=
    fun other hother => h other (List.mem_append_left _ hother)
  have hframe := h bboxes (List.mem_append_right _ List.mem_cons_self)
  have hsettled := mapAfter_settled hn hroom (mapAfter_spread hn hroom hfront) hframe
  have hsplit : frames ++ bboxes :: later = (frames ++ [bboxes]) ++ later := by
    rw [List.append_assoc, List.singleton_append]
  have hkeeps : KeepsIndices (mapAfter overlay (frames ++ [bboxes]))
      (mapAfter overlay ((frames ++ [bboxes]) ++ later)) :=
    mapAfter_keeps hn hroom (hsplit ▸ h)
  rw [mapAfter_append overlay frames [bboxes], List.foldl_cons, List.foldl_nil,
    bboxColorsForFrame_map] at hkeeps
  rw [hsplit, frameIndices, hsettled.used, frameKeys, List.map_map]
  apply List.map_congr_left
  intro box hbox
  rcases hsettled.get_box hbox with ⟨idx, hidx⟩
  rw [hidx]
  exact (hkeeps _ _ hidx).symm

end Frames

/-- After any frames there is a colour for each box of the next one; boxes that
are not ideal differ in their indices if there are no more of them than colours.
As long as there is room for all keys, a box is drawn with the index that its
key has from then on. -/
theorem bboxColorsForFrame_assigns (overlay : Overlay colour)
    (hn : 1 ≤ overlay.nonIdealPalette.length) (frames : List (List Bbox))
    (bboxes : List Bbox) (later : List (List Bbox)) :
    (exists colours,
        (bboxColorsForFrame overlay (mapAfter overlay frames) bboxes).1 = some colours ∧
          ColoursBoxes overlay bboxes
            (frameIndices overlay (mapAfter overlay frames) bboxes) colours) ∧
      ((nonIdealBoxes bboxes).length ≤ overlay.nonIdealPalette.length ->
        (frameIndices overlay (mapAfter overlay frames) bboxes).Nodup) ∧
      (RoomForAll overlay.nonIdealPalette.length (frames ++ bboxes :: later) ->
        (frameIndices overlay (mapAfter overlay frames) bboxes).map some =
            (frameKeys bboxes).map (mapAfter overlay (frames ++ bboxes :: later)).get ∧
          KeepsIndices (mapAfter overlay frames)
            (mapAfter overlay (frames ++ bboxes :: later))) := by
  have hbelow := mapAfter_below hn frames
  refine ⟨bboxColorsForFrame_coloursBoxes hn hbelow bboxes,
    (runFrame_coloured hn hbelow bboxes).2.apart, ?_⟩
  intro hall
  have hseen : SeenOnce ((frames ++ bboxes :: later).flatMap frameKeys)
      (frames ++ bboxes :: later) :=
    fun other hother =>
      ⟨fun key hkey => List.mem_flatMap.mpr ⟨other, hother, hkey⟩, hall.once other hother⟩
  exact ⟨frameIndices_settled hn hall.room hseen, mapAfter_keeps hn hall.room hseen⟩

/-- Three colours, by their numbers. -/
def threeColours : Overlay Nat :=
  ⟨3, [0, 1, 2], fun _ => 0⟩

/-- An enrolled face, and one that is not known. -/
def twoFaces : List Bbox :=
  [⟨some 7, some 0, some 10, some 10⟩, ⟨some 0, some 0, some 100, some (-5)⟩]

theorem bboxColorsForFrame_assigns_twoFaces :
    (frameIndices threeColours (mapAfter threeColours [twoFaces]) twoFaces.reverse).Nodup ∧
      KeepsIndices (mapAfter threeColours [twoFaces])
        (mapAfter threeColours [twoFaces, twoFaces.reverse, twoFaces]) := by
  have h := bboxColorsForFrame_assigns threeColours (by decide) [twoFaces]
    twoFaces.reverse [twoFaces]
  exact ⟨h.2.1 (by decide), (h.2.2 ⟨by decide, by decide⟩).2⟩

end Stay

end KtApp
end GardHub
