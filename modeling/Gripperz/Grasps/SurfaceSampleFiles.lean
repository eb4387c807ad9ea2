import Gripperz.Grasps.BasicParallelGripperGraspPlanner
import Gripperz.Loaders.TaskDescriptionLoader
import Gripperz.Util.SixDigits

/-! # Surface samples in files

The width of a grasp is written by a lexical cast, and its position and angles to a stream of
six digits. A file of no samples has no node for them and cannot be loaded.
-/
namespace Gripperz.Grasps
open Math Library Util

namespace SurfaceSample
variable {R G V : Type}

section
variable (number stream : NumberFormat R) (spatial : Spatial R G V) (make : FromNumbers R G V)

/-- `transform.P()`. -/
def position (sample : SurfaceSample R G V) : Q R :=
  ⟨[spatial.coord sample.transform.P 0, spatial.coord sample.transform.P 1,
    spatial.coord sample.transform.P 2]⟩

/-- `RPY<>(transform.R())`. -/
def angles (sample : SurfaceSample R G V) : Q R :=
  ⟨[spatial.rpy sample.transform.R 0, spatial.rpy sample.transform.R 1,
    spatial.rpy sample.transform.R 2]⟩

def sampleNode (sample : SurfaceSample R G V) : PTree String String :=
  let node := PTree.empty.put ["Pos"] (XMLHelpers.QToString stream (position spatial sample))
  let node := node.put ["RPY"] (XMLHelpers.QToString stream (angles spatial sample))
  node.put ["GraspW"] (number.text sample.graspW)

def saveToXML (samples : List (SurfaceSample R G V)) : PTree String String :=
  samples.foldl (fun tree sample => tree.addChild ["SurfaceSamples"] "Sample"
    (sampleNode number stream spatial sample)) PTree.empty

def readSample (tree : PTree String String) : Except LoadError (SurfaceSample R G V) := do
  let posq ← XMLHelpers.readQ stream (← getChild "Pos" tree)
  let rpyq ← XMLHelpers.readQ stream (← getChild "RPY" tree)
  let graspW ← XMLHelpers.readDouble number (← getChild "GraspW" tree)
  let pos := make.vector3D (← coordinate posq 0) (← coordinate posq 1) (← coordinate posq 2)
  let rotation := make.rpy (← coordinate rpyq 0) (← coordinate rpyq 1) (← coordinate rpyq 2)
  pure ⟨⟨rotation, pos⟩, graspW⟩

/-- Children of other names are passed over. -/
def addSample (samples : List (SurfaceSample R G V)) (p : String × PTree String String) :
    Except LoadError (List (SurfaceSample R G V)) :=
  if p.1 = "Sample" then
    (readSample number stream make p.2).map fun sample => samples ++ [sample]
  else pure samples

def loadFromXML (tree : PTree String String) : Except LoadError (List (SurfaceSample R G V)) :=
  Except.mapError Loaders.TaskDescriptionLoader.rethrow do
    let root ← getChild "SurfaceSamples" tree
    root.children.foldlM (addSample number stream make) []

/-- A sample of which the numbers that go through a stream are replaced. -/
def stored (kept : R → R) (sample : SurfaceSample R G V) : SurfaceSample R G V :=
  let x (i : ℕ) := kept (spatial.coord sample.transform.P i)
  let a (i : ℕ) := kept (spatial.rpy sample.transform.R i)
  ⟨⟨make.rpy (a 0) (a 1) (a 2), make.vector3D (x 0) (x 1) (x 2)⟩, sample.graspW⟩

end

/-! ## Loading what was saved -/

/-- There is no node for the samples when there are none. -/
theorem find_saveToXML (number stream : NumberFormat R) (spatial : Spatial R G V)
    (samples : List (SurfaceSample R G V)) :
    (saveToXML number stream spatial samples).find "SurfaceSamples" =
      PTree.group "Sample" (sampleNode number stream spatial) samples :=
  PTree.find_foldl_addChild rfl (sampleNode number stream spatial) samples

section
variable (number : NumberText R) {stream : NumberFormat R} {kept : R → R}
  (hread : ∀ x, stream.read (stream.text x) = some (kept x))
include hread

theorem readQ_QToString_kept (q : Q R) :
    XMLHelpers.readQ stream (.leaf (XMLHelpers.QToString stream q)) =
      .ok ⟨q.coords.map kept⟩ := by
  have harray : XMLHelpers.readArray stream (.leaf (XMLHelpers.QToString stream q)) =
      .ok (q.coords.map kept) := by
    rw [XMLHelpers.readArray, PTree.data_leaf, XMLHelpers.words_QToString, List.mapM_map]
    induction q.coords with
    | nil => rfl
    | cons x xs ih =>
      rw [List.mapM_cons, ih, Function.comp_apply,
        XMLHelpers.expectDouble_of_isWord stream (stream.isWord x), String.ofList_toList, hread x,
        required_some]
      rfl
  rw [XMLHelpers.readQ, harray]
  rfl

variable (spatial : Spatial R G V) (make : FromNumbers R G V)

theorem readSample_sampleNode (sample : SurfaceSample R G V) :
    readSample number stream make (sampleNode number stream spatial sample) =
      .ok (stored spatial make kept sample) := by
  have hpos : getChild "Pos" (sampleNode number stream spatial sample) = .ok (.leaf _) := rfl
  have hrpy : getChild "RPY" (sampleNode number stream spatial sample) = .ok (.leaf _) := rfl
  have hgraspW : getChild "GraspW" (sampleNode number stream spatial sample) =
      .ok (.leaf (number.text sample.graspW)) := rfl
  rw [readSample, hpos, hrpy, hgraspW]
  simp only [bind, Except.bind, readQ_QToString_kept hread,
    XMLHelpers.readDouble_text number (PTree.data_leaf _)]
  rfl

theorem foldlM_addSample (list samples : List (SurfaceSample R G V)) :
    (list.map fun sample => ("Sample", sampleNode number stream spatial sample)).foldlM
      (addSample number stream make) samples =
        .ok (samples ++ list.map (stored spatial make kept)) := by
  induction list generalizing samples with
  | nil => simp [pure, Except.pure]
  | cons sample list ih =>
    rw [List.map_cons, List.foldlM_cons, addSample, if_pos rfl,
      readSample_sampleNode number hread spatial make]
    refine (ih _).trans ?_
    rw [List.map_cons, List.append_assoc, List.singleton_append]

theorem loadFromXML_eq (samples : List (SurfaceSample R G V)) :
    loadFromXML number stream make (saveToXML number stream spatial samples) =
      if samples = [] then .error (.thrown "No such node (SurfaceSamples)")
      else .ok (samples.map (stored spatial make kept)) := by
  rw [loadFromXML, getChild, PTree.getChild_singleton, find_saveToXML, PTree.group]
  split
  case isTrue => rfl
  case isFalse =>
    rw [required_some, ok_bind, PTree.children_node,
      foldlM_addSample number hread spatial make, List.nil_append]
    rfl

end

/-! ## Files of doubles -/

/-- A vector has the coordinates it is made of. -/
structure Coordinates (spatial : Spatial R G V) (make : FromNumbers R G V) : Prop where
  coord_zero : ∀ x y z, spatial.coord (make.vector3D x y z) 0 = x
  coord_one : ∀ x y z, spatial.coord (make.vector3D x y z) 1 = y
  coord_two : ∀ x y z, spatial.coord (make.vector3D x y z) 2 = z

theorem Coordinates.coord_stored {spatial : Spatial R G V} {make : FromNumbers R G V}
    (hcoord : Coordinates spatial make) (kept : R → R) (sample : SurfaceSample R G V) {i : ℕ}
    (hi : i < 3) :
    spatial.coord (stored spatial make kept sample).transform.P i =
      kept (spatial.coord sample.transform.P i) := by
  match i, hi with
  | 0, _ => exact hcoord.coord_zero _ _ _
  | 1, _ => exact hcoord.coord_one _ _ _
  | 2, _ => exact hcoord.coord_two _ _ _

namespace Sample

/-- Three numbers, as a vector and as the angles of a rotation. -/
abbrev Triple : Type := Double × Double × Double

def Triple.get (v : Triple) : ℕ → Double
  | 0 => v.1
  | 1 => v.2.1
  | _ => v.2.2

/-- A vector with a coordinate that six digits do not hold. -/
def triple : Triple := (long.toDouble, short.toDouble, long.toDouble)

def spatial : Spatial Double Triple Triple where
  sin x := x
  sqrt x := x
  coord := Triple.get
  x := triple
  y := triple
  z := triple
  axis g := g
  angle g := g.1
  rpy := Triple.get
  variance _ := long.toDouble

def make : FromNumbers Double Triple Triple where
  vector3D x y z := (x, y, z)
  rpy x y z := (x, y, z)
  eaa x y z := (x, y, z)

def sample : SurfaceSample Double Triple Triple := ⟨⟨triple, triple⟩, long.toDouble⟩

theorem coordinates : Coordinates spatial make :=
  ⟨fun _ _ _ => rfl, fun _ _ _ => rfl, fun _ _ _ => rfl⟩

theorem normal_triple : ∀ i, Normal (triple.get i)
  | 0 => normal_toDouble (by norm_num [long])
  | 1 => normal_toDouble (by norm_num [short])
  | _ + 2 => normal_toDouble (by norm_num [long])

end Sample

section
variable {lexicalCast : String → Option Double} (h : ReadsNearest lexicalCast)
  {spatial : Spatial Double G V} {make : FromNumbers Double G V}

/-- Samples that were saved are loaded in their order, with the widths of their grasps as they
were. Their positions have moved by at most a hundred-thousandth in each coordinate. -/
theorem loadFromXML_saveToXML (hcoord : Coordinates spatial make)
    (samples : List (SurfaceSample Double G V)) :
    loadFromXML (precise h) (Util.stream 6 lexicalCast) make
        (saveToXML (precise h) (Util.stream 6 lexicalCast) spatial samples) =
      (if samples = [] then .error (.thrown "No such node (SurfaceSamples)")
      else .ok (samples.map (stored spatial make sixDigits))) ∧
    ∀ sample ∈ samples, (stored spatial make sixDigits sample).graspW = sample.graspW ∧
      ∀ i < 3, |(spatial.coord sample.transform.P i).value -
        (spatial.coord (stored spatial make sixDigits sample).transform.P i).value| ≤
          1 / 100000 * |(spatial.coord sample.transform.P i).value| := by
  constructor
  · exact loadFromXML_eq (precise h) (read_streamed_six h) spatial make samples
  · intro sample _
    refine ⟨rfl, fun i hi => ?_⟩
    rw [hcoord.coord_stored sixDigits sample hi]
    exact abs_sub_sixDigits_le _

end

theorem loadFromXML_saveToXML_one :
    loadFromXML (precise readsNearest_lexicalCast) (Util.stream 6 lexicalCast) Sample.make
        (saveToXML (precise readsNearest_lexicalCast) (Util.stream 6 lexicalCast) Sample.spatial
          [Sample.sample]) =
      .ok ([Sample.sample].map (stored Sample.spatial Sample.make sixDigits)) := by
  have hload :=
    (loadFromXML_saveToXML readsNearest_lexicalCast Sample.coordinates [Sample.sample]).1
  rwa [if_neg (List.cons_ne_nil _ _)] at hload

/-! ## Saving what was loaded -/

section
variable {number stream : NumberFormat R} {spatial : Spatial R G V}

theorem saveToXML_eq_iff {samples samples' : List (SurfaceSample R G V)} :
    saveToXML number stream spatial samples = saveToXML number stream spatial samples' ↔
      samples.map (sampleNode number stream spatial) =
        samples'.map (sampleNode number stream spatial) := by
  constructor
  · intro htrees
    have hgroups := congrArg (PTree.find "SurfaceSamples") htrees
    rw [find_saveToXML, find_saveToXML] at hgroups
    exact PTree.map_eq_of_group_eq hgroups
  · intro hnodes
    have hsave (list : List (SurfaceSample R G V)) : saveToXML number stream spatial list =
        (list.map (sampleNode number stream spatial)).foldl
          (fun tree node => tree.addChild ["SurfaceSamples"] "Sample" node) PTree.empty :=
      List.foldl_map.symm
    rw [hsave, hsave, hnodes]

theorem QToString_eq_iff {q q' : Q R} :
    XMLHelpers.QToString stream q = XMLHelpers.QToString stream q' ↔
      q.coords.map stream.text = q'.coords.map stream.text := by
  constructor
  · intro htext
    have hwords := congrArg (fun text => words text.toList) htext
    simp only [XMLHelpers.words_QToString] at hwords
    refine List.map_injective_iff.mpr (fun _ _ heq => String.toList_injective heq) ?_
    rw [List.map_map, List.map_map]
    exact hwords
  · intro htexts
    have hstring (q : Q R) : XMLHelpers.QToString stream q = String.ofList
        (' ' :: (q.coords.map stream.text).flatMap fun text => text.toList ++ [' ']) := by
      rw [XMLHelpers.QToString, List.flatMap_map]
    rw [hstring, hstring, htexts]

theorem sampleNode_eq_iff {sample sample' : SurfaceSample R G V}
    (hgraspW : sample.graspW = sample'.graspW) :
    sampleNode number stream spatial sample = sampleNode number stream spatial sample' ↔
      XMLHelpers.QToString stream (position spatial sample) =
        XMLHelpers.QToString stream (position spatial sample') ∧
      XMLHelpers.QToString stream (angles spatial sample) =
        XMLHelpers.QToString stream (angles spatial sample') := by
  have hnode (sample : SurfaceSample R G V) : sampleNode number stream spatial sample =
      .node "" [("Pos", .leaf (XMLHelpers.QToString stream (position spatial sample))),
        ("RPY", .leaf (XMLHelpers.QToString stream (angles spatial sample))),
        ("GraspW", .leaf (number.text sample.graspW))] := rfl
  rw [hnode, hnode, hgraspW]
  simp [PTree.leaf]

end

section
variable {lexicalCast : String → Option Double} (h : ReadsNearest lexicalCast)
  {spatial : Spatial Double G V} {make : FromNumbers Double G V}

/-- Saving the samples that were loaded makes the same file if and only if the angles found in
the rotations have the same six digits. -/
theorem saveToXML_stored_iff (hcoord : Coordinates spatial make)
    {samples : List (SurfaceSample Double G V)}
    (hnormal : ∀ sample ∈ samples, ∀ i < 3, Normal (spatial.coord sample.transform.P i)) :
    saveToXML (precise h) (Util.stream 6 lexicalCast) spatial
        (samples.map (stored spatial make sixDigits)) =
      saveToXML (precise h) (Util.stream 6 lexicalCast) spatial samples ↔
    ∀ sample ∈ samples, ∀ i < 3,
      roundTo 10 6 (spatial.rpy (stored spatial make sixDigits sample).transform.R i).value =
        roundTo 10 6 (spatial.rpy sample.transform.R i).value := by
  rw [saveToXML_eq_iff, List.map_map, List.map_inj_left]
  refine forall₂_congr fun sample hmem => ?_
  have hgraspW : (stored spatial make sixDigits sample).graspW = sample.graspW := rfl
  rw [Function.comp_apply, sampleNode_eq_iff hgraspW, QToString_eq_iff, QToString_eq_iff]
  have hposition : (position spatial (stored spatial make sixDigits sample)).coords.map
      (streamed 6) = (position spatial sample).coords.map (streamed 6) := by
    simp only [position, List.map_cons, List.map_nil]
    rw [hcoord.coord_stored sixDigits sample (by decide),
      hcoord.coord_stored sixDigits sample (by decide),
      hcoord.coord_stored sixDigits sample (by decide),
      streamed_sixDigits (hnormal sample hmem 0 (by decide)),
      streamed_sixDigits (hnormal sample hmem 1 (by decide)),
      streamed_sixDigits (hnormal sample hmem 2 (by decide))]
  refine (and_iff_right hposition).trans ?_
  simp only [angles, List.map_cons, List.map_nil, Util.stream, List.cons.injEq,
    streamed_eq_streamed_iff, and_true]
  constructor
  · rintro ⟨h0, h1, h2⟩ i hi
    match i, hi with
    | 0, _ => exact h0
    | 1, _ => exact h1
    | 2, _ => exact h2
  · intro hall
    exact ⟨hall 0 (by decide), hall 1 (by decide), hall 2 (by decide)⟩

end

theorem saveToXML_stored_iff_one :
    saveToXML (precise readsNearest_lexicalCast) (Util.stream 6 lexicalCast) Sample.spatial
        ([Sample.sample].map (stored Sample.spatial Sample.make sixDigits)) =
      saveToXML (precise readsNearest_lexicalCast) (Util.stream 6 lexicalCast) Sample.spatial
        [Sample.sample] := by
  refine (saveToXML_stored_iff readsNearest_lexicalCast Sample.coordinates ?_).mpr ?_
  · intro sample hmem i _
    obtain rfl := List.mem_singleton.mp hmem
    exact Sample.normal_triple i
  · intro sample hmem i hi
    obtain rfl := List.mem_singleton.mp hmem
    match i, hi with
    | 0, _ => exact roundTo_sixDigits (Sample.normal_triple 0)
    | 1, _ => exact roundTo_sixDigits (Sample.normal_triple 1)
    | 2, _ => exact roundTo_sixDigits (Sample.normal_triple 2)

end SurfaceSample
end Gripperz.Grasps
