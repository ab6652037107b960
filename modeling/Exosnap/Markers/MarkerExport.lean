/-
  The sidecar of an export (`MarkerSidecar.h`, `EditTimelineModel.h`): the markers are retimed, and
  written beside the exported file or, if none is left, taken away there.

  Which paths lead to one file is the file system's to say: it compares names character by character,
  after a folding of each that is a parameter. What is done to files is a list of operations. The
  sidecar's path keeps nothing of the media's extension, so that two media files of one stem have one
  sidecar (`export_own_sidecar_iff`).
-/
import Exosnap.Markers.MarkerSidecar
import Exosnap.Services.FilesystemPath

namespace Exosnap.Markers.Export

open Services (Path)
open Services.Path (splitExtension)

/-! ## The plan -/

/-- The path convention, for a path with its folder. -/
def DeriveMarkerSidecarPath (mediaPath : Path) : Path :=
  if mediaPath.isEmpty then { names := [] }
  else
    { mediaPath with
      names := mediaPath.names.dropLast ++
        [(splitExtension mediaPath.filename).1 ++ ".markers.json"] }

/-- A time of a marker as a signed one. -/
def toSigned (timeMs : Nat) : Int := Int.bmod timeMs (2 ^ 64)

/-- The markers in the half-open window, by the time of the clip. -/
def RetimeMarkersForTrim (markers : List RecordingMarker) (trimStartMs trimEndMs : Int) :
    List RecordingMarker :=
  if trimEndMs ≤ trimStartMs then []
  else
    (markers.filter fun m => !(toSigned m.timeMs < trimStartMs || toSigned m.timeMs ≥ trimEndMs)).map
      fun m => { m with timeMs := (toSigned m.timeMs - trimStartMs).toNat }

structure MarkerExportPlan where
  sidecarPath : Path
  media : String
  markers : List RecordingMarker
  deriving DecidableEq

def MarkerExportPlan.shouldWrite (plan : MarkerExportPlan) : Bool :=
  !plan.sidecarPath.isEmpty && !plan.markers.isEmpty

def PlanMarkerSidecarForExport (exportMediaPath : Path) (retimedMarkers : List RecordingMarker) :
    MarkerExportPlan where
  sidecarPath := DeriveMarkerSidecarPath exportMediaPath
  media := exportMediaPath.filename
  markers := retimedMarkers

/-! ## What is done to files -/

inductive FileOp where
  | write (path : Path) (contents : MarkerSidecar)
  | remove (path : Path)

def FileOp.path : FileOp → Path
  | write path _ => path
  | remove path => path

/-- Whether it succeeded, and what was done. A write that the system refuses does nothing, and a file
    that is not there is removed as well. -/
def ApplyMarkerExportPlan (plan : MarkerExportPlan) (writes : Bool) : Bool × List FileOp :=
  if plan.sidecarPath.isEmpty then (true, [])
  else if plan.shouldWrite then
    if writes then
      (true, [.write plan.sidecarPath (SerializeMarkerSidecar plan.markers plan.media none)])
    else (false, [])
  else (true, [.remove plan.sidecarPath])

/-- The sidecar step of an export, of the markers in a window. -/
def exportSidecar (target : Path) (markers : List RecordingMarker) (startMs endMs : Int)
    (writes : Bool) : List FileOp :=
  (ApplyMarkerExportPlan
    (PlanMarkerSidecarForExport target (RetimeMarkersForTrim markers startMs endMs)) writes).2

/-! ## Files -/

section
variable (fold : Char → Char)

/-- A path as the file system compares it. -/
def folded (p : Path) : Path where
  rootName := p.rootName.map fold
  rootDirectory := p.rootDirectory
  names := p.names.map (String.map fold)

/-- The sidecars on a disk, by the folded path. -/
abbrev Disk := Path → Option MarkerSidecar

def FileOp.run (op : FileOp) (disk : Disk) : Disk :=
  match op with
  | .write path contents => Function.update disk (folded fold path) (some contents)
  | .remove path => Function.update disk (folded fold path) none

/-- The operations of an export are on no path that another existing media file has its sidecar
    at. -/
def OnlyOwnSidecar (media : List Path) (target : Path) (ops : List FileOp) : Prop :=
  ∀ op ∈ ops, ∀ m ∈ media, m.isEmpty = false → folded fold m ≠ folded fold target →
    folded fold (DeriveMarkerSidecarPath m) ≠ folded fold op.path

/-- Two files in one folder, whose names differ in the extension at most. -/
def SharesStem (a b : Path) : Prop :=
  a.rootName.map fold = b.rootName.map fold ∧ a.rootDirectory = b.rootDirectory ∧
    a.names.dropLast.map (String.map fold) = b.names.dropLast.map (String.map fold) ∧
    (splitExtension a.filename).1.map fold = (splitExtension b.filename).1.map fold

end

variable {fold : Char → Char} {media : List Path} {target : Path}

/-- A media file's name alone has the sidecar of the convention for names. -/
theorem derive_name {name : String} (h : name ≠ "") :
    DeriveMarkerSidecarPath { names := [name] } =
      { names := [Markers.DeriveMarkerSidecarPath name] } := by
  unfold DeriveMarkerSidecarPath Markers.DeriveMarkerSidecarPath
  rw [if_neg (by simp [Path.isEmpty]), if_neg h]
  rfl

theorem map_append_inj {a b suffix : String} :
    (a ++ suffix).map fold = (b ++ suffix).map fold ↔ a.map fold = b.map fold := by
  simp only [← String.toList_inj, String.toList_map, String.toList_append, List.map_append,
    List.append_cancel_right_eq]

/-- One sidecar for two media files: the names differ in the extension at most. -/
theorem derive_eq_iff {a b : Path} (ha : a.isEmpty = false) (hb : b.isEmpty = false) :
    folded fold (DeriveMarkerSidecarPath a) = folded fold (DeriveMarkerSidecarPath b) ↔
      SharesStem fold a b := by
  unfold DeriveMarkerSidecarPath folded SharesStem
  rw [if_neg (by simp [ha]), if_neg (by simp [hb])]
  simp only [Services.Path.mk.injEq, List.map_append, List.map_singleton]
  constructor
  · rintro ⟨hroot, hdirectory, hnames⟩
    obtain ⟨hfolder, hname⟩ := List.append_inj' hnames (by simp only [List.length_singleton])
    exact ⟨hroot, hdirectory, hfolder, map_append_inj.mp (List.singleton_inj.mp hname)⟩
  · rintro ⟨hroot, hdirectory, hfolder, hname⟩
    exact ⟨hroot, hdirectory, by rw [hfolder, map_append_inj.mpr hname]⟩

theorem isEmpty_derive (h : target.isEmpty = false) :
    (DeriveMarkerSidecarPath target).isEmpty = false := by
  unfold DeriveMarkerSidecarPath
  rw [if_neg (by simp [h])]
  simp [Path.isEmpty]

/-- An export does at most one thing, to the sidecar of its target. -/
theorem path_of_mem_exportSidecar {markers : List RecordingMarker} {startMs endMs : Int}
    {writes : Bool} {op : FileOp} (h : op ∈ exportSidecar target markers startMs endMs writes) :
    target.isEmpty = false ∧ op.path = DeriveMarkerSidecarPath target := by
  unfold exportSidecar ApplyMarkerExportPlan PlanMarkerSidecarForExport at h
  dsimp only at h
  split at h
  · cases h
  next hnonempty =>
  have htarget : target.isEmpty = false := by
    by_contra hempty
    refine hnonempty ?_
    rw [DeriveMarkerSidecarPath, if_pos (eq_true_of_ne_false hempty)]
    rfl
  refine ⟨htarget, ?_⟩
  split at h
  · split at h
    · obtain rfl := List.mem_singleton.mp h
      rfl
    · cases h
  · obtain rfl := List.mem_singleton.mp h
    rfl

/-- Where the system does not refuse the write, something is done. -/
theorem exists_mem_exportSidecar (markers : List RecordingMarker) (startMs endMs : Int)
    (h : target.isEmpty = false) :
    ∃ op, op ∈ exportSidecar target markers startMs endMs true := by
  unfold exportSidecar ApplyMarkerExportPlan PlanMarkerSidecarForExport
  dsimp only
  rw [isEmpty_derive h, if_neg Bool.false_ne_true]
  split
  · exact ⟨_, List.mem_singleton_self _⟩
  · exact ⟨_, List.mem_singleton_self _⟩

/-- What is left alone is on the disk as it was. -/
theorem sidecar_kept {ops : List FileOp} (h : OnlyOwnSidecar fold media target ops) (disk : Disk)
    {m : Path} (hm : m ∈ media) (hmedia : m.isEmpty = false)
    (hother : folded fold m ≠ folded fold target) :
    ops.foldl (fun disk op => op.run fold disk) disk (folded fold (DeriveMarkerSidecarPath m)) =
      disk (folded fold (DeriveMarkerSidecarPath m)) := by
  induction ops generalizing disk with
  | nil => rfl
  | cons op ops ih =>
    have hne := h op List.mem_cons_self m hm hmedia hother
    rw [List.foldl_cons, ih fun o ho => h o (List.mem_cons_of_mem op ho)]
    cases op <;> exact Function.update_of_ne hne _ disk

end Exosnap.Markers.Export
