import AsterYggdrasil.Frontend.Painting
import AsterYggdrasil.Frontend.PixelBuffer
import AsterYggdrasil.Frontend.SkinHistory

/-!
# The regions of a skin

A skin shows the faces of six boxes in two layers.  Where they are depends on the model, of
which the slim one has narrower arms, and scales with the canvas.

What is needed of the tables of the arms is decided on a canvas of 64 pixels: the faces are apart
from each other and within four blocks, and those of the two models are listed in one order.
-/

namespace AsterYggdrasil.SkinPixels

open Painting SkinEditor

inductive SkinEditorLayer
  | base | overlay
  deriving DecidableEq, Repr

inductive SkinPart
  | head | body | rightArm | leftArm | rightLeg | leftLeg
  deriving DecidableEq, Repr

inductive SkinFace
  | top | bottom | right | front | left | back
  deriving DecidableEq, Repr

abbrev SkinRect := Rect

structure SkinBox where
  part : SkinPart
  u : Nat
  v : Nat
  width : Nat
  height : Nat
  depth : Nat
  deriving DecidableEq, Repr

structure SkinFaceRegion where
  face : SkinFace
  layer : SkinEditorLayer
  part : SkinPart
  x : Nat
  y : Nat
  width : Nat
  height : Nat
  deriving DecidableEq, Repr

/-- `skinBoxes`. -/
def skinBoxes (model : MinecraftTextureModel) (layer : SkinEditorLayer) : List SkinBox :=
  let armWidth := if model = .slim then 3 else 4
  match layer with
  | .base =>
      [⟨.head, 0, 0, 8, 8, 8⟩, ⟨.body, 16, 16, 8, 12, 4⟩, ⟨.rightLeg, 0, 16, 4, 12, 4⟩,
        ⟨.leftLeg, 16, 48, 4, 12, 4⟩, ⟨.rightArm, 40, 16, armWidth, 12, 4⟩,
        ⟨.leftArm, 32, 48, armWidth, 12, 4⟩]
  | .overlay =>
      [⟨.head, 32, 0, 8, 8, 8⟩, ⟨.body, 16, 32, 8, 12, 4⟩, ⟨.rightLeg, 0, 32, 4, 12, 4⟩,
        ⟨.leftLeg, 0, 48, 4, 12, 4⟩, ⟨.rightArm, 40, 32, armWidth, 12, 4⟩,
        ⟨.leftArm, 48, 48, armWidth, 12, 4⟩]

/-- `boxFaces`. -/
def boxFaces (box : SkinBox) (layer : SkinEditorLayer) : List SkinFaceRegion :=
  let ⟨part, u, v, width, height, depth⟩ := box
  [⟨.top, layer, part, u + depth, v, width, depth⟩,
    ⟨.bottom, layer, part, u + depth + width, v, width, depth⟩,
    ⟨.right, layer, part, u, v + depth, depth, height⟩,
    ⟨.front, layer, part, u + depth, v + depth, width, height⟩,
    ⟨.left, layer, part, u + depth + width, v + depth, depth, height⟩,
    ⟨.back, layer, part, u + depth + width + depth, v + depth, width, height⟩]

namespace SkinFaceRegion

def rect (region : SkinFaceRegion) : SkinRect :=
  ⟨region.x, region.y, region.width, region.height⟩

def scale (scale : Nat) (region : SkinFaceRegion) : SkinFaceRegion :=
  { region with
    x := region.x * scale
    y := region.y * scale
    width := region.width * scale
    height := region.height * scale }

/-- Both show the same face of the same box. -/
def Corresponds (region region' : SkinFaceRegion) : Prop :=
  region.face = region'.face ∧ region.layer = region'.layer ∧ region.part = region'.part

instance (region region' : SkinFaceRegion) : Decidable (region.Corresponds region') :=
  inferInstanceAs (Decidable (_ ∧ _ ∧ _))

end SkinFaceRegion

/-- `getSkinFaceRegions`, with the scale that `skinScale` has given. -/
def getSkinFaceRegions (model : MinecraftTextureModel) (layer : SkinEditorLayer) (scale : Nat) :
    List SkinFaceRegion :=
  ((skinBoxes model layer).flatMap (boxFaces · layer)).map (·.scale scale)

/-- The regions of the arms. -/
def armRegions (model : MinecraftTextureModel) (layer : SkinEditorLayer) (scale : Nat) :
    List SkinFaceRegion :=
  (getSkinFaceRegions model layer scale).filter fun region =>
    region.part = .rightArm || region.part = .leftArm

/-- The blocks of the arms, on a canvas of 64 pixels. -/
def armBlocks : List SkinRect :=
  [⟨40, 16, 16, 16⟩, ⟨40, 32, 16, 16⟩, ⟨32, 48, 16, 16⟩, ⟨48, 48, 16, 16⟩]

/-- The arms in both layers. -/
def armFaces (model : MinecraftTextureModel) (scale : Nat) : List SkinFaceRegion :=
  [SkinEditorLayer.base, SkinEditorLayer.overlay].flatMap (armRegions model · scale)

/-- The regions of the arms of two models, in pairs. -/
def armPairs (fromModel toModel : MinecraftTextureModel) (scale : Nat) :
    List (SkinFaceRegion × SkinFaceRegion) :=
  [SkinEditorLayer.base, SkinEditorLayer.overlay].flatMap fun layer =>
    (armRegions fromModel layer scale).zip (armRegions toModel layer scale)

/-! ## The tables -/

section Tables

variable (model fromModel toModel : MinecraftTextureModel) (layer : SkinEditorLayer)
  (scale : Nat)

/-- The tables scale as a whole. -/
theorem armRegions_scale :
    armRegions model layer scale = (armRegions model layer 1).map (·.scale scale) := by
  cases model <;> cases layer <;>
    simp [armRegions, getSkinFaceRegions, skinBoxes, boxFaces, SkinFaceRegion.scale]

theorem length_armRegions : (armRegions model layer scale).length = 12 := by
  rw [armRegions_scale, List.length_map]
  cases model <;> cases layer <;> decide

theorem armFaces_scale : armFaces model scale = (armFaces model 1).map (·.scale scale) := by
  simp only [armFaces, List.flatMap_cons, List.flatMap_nil, List.append_nil, List.map_append]
  rw [← armRegions_scale, ← armRegions_scale]

theorem armPairs_scale :
    armPairs fromModel toModel scale =
      (armPairs fromModel toModel 1).map fun p => (p.1.scale scale, p.2.scale scale) := by
  have hzip : ∀ layer, (armRegions fromModel layer scale).zip (armRegions toModel layer scale) =
      ((armRegions fromModel layer 1).zip (armRegions toModel layer 1)).map
        (Prod.map (·.scale scale) (·.scale scale)) := by
    intro layer
    rw [armRegions_scale fromModel, armRegions_scale toModel, List.zip_map]
  simp only [armPairs, List.flatMap_cons, List.flatMap_nil, List.append_nil, List.map_append]
  rw [hzip, hzip]
  rfl

theorem map_fst_armPairs :
    (armPairs fromModel toModel scale).map Prod.fst = armFaces fromModel scale := by
  simp only [armPairs, armFaces, List.flatMap_cons, List.flatMap_nil, List.append_nil,
    List.map_append]
  rw [List.map_fst_zip (by rw [length_armRegions, length_armRegions]),
    List.map_fst_zip (by rw [length_armRegions, length_armRegions])]

theorem map_snd_armPairs :
    (armPairs fromModel toModel scale).map Prod.snd = armFaces toModel scale := by
  simp only [armPairs, armFaces, List.flatMap_cons, List.flatMap_nil, List.append_nil,
    List.map_append]
  rw [List.map_snd_zip (by rw [length_armRegions, length_armRegions]),
    List.map_snd_zip (by rw [length_armRegions, length_armRegions])]

end Tables

section Faces

variable {model fromModel toModel : MinecraftTextureModel} {scale : Nat}

/-- **The faces of the arms are apart.** -/
theorem armFaces_apart :
    (armFaces model scale).Pairwise fun region region' => region.rect.Apart region'.rect := by
  have hunit : (armFaces model 1).Pairwise fun region region' =>
      region.rect.Apart region'.rect := by
    cases model <;> decide
  rw [armFaces_scale, List.pairwise_map]
  exact hunit.imp fun h => h.scale scale

/-- **The faces of the arms are within the blocks.** -/
theorem armFaces_within :
    ∀ region ∈ armFaces model scale, ∃ block ∈ armBlocks, region.rect.Within (block.scale scale) := by
  have hunit : ∀ region ∈ armFaces model 1, ∃ block ∈ armBlocks, region.rect.Within block := by
    cases model <;> decide
  intro region hregion
  rw [armFaces_scale] at hregion
  obtain ⟨unit, hmem, rfl⟩ := List.mem_map.mp hregion
  obtain ⟨block, hblock, hwithin⟩ := hunit unit hmem
  exact ⟨block, hblock, hwithin.scale scale⟩

/-- The blocks are within the canvas. -/
theorem armBlocks_within (scale : Nat) :
    ∀ block ∈ armBlocks, (block.scale scale).Within ⟨0, 0, 64 * scale, 64 * scale⟩ := by
  have hunit : ∀ block ∈ armBlocks, block.Within ⟨0, 0, 64, 64⟩ := by decide
  intro block hblock
  have hscaled := (hunit block hblock).scale scale
  simpa only [Rect.scale, Nat.zero_mul] using hscaled

/-- **The tables list the faces in one order.** -/
theorem armPairs_corresponds :
    ∀ p ∈ armPairs fromModel toModel scale, p.1.Corresponds p.2 := by
  have hunit : ∀ p ∈ armPairs fromModel toModel 1, p.1.Corresponds p.2 := by
    cases fromModel <;> cases toModel <;> decide
  intro p hp
  rw [armPairs_scale] at hp
  obtain ⟨q, hmem, rfl⟩ := List.mem_map.mp hp
  exact hunit q hmem

/-- No face of an arm is empty. -/
theorem armFaces_pos (hscale : 0 < scale) :
    ∀ region ∈ armFaces model scale, 0 < region.width ∧ 0 < region.height := by
  have hunit : ∀ region ∈ armFaces model 1, 0 < region.width ∧ 0 < region.height := by
    cases model <;> decide
  intro region hregion
  rw [armFaces_scale] at hregion
  obtain ⟨unit, hmem, rfl⟩ := List.mem_map.mp hregion
  obtain ⟨hwidth, hheight⟩ := hunit unit hmem
  exact ⟨Nat.mul_pos hwidth hscale, Nat.mul_pos hheight hscale⟩

/-- There is one face of each kind. -/
theorem armFaces_unique :
    ∀ region ∈ armFaces model scale, ∀ region' ∈ armFaces model scale,
      region.Corresponds region' → region = region' := by
  have hunit : ∀ region ∈ armFaces model 1, ∀ region' ∈ armFaces model 1,
      region.Corresponds region' → region = region' := by
    cases model <;> decide
  intro region hregion region' hregion' hsame
  rw [armFaces_scale] at hregion hregion'
  obtain ⟨unit, hmem, rfl⟩ := List.mem_map.mp hregion
  obtain ⟨unit', hmem', rfl⟩ := List.mem_map.mp hregion'
  rw [hunit unit hmem unit' hmem' hsame]

end Faces

end AsterYggdrasil.SkinPixels
