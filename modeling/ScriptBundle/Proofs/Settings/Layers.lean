import Mathlib.Data.List.Basic
import ScriptBundle.Settings

/-! Layers of settings on top of each other. A setting comes from the highest layer that has it: what
the layers say of other settings does not count, nor what lower layers say, nor in which groups the
layers are put together. -/
namespace ScriptBundle

/-- Whether an edition has the name. -/
def Edition.IsName (name : String) : Prop := ∃ edition, ofName? name = some edition

theorem parseTarget_eq_ok_iff {target : String} {edition : Edition} :
    parseTarget target = .ok edition ↔ Edition.ofName? target = some edition := by
  unfold parseTarget
  cases Edition.ofName? target <;> simp

theorem exists_parseTarget_iff {target : String} :
    (∃ edition, parseTarget target = .ok edition) ↔ Edition.IsName target :=
  exists_congr fun _ => parseTarget_eq_ok_iff

namespace Layer

theorem combine_assoc (a b c : Layer) : (a.combine b).combine c = a.combine (b.combine c) := by
  simp [combine, Option.or_assoc]

theorem empty_combine (a : Layer) : combine {} a = a := by simp [combine]

theorem combine_empty (a : Layer) : a.combine {} = a := by simp [combine]

/-- The layers on top of each other, the first one highest. -/
def combineAll (layers : List Layer) : Layer := layers.foldr combine {}

theorem combineAll_append (layers others : List Layer) :
    combineAll (layers ++ others) = (combineAll layers).combine (combineAll others) := by
  induction layers with
  | nil => exact (empty_combine _).symm
  | cons layer rest ih => exact (congrArg layer.combine ih).trans (combine_assoc ..).symm

/-- Layers may be put together in groups. -/
theorem combineAll_flatten (groups : List (List Layer)) :
    combineAll (groups.map combineAll) = combineAll groups.flatten := by
  induction groups with
  | nil => rfl
  | cons group rest ih =>
    rw [List.flatten_cons, combineAll_append, ← ih]
    rfl

/-- Whether a part of a layer is a setting: the empty layer does not have it, and of two layers the
higher one that has it decides. -/
structure IsSetting {α : Type} (setting : Layer → Option α) : Prop where
  empty : setting {} = none
  combine (high low : Layer) : setting (high.combine low) = (setting high).or (setting low)

theorem isSetting_target : IsSetting target := ⟨rfl, by simp [combine]⟩

theorem isSetting_instantiation : IsSetting instantiation := ⟨rfl, by simp [combine]⟩

theorem isSetting_minify : IsSetting minify := ⟨rfl, by simp [combine]⟩

theorem IsSetting.combineAll {α : Type} {setting : Layer → Option α} (is : IsSetting setting)
    (layers : List Layer) : setting (combineAll layers) = layers.findSome? setting := by
  induction layers with
  | nil => exact is.empty
  | cons layer rest ih =>
    rw [Layer.combineAll, List.foldr_cons, ← Layer.combineAll, is.combine, ih, List.findSome?_cons]
    cases setting layer <;> rfl

end Layer

namespace Settings

/-- The settings that come each from the first of the layers that has it, and else are the usual ones. -/
def ofLayers (layers : List Layer) : Settings where
  target := (layers.findSome? Layer.target).getD ({} : Settings).target
  instantiation := (layers.findSome? Layer.instantiation).getD ({} : Settings).instantiation
  minify := (layers.findSome? Layer.minify).getD ({} : Settings).minify

theorem toSettings_combineAll (layers : List Layer) :
    (Layer.combineAll layers).toSettings = ofLayers layers := by
  rw [Layer.toSettings, Layer.isSetting_target.combineAll, Layer.isSetting_instantiation.combineAll,
    Layer.isSetting_minify.combineAll]
  rfl

/-- A target below one that is set does not count. -/
theorem ofLayers_overridden {above : List Layer} (set : ∃ high ∈ above, high.target.isSome)
    (layer : Layer) (below : List Layer) (target : Option String) :
    ofLayers (above ++ { layer with target } :: below) = ofLayers (above ++ layer :: below) := by
  have decided : (above.findSome? Layer.target).isSome := by simpa using set
  obtain ⟨found, decided⟩ := Option.isSome_iff_exists.mp decided
  simp [ofLayers, List.findSome?_append, decided, List.findSome?_cons]

end Settings

end ScriptBundle
