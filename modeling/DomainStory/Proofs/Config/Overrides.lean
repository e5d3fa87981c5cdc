import DomainStory.Config
import DomainStory.Proofs.Json.Merge

/-!
# Overrides laid over twice

Laying the same value over a second time changes nothing, and neither does laying what came out over
the base again (`merge_merge`, `merge_onto_merge`). Merging is not associative, so that both
are shown by induction on the values; a part that only one of the two has meets itself in the second
merge, and a value laid over itself is that value (`merge_self`).

A configuration that was read from a text has the defaults in it already. An engine lays it over the
defaults once more, which therefore does no harm: `merge_twice` puts this together. The documents
concerned are unambiguous, since reading unites repeated fields (`unambiguous_parse?`).
-/

namespace DomainStory

namespace Json

/-! ## Merging twice -/

section

variable {base upper value : Json}

theorem merge_self (h : value.Unambiguous) : value.merge value = value := by
  induction h with
  | obj hnodup _ ih =>
    rw [merge_obj_obj]
    refine congrArg obj (Fields.ext_get? hnodup ?_ fun key => ?_)
    · -- no name is new
      rw [names_mergeFields hnodup]
      simp
    · rw [get?_mergeFields hnodup]
      cases hget : Fields.get? _ key with
      | none => rfl
      | some inner => rw [overlay_some, ih _ ((Fields.get?_eq_some_iff hnodup).mp hget)]
  | arr => rfl
  | atom hobject => exact merge_of_not_object hobject

/-- What a merge gives may be laid over the base again. -/
theorem merge_merge (hbase : base.Unambiguous) (hupper : upper.Unambiguous) :
    base.merge (base.merge upper) = base.merge upper := by
  induction hupper generalizing base with
  | @obj above habove _ ih =>
    cases base with
    | obj fields =>
      obtain ⟨hfields, hinner⟩ := unambiguous_obj_iff.mp hbase
      have hmerged := nodup_names_mergeFields habove hfields
      rw [merge_obj_obj, merge_obj_obj]
      refine congrArg obj (Fields.ext_get? hmerged ?_ fun key => ?_)
      · -- the names that were new are new again
        rw [names_mergeFields hmerged, names_mergeFields habove, List.filter_append]
        simp
      · rw [get?_mergeFields hmerged, get?_mergeFields habove]
        cases hold : Fields.get? fields key with
        | none => rw [overlay_none_left]
        | some old =>
          have hmem := (Fields.get?_eq_some_iff hfields).mp hold
          cases hnew : above.get? key with
          | none => rw [overlay_none_right, overlay_some, merge_self (hinner _ hmem)]
          | some new =>
            rw [overlay_some, overlay_some,
              ih _ ((Fields.get?_eq_some_iff habove).mp hnew) (hinner _ hmem)]
    | _ => rfl
  | arr => rfl
  | atom hobject => rw [merge_of_not_object hobject, merge_of_not_object hobject]

/-- The upper value may be laid over what a merge gives again. -/
theorem merge_onto_merge (hbase : base.Unambiguous) (hupper : upper.Unambiguous) :
    (base.merge upper).merge upper = base.merge upper := by
  induction hupper generalizing base with
  | @obj above habove habove' ih =>
    cases base with
    | obj fields =>
      obtain ⟨hfields, hinner⟩ := unambiguous_obj_iff.mp hbase
      rw [merge_obj_obj, merge_obj_obj]
      refine congrArg obj
        (Fields.ext_get? (nodup_names_mergeFields habove hfields) ?_ fun key => ?_)
      · -- by now no name is new
        rw [names_mergeFields habove, names_mergeFields habove]
        simp +contextual
      · rw [get?_mergeFields habove, get?_mergeFields habove]
        cases hnew : above.get? key with
        | none => rw [overlay_none_right]
        | some new =>
          have hmem := (Fields.get?_eq_some_iff habove).mp hnew
          cases hold : Fields.get? fields key with
          | none => rw [overlay_none_left, overlay_some, merge_self (habove' _ hmem)]
          | some old =>
            rw [overlay_some, overlay_some,
              ih _ hmem (hinner _ ((Fields.get?_eq_some_iff hfields).mp hold))]
    | _ => exact merge_self (.obj habove habove')
  | arr => rfl
  | atom hobject => rw [merge_of_not_object hobject, merge_of_not_object hobject]

end

/-! ## Documents -/

mutual

theorem unambiguous_united : (value : Json) → (united value).Unambiguous
  | .arr items => by
    rw [united]
    exact .arr (unambiguous_unitedItems items)
  | .obj fields => by
    rw [united]
    obtain ⟨hnodup, hfields⟩ := unambiguous_unitedFields [] fields List.nodup_nil (by simp)
    exact .obj hnodup hfields
  | .null | .bool _ | .int _ | .float _ | .str _ | .unreadable => .atom rfl rfl

theorem unambiguous_unitedItems :
    (items : List Json) → ∀ item ∈ unitedItems items, item.Unambiguous
  | [] => by simp [unitedItems]
  | item :: rest => by
    rw [unitedItems, List.forall_mem_cons]
    exact ⟨unambiguous_united item, unambiguous_unitedItems rest⟩

theorem unambiguous_unitedFields : (done fields : Fields) → done.names.Nodup →
    (∀ field ∈ done, field.2.Unambiguous) →
    (Fields.names (unitedFields done fields)).Nodup ∧
      ∀ field ∈ unitedFields done fields, field.2.Unambiguous
  | done, [], hnodup, hdone => ⟨hnodup, hdone⟩
  | done, (key, value) :: rest, hnodup, hdone => by
    rw [unitedFields]
    refine unambiguous_unitedFields _ rest (Fields.nodup_names_set hnodup _ _) fun field hmem => ?_
    rcases Fields.mem_set hmem with rfl | hmem
    · exact unambiguous_united value
    · exact hdone field hmem

end

/-- Whatever is read from a text is unambiguous. -/
theorem unambiguous_parse? {text : String} {document : Json} (h : parse? text = some document) :
    document.Unambiguous := by
  unfold parse? at h
  split at h
  · next value _ =>
    split at h
    · obtain rfl := Option.some.inj h
      exact unambiguous_united value
    · exact absurd h (by simp)
  · exact absurd h (by simp)

end Json

/-! ## Configurations -/

namespace Config

theorem unambiguous_default : default.document.Unambiguous := by
  simp [default, textArray, Json.Fields.names]

/-- Laying overrides over a value twice is laying them over it once, whichever of the two merges the
second one repeats. An engine that starts from a configuration read from a text has the defaults
with the text laid over them once. -/
theorem merge_twice {base upper : Json} (hbase : base.Unambiguous) (hupper : upper.Unambiguous) :
    base.merge (base.merge upper) = base.merge upper ∧
      (base.merge upper).merge upper = base.merge upper ∧
      ∀ text document, Json.parse? text = some document → document.isObject = true →
        ∃ config, ofText? text = .ok config ∧ config.forEngine = default.override document := by
  refine ⟨Json.merge_merge hbase hupper, Json.merge_onto_merge hbase hupper, ?_⟩
  intro text document hparse hobject
  refine ⟨default.override document, ?_, ?_⟩
  · rw [ofText?, hparse]
    exact if_pos hobject
  · exact congrArg Config.mk
      (Json.merge_merge unambiguous_default (Json.unambiguous_parse? hparse))

/-- A text that names a setting twice. -/
def narrowing : String :=
  r#"{"story": {}, "layout": {"padding": 80, "columns": 3, "padding": 40}}"#

theorem merge_twice_narrowing :
    Json.settings.Unambiguous ∧ Json.overrides.Unambiguous ∧
      Json.settings.merge (Json.settings.merge Json.overrides) = .obj [
        ("layout", .obj [("padding", .int 40), ("rounds", .int 80), ("columns", .int 3)]),
        ("palette", .str "#000000")] ∧
      (Json.settings.merge Json.overrides).merge Json.overrides
        = Json.settings.merge Json.overrides ∧
      ∃ document, Json.parse? narrowing = some document ∧ document.isObject = true ∧
        ∃ config, ofText? narrowing = .ok config ∧ config.forEngine = default.override document ∧
          config.forEngine.count? "layout.padding" = some 40 := by
  have hsettings : Json.settings.Unambiguous := by simp [Json.settings, Json.Fields.names]
  obtain ⟨hbase, hupper, hengine⟩ := merge_twice hsettings Json.unambiguous_overrides
  have hread : (Json.parse? narrowing).map Json.isObject = some true := by decide +kernel
  have hpadding : (ofText? narrowing).toOption.bind
      (fun config => config.forEngine.count? "layout.padding") = some 40 := by decide +kernel
  obtain ⟨document, hparse, hobject⟩ := Option.map_eq_some_iff.mp hread
  obtain ⟨config, hconfig, hforEngine⟩ := hengine narrowing document hparse hobject
  rw [hconfig] at hpadding
  exact ⟨hsettings, Json.unambiguous_overrides, hbase.trans rfl, hupper, document, hparse, hobject,
    config, hconfig, hforEngine, hpadding⟩

end Config

end DomainStory
