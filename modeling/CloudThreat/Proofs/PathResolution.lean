import CloudThreat.Path
import CloudThreat.Proofs.CutTexts
import CloudThreat.Proofs.RecordReading
import CloudThreat.Resource

namespace CloudThreat

namespace Path

theorem segments_ne_nil (path : String) : segments path ≠ [] :=
  cut_ne_nil '.' path.toList

theorem segments_append (p q : String) :
    segments (p ++ "." ++ q) = segments p ++ segments q := by
  have joined : (p ++ "." ++ q).toList = p.toList ++ '.' :: q.toList := by simp
  rw [segments, joined, cut_append]
  rfl

theorem segments_of_not_mem {path : String} (plain : '.' ∉ path.toList) :
    segments path = [path.toList] :=
  cut_of_not_mem plain

theorem resolve_of_not_mem {path : String} (plain : '.' ∉ path.toList) (value : Json) :
    resolve value path = step value path.toList := by
  rw [resolve, segments_of_not_mem plain, List.foldlM_cons]
  exact bind_pure _

theorem step_of_get? {value found : Json} {key : String} (h : value.get? key = some found) :
    step value key.toList = found.nonNull? := by
  cases value with
  | obj fields =>
    rw [Json.get?] at h
    rw [step, String.ofList_toList, h]
    rfl
  | _ => cases h

theorem resolve_append (value : Json) (p q : String) :
    resolve value (p ++ "." ++ q) = (resolve value p).bind fun found => resolve found q := by
  rw [resolve, segments_append, List.foldlM_append]
  rfl

theorem nonNull?_ne_null (value : Json) : value.nonNull? ≠ some .null := by
  cases value <;> simp [Json.nonNull?]

theorem bind_nonNull?_ne_null (found : Option Json) :
    found.bind Json.nonNull? ≠ some .null := by
  cases found with
  | none => simp
  | some value => exact nonNull?_ne_null value

theorem step_ne_null (value : Json) (segment : List Char) : step value segment ≠ some .null := by
  cases value with
  | obj fields => exact bind_nonNull?_ne_null _
  | arr items =>
    rw [step]
    cases (index? segment).bind (position? items.length) with
    | none => simp
    | some i => exact bind_nonNull?_ne_null _
  | _ => simp [step]

theorem foldlM_step_ne_null {segs : List (List Char)} (some : segs ≠ []) (value : Json) :
    segs.foldlM step value ≠ Option.some .null := by
  induction segs generalizing value with
  | nil => exact absurd rfl some
  | cons segment rest ih =>
    rw [List.foldlM_cons]
    cases hs : step value segment with
    | none => simp
    | some next =>
      cases rest with
      | nil =>
        intro h
        exact step_ne_null value segment (hs.trans h)
      | cons segment' rest => exact ih (by simp) next

theorem resolve_ne_null (value : Json) (path : String) : resolve value path ≠ some .null :=
  foldlM_step_ne_null (segments_ne_nil path) value

theorem resolve_null (path : String) : resolve .null path = none := by
  cases hs : segments path with
  | nil => exact absurd hs (segments_ne_nil path)
  | cons segment rest =>
    rw [resolve, hs]
    rfl

theorem nonNull?_bind_resolve (value : Json) (path : String) :
    value.nonNull?.bind (fun found => resolve found path) = resolve value path := by
  cases value with
  | null => exact (resolve_null path).symm
  | _ => rfl

end Path

namespace Resource

theorem document_get?_properties (r : Resource) :
    r.document.get? "properties" = some r.properties := by
  obtain ⟨id, resourceType, name, fullName, provider, location, line, dependsOn, properties⟩ := r
  cases id with
  | none =>
    have distinct : (["resource_type", "name", "full_name", "cloud_provider", "location",
      "line_number", "depends_on", "properties"] : List String).Nodup := by decide
    exact JsonObject.get?_object distinct rfl
  | some id =>
    have distinct : (["resource_type", "name", "full_name", "cloud_provider", "location",
      "line_number", "depends_on", "properties", "id"] : List String).Nodup := by decide
    exact JsonObject.get?_object distinct rfl

theorem resolve_properties (r : Resource) :
    Path.resolve r.document "properties" = r.properties.nonNull? := by
  rw [Path.resolve_of_not_mem (by decide)]
  exact Path.step_of_get? r.document_get?_properties

end Resource

namespace Path

/-- A path in two parts goes on from where its first part led, and no path leads to a null. Below
`properties`, paths into the document of a resource are paths into its properties. -/
theorem resolve_composes :
    (∀ (value : Json) (p q : String),
      resolve value (p ++ "." ++ q) = (resolve value p).bind fun found => resolve found q) ∧
      (∀ (value : Json) (path : String), resolve value path ≠ some .null) ∧
      ∀ (r : Resource) (path : String),
        resolve r.document ("properties." ++ path) = resolve r.properties path := by
  refine ⟨resolve_append, resolve_ne_null, fun r path => ?_⟩
  have split : "properties." ++ path = "properties" ++ "." ++ path := rfl
  rw [split, resolve_append, Resource.resolve_properties, nonNull?_bind_resolve]

end Path

end CloudThreat
