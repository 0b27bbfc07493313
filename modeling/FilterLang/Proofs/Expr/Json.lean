import FilterLang.Expr.Json
import FilterLang.Proofs.Json.Outline

/-!
# What the JSON text of an expression tells

The JSON of an expression is an object that tells the type of the node, and beside it all that the node holds: a number
has its text as a member of its own, so its value, which may be rounded or missing, need not be looked at. So the outline of
the JSON tells the tree (`outline_toJson_inj`), and so does the compact text (`compactJson_eq_iff`). Nothing is asked
of the tree: its names, numbers, operators and families may be any.
-/

namespace FilterLang

/-- The families have different names. -/
theorem Family.name_inj {family family' : Family} : family.name = family'.name ↔ family = family' := by
  cases family <;> cases family' <;> decide

namespace Expr

open Json

/-- The type that the JSON of a node tells. -/
def typeName : Expr → String
  | .identifier _ _ => "identifier"
  | .string _ => "string"
  | .integer _ => "integer"
  | .decimal _ => "decimal"
  | .null => "null"
  | .boolean _ => "boolean"
  | .list _ => "list"
  | .binary _ _ _ _ => "binary"

/-- Every node is shown as an object that tells its type. -/
theorem exists_members (e : Expr) :
    ∃ ms, e.toJson.outline = .object ms ∧ ms.lookup "type" = some (.string e.typeName) := by
  cases e with
  | identifier name reserved =>
    cases reserved <;> exact ⟨_, by rw [toJson, outline], rfl⟩
  | _ => exact ⟨_, by rw [toJson, outline], rfl⟩

theorem typeName_unique {e e' : Expr} (h : e.toJson.outline = e'.toJson.outline) : e.typeName = e'.typeName := by
  obtain ⟨ms, he, htype⟩ := exists_members e
  obtain ⟨ms', he', htype'⟩ := exists_members e'
  rw [he, he'] at h
  rw [Outline.object.inj h, htype'] at htype
  exact (Outline.string.inj (Option.some.inj htype)).symm

mutual

/-- The outline of its JSON tells a tree. -/
theorem outline_toJson_inj : ∀ e e' : Expr, e.toJson.outline = e'.toJson.outline → e = e'
  | .identifier name reserved, e', h => by
    cases e' with
    | identifier name' reserved' =>
      cases reserved <;> cases reserved' <;> simp [toJson, outline, outlineMembers] at h ⊢ <;> exact h
    | _ => exact absurd (typeName_unique h) (by simp [typeName])
  | .string value, e', h => by
    cases e' with
    | string value' => simpa [toJson, typeMember, outline, outlineMembers] using h
    | _ => exact absurd (typeName_unique h) (by simp [typeName])
  | .integer text, e', h => by
    cases e' with
    | integer text' =>
      simp only [toJson, outline, outlineMembers, Outline.object.injEq, List.cons.injEq, Prod.mk.injEq,
        Outline.string.injEq, true_and] at h
      rw [h.1]
    | _ => exact absurd (typeName_unique h) (by simp [typeName])
  | .decimal text, e', h => by
    cases e' with
    | decimal text' =>
      simp only [toJson, outline, outlineMembers, Outline.object.injEq, List.cons.injEq, Prod.mk.injEq,
        Outline.string.injEq, true_and] at h
      rw [h.1]
    | _ => exact absurd (typeName_unique h) (by simp [typeName])
  | .null, e', h => by
    cases e' with
    | null => rfl
    | _ => exact absurd (typeName_unique h) (by simp [typeName])
  | .boolean value, e', h => by
    cases e' with
    | boolean value' => cases value <;> cases value' <;> simp [toJson, outline, outlineMembers] at h ⊢
    | _ => exact absurd (typeName_unique h) (by simp [typeName])
  | .list es, e', h => by
    cases e' with
    | list es' =>
      simp only [toJson, outline, outlineMembers, Outline.object.injEq, List.cons.injEq, Prod.mk.injEq,
        Outline.array.injEq, true_and, and_true] at h
      rw [outlineAll_toJson_inj es es' h]
    | _ => exact absurd (typeName_unique h) (by simp [typeName])
  | .binary family op left right, e', h => by
    cases e' with
    | binary family' op' left' right' =>
      simp only [toJson, outline, outlineMembers, Outline.object.injEq, List.cons.injEq, Prod.mk.injEq,
        Outline.string.injEq, Family.name_inj, true_and, and_true] at h
      obtain ⟨rfl, hleft, rfl, hright⟩ := h
      rw [outline_toJson_inj left left' hleft, outline_toJson_inj right right' hright]
    | _ => exact absurd (typeName_unique h) (by simp [typeName])

/-- The outlines of their JSON tell trees in a row. -/
theorem outlineAll_toJson_inj : ∀ es es' : List Expr, outlineAll (toJsonAll es) = outlineAll (toJsonAll es') → es = es'
  | [], [], _ => rfl
  | [], e' :: es', h => by simp [toJsonAll, outlineAll] at h
  | e :: es, [], h => by simp [toJsonAll, outlineAll] at h
  | e :: es, e' :: es', h => by
    simp only [toJsonAll, outlineAll, List.cons.injEq] at h
    rw [outline_toJson_inj e e' h.1, outlineAll_toJson_inj es es' h.2]

end

/-- **The compact JSON text of an expression tells the expression**: different trees have different texts. -/
theorem compactJson_eq_iff (e e' : Expr) : e.compactJson = e'.compactJson ↔ e = e' := by
  constructor
  · intro h
    exact outline_toJson_inj e e' (outline_eq_of_compact_eq h)
  · rintro rfl
    rfl

end Expr

end FilterLang
