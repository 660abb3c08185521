import Mathlib
import EntityGraph.TypeSystem
import EntityGraph.Proofs.Outcome

/-!
# Loaded type systems

What declarations leave alone while they are added: a built-in type stays the scalar it is, as it
can not be declared anew and is extended by nothing but scalars (`TypeSystem.scalar_of_load`).
-/

namespace EntityGraph

namespace TypeSystem

/-- A built-in type is a scalar. -/
def BuiltInIsScalar (t : SourceType) : Prop := t.isBuiltIn = true → t.kind = .scalar

namespace Loading

/-- All built-in types loaded so far are scalars. -/
def BuiltInsAreScalars (l : Loading) : Prop := ∀ t ∈ l.types, BuiltInIsScalar t

theorem builtInsAreScalars_empty : empty.BuiltInsAreScalars := by
  intro t ht _
  obtain ⟨name, -, rfl⟩ := List.mem_map.1 ht
  rfl

end Loading

theorem isBuiltIn_ofDeclaration {d : TypeDeclaration} {t : SourceType}
    (h : ofDeclaration d = .ok t) : t.isBuiltIn = false := by
  obtain ⟨keys, -, h⟩ := Outcome.bind_eq_ok.1 h
  rw [← Except.ok.inj h]

/-- An extension keeps a scalar a scalar. -/
theorem builtInIsScalar_extend {t extension merged : SourceType}
    (h : extend t extension = .ok merged) (ht : BuiltInIsScalar t) : BuiltInIsScalar merged := by
  rw [extend] at h
  split at h
  · next kind hkind =>
    obtain rfl := Except.ok.inj h
    intro hbuiltIn
    rw [ht hbuiltIn] at hkind
    cases hextension : extension.kind <;> rw [hextension] at hkind <;> cases hkind
    rfl
  · cases h

namespace Loading

theorem builtInsAreScalars_addType {l l' : Loading} {d : TypeDeclaration}
    (h : l.addType d = .ok l') (hl : l.BuiltInsAreScalars) : l'.BuiltInsAreScalars := by
  obtain ⟨t, ht, h⟩ := Outcome.bind_eq_ok.1 h
  split at h
  · -- A new type is not built in.
    obtain rfl := Except.ok.inj h
    intro other hother
    rcases List.mem_append.1 hother with hother | hother
    · exact hl other hother
    · obtain rfl := List.mem_singleton.1 hother
      intro hbuiltIn
      rw [isBuiltIn_ofDeclaration ht] at hbuiltIn
      cases hbuiltIn
  · next existing hexisting =>
    split at h
    · -- The extended type takes the place of the one it extends.
      obtain ⟨merged, hmerged, h⟩ := Outcome.bind_eq_ok.1 h
      obtain rfl := Except.ok.inj h
      intro other hother
      obtain ⟨former, hformer, rfl⟩ := List.mem_map.1 hother
      split
      · exact builtInIsScalar_extend hmerged (hl _ (List.mem_of_find?_eq_some hexisting))
      · exact hl former hformer
    · split at h
      · obtain rfl := Except.ok.inj h
        exact hl
      · cases h

/-- Adding a declaration keeps built-in types scalars. -/
theorem builtInsAreScalars_add {l l' : Loading} {d : Declaration} (h : l.add d = .ok l')
    (hl : l.BuiltInsAreScalars) : l'.BuiltInsAreScalars := by
  cases d with
  | schema s =>
    obtain rfl := Except.ok.inj h
    exact hl
  | type d => exact builtInsAreScalars_addType h hl
  | directive =>
    obtain rfl := Except.ok.inj h
    exact hl

theorem builtInsAreScalars_addAll {declarations : List Declaration} {l l' : Loading}
    (h : (l.addAll declarations).1 = .ok l') (hl : l.BuiltInsAreScalars) :
    l'.BuiltInsAreScalars := by
  induction declarations generalizing l with
  | nil =>
    obtain rfl := Except.ok.inj h
    exact hl
  | cons d rest ih =>
    rw [addAll] at h
    split at h
    · next next hnext => exact ih h (builtInsAreScalars_add hnext hl)
    · cases h

end Loading

/-- The types of a type system are those loaded once all declarations are added. -/
theorem load_eq_ok {sdl : String} {ts : TypeSystem} (h : load sdl = .ok ts) :
    ∃ declarations l, (Loading.empty.addAll declarations).1 = .ok l ∧ l.types = ts.types := by
  unfold load loadLogged at h
  cases hread : Declaration.readAll sdl with
  | error fault =>
    rw [hread] at h
    cases h
  | ok declarations =>
    rw [hread] at h
    have hfinish : ((Loading.empty.addAll declarations).1 >>= Loading.finish) = .ok ts := h
    obtain ⟨l, hl, hfinish⟩ := Outcome.bind_eq_ok.1 hfinish
    rw [Loading.finish] at hfinish
    split at hfinish
    · obtain rfl := Except.ok.inj hfinish
      exact ⟨declarations, l, hl, rfl⟩
    · cases hfinish

theorem scalar_of_load {sdl : String} {ts : TypeSystem} (h : load sdl = .ok ts)
    {t : SourceType} (ht : t ∈ ts.types) : BuiltInIsScalar t := by
  obtain ⟨declarations, l, hl, htypes⟩ := load_eq_ok h
  exact Loading.builtInsAreScalars_addAll hl Loading.builtInsAreScalars_empty t (htypes ▸ ht)

theorem name_of_get? {ts : TypeSystem} {name : String} {t : SourceType}
    (h : ts.get? name = some t) : t.name = name := by
  simpa using List.find?_some h

end TypeSystem

end EntityGraph
