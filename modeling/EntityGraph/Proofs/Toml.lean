import Mathlib
import EntityGraph.Toml.Reader
import EntityGraph.Proofs.Outcome

/-!
# Keys of TOML documents

A document gives each key of its table one value: each statement sets one, which changes the value
that is there or adds one under a new key (`Toml.Progress.sets_statement`). So what a document says
of a key does not depend on where it is looked for (`Toml.nodup_keys_of_read`).
-/

namespace EntityGraph

namespace TomlTable

/-- The keys of a table, in order. -/
def keys (t : TomlTable) : List String := t.map Prod.fst

theorem mem_keys_set {key other : String} {value : TomlValue} {t : TomlTable} :
    other ∈ keys (set key value t) ↔ other ∈ keys t ∨ other = key := by
  induction t with
  | nil => simp [set, keys]
  | cons entry rest ih =>
    obtain ⟨k, v⟩ := entry
    rw [set]
    split
    · next hk => simp [keys, hk]; tauto
    · simp only [keys, List.map_cons, List.mem_cons] at ih ⊢
      rw [ih]
      tauto

/-- The second table is the first one with one value set. -/
def Sets (t t' : TomlTable) : Prop := ∃ key value, t' = set key value t

/-- A value which is set leaves no key twice. -/
theorem Sets.nodup_keys {t t' : TomlTable} (h : Sets t t') (ht : (keys t).Nodup) :
    (keys t').Nodup := by
  obtain ⟨key, value, rfl⟩ := h
  induction t with
  | nil => simp [set, keys]
  | cons entry rest ih =>
    obtain ⟨k, v⟩ := entry
    obtain ⟨hk, hrest⟩ := List.nodup_cons.1 ht
    rw [set]
    split
    · exact ht
    · next hne =>
      refine List.nodup_cons.2 ⟨fun hmem => ?_, ih hrest⟩
      rcases mem_keys_set.1 hmem with hmem | rfl
      · exact hk hmem
      · exact hne rfl

/-- Whatever is changed behind a path, the first step of the path is what is set. -/
theorem sets_below {origin here : TableOrigin} {enter : TableOrigin → Bool}
    {change : TableOrigin → TomlTable → Option TomlTable} {path : List String} {t t' : TomlTable}
    (hchange : ∀ o t t', change o t = some t' → Sets t t')
    (h : below origin enter change here path t = some t') : Sets t t' := by
  cases path with
  | nil => exact hchange here t t' h
  | cons key rest =>
    rw [below] at h
    -- The first step leads to a new table, to one that is there, to the last one of several, or
    -- nowhere.
    split at h
    · obtain ⟨inner, -, h⟩ := Option.bind_eq_some_iff.1 h
      exact ⟨_, _, (Option.some.inj h).symm⟩
    · split_ifs at h
      obtain ⟨inner, -, h⟩ := Option.bind_eq_some_iff.1 h
      exact ⟨_, _, (Option.some.inj h).symm⟩
    · split at h
      · cases h
      · split_ifs at h
        · simp at h
        · obtain ⟨last, -, h⟩ := Option.bind_eq_some_iff.1 h
          exact ⟨_, _, (Option.some.inj h).symm⟩
    · cases h

theorem sets_define {path : List String} {key : String} {value : TomlValue} {t t' : TomlTable}
    (h : define path key value t = some t') : Sets t t' := by
  refine sets_below (fun _ t t' h => ?_) h
  rw [insert] at h
  split_ifs at h
  exact ⟨_, _, (Option.some.inj h).symm⟩

theorem sets_header {path : List String} {key : String} {t t' : TomlTable}
    (h : header path key t = some t') : Sets t t' := by
  refine sets_below (fun _ t t' h => ?_) h
  split at h <;> cases h <;> exact ⟨_, _, rfl⟩

theorem sets_arrayHeader {path : List String} {key : String} {t t' : TomlTable}
    (h : arrayHeader path key t = some t') : Sets t t' := by
  refine sets_below (fun _ t t' h => ?_) h
  split at h <;> cases h <;> exact ⟨_, _, rfl⟩

end TomlTable

namespace Toml

open TomlTable (keys Sets)

theorem Progress.sets_statement {p p' : Progress} {cs rest : List Char}
    (h : p.statement cs = some (p', rest)) : Sets p.table p'.table := by
  rw [statement.eq_def] at h
  split at h
  · obtain ⟨⟨⟨path, key⟩, behind⟩, -, h⟩ := Option.bind_eq_some_iff.1 h
    obtain ⟨_, -, h⟩ := Option.bind_eq_some_iff.1 h
    obtain ⟨_, -, h⟩ := Option.bind_eq_some_iff.1 h
    obtain ⟨t, ht, h⟩ := Option.bind_eq_some_iff.1 h
    cases h
    exact TomlTable.sets_arrayHeader ht
  · obtain ⟨⟨⟨path, key⟩, behind⟩, -, h⟩ := Option.bind_eq_some_iff.1 h
    obtain ⟨_, -, h⟩ := Option.bind_eq_some_iff.1 h
    obtain ⟨t, ht, h⟩ := Option.bind_eq_some_iff.1 h
    cases h
    exact TomlTable.sets_header ht
  · obtain ⟨⟨⟨path, key, v⟩, behind⟩, -, h⟩ := Option.bind_eq_some_iff.1 h
    obtain ⟨t, ht, h⟩ := Option.bind_eq_some_iff.1 h
    cases h
    exact TomlTable.sets_below (fun _ _ _ => TomlTable.sets_define) ht

/-- A document which is read to its end leaves no key twice. -/
theorem Progress.nodup_keys_finish {fuel : Nat} {p : Progress} {cs : List Char} {t : TomlTable}
    (h : p.finish fuel cs = .ok t) (hp : (keys p.table).Nodup) : (keys t).Nodup := by
  induction fuel generalizing p cs with
  | zero => cases h
  | succ fuel ih =>
    rw [finish] at h
    split at h
    · obtain rfl := Except.ok.inj h
      exact hp
    · split at h
      · next p' rest hstatement =>
        obtain ⟨⟨p'', behind⟩, hp'', h'⟩ := Option.bind_eq_some_iff.1 hstatement
        obtain ⟨_, -, h'⟩ := Option.map_eq_some_iff.1 h'
        cases h'
        exact ih h ((sets_statement hp'').nodup_keys hp)
      · cases h

/-- No key has two values in a document. -/
theorem nodup_keys_of_read {text : String} {t : TomlTable} (h : read text = .ok t) :
    (keys t).Nodup :=
  Progress.nodup_keys_finish (Outcome.mapError_eq_ok.1 h) List.nodup_nil

end Toml

end EntityGraph
