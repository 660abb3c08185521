import Mathlib
import EntityGraph.Settings.Basic
import EntityGraph.Proofs.Outcome

/-!
# Settings of layers

Settings are made of layers, of which a later one counts before those ahead of it
(`Settings.given?_concat`), as if they were merged one after the other
(`Settings.given?_eq_foldl`); the defaults stand in for what is left out by all of them. Each
setting is made by itself (`Settings.resolve`): of the value which is given last, if that is of the
type the setting needs, or of its default where none is given (`Settings.resolved_resolve`). There
are settings if each of them can be made (`Settings.ofLayers_eq_ok`), and what is wrong with them is
wrong with one of them.
-/

namespace EntityGraph

/-- The value of a setting in a layer: of several ones under its name the last. -/
def SettingLayer.value? (layer : SettingLayer) (setting : Setting) : Option SettingValue :=
  layer.values.reverse.lookup setting.name

theorem SettingLayer.value?_eq_some {layer : SettingLayer} {setting : Setting} {v : SettingValue} :
    layer.value? setting = some v ↔ ∃ before behind,
      layer.values = before ++ (setting.name, v) :: behind ∧
        ∀ other ∈ behind, other.1 ≠ setting.name := by
  rw [value?, List.lookup_eq_some_iff]
  constructor
  · rintro ⟨front, back, h, hfront⟩
    refine ⟨back.reverse, front.reverse, ?_, fun other hother => ?_⟩
    · rw [← List.reverse_reverse layer.values, h]
      simp
    · have hne := hfront other (List.mem_reverse.1 hother)
      exact fun heq => by simp [heq] at hne
  · rintro ⟨before, behind, h, hbehind⟩
    refine ⟨behind.reverse, before.reverse, ?_, fun other hother => ?_⟩
    · rw [h]
      simp
    · simpa using (hbehind other (List.mem_reverse.1 hother)).symm

/-- A setting as the value it has. -/
def Settings.value (s : Settings) : Setting → SettingValue
  | .dataDirectory => .text s.dataDirectory
  | .httpPort => .unsigned s.httpPort.toNat
  | .indexPath => .text s.indexPath
  | .logLevel => .text s.logLevel
  | .schemaPath => .text s.schemaPath

/-- A value of the type a setting needs, and the value it is read as. -/
inductive SettingValue.StandsFor : Setting → SettingValue → SettingValue → Prop
  | text {setting : Setting} {s : String} : setting ≠ .httpPort →
      StandsFor setting (.text s) (.text s)
  | letter {setting : Setting} {c : Char} : setting ≠ .httpPort →
      StandsFor setting (.letter c) (.text (String.ofList [c]))
  | unsigned {n : Nat} : n < UInt16.size → StandsFor .httpPort (.unsigned n) (.unsigned n)
  | signed {n : Int} : 0 ≤ n → n < UInt16.size →
      StandsFor .httpPort (.signed n) (.unsigned n.toNat)

theorem SettingValue.StandsFor.unique {setting : Setting} {v w w' : SettingValue}
    (h : v.StandsFor setting w) (h' : v.StandsFor setting w') : w = w' := by
  cases h <;> cases h' <;> rfl

/-- A value is of the type a setting needs. -/
def SettingValue.Fits (setting : Setting) (v : SettingValue) : Prop := ∃ w, v.StandsFor setting w

namespace Settings

/-- A later layer counts before the others. -/
theorem given?_concat (setting : Setting) (layers : List SettingLayer) (layer : SettingLayer) :
    given? setting (layers ++ [layer]) =
      ((layer.value? setting).map (·, layer.source)).or (given? setting layers) := by
  rw [given?, List.reverse_append, List.reverse_singleton, List.singleton_append,
    List.findSome?_cons]
  rw [SettingLayer.value?]
  cases List.lookup setting.name layer.values.reverse with
  | none => rfl
  | some v => rfl

/-- Values by name, each with the place it is given at. -/
abbrev Merged := String → Option (SettingValue × SettingSource)

/-- One merge: a layer replaces the values under the names it has, and leaves all others alone. -/
def Merged.merge (merged : Merged) (layer : SettingLayer) : Merged := fun name =>
  ((layer.values.reverse.lookup name).map (·, layer.source)).or (merged name)

theorem Merged.merge_eq_some {merged : Merged} {layer : SettingLayer} {setting : Setting}
    {v : SettingValue} {source : SettingSource} :
    merged.merge layer setting.name = some (v, source) ↔
      layer.value? setting = some v ∧ source = layer.source ∨
      layer.value? setting = none ∧ merged setting.name = some (v, source) := by
  rw [merge, ← SettingLayer.value?]
  cases layer.value? setting with
  | none => simp
  | some w => simp [eq_comm]

theorem Merged.fst_merge {merged : Merged} {layer : SettingLayer} {setting : Setting} :
    (merged.merge layer setting.name).map Prod.fst =
      (layer.value? setting).or ((merged setting.name).map Prod.fst) := by
  rw [merge, ← SettingLayer.value?, Option.map_or]
  simp only [Option.map_map, Function.comp_def, Option.map_id']

/-- The value which counts is what is left of the merges of all layers, one after the other. -/
theorem given?_eq_foldl (setting : Setting) (layers : List SettingLayer) :
    given? setting layers = layers.foldl Merged.merge (fun _ => none) setting.name := by
  induction layers using List.reverseRecOn with
  | nil => rfl
  | append_singleton layers layer ih =>
    rw [given?_concat, List.foldl_append, List.foldl_cons, List.foldl_nil, Merged.merge, ← ih,
      SettingLayer.value?]

/-- The merges of a command: of a file if there is one, then of the environment, and at last of the
    command line. -/
theorem given?_file_environment_command (setting : Setting) (file : List SettingLayer)
    (environment command : SettingLayer) :
    given? setting (file ++ [environment, command]) =
      (((file.foldl Merged.merge fun _ => none).merge environment).merge command) setting.name := by
  rw [given?_eq_foldl, List.foldl_append]
  rfl

/-- What becomes of a setting, by the value which counts and the place it is given at. -/
inductive Resolved (setting : Setting) :
    Option (SettingValue × SettingSource) → Except SettingsFault SettingValue → Prop
  | default : Resolved setting none (.ok (default.value setting))
  | given {v w : SettingValue} {source : SettingSource} : v.StandsFor setting w →
      Resolved setting (some (v, source)) (.ok w)
  | wrongType {v : SettingValue} {source : SettingSource} : ¬ v.Fits setting →
      Resolved setting (some (v, source)) (.error (.wrongType setting v source))
  | outOfRange {v : SettingValue} {source : SettingSource} : ¬ v.Fits setting →
      Resolved setting (some (v, source)) (.error (.outOfRange setting v source))

theorem resolved_textOf {setting : Setting} {fallback : String} (layers : List SettingLayer)
    (htext : setting ≠ .httpPort) (hfallback : default.value setting = .text fallback) :
    Resolved setting (given? setting layers) ((textOf setting fallback layers).map .text) := by
  rw [textOf]
  cases given? setting layers with
  | none =>
    rw [Except.map, ← hfallback]
    exact .default
  | some found =>
    obtain ⟨v, source⟩ := found
    cases v with
    | text s => exact .given (.text htext)
    | letter c => exact .given (.letter htext)
    | _ =>
      refine .wrongType ?_
      rintro ⟨w, hw⟩
      cases hw <;> exact htext rfl

theorem resolved_numberOf (layers : List SettingLayer) :
    Resolved .httpPort (given? .httpPort layers)
      ((numberOf .httpPort default.httpPort layers).map fun n => .unsigned n.toNat) := by
  have hsocket {n : Nat} (hn : n < UInt16.size) : (UInt16.ofNat n).toNat = n :=
    UInt16.toNat_ofNat_of_lt hn
  rw [numberOf]
  cases given? .httpPort layers with
  | none => exact .default
  | some found =>
    obtain ⟨v, source⟩ := found
    cases v with
    | unsigned n =>
      simp only
      split_ifs with hn
      · have hn : n < UInt16.size := by omega
        have hread : SettingValue.StandsFor .httpPort (.unsigned n) (.unsigned n) := .unsigned hn
        rw [Except.map, Int.toNat_natCast, hsocket hn]
        exact .given hread
      · refine .outOfRange ?_
        rintro ⟨w, hw⟩
        cases hw with
        | unsigned h => omega
    | signed n =>
      simp only
      split_ifs with hn
      · rw [Except.map, hsocket (show n.toNat < UInt16.size by omega)]
        exact .given (.signed hn.1 hn.2)
      · refine .outOfRange ?_
        rintro ⟨w, hw⟩
        cases hw with
        | signed hpos hlt => exact hn ⟨hpos, hlt⟩
    | text s | letter c =>
      refine .wrongType ?_
      rintro ⟨w, hw⟩
      cases hw with
      | _ h => exact h rfl
    | _ => exact .wrongType fun ⟨w, hw⟩ => nomatch hw

/-- A setting by its layers, as a value. -/
def resolve (layers : List SettingLayer) : Setting → Except SettingsFault SettingValue
  | .httpPort => (numberOf .httpPort default.httpPort layers).map fun n => .unsigned n.toNat
  | .dataDirectory => (textOf .dataDirectory default.dataDirectory layers).map .text
  | .indexPath => (textOf .indexPath default.indexPath layers).map .text
  | .logLevel => (textOf .logLevel default.logLevel layers).map .text
  | .schemaPath => (textOf .schemaPath default.schemaPath layers).map .text

theorem resolved_resolve (setting : Setting) (layers : List SettingLayer) :
    Resolved setting (given? setting layers) (resolve layers setting) := by
  cases setting with
  | httpPort => exact resolved_numberOf layers
  | _ => exact resolved_textOf layers (by decide) rfl

/-- Settings are what their values are. -/
theorem eq_of_value_eq {s s' : Settings} (h : ∀ setting, s.value setting = s'.value setting) :
    s = s' := by
  have hdirectory := SettingValue.text.inj (h .dataDirectory)
  have hport := UInt16.toNat_inj.1 (SettingValue.unsigned.inj (h .httpPort))
  have hindex := SettingValue.text.inj (h .indexPath)
  have hlevel := SettingValue.text.inj (h .logLevel)
  have hschema := SettingValue.text.inj (h .schemaPath)
  cases s
  cases s'
  simp_all

/-- Settings are made of what is resolved. -/
theorem resolve_of_ofLayers {layers : List SettingLayer} {s : Settings}
    (h : ofLayers layers = .ok s) (setting : Setting) :
    resolve layers setting = .ok (s.value setting) := by
  obtain ⟨directory, hdirectory, h⟩ := Outcome.bind_eq_ok.1 h
  obtain ⟨port, hport, h⟩ := Outcome.bind_eq_ok.1 h
  obtain ⟨index, hindex, h⟩ := Outcome.bind_eq_ok.1 h
  obtain ⟨level, hlevel, h⟩ := Outcome.bind_eq_ok.1 h
  obtain ⟨schema, hschema, h⟩ := Outcome.bind_eq_ok.1 h
  obtain rfl := Except.ok.inj h
  cases setting with
  | dataDirectory => exact Outcome.map_eq_ok.2 ⟨directory, hdirectory, rfl⟩
  | httpPort => exact Outcome.map_eq_ok.2 ⟨port, hport, rfl⟩
  | indexPath => exact Outcome.map_eq_ok.2 ⟨index, hindex, rfl⟩
  | logLevel => exact Outcome.map_eq_ok.2 ⟨level, hlevel, rfl⟩
  | schemaPath => exact Outcome.map_eq_ok.2 ⟨schema, hschema, rfl⟩

/-- There are settings if each of them can be resolved. -/
theorem exists_ofLayers {layers : List SettingLayer}
    (h : ∀ setting, ∃ w, resolve layers setting = .ok w) : ∃ s, ofLayers layers = .ok s := by
  have hread {α : Type} {x : Except SettingsFault α} {f : α → SettingValue}
      (h : ∃ w, x.map f = .ok w) : ∃ a, x = .ok a := by
    obtain ⟨w, hw⟩ := h
    obtain ⟨a, ha, -⟩ := Outcome.map_eq_ok.1 hw
    exact ⟨a, ha⟩
  obtain ⟨directory, hdirectory⟩ := hread (h .dataDirectory)
  obtain ⟨port, hport⟩ := hread (h .httpPort)
  obtain ⟨index, hindex⟩ := hread (h .indexPath)
  obtain ⟨level, hlevel⟩ := hread (h .logLevel)
  obtain ⟨schema, hschema⟩ := hread (h .schemaPath)
  refine ⟨⟨level, directory, port, schema, index⟩, ?_⟩
  rw [ofLayers, hdirectory, hport, hindex, hlevel, hschema]
  rfl

theorem ofLayers_eq_ok {layers : List SettingLayer} {s : Settings} :
    ofLayers layers = .ok s ↔ ∀ setting, resolve layers setting = .ok (s.value setting) := by
  refine ⟨resolve_of_ofLayers, fun h => ?_⟩
  obtain ⟨s', hs'⟩ := exists_ofLayers fun setting => ⟨_, h setting⟩
  obtain rfl : s' = s := eq_of_value_eq fun setting =>
    Except.ok.inj ((resolve_of_ofLayers hs' setting).symm.trans (h setting))
  exact hs'

/-- What is wrong with settings is wrong with one of them. -/
theorem exists_resolve_eq_error {layers : List SettingLayer} {fault : SettingsFault}
    (h : ofLayers layers = .error fault) : ∃ setting, resolve layers setting = .error fault := by
  rcases Outcome.bind_eq_error.1 h with h | ⟨_, -, h⟩
  · exact ⟨.dataDirectory, Outcome.map_eq_error.2 h⟩
  rcases Outcome.bind_eq_error.1 h with h | ⟨_, -, h⟩
  · exact ⟨.httpPort, Outcome.map_eq_error.2 h⟩
  rcases Outcome.bind_eq_error.1 h with h | ⟨_, -, h⟩
  · exact ⟨.indexPath, Outcome.map_eq_error.2 h⟩
  rcases Outcome.bind_eq_error.1 h with h | ⟨_, -, h⟩
  · exact ⟨.logLevel, Outcome.map_eq_error.2 h⟩
  rcases Outcome.bind_eq_error.1 h with h | ⟨_, -, h⟩
  · exact ⟨.schemaPath, Outcome.map_eq_error.2 h⟩
  · cases h

end Settings

end EntityGraph
