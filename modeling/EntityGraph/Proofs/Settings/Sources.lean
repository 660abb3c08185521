import Mathlib
import EntityGraph.Settings.Layers
import EntityGraph.Proofs.Command.Arguments
import EntityGraph.Proofs.Language.Scanning
import EntityGraph.Proofs.Settings.Layers
import EntityGraph.Proofs.Toml

/-!
# What settings are given by

A setting may be given in a file, by an environment variable and by an option of the command line,
each of which names it in its own way. Whatever gives a setting a value is found in the layer of its
place under the name of the setting, and nothing else is:

* a file by its table, in which no key stands twice (`value?_file`);
* the environment by the last variable about the setting, in any case (`value?_environmentLayer`);
* the command line by the option of the setting, which is taken only once (`value?_ofGiven`).
-/

namespace EntityGraph

namespace SettingLayer

variable {α κ : Type} {f : α → Option (String × SettingValue)} {items : List α}
  {source : SettingSource} {setting : Setting} {v : SettingValue}

/-- In a layer which is read off some items the last one about a setting counts. -/
theorem value?_filterMap : (SettingLayer.mk source (items.filterMap f)).value? setting = some v ↔
    ∃ before item behind, items = before ++ item :: behind ∧ f item = some (setting.name, v) ∧
      ∀ other ∈ behind, ∀ w, f other ≠ some (setting.name, w) := by
  rw [value?_eq_some]
  constructor
  · rintro ⟨before, behind, h, hbehind⟩
    obtain ⟨front, rest, rfl, -, hrest⟩ := List.filterMap_eq_append_iff.1 h
    obtain ⟨skipped, item, rest, rfl, -, hitem, hrest⟩ := List.filterMap_eq_cons_iff.1 hrest
    refine ⟨front ++ skipped, item, rest, by simp, hitem, fun other hother w hw => ?_⟩
    exact hbehind _ (hrest ▸ List.mem_filterMap.2 ⟨other, hother, hw⟩) rfl
  · rintro ⟨before, item, behind, rfl, hitem, hbehind⟩
    refine ⟨before.filterMap f, behind.filterMap f, ?_, fun entry hentry hname => ?_⟩
    · rw [List.filterMap_append, List.filterMap_cons_some hitem]
    · obtain ⟨other, hother, h⟩ := List.mem_filterMap.1 hentry
      exact hbehind other hother entry.2 (by rw [h, ← hname])

/-- Where at most one item is about a setting there is no last one to look for. -/
theorem value?_filterMap_of_nodup {key : α → κ} (hkeys : (items.map key).Nodup)
    (hsame : ∀ {a b : α} {v w : SettingValue}, f a = some (setting.name, v) →
      f b = some (setting.name, w) → key a = key b) :
    (SettingLayer.mk source (items.filterMap f)).value? setting = some v ↔
      ∃ item ∈ items, f item = some (setting.name, v) := by
  rw [value?_filterMap]
  constructor
  · rintro ⟨before, item, behind, rfl, hitem, -⟩
    exact ⟨item, by simp, hitem⟩
  · rintro ⟨item, hmem, hitem⟩
    obtain ⟨before, behind, rfl⟩ := List.append_of_mem hmem
    refine ⟨before, item, behind, rfl, hitem, fun other hother w hw => ?_⟩
    rw [List.map_append, List.map_cons, List.nodup_append, List.nodup_cons] at hkeys
    exact hkeys.2.1.1 (List.mem_map.2 ⟨other, hother, (hsame hitem hw).symm⟩)

end SettingLayer

/-! ### What a source gives -/

theorem Setting.name_injective : Function.Injective Setting.name := by
  intro a b h
  cases a <;> cases b <;> first | rfl | exact absurd h (by decide)

/-- The table of a file gives a setting the value under its name. -/
def TomlTable.Gives (t : TomlTable) (setting : Setting) (v : SettingValue) : Prop :=
  ∃ written, (setting.name, written) ∈ t ∧ v = .ofToml written

/-- An environment variable gives a setting what its text stands for, if it has the name of the
    setting behind `JIRAPH_` in any case, and a table of parts if a part is named behind a dot. -/
inductive VariableGives (setting : Setting) : String × String → SettingValue → Prop
  | whole {name text : String} :
      name.toList.map Char.toLower = "jiraph_".toList ++ setting.name.toList →
      VariableGives setting (name, text) (.ofText text)
  | part {name text : String} {rest : List Char} :
      name.toList.map Char.toLower = "jiraph_".toList ++ (setting.name.toList ++ '.' :: rest) →
      VariableGives setting (name, text) .map

/-- Of the environment variables which give a setting a value the last one counts. -/
def EnvironmentGives (environment : List (String × String)) (setting : Setting)
    (v : SettingValue) : Prop :=
  ∃ before entry behind, environment = before ++ entry :: behind ∧
    VariableGives setting entry v ∧ ∀ other ∈ behind, ∀ w, ¬ VariableGives setting other w

/-- An option gives its setting the text behind it, or the number of a socket. -/
inductive OptionsGive (given : List GivenOption) : Setting → SettingValue → Prop
  | text {o : CommandOption} {text : String} {setting : Setting} : ⟨o, text⟩ ∈ given →
      Arguments.settingOf? o = some setting → setting ≠ .httpPort →
      OptionsGive given setting (.text text)
  | socket {text : String} {n : UInt16} : ⟨.httpPort, text⟩ ∈ given →
      PortFault.socketNumber text = .ok n → OptionsGive given .httpPort (.unsigned n.toNat)

/-! ### Files -/

/-- The layer of a file which holds the table. -/
def TomlTable.layer (t : TomlTable) (source : SettingSource) : SettingLayer :=
  ⟨source, t.map fun (key, value) => (key, .ofToml value)⟩

theorem value?_file (source : SettingSource) {t : TomlTable} (ht : (TomlTable.keys t).Nodup)
    {setting : Setting} {v : SettingValue} :
    (t.layer source).value? setting = some v ↔ t.Gives setting v := by
  rw [TomlTable.layer, ← List.filterMap_eq_map, SettingLayer.value?_filterMap_of_nodup ht]
  · constructor
    · rintro ⟨⟨key, written⟩, hmem, h⟩
      obtain ⟨rfl, rfl⟩ := Prod.mk.inj (Option.some.inj h)
      exact ⟨written, hmem, rfl⟩
    · rintro ⟨written, hmem, rfl⟩
      exact ⟨_, hmem, rfl⟩
  · intro a b v w ha hb
    exact (congrArg Prod.fst (Option.some.inj ha)).trans
      (congrArg Prod.fst (Option.some.inj hb)).symm

/-! ### Environment variables -/

/-- A key without dots is followed by a dot or by nothing. -/
theorem takeWhile_dot {key parts : List Char} (hkey : '.' ∉ key) {isPart : Bool} :
    parts.takeWhile (· ≠ '.') = key ∧ decide (key.length < parts.length) = isPart ↔
      ∃ rest, parts = key ++ rest ∧ if isPart then rest.head? = some '.' else rest = [] := by
  constructor
  · rintro ⟨htake, rfl⟩
    have hparts : parts = key ++ parts.dropWhile (· ≠ '.') := by
      rw [← htake, List.takeWhile_append_dropWhile]
    have hhead := List.head?_dropWhile_not (· ≠ '.') parts
    generalize parts.dropWhile (· ≠ '.') = rest at hparts hhead
    subst hparts
    refine ⟨rest, rfl, ?_⟩
    cases rest with
    | nil => simp
    | cons c more => simpa using hhead
  · rintro ⟨rest, rfl, hrest⟩
    have hbehind : ∀ c ∈ rest.head?, decide (c ≠ '.') = false := by
      cases isPart <;> simp_all
    refine ⟨(Lexical.takeWhile_run (fun c hc => ?_) hbehind).1, ?_⟩
    · exact decide_eq_true fun h => hkey (h ▸ hc)
    · cases isPart with
      | false => simp_all
      | true => cases rest <;> simp_all

/-- The name of a variable tells a setting, as far as a dot. -/
theorem settingName?_eq_some {name : String} {setting : Setting} {isPart : Bool} :
    Surroundings.settingName? name = some (setting.name.toList, isPart) ↔
      ∃ rest, name.toList.map Char.toLower = "jiraph_".toList ++ (setting.name.toList ++ rest) ∧
        if isPart then rest.head? = some '.' else rest = [] := by
  have hdot : '.' ∉ setting.name.toList := by
    cases setting <;> decide +kernel
  have hname : setting.name.toList.isEmpty = false := by
    cases setting <;> decide +kernel
  have hstart : SettingSource.nameStart.toList.map Char.toLower = "jiraph_".toList := by
    decide +kernel
  rw [Surroundings.settingName?, hstart]
  generalize name.toList.map Char.toLower = lower
  simp only
  constructor
  · intro h
    split_ifs at h with hprefix hempty
    obtain ⟨parts, rfl⟩ := List.isPrefixOf_iff_prefix.1 hprefix
    rw [List.drop_left] at h
    obtain ⟨hkey, hpart⟩ := Prod.mk.inj (Option.some.inj h)
    obtain ⟨rest, rfl, hrest⟩ := (takeWhile_dot hdot).1 ⟨hkey, hkey ▸ hpart⟩
    exact ⟨rest, rfl, hrest⟩
  · rintro ⟨rest, rfl, hrest⟩
    obtain ⟨hkey, hpart⟩ := (takeWhile_dot hdot).2 ⟨rest, rfl, hrest⟩
    rw [if_pos (List.isPrefixOf_iff_prefix.2 (List.prefix_append _ _)), List.drop_left, hkey,
      hname, if_neg Bool.false_ne_true, hpart]

/-- A variable is about a setting in the layer of the environment if its name says so. -/
theorem variableGives_iff {setting : Setting} {entry : String × String} {v : SettingValue} :
    ((Surroundings.settingName? entry.1).map fun (key, isPart) =>
      (String.ofList key, if isPart then .map else SettingValue.ofText entry.2)) =
        some (setting.name, v) ↔ VariableGives setting entry v := by
  rw [Option.map_eq_some_iff]
  constructor
  · rintro ⟨⟨key, isPart⟩, hname, h⟩
    obtain ⟨hkey, rfl⟩ := Prod.mk.inj h
    obtain rfl : key = setting.name.toList := by rw [← hkey, String.toList_ofList]
    obtain ⟨rest, hlower, hrest⟩ := settingName?_eq_some.1 hname
    cases isPart with
    | false =>
      obtain rfl : rest = [] := by simpa using hrest
      rw [List.append_nil] at hlower
      exact .whole hlower
    | true =>
      obtain ⟨more, rfl⟩ := List.head?_eq_some_iff.1 (show rest.head? = some '.' from hrest)
      exact .part hlower
  · intro h
    cases h with
    | whole hlower =>
      refine ⟨(setting.name.toList, false), settingName?_eq_some.2 ⟨[], ?_, by simp⟩, by simp⟩
      rw [List.append_nil]
      exact hlower
    | part hlower =>
      exact ⟨(setting.name.toList, true), settingName?_eq_some.2 ⟨_, hlower, by simp⟩, by simp⟩

theorem value?_environmentLayer {s : Surroundings} {setting : Setting} {v : SettingValue} :
    s.environmentLayer.value? setting = some v ↔ EnvironmentGives s.environment setting v := by
  rw [Surroundings.environmentLayer, SettingLayer.value?_filterMap]
  simp only [variableGives_iff, ne_eq, EnvironmentGives]

/-- Where every text of a variable is whole there is no torn value. -/
theorem not_torn_of_whole {s : Surroundings}
    (h : ∀ entry ∈ s.environment, (Surroundings.settingName? entry.1).isSome = true →
      SettingValue.ofText entry.2 ≠ .torn) :
    (s.environmentLayer.values.any fun (_, value) => value = .torn) = false := by
  rw [List.any_eq_false]
  intro value hvalue
  obtain ⟨entry, hentry, hread⟩ := List.mem_filterMap.1 hvalue
  obtain ⟨⟨key, isPart⟩, hname, rfl⟩ := Option.map_eq_some_iff.1 hread
  have hwhole := h entry hentry (by rw [hname]; rfl)
  cases isPart <;> simp [hwhole]

/-! ### Options -/

/-- What is given on the command line is given by one of the options. -/
theorem value?_ofGiven {given : List GivenOption} {waiting : Option (CommandOption × Option String)}
    (h : ArgumentProgress.IsSound ⟨given, waiting⟩) {setting : Setting} {v : SettingValue} :
    (Arguments.ofGiven given).layer.value? setting = some v ↔ OptionsGive given setting v := by
  rw [Arguments.ofGiven, SettingLayer.value?_filterMap_of_nodup h.nodup]
  · constructor
    · rintro ⟨⟨o, text⟩, hmem, hoption⟩
      obtain ⟨other, hsetting, hvalue⟩ := Option.map_eq_some_iff.1 hoption
      obtain ⟨hname, rfl⟩ := Prod.mk.inj hvalue
      obtain rfl := Setting.name_injective hname
      by_cases hport : other = .httpPort
      · subst hport
        have hsocket : Arguments.settingOf? .httpPort = some .httpPort := rfl
        obtain rfl := Arguments.option_of_settingOf? hsetting hsocket
        obtain ⟨n, hn⟩ := h.socket _ hmem rfl
        rw [Arguments.settingValue_socket hn]
        exact .socket hmem hn
      · rw [Arguments.settingValue_text hsetting hport]
        exact .text hmem hsetting hport
    · intro hgives
      cases hgives with
      | text hmem hsetting hport =>
        refine ⟨_, hmem, ?_⟩
        rw [hsetting, Arguments.settingValue_text hsetting hport]
        rfl
      | socket hmem hn =>
        refine ⟨_, hmem, ?_⟩
        rw [Arguments.settingValue_socket hn]
        rfl
  · intro a b v w ha hb
    obtain ⟨setting', ha', ha⟩ := Option.map_eq_some_iff.1 ha
    obtain ⟨setting'', hb', hb⟩ := Option.map_eq_some_iff.1 hb
    obtain rfl := Setting.name_injective (congrArg Prod.fst ha)
    obtain rfl := Setting.name_injective (congrArg Prod.fst hb)
    exact Arguments.option_of_settingOf? ha' hb'

end EntityGraph
