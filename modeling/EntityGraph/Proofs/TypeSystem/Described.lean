import Mathlib
import EntityGraph.Proofs.Language.Reading
import EntityGraph.Proofs.TypeSystem.Loaded

/-!
# Descriptions of declarations

A description stands in front of the definition of a type, or in front of one of its parts. An
extension has none of its own, as there is no place to write it (`Declaration.silent_of_readAll`),
so a loaded type is described by its definition, wherever its extensions are
(`TypeSystem.described_of_load`).

* `TypeDeclaration.Describes`: what a declaration says about one of the elements of its type.
-/

namespace EntityGraph

/-- What can be described within a type. -/
inductive TypeElement where
  | type
  | field (name : String)
  | argument (field name : String)
  | inputField (name : String)
  | enumValue (name : String)

/-- The values of an enum with their descriptions. -/
def TypeBody.enumValues : TypeBody → List EnumValue
  | .enum values => values
  | _ => []

/-- The declaration writes the element down, with this description or none. The type itself is
    written down by its definition only. -/
def TypeDeclaration.Describes (d : TypeDeclaration) (text : Option String) : TypeElement → Prop
  | .type => d.isExtension = false ∧ d.description = text
  | .field name => ∃ f ∈ d.body.parts.fields, f.name = name ∧ f.description = text
  | .argument field name => ∃ f ∈ d.body.parts.fields, f.name = field ∧
      ∃ a ∈ f.arguments, a.name = name ∧ a.description = text
  | .inputField name => ∃ f ∈ d.body.parts.inputFields, f.name = name ∧ f.description = text
  | .enumValue name => ∃ v ∈ d.body.enumValues, v.name = name ∧ v.description = text

/-- An extension has no description of its own. -/
def TypeDeclaration.ExtendsSilently (d : TypeDeclaration) : Prop :=
  d.isExtension = true → d.description = none

/-! ### Reading -/

namespace Grammar

theorem gives_typeDeclaration (depth : Nat) :
    Gives (typeDeclaration depth) TypeDeclaration.ExtendsSilently :=
  Gives.orElse
    (gives_bind fun _ => gives_bind fun _ => gives_pure nofun)
    (gives_bind fun _ => gives_bind fun _ => gives_pure fun _ => rfl)

theorem gives_declarations (depth : Nat) :
    Gives (declarations depth) fun ds => ∀ d ∈ ds, ∀ t, d.type? = some t → t.ExtendsSilently := by
  refine Gives.some1 (gives_oneOf fun step hstep => ?_) depth
  simp only [List.mem_cons, List.not_mem_nil, or_false] at hstep
  rcases hstep with rfl | rfl | rfl
  · refine gives_bind fun _ => gives_pure fun t ht => ?_
    cases ht
  · refine (gives_typeDeclaration depth).bind fun t ht => gives_pure fun other hother => ?_
    exact Option.some.inj hother ▸ ht
  · refine gives_bind fun _ => gives_pure fun t ht => ?_
    cases ht

end Grammar

namespace Declaration

/-- No extension in a document has a description of its own. -/
theorem silent_of_readAll {sdl : String} {ds : List Declaration} (hread : readAll sdl = .ok ds) :
    ∀ d ∈ typesIn ds, d.ExtendsSilently := by
  unfold readAll at hread
  split at hread
  · cases hread
  · cases hread
  · next hrun =>
    obtain rfl := Except.ok.inj hread
    obtain ⟨c, hc, -, -⟩ := Grammar.run_eq_some.1 hrun
    intro d hd
    obtain ⟨declaration, hmem, htype⟩ := List.mem_filterMap.1 hd
    exact Grammar.gives_declarations _ hc declaration hmem d htype

end Declaration

namespace TypeSystem

open Declaration

/-! ### Loading -/

/-- Extending a type leaves its description alone. -/
theorem description_of_foldlM_joined {rest : List TypeDeclaration} {t u : SourceType}
    (h : rest.foldlM joined t = .ok u) : u.description = t.description := by
  induction rest generalizing t with
  | nil => rw [Except.ok.inj h]
  | cons d rest ih =>
    rw [List.foldlM_cons] at h
    obtain ⟨next, hnext, h⟩ := Outcome.bind_eq_ok.1 h
    rw [ih h]
    obtain ⟨_, -, ⟨-, hextend⟩ | ⟨-, -, rfl⟩⟩ := joined_eq_ok.1 hnext
    · obtain ⟨kind, -, rfl⟩ := extend_eq_ok.1 hextend
      rfl
    · rfl

/-- The description of a new type is the one of its first declaration. All further ones extend
    it. -/
theorem description_of_typeOf {ds : List TypeDeclaration} {t : SourceType}
    (h : typeOf none ds = .ok (some t)) : ∃ first rest, ds = first :: rest ∧
      t.description = first.description ∧ ∀ d ∈ rest, d.isExtension = true := by
  cases ds with
  | nil => cases h
  | cons first rest =>
    rw [typeOf] at h
    obtain ⟨loaded, hloaded, h⟩ := Outcome.bind_eq_ok.1 h
    rw [typeOf_some] at h
    obtain ⟨u, hu, heq⟩ := Outcome.map_eq_ok.1 h
    obtain rfl := Option.some.inj heq
    refine ⟨first, rest, rfl, ?_,
      isExtension_of_foldlM_joined hu (isBuiltIn_ofDeclaration hloaded)⟩
    obtain ⟨keys, -, hfirst⟩ := Outcome.bind_eq_ok.1 hloaded
    rw [description_of_foldlM_joined hu, ← Except.ok.inj hfirst]

/-- The declarations describe the type with this text or with none. -/
structure DescribedAs (description : Option String) (ds : List TypeDeclaration) : Prop where
  kept : ∀ d ∈ ds, d.isExtension = false → description = d.description
  written : ∀ text, description = some text → ∃ d ∈ ds, d.Describes (some text) .type

/-- A type which is not built in is described by its definition, and not at all if it is only
    extended. -/
theorem described_of_load {sdl : String} {ds : List Declaration} {ts : TypeSystem}
    (hread : readAll sdl = .ok ds) (hts : load sdl = .ok ts) {t : SourceType} (ht : t ∈ ts.types)
    (hname : t.name ∉ builtInScalars) : DescribedAs t.description (declarationsOf t.name ds) := by
  obtain ⟨htypes, -, hnames, -⟩ := get?_of_load hread hts
  have htype := htypes t.name
  rw [builtIn?, if_neg hname, get?, find?_of_mem hnames ht] at htype
  obtain ⟨first, rest, hds, hdescription, hrest⟩ := description_of_typeOf htype
  have hsilent : first.ExtendsSilently := by
    have hfirst : first ∈ declarationsOf t.name ds := hds ▸ List.mem_cons_self
    exact silent_of_readAll hread first (List.mem_filter.1 hfirst).1
  rw [hds, hdescription]
  refine ⟨fun d hd hdefinition => ?_, fun text htext => ?_⟩
  · -- All declarations behind the first one extend the type.
    rcases List.mem_cons.1 hd with rfl | hd
    · rfl
    · rw [hrest d hd] at hdefinition
      cases hdefinition
  · refine ⟨first, List.mem_cons_self, ?_, htext⟩
    rw [Bool.eq_false_iff]
    intro hextension
    rw [hsilent hextension] at htext
    cases htext

end TypeSystem

end EntityGraph
