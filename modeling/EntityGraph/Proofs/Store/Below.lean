import Mathlib
import EntityGraph.Store.Fetcher
import EntityGraph.Proofs.Eventual

/-!
# Documents below a directory

A fetcher of a directory looks for a document where its path leads to from the directory. A document
is refused before anything is read if its path is empty, begins with a slash or has `..` between its
slashes, and for no other reason. Any other path goes on from the directory through what it names
(`Path.GoesOn`): put behind the directory it makes the steps of the directory, followed by nothing
but steps to a name (`Path.steps_join`). So whatever the directory is, the text alone shows that no
document lies outside: cleaned, the path of a document is the clean path of the directory with names
behind it (`Path.GoesOn.components_clean`).
-/

namespace EntityGraph

namespace Path

variable {directory path : String}

/-! ### Pieces -/

theorem split_eq_splitOn (cs : List Char) : split cs = cs.splitOn '/' := by
  fun_induction split cs with
  | case1 => rfl
  | case2 rest ih =>
    rw [ih, List.splitOn_cons_eq_if_modifyHead]
    rfl
  | case3 rest c hc hsplit ih => exact absurd (ih.symm.trans hsplit) (List.splitOn_ne_nil _ _)
  | case4 rest c part parts hc hsplit ih =>
    rw [List.splitOn_cons_eq_if_modifyHead, ← ih, hsplit, if_neg (by simpa using hc)]
    rfl

theorem not_mem_of_mem_split {cs part : List Char} (h : part ∈ split cs) : '/' ∉ part := by
  fun_induction split cs generalizing part with
  | case1 =>
    cases List.mem_singleton.1 h
    exact List.not_mem_nil
  | case2 rest ih =>
    rcases List.mem_cons.1 h with rfl | h
    · exact List.not_mem_nil
    · exact ih h
  | case3 rest c hc hsplit =>
    cases List.mem_singleton.1 h
    exact fun h => hc (List.mem_singleton.1 h).symm
  | case4 rest c first parts hc hsplit ih =>
    rw [hsplit] at ih
    rcases List.mem_cons.1 h with rfl | h
    · rw [List.mem_cons, not_or]
      exact ⟨fun h => hc h.symm, ih List.mem_cons_self⟩
    · exact ih (List.mem_cons_of_mem _ h)

theorem pieces_ne_nil (path : String) : pieces path ≠ [] := by
  simp [pieces, split_eq_splitOn, List.splitOn_ne_nil]

theorem not_mem_of_mem_pieces {piece : String} (h : piece ∈ pieces path) : '/' ∉ piece.toList := by
  obtain ⟨part, hpart, rfl⟩ := List.mem_map.1 h
  rw [String.toList_ofList]
  exact not_mem_of_mem_split hpart

theorem pieces_append_slash (front behind : String) :
    pieces (front ++ "/" ++ behind) = pieces front ++ pieces behind := by
  have h : (front ++ "/" ++ behind).toList = front.toList ++ '/' :: behind.toList := by
    simp
  simp only [pieces, h, split_eq_splitOn, List.splitOn_append_cons_self, List.map_append]

theorem pieces_slash (front : String) : pieces (front ++ "/") = pieces front ++ [""] := by
  have h := pieces_append_slash front ""
  rwa [String.append_empty] at h

/-- Pieces put together again. -/
theorem pieces_intercalate {parts : List String} (hparts : ∀ p ∈ parts, '/' ∉ p.toList)
    (hne : parts ≠ []) : pieces (String.intercalate "/" parts) = parts := by
  have h : "/".toList = ['/'] := rfl
  rw [pieces, split_eq_splitOn, String.toList_intercalate, h,
    List.splitOn_intercalate _ (by simpa using hparts) (by simpa using hne), List.map_map]
  simp

/-- Nothing is in front of the slash which an absolute path begins with. -/
theorem empty_mem_pieces (h : isAbsolute path) : "" ∈ pieces path := by
  obtain ⟨cs, hcs⟩ := List.head?_eq_some_iff.1 (beq_iff_eq.1 h)
  rw [pieces, hcs, split_eq_splitOn, List.splitOn_cons_eq_if_modifyHead]
  exact List.mem_cons_self

theorem isAbsolute_append_slash (front behind : String) :
    isAbsolute (front ++ "/" ++ behind) = isAbsolute (front ++ "/") := by
  simp [isAbsolute]

theorem isAbsolute_append {front behind : String} (hfront : front ≠ "") :
    isAbsolute (front ++ behind) = isAbsolute front := by
  rw [isAbsolute, isAbsolute, String.toList_append,
    List.head?_append_of_ne_nil _ (mt String.toList_eq_nil_iff.1 hfront)]

/-! ### Steps -/

theorem steps_append_slash (front behind : String) :
    steps (front ++ "/" ++ behind) =
      steps (front ++ "/") ++ (pieces behind).filterMap Step.ofPiece? := by
  have hlead : lead (front ++ "/" ++ behind) = lead (front ++ "/") := by
    rw [lead, lead, isAbsolute_append_slash, pieces_append_slash, pieces_slash,
      List.head?_append_of_ne_nil _ (pieces_ne_nil front),
      List.head?_append_of_ne_nil _ (pieces_ne_nil front)]
  rw [steps, steps, hlead, pieces_append_slash, pieces_slash, List.filterMap_append,
    List.filterMap_append, List.append_assoc, List.append_assoc]
  rfl

/-- A slash at the end makes no step. -/
theorem steps_slash {front : String} (hfront : front ≠ "") :
    steps (front ++ "/") = steps front := by
  have hlead : lead (front ++ "/") = lead front := by
    rw [lead, lead, isAbsolute_append hfront, pieces_slash,
      List.head?_append_of_ne_nil _ (pieces_ne_nil front)]
  rw [steps, steps, hlead, pieces_slash, List.filterMap_append]
  exact congrArg _ (List.append_nil _)

/-- A path put behind a directory makes its steps after those of the directory. -/
theorem steps_join (hdirectory : directory ≠ "") (hpath : isAbsolute path = false) :
    steps (join directory path) =
      steps directory ++ (pieces path).filterMap Step.ofPiece? := by
  rw [join, if_neg (by simp [hpath])]
  split
  case isTrue h =>
    have hlast := h.resolve_left hdirectory
    -- The slash at the end of the directory takes the place of the one which is put between.
    obtain ⟨front, rfl⟩ : ∃ front, directory = front ++ "/" := by
      obtain ⟨cs, hcs⟩ := List.getLast?_eq_some_iff.1 hlast
      exact ⟨String.ofList cs, String.toList_inj.1 (by simp [hcs])⟩
    exact steps_append_slash front path
  case isFalse h => rw [steps_append_slash, steps_slash hdirectory]

/-- Which step a piece makes, if any. -/
theorem Step.ofPiece?_cases (piece : String) :
    (ofPiece? piece = none ∧ ¬ (piece ≠ "" ∧ piece ≠ ".")) ∨
    (ofPiece? piece = some .parent ∧ piece = "..") ∨
    (ofPiece? piece = some (.name piece) ∧ (piece ≠ "" ∧ piece ≠ ".") ∧ piece ≠ "..") := by
  rw [← not_or, not_not]
  by_cases hskipped : piece = "" ∨ piece = "."
  · exact .inl ⟨if_pos hskipped, hskipped⟩
  · by_cases hparent : piece = ".."
    · exact .inr (.inl ⟨by rw [ofPiece?, if_neg hskipped, if_pos hparent], hparent⟩)
    · exact .inr (.inr ⟨by rw [ofPiece?, if_neg hskipped, if_neg hparent], hskipped, hparent⟩)

theorem lead_cases (path : String) :
    (lead path = [.root] ∧ isAbsolute path = true) ∨
    ((lead path = [.current] ∨ lead path = []) ∧ isAbsolute path = false) := by
  cases habsolute : isAbsolute path with
  | true => exact .inl ⟨by rw [lead, if_pos habsolute], rfl⟩
  | false =>
    refine .inr ⟨?_, rfl⟩
    rw [lead, habsolute, if_neg Bool.false_ne_true]
    split
    · exact .inl rfl
    · exact .inr rfl

theorem mem_steps_root : .root ∈ steps path ↔ isAbsolute path := by
  have hpieces : .root ∉ (pieces path).filterMap Step.ofPiece? := by
    intro h
    obtain ⟨piece, -, hpiece⟩ := List.mem_filterMap.1 h
    rcases Step.ofPiece?_cases piece with ⟨h, -⟩ | ⟨h, -⟩ | ⟨h, -⟩ <;>
      cases h.symm.trans hpiece
  rw [steps, List.mem_append, or_iff_left hpieces]
  rcases lead_cases path with ⟨h, habsolute⟩ | ⟨h | h, habsolute⟩ <;> simp [h, habsolute]

theorem mem_steps_parent : .parent ∈ steps path ↔ ".." ∈ pieces path := by
  have hlead : .parent ∉ lead path := by
    rcases lead_cases path with ⟨h, -⟩ | ⟨h | h, -⟩ <;> simp [h]
  rw [steps, List.mem_append, or_iff_right hlead, List.mem_filterMap]
  constructor
  · rintro ⟨piece, hmem, hpiece⟩
    rcases Step.ofPiece?_cases piece with ⟨h, -⟩ | ⟨-, rfl⟩ | ⟨h, -⟩
    · cases h.symm.trans hpiece
    · exact hmem
    · cases h.symm.trans hpiece
  · exact fun h => ⟨_, h, by decide⟩

theorem all_stays_iff :
    (steps path).all Step.stays ↔ isAbsolute path = false ∧ ".." ∉ pieces path := by
  rw [← mem_steps_parent, ← Bool.not_eq_true, ← mem_steps_root, List.all_eq_true]
  constructor
  · exact fun h => ⟨fun hr => absurd (h _ hr) (by decide), fun hp => absurd (h _ hp) (by decide)⟩
  · rintro ⟨hr, hp⟩ (_ | _ | _ | _) h
    · exact absurd h hr
    · rfl
    · exact absurd h hp
    · rfl

/-! ### Components -/

/-- The component of a path which makes the step, if it leads somewhere. -/
def Step.component? : Step → Option String
  | root | current => none
  | parent => some ".."
  | name text => some text

/-- The components of a path which lead somewhere are those which make a step. -/
theorem components_eq_filterMap (path : String) :
    components path = (steps path).filterMap Step.component? := by
  have hlead : (lead path).filterMap Step.component? = [] := by
    rcases lead_cases path with ⟨h, -⟩ | ⟨h | h, -⟩ <;> rw [h] <;> rfl
  have hpiece (piece : String) : (Step.ofPiece? piece).bind Step.component? =
      Option.guard (fun p => decide (p ≠ "" ∧ p ≠ ".")) piece := by
    rcases Step.ofPiece?_cases piece with ⟨h, hskipped⟩ | ⟨-, rfl⟩ | ⟨h, hnamed, -⟩
    · rw [h, Option.guard, if_neg (by simpa using hskipped)]
      rfl
    · rfl
    · rw [h, Option.guard, if_pos (by simpa using hnamed)]
      rfl
  rw [steps, List.filterMap_append, hlead, List.nil_append, components, List.filterMap_filterMap,
    funext hpiece, List.filterMap_eq_filter]

/-- Pieces none of which leads up lead to the names among them. -/
theorem filterMap_ofPiece? {parts : List String} (hparts : ".." ∉ parts) :
    parts.filterMap Step.ofPiece? =
      (parts.filter fun p => p ≠ "" ∧ p ≠ ".").map Step.name := by
  rw [← List.filterMap_eq_map, List.filterMap_filter]
  refine List.filterMap_congr fun piece hmem => ?_
  rcases Step.ofPiece?_cases piece with ⟨h, hskipped⟩ | ⟨-, rfl⟩ | ⟨h, hnamed, -⟩
  · rw [h, if_neg (by simpa using hskipped)]
  · exact absurd hmem hparts
  · rw [h, if_pos (by simpa using hnamed)]
    rfl

theorem collapse_append {absolute : Bool} {parts names : List String} (hnames : ".." ∉ names) :
    collapse absolute (parts ++ names) = names.reverse ++ collapse absolute parts := by
  rw [collapse, List.foldl_append, ← collapse]
  generalize collapse absolute parts = acc
  induction names generalizing acc with
  | nil => rfl
  | cons name rest ih =>
    rw [List.mem_cons, not_or] at hnames
    rw [List.foldl_cons, if_neg (Ne.symm hnames.1), ih hnames.2, List.reverse_cons,
      List.append_assoc]
    rfl

theorem mem_or_eq_of_mem_collapse {absolute : Bool} {parts : List String} {part : String}
    (h : part ∈ collapse absolute parts) : part ∈ parts ∨ part = ".." := by
  refine List.foldlRecOn (motive := fun acc => part ∈ acc → part ∈ parts ∨ part = "..") parts _
    (fun h => absurd h List.not_mem_nil) (fun acc ih next hnext => ?_) h
  split
  · split
    · split
      · exact fun h => absurd h List.not_mem_nil
      · exact fun h => .inr (List.mem_singleton.1 h)
    · intro h
      rcases List.mem_cons.1 h with rfl | h
      · exact .inr rfl
      · exact ih h
    · exact fun h => ih (List.mem_cons_of_mem _ h)
  · intro h
    rcases List.mem_cons.1 h with rfl | h
    · exact .inl hnext
    · exact ih h

/-! ### Clean paths -/

/-- The text names a file or directory, or is `..`. -/
structure IsComponent (text : String) : Prop where
  ne_empty : text ≠ ""
  ne_current : text ≠ "."
  not_mem : '/' ∉ text.toList

theorem isComponent_of_mem {text : String} (h : text ∈ components path) : IsComponent text := by
  obtain ⟨hpiece, hleads⟩ := List.mem_filter.1 h
  simp only [decide_eq_true_eq] at hleads
  exact ⟨hleads.1, hleads.2, not_mem_of_mem_pieces hpiece⟩

theorem isComponent_of_mem_collapse (path : String) (absolute : Bool) :
    ∀ p ∈ (collapse absolute (components path)).reverse, IsComponent p := by
  intro p hp
  rcases mem_or_eq_of_mem_collapse (List.mem_reverse.1 hp) with h | rfl
  · exact isComponent_of_mem h
  · exact ⟨by decide, by decide, by decide⟩

theorem components_intercalate {parts : List String} (hparts : ∀ p ∈ parts, IsComponent p) :
    components (String.intercalate "/" parts) = parts := by
  by_cases hnil : parts = []
  · subst hnil
    decide
  · rw [components, pieces_intercalate (fun p hp => (hparts p hp).not_mem) hnil,
      List.filter_eq_self]
    exact fun p hp => by simpa using ⟨(hparts p hp).ne_empty, (hparts p hp).ne_current⟩

theorem components_slash_append (behind : String) :
    components ("/" ++ behind) = components behind := by
  have h := pieces_append_slash "" behind
  rw [String.empty_append] at h
  rw [components, components, h, List.filter_append]
  rfl

theorem isAbsolute_intercalate {parts : List String} (hparts : ∀ p ∈ parts, IsComponent p) :
    isAbsolute (String.intercalate "/" parts) = false := by
  by_cases hnil : parts = []
  · subst hnil
    decide
  · by_contra h
    have hempty := empty_mem_pieces (Bool.not_eq_false _ ▸ h)
    rw [pieces_intercalate (fun p hp => (hparts p hp).not_mem) hnil] at hempty
    exact (hparts "" hempty).ne_empty rfl

/-- The components left over from a path are those of the clean path. -/
theorem components_clean (path : String) :
    components (clean path) = (collapse (isAbsolute path) (components path)).reverse := by
  have hparts := isComponent_of_mem_collapse path (isAbsolute path)
  simp only [clean]
  generalize (collapse (isAbsolute path) (components path)).reverse = parts at *
  split
  · rw [components_slash_append, components_intercalate hparts]
  · split
    case isTrue h =>
      rw [List.isEmpty_iff.1 h]
      decide
    case isFalse => exact components_intercalate hparts

theorem isAbsolute_clean (path : String) : isAbsolute (clean path) = isAbsolute path := by
  have hparts := isComponent_of_mem_collapse path (isAbsolute path)
  simp only [clean]
  generalize (collapse (isAbsolute path) (components path)).reverse = parts at *
  split
  case isTrue h =>
    rw [h, isAbsolute, String.toList_append]
    rfl
  case isFalse h =>
    rw [Bool.not_eq_true] at h
    rw [h]
    split
    · decide
    · exact isAbsolute_intercalate hparts

/-! ### Going on from a directory -/

/-- What a document path names on its way. -/
def names (path : String) : List String :=
  ((path.toList.splitOn '/').map String.ofList).filter fun part => part ≠ "" ∧ part ≠ "."

/-- A document path which leads nowhere or could lead out of a directory. -/
def Escapes (path : String) : Prop :=
  path = "" ∨ path.toList.head? = some '/' ∨ ['.', '.'] ∈ path.toList.splitOn '/'

instance : Decidable (Escapes path) := inferInstanceAs (Decidable (_ ∨ _ ∨ _))

theorem names_eq (path : String) : names path = (pieces path).filter fun p => p ≠ "" ∧ p ≠ "." := by
  rw [names, pieces, split_eq_splitOn]

theorem parent_mem_pieces : ".." ∈ pieces path ↔ ['.', '.'] ∈ path.toList.splitOn '/' := by
  rw [pieces, split_eq_splitOn]
  exact List.mem_map_of_injective fun _ _ => String.ofList_injective

/-- The check of the steps tells from the text of a path whether it is put behind the directory. -/
theorem below?_eq (directory path : String) :
    below? directory path = if Escapes path then none else some (join directory path) := by
  have hescapes : path = "" ∨ ¬ (steps path).all Step.stays ↔ Escapes path := by
    rw [Escapes, ← parent_mem_pieces, all_stays_iff, isAbsolute, beq_eq_false_iff_ne]
    tauto
  simp only [below?, hescapes]

/-- A path goes on from a directory: behind the steps of the directory it only makes steps to the
    names, each of them the name of a file or directory and not the way up. -/
structure GoesOn (directory : String) (names : List String) (path : String) : Prop where
  steps_eq : steps path = steps directory ++ names.map Step.name
  isComponent : ∀ name ∈ names, IsComponent name
  parent_not_mem : ".." ∉ names

theorem goesOn_join (hdirectory : directory ≠ "") (hpath : ¬ Escapes path) :
    GoesOn directory (names path) (join directory path) := by
  simp only [Escapes, not_or, ← parent_mem_pieces] at hpath
  obtain ⟨-, habsolute, hparent⟩ := hpath
  have hmem : ∀ name ∈ names path, name ∈ pieces path := by
    rw [names_eq]
    exact fun name h => List.mem_of_mem_filter h
  refine ⟨?_, fun name h => isComponent_of_mem (by rwa [components, ← names_eq]),
    fun h => hparent (hmem _ h)⟩
  rw [steps_join hdirectory (beq_eq_false_iff_ne.2 habsolute), filterMap_ofPiece? hparent, names_eq]

namespace GoesOn

variable {names : List String} (h : GoesOn directory names path)

include h

theorem isAbsolute_eq : isAbsolute path = isAbsolute directory := by
  rw [Bool.eq_iff_iff, ← mem_steps_root, ← mem_steps_root, h.steps_eq]
  simp

/-- The clean path goes on from the clean directory through the same names. -/
theorem components_clean :
    components (clean path) = components (clean directory) ++ names := by
  have hnames : (names.map Step.name).filterMap Step.component? = names := by
    rw [List.filterMap_map]
    exact List.filterMap_some
  rw [Path.components_clean, Path.components_clean, h.isAbsolute_eq, components_eq_filterMap path,
    h.steps_eq, List.filterMap_append, ← components_eq_filterMap, hnames,
    collapse_append h.parent_not_mem, List.reverse_append, List.reverse_reverse]

end GoesOn

end Path

namespace Fetcher

/-- What the file at the full path holds, or why it cannot be read. -/
theorem wait_answer_directory {root path full : String}
    {read : String → Except FileFault String} (hbelow : Path.below? root path = some full) :
    ((directory root read).answer path).wait = (read full).mapError fun
      | .notFound => .notFound path
      | fault => .io full fault := by
  simp only [directory, hbelow, Eventual.onDemand, Eventual.wait_andThen, Eventual.wait_later]
  cases read full with
  | ok content => rfl
  | error fault => cases fault <;> rfl

/-- Documents of a directory stay below it. The fetcher refuses a path, without reading anything,
    exactly if it is empty, begins with a slash or has `..` between its slashes. Any other path
    leads from the directory through what it names and nowhere else, also when both paths are
    cleaned, and the answer depends on nothing but the file which is there. -/
theorem answer_directory_stays_below {root : String} (hroot : root ≠ "") (path : String) :
    (Path.Escapes path →
      Path.below? root path = none ∧
      ∀ read, (directory root read).answer path = EventualResult.fail (.invalidPath path)) ∧
    (¬ Path.Escapes path → ∃ full,
      Path.below? root path = some full ∧
      Path.GoesOn root (Path.names path) full ∧
      Path.isAbsolute (Path.clean full) = Path.isAbsolute (Path.clean root) ∧
      Path.components (Path.clean full) =
        Path.components (Path.clean root) ++ Path.names path ∧
      (∀ read refused,
        ((directory root read).answer path).wait ≠ .error (.invalidPath refused)) ∧
      ∀ read read', read full = read' full →
        (directory root read).answer path = (directory root read').answer path) := by
  refine ⟨fun hpath => ?_, fun hpath => ?_⟩
  · have hbelow : Path.below? root path = none := by rw [Path.below?_eq, if_pos hpath]
    exact ⟨hbelow, fun read => by simp only [directory, hbelow]⟩
  · have hbelow : Path.below? root path = some (Path.join root path) := by
      rw [Path.below?_eq, if_neg hpath]
    have hon := Path.goesOn_join hroot hpath
    refine ⟨_, hbelow, hon, ?_, hon.components_clean, fun read refused h => ?_, ?_⟩
    · rw [Path.isAbsolute_clean, Path.isAbsolute_clean, hon.isAbsolute_eq]
    · rw [wait_answer_directory hbelow] at h
      cases hread : read (Path.join root path) with
      | ok content =>
        rw [hread] at h
        cases h
      | error fault =>
        rw [hread] at h
        cases fault <;> cases h
    · intro read read' h
      simp only [directory, hbelow, h]

/-- Dots in names, doubled slashes and slashes at the end. -/
theorem answer_directory_stays_below_dots :
    ("data" ≠ "" ∧ ¬ Path.Escapes "./a//..b/.../c/") ∧
    ∃ full, Path.below? "data" "./a//..b/.../c/" = some full ∧
      Path.GoesOn "data" ["a", "..b", "...", "c"] full := by
  have hpath : ¬ Path.Escapes "./a//..b/.../c/" := by decide
  have hroot : "data" ≠ "" := by decide
  obtain ⟨full, hfull, hon, -⟩ := (answer_directory_stays_below hroot _).2 hpath
  exact ⟨⟨hroot, hpath⟩, full, hfull, hon⟩

end Fetcher

end EntityGraph
