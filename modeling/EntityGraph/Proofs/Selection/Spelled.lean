import Mathlib
import EntityGraph.Proofs.Selection.Tokens

/-!
# Reading back field sets

A tree of names is read back from each text which spells its field set, whatever layout stands
between the tokens (`SelectionTree.read_of_spells`). Its names may be any names, those which are
words of the language among them; it may not nest deeper than a document may.
-/

namespace EntityGraph

open Token

namespace Selection

mutual

/-- How many layers lie below a selected field. -/
def layers : Selection → Nat
  | .mk _ [] => 0
  | .mk _ (c :: cs) => layersOfList (c :: cs) + 1

def layersOfList : List Selection → Nat
  | [] => 0
  | s :: rest => max (layers s) (layersOfList rest)

end

theorem tokens_eq_name_cons (s : Selection) :
    ∃ more, s.tokens = .name s.name.toList :: more := by
  obtain ⟨name, children⟩ := s
  cases children with
  | nil => exact ⟨[], rfl⟩
  | cons => exact ⟨_, rfl⟩

end Selection

namespace SelectionTree

open Selection

/-- A query field stands for the key field of its name, with what it selects. -/
theorem ofQuery_field {p : Position} {n : Located String} {set : Option Position}
    {below : List QuerySelection} {children : SelectionTree}
    (h : ofQueryList below = .ok children) :
    ofQuery (.field ⟨p, none, n, [], [], set⟩ below) = .ok (.mk n.value children) := by
  rw [ofQuery, h]
  rfl

/-- Scanned tokens of a field leave less of a text than there was. -/
theorem length_lt_of_scans {s : Selection} {cs mid : List Char} (h : Scans cs s.tokens mid) :
    mid.length < cs.length := by
  have hlength := h.length_le fun t ht => (inFieldSet_of_mem_tokens s t ht).isSimple
  obtain ⟨more, hmore⟩ := s.tokens_eq_name_cons
  rw [hmore, List.length_cons] at hlength
  omega

/-- In front of a closing brace, key fields start with a name or with this brace. -/
theorem exists_read?_of_scans {tree : List Selection} {cs mid behind : List Char}
    (h : Scans cs (tokensOfList tree) mid) (hclose : read? mid = some (closeBrace, behind)) :
    ∃ t behind, read? cs = some (t, behind) ∧ t.InFieldSet ∧ t ≠ openBrace := by
  cases tree with
  | nil =>
    obtain rfl := Scans.nil_iff.1 h
    exact ⟨_, _, hclose, .closeBrace, by decide⟩
  | cons s rest =>
    obtain ⟨more, hmore⟩ := s.tokens_eq_name_cons
    rw [tokensOfList, hmore, List.cons_append, Scans.cons_iff] at h
    obtain ⟨behind, hread, -⟩ := h
    exact ⟨_, _, hread, .name _, fun h => nomatch h⟩

/-- Selections which stand for at least one key field are a selection set between braces. -/
theorem selectionSet_of_many {level depth : Nat} {c last : Cursor} {behind behind' : List Char}
    {qs : List QuerySelection} {tree : SelectionTree} (hlevel : level ≤ Grammar.maxLevel)
    (hopen : read? c.rest = some (openBrace, behind))
    (hmany : Grammar.many (depth + 1) (Grammar.selection level depth) (c.past ['\x7b'] behind) =
      some (qs, last))
    (hqs : ofQueryList qs = .ok tree) (hne : tree ≠ [])
    (hclose : read? last.rest = some (closeBrace, behind')) :
    Grammar.selectionSet level (depth + 1) c =
      some ((c.ruler.position, qs), last.past ['\x7d'] behind') := by
  cases qs with
  | nil => exact absurd (Except.ok.inj hqs).symm hne
  | cons q qs =>
    exact Grammar.selectionSet_of_some1 hlevel hopen (Grammar.some1_of_many hmany) hclose

mutual

/-- A key field is read from its tokens, in front of a further one or of a closing brace. -/
theorem exists_selection : ∀ (s : Selection) (level depth : Nat) {c : Cursor}
    {mid behind : List Char} {t : Token}, Scans c.rest s.tokens mid →
    read? mid = some (t, behind) → t.InFieldSet → t ≠ openBrace →
    level + s.layers ≤ Grammar.maxLevel → c.rest.length ≤ depth →
    ∃ q c', Grammar.selection level depth c = some (q, c') ∧ ofQuery q = .ok s ∧
      c'.rest = mid ∧ c'.fault = c.fault
  | .mk n [], level, depth, c, mid, behind, t, h, hnext, ht, hne, hlevel, hdepth => by
    have hlt := length_lt_of_scans h
    obtain ⟨depth, rfl⟩ := Nat.exists_eq_add_of_lt (show 0 < depth by omega)
    rw [Selection.tokens, Scans.cons_iff] at h
    obtain ⟨after, hname, h⟩ := h
    obtain rfl := Scans.nil_iff.1 h
    have hset : Grammar.selectionSet (level + 1) (0 + depth) (c.past n.toList after) = none :=
      Grammar.selectionSet_of_read?_ne hnext hne
    rw [Grammar.selection_of_name hname hnext ht, Grammar.optional_of_eq_none hset]
    have hleaf : ofQueryList [] = .ok [] := rfl
    refine ⟨_, _, rfl, ?_, rfl, rfl⟩
    exact (ofQuery_field hleaf).trans (by rw [String.ofList_toList])
  | .mk n (child :: children), level, depth, c, mid, behind, t, h, hnext, ht, hne, hlevel,
      hdepth => by
    rw [Selection.tokens, Scans.cons_iff] at h
    obtain ⟨after, hname, h⟩ := h
    obtain ⟨inside, hopen, h⟩ := Scans.cons_iff.1 h
    obtain ⟨last, hchildren, h⟩ := h.of_append
    obtain ⟨behind', hclose, h⟩ := Scans.cons_iff.1 h
    obtain rfl := Scans.nil_iff.1 h
    -- The name and the opening brace take a level of the bound each.
    have hafter := (IsSimple.name n.toList).length_lt hname
    have hinside := InFieldSet.openBrace.isSimple.length_lt hopen
    have hlayout := Lexical.length_layout_le after
    have hlayout' := Lexical.length_layout_le inside
    obtain ⟨depth, rfl⟩ : ∃ d, depth = d + 2 := ⟨depth - 2, by omega⟩
    rw [layers] at hlevel
    obtain ⟨qs, c', hmany, hqs, hlast, hfault⟩ :=
      exists_many (child :: children) (level + 1) (depth + 1) depth
        (c := (c.past n.toList after).past ['\x7b'] inside) hchildren hclose (by omega)
        (by simp only [Cursor.rest_past]; omega) (by simp only [Cursor.rest_past]; omega)
    have hset := selectionSet_of_many (by omega) hopen hmany hqs (List.cons_ne_nil _ _)
      (hlast ▸ hclose)
    rw [Grammar.selection_of_name hname hopen .openBrace, Grammar.optional_of_eq_some hset]
    refine ⟨_, _, rfl, ?_, rfl, hfault⟩
    exact (ofQuery_field hqs).trans (by rw [String.ofList_toList])

/-- Key fields are read from their tokens in front of a closing brace. -/
theorem exists_many : ∀ (tree : List Selection) (level bound depth : Nat) {c : Cursor}
    {mid behind : List Char}, Scans c.rest (tokensOfList tree) mid →
    read? mid = some (closeBrace, behind) → level + layersOfList tree ≤ Grammar.maxLevel →
    c.rest.length ≤ bound → c.rest.length ≤ depth →
    ∃ qs c', Grammar.many bound (Grammar.selection level depth) c = some (qs, c') ∧
      ofQueryList qs = .ok tree ∧ c'.rest = mid ∧ c'.fault = c.fault
  | [], level, bound, depth, c, mid, behind, h, hclose, hlevel, hbound, hdepth => by
    obtain rfl := Scans.nil_iff.1 h
    exact ⟨[], c, Grammar.many_of_eq_none (Grammar.selection_of_closeBrace hclose), rfl, rfl, rfl⟩
  | s :: rest, level, bound, depth, c, mid, behind, h, hclose, hlevel, hbound, hdepth => by
    rw [tokensOfList] at h
    rw [layersOfList] at hlevel
    obtain ⟨between, hs, hrest⟩ := h.of_append
    obtain ⟨t, _, hnext, ht, hne⟩ := exists_read?_of_scans hrest hclose
    have hlt := length_lt_of_scans hs
    obtain ⟨q, next, hq, hquery, hbetween, hfault⟩ :=
      exists_selection s level depth hs hnext ht hne (by omega) hdepth
    obtain ⟨bound, rfl⟩ : ∃ b, bound = b + 1 := ⟨bound - 1, by omega⟩
    subst hbetween
    obtain ⟨qs, c', hmany, hqs, hmid, hfault'⟩ :=
      exists_many rest level bound depth hrest hclose (by omega)
        (by omega) (by omega)
    refine ⟨q :: qs, c', ?_, ?_, hmid, hfault'.trans hfault⟩
    · rw [Grammar.many_succ, hq]
      simp only [hmany, Option.map_some]
    · rw [ofQueryList, hquery, hqs]
      rfl

end

/-- The tokens of a tree of names can be written. -/
theorem writable_tokens {tree : SelectionTree}
    (hnames : ∀ n, Token.name n ∈ tree.tokens → Lexical.isName n = true) :
    Writable tree.tokens := by
  intro t ht
  refine ⟨(inFieldSet_of_mem_tokensOfList tree t ht).isSimple, ?_⟩
  rintro n rfl
  exact hnames n ht

/-- A document of one query without a name is the tree of its selections. -/
theorem ofDocument_query {o : Operation} (ho : o.name = none) {tree : SelectionTree}
    (hqs : ofQueryList o.selections = .ok tree) (hne : tree ≠ []) :
    ofDocument ⟨[o], []⟩ = .ok tree := by
  cases tree with
  | nil => exact absurd rfl hne
  | cons s rest => simp [ofDocument, ho, hqs]

/-- A tree which does not nest too deep is read if its field set is scanned, with the braces. -/
theorem read_of_scans {tree : SelectionTree} (hne : tree ≠ [])
    (hlayers : layersOfList tree ≤ Grammar.maxLevel) {fields : String}
    (h : Scans (Lexical.layout (braced fields).toList).2
      (openBrace :: (tree.tokens ++ [closeBrace])) []) :
    read fields = .ok tree := by
  obtain ⟨inside, hopen, h⟩ := Scans.cons_iff.1 h
  obtain ⟨last, htree, h⟩ := h.of_append
  obtain ⟨behind, hclose, h⟩ := Scans.cons_iff.1 h
  have hend : (Lexical.layout behind).2 = [] := Scans.nil_iff.1 h
  -- The bound on the depth, the length of the text, is never reached.
  have hstart := Lexical.length_layout_le (braced fields).toList
  have hinside := InFieldSet.openBrace.isSimple.length_lt hopen
  have hlayout := Lexical.length_layout_le inside
  rw [String.length_toList] at hstart
  obtain ⟨qs, c', hmany, hqs, hlast, hfault⟩ :=
    exists_many tree 0 ((braced fields).length + 1) (braced fields).length
      (c := (Cursor.start (braced fields)).skipLayout.past ['\x7b'] inside) htree hclose (by omega)
      (by simp only [Cursor.rest_past]; omega) (by simp only [Cursor.rest_past]; omega)
  have hset := selectionSet_of_many (Nat.zero_le _) hopen hmany hqs hne (hlast ▸ hclose)
  have hdocument := QueryDocument.read_of_selectionSet (rest_start_braced fields) hset hend hfault
  exact read_eq_ok_iff.2 ⟨_, hdocument, ofDocument_query rfl hqs hne⟩

/-- A tree of names which does not nest too deep is read from every text which spells its field
    set. -/
theorem read_of_spells (tree : SelectionTree) (hne : tree ≠ [])
    (hnames : ∀ n, Token.name n ∈ tree.tokens → Lexical.isName n = true)
    (hlayers : layersOfList tree ≤ Grammar.maxLevel) (fields : String)
    (h : Spells tree.tokens fields.toList) : read fields = .ok tree := by
  refine read_of_scans hne hlayers ?_
  rw [toList_braced]
  refine h.braced.scans fun t ht => ?_
  rw [List.mem_cons, List.mem_append, List.mem_singleton] at ht
  rcases ht with rfl | ht | rfl
  · exact ⟨InFieldSet.openBrace.isSimple, fun _ h => nomatch h⟩
  · exact writable_tokens hnames t ht
  · exact ⟨InFieldSet.closeBrace.isSimple, fun _ h => nomatch h⟩

/-- A tree whose names are words of the language, out of a text with commas, a comment and line
    breaks between them. -/
theorem read_of_spells_words :
    let tree : SelectionTree :=
      [.leaf "on", .nested "fragment" [.leaf "query", .leaf "true"], .leaf "on"]
    let fields := "\n on,fragment\x7bquery#on\ntrue ,\x7d on"
    (tree ≠ [] ∧ (∀ n, Token.name n ∈ tree.tokens → Lexical.isName n = true) ∧
      layersOfList tree ≤ Grammar.maxLevel ∧ Spells tree.tokens fields.toList) ∧
    read fields = .ok tree := by
  intro tree fields
  have hnames : ∀ n, Token.name n ∈ tree.tokens → Lexical.isName n = true := by
    intro n hn
    have hall : n = "on".toList ∨ n = "fragment".toList ∨ n = "query".toList ∨
        n = "true".toList := by
      simp [tree, SelectionTree.tokens, tokensOfList, Selection.tokens, leaf, nested, openBrace,
        closeBrace] at hn
      simp
      tauto
    rcases hall with rfl | rfl | rfl | rfl <;> decide +kernel
  have hspells : Spells tree.tokens fields.toList := by
    have hblank {c : Char} (hc : Lexical.isBlank c = true) : Lexical.Layout [c] := .blank hc .nil
    have hcons {c : Char} {cs : List Char} {p : Prop} (h : c :: cs = []) : p :=
      absurd h (List.cons_ne_nil c cs)
    have hcomment : Lexical.Layout ('#' :: (['o', 'n'] ++ '\n' :: [])) :=
      .comment (by simp [Lexical.isLineEnd]) rfl .nil
    have hlast : LaidOut [.name "on".toList] ("on".toList ++ ([] ++ [])) :=
      .name .nil (fun _ _ => by simp) .nil
    have hclose := LaidOut.mark (m := ['\x7d']) (hblank (c := ' ') rfl) hlast
    have htrue := LaidOut.name (n := "true".toList)
      (.blank (c := ' ') rfl (hblank (c := ',') rfl)) hcons hclose
    have hquery := LaidOut.name (n := "query".toList) hcomment hcons htrue
    have hopen := LaidOut.mark (m := ['\x7b']) .nil hquery
    have hnested := LaidOut.name (n := "fragment".toList) .nil (fun _ _ => by simp) hopen
    have hall := LaidOut.name (n := "on".toList) (hblank (c := ',') rfl) hcons hnested
    exact ⟨_, _, .blank (c := '\n') rfl (hblank (c := ' ') rfl), hall, by decide +kernel⟩
  have hne : tree ≠ [] := List.cons_ne_nil _ _
  have hlayers : layersOfList tree ≤ Grammar.maxLevel := by decide
  exact ⟨⟨hne, hnames, hlayers, hspells⟩,
    read_of_spells tree hne hnames hlayers fields hspells⟩

end SelectionTree

end EntityGraph
