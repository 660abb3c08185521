import Mathlib
import EntityGraph.Selection
import EntityGraph.Proofs.Language.Reading
import EntityGraph.Proofs.Outcome

/-!
# Tokens of a field set

A field set stands for a tree of names. Read as if it stood between the braces of a query, it is
wholly told by the tokens of its tree, unless it holds a directive or a closing brace of its own:
behind this brace the query is over, and what follows is no part of it. These are the only texts
of which something is left out (`SelectionTree.scan_eq_tokens_iff`).
-/

namespace EntityGraph

namespace Selection

open Token

/-! ### Field sets -/

mutual

theorem inFieldSet_of_mem_tokens : ∀ (s : Selection), ∀ t ∈ s.tokens, t.InFieldSet
  | .mk n [], t, h => by
    rw [tokens, List.mem_singleton] at h
    exact h ▸ .name _
  | .mk n (c :: cs), t, h => by
    rw [tokens, List.mem_cons, List.mem_cons, List.mem_append, List.mem_singleton] at h
    rcases h with rfl | rfl | h | rfl
    · exact .name _
    · exact .openBrace
    · exact inFieldSet_of_mem_tokensOfList (c :: cs) t h
    · exact .closeBrace

theorem inFieldSet_of_mem_tokensOfList :
    ∀ (tree : List Selection), ∀ t ∈ tokensOfList tree, t.InFieldSet
  | [], t, h => nomatch h
  | s :: rest, t, h => by
    rw [tokensOfList, List.mem_append] at h
    exact h.elim (inFieldSet_of_mem_tokens s t) (inFieldSet_of_mem_tokensOfList rest t)

end

/-- Nowhere among the tokens are more braces closed than opened. -/
def Nested (ts : List Token) : Prop :=
  ∀ before, before <+: ts → before.count closeBrace ≤ before.count openBrace

/-- As many braces are opened as closed, and none is closed before it is opened. -/
structure Balanced (ts : List Token) : Prop where
  nested : Nested ts
  count : ts.count closeBrace = ts.count openBrace

theorem balanced_nil : Balanced [] :=
  ⟨fun before h => by rw [List.prefix_nil.1 h]; exact Nat.le_refl _, rfl⟩

theorem balanced_name (n : List Char) : Balanced [.name n] := by
  refine ⟨fun before h => ?_, by simp [closeBrace, openBrace]⟩
  rcases List.prefix_cons_iff.1 h with rfl | ⟨more, rfl, hmore⟩
  · exact Nat.le_refl _
  · rw [List.prefix_nil.1 hmore]
    simp [closeBrace, openBrace]

/-- What stands in front of a place in two lists stands in front of it in the first one, or it is
    the first one and a part of the second one. -/
theorem prefix_append {before ts us : List Token} (h : before <+: ts ++ us) :
    before <+: ts ∨ ∃ more, more <+: us ∧ before = ts ++ more := by
  refine (List.prefix_or_prefix_of_prefix h (List.prefix_append ts us)).imp_right ?_
  rintro ⟨more, rfl⟩
  exact ⟨more, (List.prefix_append_right_inj ts).1 h, rfl⟩

theorem Balanced.append {ts us : List Token} (hts : Balanced ts) (hus : Balanced us) :
    Balanced (ts ++ us) := by
  refine ⟨fun before h => ?_, by rw [List.count_append, List.count_append, hts.count, hus.count]⟩
  rcases prefix_append h with h | ⟨more, hmore, rfl⟩
  · exact hts.nested before h
  · rw [List.count_append, List.count_append, hts.count]
    exact Nat.add_le_add_left (hus.nested more hmore) _

theorem Balanced.braced {ts : List Token} (hts : Balanced ts) :
    Balanced (openBrace :: (ts ++ [closeBrace])) := by
  have hne : ¬ openBrace = closeBrace := by decide
  have hcount := hts.count
  constructor
  · intro before h
    rcases List.prefix_cons_iff.1 h with rfl | ⟨more, rfl, hmore⟩
    · exact Nat.le_refl _
    · -- The opened brace makes up for the closed one, should this be reached.
      have hle : more.count closeBrace ≤ more.count openBrace + 1 := by
        rcases prefix_append hmore with hmore | ⟨last, hlast, rfl⟩
        · exact (hts.nested more hmore).trans (Nat.le_succ _)
        · have hlength := (List.count_le_length (a := closeBrace)).trans hlast.length_le
          simp only [List.count_append, List.length_singleton] at hlength ⊢
          omega
      simpa [List.count_cons, hne] using hle
  · simp [List.count_append, hne, Ne.symm hne, hcount]

mutual

theorem balanced_tokens : ∀ s : Selection, Balanced s.tokens
  | .mk _ [] => balanced_name _
  | .mk n (c :: cs) =>
    (balanced_name n.toList).append (balanced_tokensOfList (c :: cs)).braced

theorem balanced_tokensOfList : ∀ tree : List Selection, Balanced (tokensOfList tree)
  | [] => balanced_nil
  | s :: rest => (balanced_tokens s).append (balanced_tokensOfList rest)

end

end Selection

namespace Token

/-! ### What a text starts with -/

/-- The text starts with the tokens, layout apart. -/
def Starts (ts : List Token) (text : String) : Prop :=
  ∃ rest, Scans (Lexical.layout text.toList).2 ts rest

/-- Wherever the text is cut behind one of its tokens, there is no directive in front, and no brace
    was closed which is not opened there. -/
structure FieldsOnly (text : String) : Prop where
  noDirective : ∀ ts, Starts ts text → directiveMark ∉ ts
  nested : ∀ ts, Starts ts text → ts.count closeBrace ≤ ts.count openBrace

/-- Behind some tokens of field sets stands a directive. -/
def DirectiveAhead (cs : List Char) : Prop :=
  ∃ before rest, (∀ t ∈ before, t.InFieldSet) ∧ Scans cs (before ++ [directiveMark]) rest

theorem DirectiveAhead.of_scans {cs mid : List Char} {ts : List Token} (h : Scans cs ts mid)
    (hts : ∀ t ∈ ts, t.InFieldSet) (hahead : DirectiveAhead mid) : DirectiveAhead cs := by
  obtain ⟨before, rest, hbefore, hscans⟩ := hahead
  refine ⟨ts ++ before, rest, fun t ht => ?_, by rw [List.append_assoc]; exact h.append hscans⟩
  exact (List.mem_append.1 ht).elim (hts t) (hbefore t)

/-- Either all of the tokens were passed, or a directive stands on the way. -/
def Passes (cs : List Char) (ts : List Token) (rest : List Char) : Prop :=
  Scans cs ts rest ∨ DirectiveAhead cs

theorem Passes.append {cs mid rest : List Char} {ts us : List Token} (h : Passes cs ts mid)
    (hts : ∀ t ∈ ts, t.InFieldSet) (h' : Passes mid us rest) : Passes cs (ts ++ us) rest := by
  rcases h with h | h
  · rcases h' with h' | h'
    · exact .inl (h.append h')
    · exact .inr (h'.of_scans h hts)
  · exact .inr h

end Token

namespace SelectionTree

open Token Selection

/-- A selection of a query is a key field only if it is a field by its own name. -/
theorem ofQuery_eq_ok {q : QuerySelection} {s : Selection} (h : ofQuery q = .ok s) :
    ∃ head below children, q = .field head below ∧ head.label = none ∧ head.arguments = [] ∧
      ofQueryList below = .ok children ∧ s = .mk head.name.value children := by
  cases q with
  | field head below =>
    rw [ofQuery] at h
    split at h
    · cases h
    · next hplain =>
      obtain ⟨children, hchildren, h⟩ := Outcome.bind_eq_ok.1 h
      simp only [Bool.or_eq_true, not_or, Bool.not_eq_true, Option.isSome_eq_false_iff,
        Option.isNone_iff_eq_none, Bool.not_eq_false', List.isEmpty_iff] at hplain
      exact ⟨head, below, children, rfl, hplain.1, hplain.2, hchildren, (Except.ok.inj h).symm⟩
  | inlineFragment head below => cases h
  | spread fragment => cases h

theorem ofQueryList_cons_eq_ok {q : QuerySelection} {qs : List QuerySelection}
    {tree : SelectionTree} (h : ofQueryList (q :: qs) = .ok tree) :
    ∃ s rest, ofQuery q = .ok s ∧ ofQueryList qs = .ok rest ∧ tree = s :: rest := by
  obtain ⟨s, hs, h⟩ := Outcome.bind_eq_ok.1 h
  obtain ⟨rest, hrest, h⟩ := Outcome.bind_eq_ok.1 h
  exact ⟨s, rest, hs, hrest, (Except.ok.inj h).symm⟩

/-! ### What was read -/

/-- Selections of a query behind each other pass the tokens of their tree, if each of them passes
    its own. -/
theorem passes_many {step : Grammar QuerySelection}
    (hstep : ∀ {c c' : Cursor} {q : QuerySelection} {s : Selection},
      step c = some (q, c') → ofQuery q = .ok s → Passes c.rest s.tokens c'.rest)
    {qs : List QuerySelection} {bound : Nat} {c c' : Cursor} {tree : SelectionTree}
    (h : Grammar.many bound step c = some (qs, c')) (htree : ofQueryList qs = .ok tree) :
    Passes c.rest tree.tokens c'.rest := by
  induction qs generalizing bound c tree with
  | nil =>
    obtain rfl := Grammar.many_eq_some_nil h
    obtain rfl := Except.ok.inj htree
    exact .inl .done
  | cons q qs ih =>
    obtain ⟨_, mid, -, hq, hqs⟩ := Grammar.many_eq_some_cons h
    obtain ⟨s, rest, hs, hrest, rfl⟩ := ofQueryList_cons_eq_ok htree
    exact (hstep hq hs).append (inFieldSet_of_mem_tokens s) (ih hqs hrest)

mutual

/-- A selection which is a key field was passed by its tokens. -/
theorem passes_selection : ∀ (depth : Nat) {level : Nat} {c c' : Cursor} {q : QuerySelection}
    {s : Selection}, Grammar.selection level depth c = some (q, c') → ofQuery q = .ok s →
      Passes c.rest s.tokens c'.rest
  | 0, _, _, _, _, _, h, _ => nomatch h
  | depth + 1, level, c, c', q, s, h, hs => by
    obtain ⟨head, below, children, rfl, hlabel, harguments, hchildren, rfl⟩ := ofQuery_eq_ok hs
    obtain ⟨behind, uses, mid, set, hname, huses, hset, rfl⟩ :=
      Grammar.selection_eq_some_field h hlabel harguments
    obtain ⟨chars, _, hread, hhead, rfl⟩ := Grammar.name_eq_some.1 hname
    have hfirst : Passes c.rest [.name chars] _ := .inl (.token hread .done)
    have hplain : ∀ t ∈ [Token.name chars], t.InFieldSet := by
      simpa using InFieldSet.name chars
    have hchars : head.name.value.toList = chars := by rw [← hhead]; exact String.toList_ofList
    rcases Grammar.directiveUses_eq_some huses with rfl | ⟨_, hdirective⟩
    · rcases Grammar.optional_eq_some.1 hset with ⟨⟨p, qs⟩, rfl, hread⟩ | ⟨rfl, -, rfl⟩
      · -- With a selection set, whose tree is not empty.
        obtain ⟨hne, hbelow⟩ := passes_selectionSet depth hread hchildren
        cases children with
        | nil => exact absurd rfl hne
        | cons child more =>
          rw [Selection.tokens, hchars]
          exact hfirst.append hplain hbelow
      · obtain rfl := Except.ok.inj hchildren
        rw [Selection.tokens, hchars]
        exact hfirst
    · -- Directives are left out of the tree; the first one is ahead behind the name.
      exact .inr ⟨_, _, hplain, .token hread (.token hdirective .done)⟩

theorem passes_selectionSet : ∀ (depth : Nat) {level : Nat} {c c' : Cursor} {p : Position}
    {qs : List QuerySelection} {tree : SelectionTree},
    Grammar.selectionSet level depth c = some ((p, qs), c') → ofQueryList qs = .ok tree →
      tree ≠ [] ∧ Passes c.rest (openBrace :: (tree.tokens ++ [closeBrace])) c'.rest
  | 0, _, _, _, _, _, _, h, _ => nomatch h
  | depth + 1, level, c, c', p, qs, tree, h, htree => by
    obtain ⟨behind, inner, last, hopen, hinner, hqs, behind', hclose, hc'⟩ :=
      Grammar.selectionSet_eq_some h
    obtain ⟨first, mid, hfirst, hqs⟩ := Grammar.bind_eq_some.1 hqs
    obtain ⟨more, last', hmore, hqs⟩ := Grammar.bind_eq_some.1 hqs
    obtain ⟨rfl, rfl⟩ := Grammar.pure_eq_some.1 hqs
    obtain ⟨s, rest, hs, hrest, rfl⟩ := ofQueryList_cons_eq_ok htree
    have hinside : Passes inner.rest (tokensOfList (s :: rest)) last'.rest :=
      (passes_selection depth hfirst hs).append (inFieldSet_of_mem_tokens s)
        (passes_many (passes_selection depth) hmore hrest)
    rw [hinner] at hinside
    have hbegin : Passes c.rest [openBrace] (Lexical.layout behind).2 := .inl (.token hopen .done)
    have hend : Passes last'.rest [closeBrace] c'.rest := by
      rw [hc']
      exact .inl (.token hclose .done)
    refine ⟨List.cons_ne_nil _ _, ?_⟩
    refine hbegin.append (by simpa using InFieldSet.openBrace) ?_
    exact hinside.append (inFieldSet_of_mem_tokensOfList (s :: rest)) hend

end

/-- The text of a field set between the braces of a query. -/
def braced (fields : String) : String := "\x7b " ++ fields ++ " \x7d"

theorem toList_braced (fields : String) :
    (braced fields).toList = '\x7b' :: ' ' :: (fields.toList ++ [' ', '\x7d']) := by
  simp [braced]

theorem rest_start_braced (fields : String) :
    (Cursor.start (braced fields)).skipLayout.rest =
      '\x7b' :: ' ' :: (fields.toList ++ [' ', '\x7d']) := by
  change (Lexical.layout (braced fields).toList).2 = _
  rw [toList_braced]
  exact Lexical.layout_eq_self (by simp [Lexical.isBlank, Lexical.isLineEnd])

theorem ofDocument_eq_ok {document : QueryDocument} {o : Operation} {tree : SelectionTree}
    (hdocument : document.operations = [o]) (h : ofDocument document = .ok tree) :
    ofQueryList o.selections = .ok tree := by
  rw [ofDocument, hdocument] at h
  simp only at h
  split at h
  · cases h
  · split at h
    · cases h
    · cases h
    · next htree => rw [htree, Except.ok.inj h]

/-- A field set is the tree of a document which stands between braces. -/
theorem read_eq_ok_iff {fields : String} {tree : SelectionTree} :
    read fields = .ok tree ↔ ∃ document,
      QueryDocument.read (braced fields) = .ok document ∧ ofDocument document = .ok tree := by
  unfold read braced
  cases QueryDocument.read ("\x7b " ++ fields ++ " \x7d") <;> simp

/-- A tree was read from the first selection set between the braces. -/
theorem read_eq_ok {fields : String} {tree : SelectionTree} (h : read fields = .ok tree) :
    ∃ depth p qs c', Grammar.selectionSet 0 depth (Cursor.start (braced fields)).skipLayout =
      some ((p, qs), c') ∧ ofQueryList qs = .ok tree := by
  obtain ⟨document, hdocument, h⟩ := read_eq_ok_iff.1 h
  obtain ⟨definitions, hread, hdefinitions⟩ := QueryDocument.read_eq_ok.1 hdocument
  obtain ⟨_, hread, -⟩ := Grammar.run_eq_some.1 hread
  rw [Grammar.queryDefinitions_eq] at hread
  obtain ⟨first, mid, hfirst, hread⟩ := Grammar.bind_eq_some.1 hread
  obtain ⟨more, _, -, hread⟩ := Grammar.bind_eq_some.1 hread
  obtain ⟨rfl, -⟩ := Grammar.pure_eq_some.1 hread
  rw [Grammar.queryDefinition_of_openBrace (rest_start_braced fields)] at hfirst
  obtain ⟨⟨⟨p, qs⟩, rest⟩, hset, hfirst⟩ := Option.map_eq_some_iff.1 hfirst
  cases hfirst
  have hoperations := QueryDocument.operations_of_ofDefinitions rfl hdefinitions
  exact ⟨_, p, qs, _, hset, ofDocument_eq_ok hoperations h⟩

/-- What a field set was written with beside the tokens of its tree is a directive, or follows a
    closing brace behind these tokens. -/
theorem scan_of_read {fields : String} {tree : SelectionTree} (h : read fields = .ok tree) :
    scan fields = some tree.tokens ∨ (∃ ts, Starts (ts ++ [directiveMark]) fields) ∨
      Starts (tree.tokens ++ [closeBrace]) fields := by
  obtain ⟨depth, p, qs, c', hset, hqs⟩ := read_eq_ok h
  have hopen : read? ('\x7b' :: ' ' :: (fields.toList ++ [' ', '\x7d'])) =
      some (openBrace, ' ' :: (fields.toList ++ [' ', '\x7d'])) := (read?_mark (by decide)).2 rfl
  have htokens : ∀ t ∈ tree.tokens, t.InFieldSet := inFieldSet_of_mem_tokensOfList tree
  -- Behind the first brace, the tokens of the text and of the wrapping brace behind it are left.
  have hlayout (cs : List Char) : (Lexical.layout (' ' :: cs)).2 = (Lexical.layout cs).2 :=
    (Lexical.Layout.blank rfl .nil).append cs
  obtain ⟨-, hscans | ⟨before, rest, hbefore, hscans⟩⟩ := passes_selectionSet depth hset hqs
  · rw [rest_start_braced, Scans.cons_iff] at hscans
    obtain ⟨behind, hread, hscans⟩ := hscans
    obtain ⟨-, rfl⟩ := Prod.mk.inj (Option.some.inj (hopen.symm.trans hread))
    rw [hlayout] at hscans
    rcases hscans.of_append_closeBrace (fun t ht => (htokens t ht).isSimple)
      InFieldSet.closeBrace.isSimple with hstarts | ⟨-, hall⟩
    · exact .inr (.inr hstarts)
    · exact .inl ((scan_eq_some fun t ht => (htokens t ht).isSimple).2 hall)
  · rw [rest_start_braced] at hscans
    cases before with
    | nil =>
      obtain ⟨behind, hread, -⟩ := Scans.cons_iff.1 hscans
      cases hopen.symm.trans hread
    | cons first before =>
      obtain ⟨-, hbefore⟩ := List.forall_mem_cons.1 hbefore
      obtain ⟨behind, hread, hscans⟩ := Scans.cons_iff.1 hscans
      obtain ⟨-, rfl⟩ := Prod.mk.inj (Option.some.inj (hopen.symm.trans hread))
      rw [hlayout] at hscans
      rcases hscans.of_append_closeBrace (fun t ht => (hbefore t ht).isSimple)
        isSimple_directiveMark with hstarts | ⟨hne, -⟩
      · exact .inr (.inl ⟨before, hstarts⟩)
      · cases hne

/-- A text whose tokens are those of a tree is a field set, with nothing beside it. -/
theorem fieldsOnly_of_scan {fields : String} {tree : SelectionTree}
    (h : scan fields = some tree.tokens) : FieldsOnly fields := by
  have htokens : ∀ t ∈ tree.tokens, t.InFieldSet := inFieldSet_of_mem_tokensOfList tree
  have hall := (scan_eq_some fun t ht => (htokens t ht).isSimple).1 h
  constructor
  · rintro ts ⟨rest, hts⟩ hmem
    have hdirective := htokens _ ((hall.prefix_of_all hts).subset hmem)
    generalize ht : directiveMark = t at hdirective
    cases hdirective <;> cases ht
  · rintro ts ⟨rest, hts⟩
    exact (balanced_tokensOfList tree).nested ts (hall.prefix_of_all hts)

theorem scan_of_fieldsOnly {fields : String} {tree : SelectionTree} (h : read fields = .ok tree)
    (honly : FieldsOnly fields) : scan fields = some tree.tokens := by
  rcases scan_of_read h with hscan | ⟨ts, hdirective⟩ | hbrace
  · exact hscan
  · exact absurd (List.mem_append_right _ (List.mem_singleton_self _))
      (honly.noDirective _ hdirective)
  · -- With the brace behind them, one more brace is closed than opened.
    have hcount : tree.tokens.count closeBrace = tree.tokens.count openBrace :=
      (balanced_tokensOfList tree).count
    have hnested := honly.nested _ hbrace
    have hne : ¬ closeBrace = openBrace := by decide
    simp [List.count_append, hcount, hne] at hnested

/-- The tokens of a field set are those of its tree exactly if it holds no directive and no closing
    brace of its own. In such a text nothing else than names and braces is let through. -/
theorem scan_eq_tokens_iff (fields : String) :
    (∀ tree, read fields = .ok tree →
      (scan fields = some tree.tokens ↔ FieldsOnly fields)) ∧
    (FieldsOnly fields → ∀ ts, Starts ts fields → (∃ t ∈ ts, ¬ t.InFieldSet) →
      ∃ fault, read fields = .error fault) := by
  refine ⟨fun tree h => ⟨fieldsOnly_of_scan, scan_of_fieldsOnly h⟩, ?_⟩
  rintro honly ts ⟨rest, hts⟩ ⟨t, ht, hforeign⟩
  cases h : read fields with
  | error fault => exact ⟨fault, rfl⟩
  | ok tree =>
    have htokens : ∀ t ∈ tree.tokens, t.InFieldSet := inFieldSet_of_mem_tokensOfList tree
    have hall := (scan_eq_some fun t ht => (htokens t ht).isSimple).1 (scan_of_fieldsOnly h honly)
    exact absurd (htokens t ((hall.prefix_of_all hts).subset ht)) hforeign

/-- A field set with a nested field and a comment, and two texts which are let through with a
    directive or with a fragment behind a closing brace. -/
theorem scan_eq_tokens_iff_nested :
    let letThrough (text : String) (ts : List Token) : Prop :=
      ∃ tree, read text = .ok tree ∧ tree.tokens = ts
    let a : Token := .name ['a']
    let nested := "a, # first\n b \x7bc\x7d"
    (letThrough nested [a, .name ['b'], openBrace, .name ['c'], closeBrace] ∧ FieldsOnly nested) ∧
      (letThrough "a @x" [a] ∧ ¬ FieldsOnly "a @x") ∧
      letThrough "a \x7d fragment F on T \x7b b" [a] ∧
        ¬ FieldsOnly "a \x7d fragment F on T \x7b b" := by
  intro letThrough a nested
  have hread (text : String) (ts : List Token)
      (h : (read text).toOption.map SelectionTree.tokens = some ts) : letThrough text ts := by
    obtain ⟨tree, htree, hts⟩ := Option.map_eq_some_iff.1 h
    exact ⟨tree, Outcome.toOption_eq_some.1 htree, hts⟩
  have honly (text : String) (ts : List Token) (h : letThrough text ts) :
      scan text = some ts ↔ FieldsOnly text := by
    obtain ⟨tree, htree, hts⟩ := h
    exact hts ▸ (scan_eq_tokens_iff text).1 tree htree
  have hnested := hread nested [a, .name ['b'], openBrace, .name ['c'], closeBrace]
    (by decide +kernel)
  have hdirective := hread "a @x" [a] (by decide +kernel)
  have hfragment := hread "a \x7d fragment F on T \x7b b" [a] (by decide +kernel)
  refine ⟨⟨hnested, (honly _ _ hnested).1 (by decide +kernel)⟩, ⟨hdirective, fun h => ?_⟩,
    hfragment, fun h => ?_⟩
  · exact absurd ((honly _ _ hdirective).2 h) (by decide +kernel)
  · exact absurd ((honly _ _ hfragment).2 h) (by decide +kernel)

end SelectionTree

end EntityGraph
