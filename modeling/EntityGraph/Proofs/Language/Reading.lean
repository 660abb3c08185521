import Mathlib
import EntityGraph.Language.Query
import EntityGraph.Proofs.Language.Scanning
import EntityGraph.Proofs.Outcome

/-!
# Reading steps and tokens

What a reading step does to the cursor is told by the tokens in front of it: a step for a name or
for a mark of one character succeeds exactly if this is the next token, and leads behind it and the
layout which follows (`Grammar.name_eq_some`, `Grammar.mark_eq_some`).
-/

namespace EntityGraph

namespace Cursor

/-- The cursor behind a token and the layout which follows it. -/
def past (c : Cursor) (taken behind : List Char) : Cursor := (c.behind taken behind).skipLayout

@[simp]
theorem rest_past (c : Cursor) (taken behind : List Char) :
    (c.past taken behind).rest = (Lexical.layout behind).2 := rfl

@[simp]
theorem fault_past (c : Cursor) (taken behind : List Char) :
    (c.past taken behind).fault = c.fault := rfl

end Cursor

namespace Grammar

variable {α β : Type} {c c' : Cursor}

/-! ### Combining steps -/

theorem bind_eq_some {x : Grammar α} {f : α → Grammar β} {b : β} :
    (x >>= f) c = some (b, c') ↔ ∃ a mid, x c = some (a, mid) ∧ f a mid = some (b, c') := by
  change (x c).bind _ = _ ↔ _
  rw [Option.bind_eq_some_iff]
  exact ⟨fun ⟨⟨a, mid⟩, h⟩ => ⟨a, mid, h⟩, fun ⟨a, mid, h⟩ => ⟨(a, mid), h⟩⟩

theorem bind_of_eq_some {x : Grammar α} {a : α} (h : x c = some (a, c')) (f : α → Grammar β) :
    (x >>= f) c = f a c' := by
  change (x c).bind _ = _
  rw [h]
  rfl

theorem bind_of_eq_none {x : Grammar α} (h : x c = none) (f : α → Grammar β) :
    (x >>= f) c = none := by
  change (x c).bind _ = _
  rw [h]
  rfl

theorem pure_eq_some {a b : α} : (pure a : Grammar α) c = some (b, c') ↔ a = b ∧ c = c' := by
  change some (a, c) = some (b, c') ↔ _
  simp

theorem position_eq : position c = some (c.ruler.position, c) := rfl

/-- An optional part is there as far as it can be read, and nothing is read otherwise. -/
theorem optional_eq_some {step : Grammar α} {a : Option α} :
    optional step c = some (a, c') ↔
      (∃ b, a = some b ∧ step c = some (b, c')) ∨ a = none ∧ step c = none ∧ c = c' := by
  rw [optional]
  split
  · next b rest hstep => simp [hstep, eq_comm]
  · next hstep => simp [hstep, eq_comm]

theorem optional_of_eq_none {step : Grammar α} (h : step c = none) :
    optional step c = some (none, c) :=
  optional_eq_some.2 (.inr ⟨rfl, h, rfl⟩)

theorem optional_of_eq_some {step : Grammar α} {a : α} (h : step c = some (a, c')) :
    optional step c = some (some a, c') :=
  optional_eq_some.2 (.inl ⟨a, rfl, h⟩)

theorem oneOf_cons {step : Grammar α} {steps : List (Grammar α)} :
    oneOf (step :: steps) c = (step c).or (oneOf steps c) := by
  rw [oneOf, List.findSome?_cons]
  cases step c <;> rfl

theorem orElse_eq (first second : Grammar α) :
    orElse first second c = (first c).or (second c) := by
  rw [orElse]
  cases first c <;> rfl

theorem many_succ {bound : Nat} {step : Grammar α} :
    many (bound + 1) step c = match step c with
      | some (a, mid) => (many bound step mid).map fun (more, rest) => (a :: more, rest)
      | none => some ([], c) := by
  rw [many]
  cases step c with
  | none => rfl
  | some read =>
    simp only
    cases many bound step read.2 <;> rfl

/-- A repetition reads nothing only if its step can not be read, or may not be. -/
theorem many_eq_some_nil {bound : Nat} {step : Grammar α}
    (h : many bound step c = some ([], c')) : c = c' := by
  cases bound with
  | zero => exact (Prod.mk.inj (Option.some.inj h)).2
  | succ bound =>
    rw [many_succ] at h
    split at h
    · obtain ⟨_, _, h⟩ := Option.map_eq_some_iff.1 h
      cases h
    · exact (Prod.mk.inj (Option.some.inj h)).2

/-- The first item which a repetition reads. -/
theorem many_eq_some_cons {bound : Nat} {step : Grammar α} {a : α} {more : List α}
    (h : many bound step c = some (a :: more, c')) :
    ∃ bound' mid, bound = bound' + 1 ∧ step c = some (a, mid) ∧
      many bound' step mid = some (more, c') := by
  cases bound with
  | zero => cases h
  | succ bound =>
    rw [many_succ] at h
    split at h
    · next b mid hstep =>
      obtain ⟨⟨rest, c''⟩, hmore, h⟩ := Option.map_eq_some_iff.1 h
      cases h
      exact ⟨bound, mid, rfl, hstep, hmore⟩
    · cases h

theorem many_of_eq_none {bound : Nat} {step : Grammar α} (h : step c = none) :
    many bound step c = some ([], c) := by
  cases bound with
  | zero => rfl
  | succ bound => rw [many_succ, h]

/-! ### What a step reads -/

/-- Whatever the step reads, wherever it starts. -/
def Gives (step : Grammar α) (P : α → Prop) : Prop :=
  ∀ ⦃c a c'⦄, step c = some (a, c') → P a

section

variable {P : α → Prop} {R : β → Prop}

theorem gives_pure {a : α} (h : P a) : Gives (pure a) P := by
  intro c a' c' ha
  obtain ⟨rfl, -⟩ := pure_eq_some.1 ha
  exact h

theorem Gives.bind {x : Grammar α} {f : α → Grammar β} (hx : Gives x P)
    (hf : ∀ a, P a → Gives (f a) R) : Gives (x >>= f) R := by
  intro c b c' hb
  obtain ⟨a, mid, ha, hb⟩ := bind_eq_some.1 hb
  exact hf a (hx ha) hb

/-- Whatever the first step reads. -/
theorem gives_bind {x : Grammar α} {f : α → Grammar β} (h : ∀ a, Gives (f a) R) :
    Gives (x >>= f) R :=
  Gives.bind (P := fun _ => True) (fun _ _ _ _ => trivial) fun a _ => h a

theorem Gives.orElse {first second : Grammar α} (hfirst : Gives first P)
    (hsecond : Gives second P) : Gives (orElse first second) P := by
  intro c a c' ha
  rw [orElse_eq, Option.or_eq_some_iff] at ha
  rcases ha with ha | ⟨-, ha⟩
  · exact hfirst ha
  · exact hsecond ha

theorem gives_oneOf {steps : List (Grammar α)} (h : ∀ step ∈ steps, Gives step P) :
    Gives (oneOf steps) P := by
  intro c a c' ha
  obtain ⟨step, hstep, ha⟩ := List.exists_of_findSome?_eq_some ha
  exact h step hstep ha

theorem Gives.many {step : Grammar α} (h : Gives step P) (bound : Nat) :
    Gives (many bound step) fun items => ∀ a ∈ items, P a := by
  intro c items c' hitems
  induction items generalizing bound c with
  | nil => exact fun _ ha => absurd ha List.not_mem_nil
  | cons first more ih =>
    obtain ⟨bound', mid, -, hfirst, hmore⟩ := many_eq_some_cons hitems
    exact List.forall_mem_cons.2 ⟨h hfirst, ih bound' hmore⟩

theorem Gives.some1 {step : Grammar α} (h : Gives step P) (bound : Nat) :
    Gives (some1 bound step) fun items => ∀ a ∈ items, P a :=
  h.bind fun _ hfirst => (h.many bound).bind fun _ hmore =>
    gives_pure (List.forall_mem_cons.2 ⟨hfirst, hmore⟩)

end

/-! ### Marks and names -/

theorem mark_eq (text : String) :
    mark text c =
      if text.toList.isPrefixOf c.rest then
        some (c.ruler.position, c.past text.toList (c.rest.drop text.length))
      else none := by
  rw [mark, loose]
  change ((tightMark text c).bind _ : Option _).bind _ = _
  rw [tightMark]
  split <;> rfl

/-- A mark of one character is read if it is the next token. -/
theorem mark_eq_some {text : String} {m : Char} (htext : text.toList = [m]) (hm : m ∈ Token.marks)
    {p : Position} : mark text c = some (p, c') ↔ ∃ behind,
      Token.read? c.rest = some (.mark [m], behind) ∧ c.ruler.position = p ∧
        c.past [m] behind = c' := by
  have hlength : text.length = 1 := by rw [← String.length_toList, htext]; rfl
  simp only [mark_eq, htext, hlength, Token.read?_mark hm]
  rcases c.rest with _ | ⟨d, rest⟩
  · simp
  · by_cases hd : m = d
    · subst hd
      simp
    · simp [hd, Ne.symm hd]

theorem mark_of_read? {text : String} {m : Char} (htext : text.toList = [m])
    (hm : m ∈ Token.marks) {behind : List Char}
    (h : Token.read? c.rest = some (.mark [m], behind)) :
    mark text c = some (c.ruler.position, c.past [m] behind) :=
  (mark_eq_some htext hm).2 ⟨behind, h, rfl, rfl⟩

/-- A mark of one character is not read if another token is next. -/
theorem mark_of_read?_ne {text : String} {m : Char} (htext : text.toList = [m])
    (hm : m ∈ Token.marks) {t : Token} {behind : List Char}
    (h : Token.read? c.rest = some (t, behind)) (ht : t ≠ .mark [m]) : mark text c = none := by
  rw [Option.eq_none_iff_forall_ne_some]
  rintro ⟨p, c'⟩ hmark
  obtain ⟨_, hread, -⟩ := (mark_eq_some htext hm).1 hmark
  exact ht (Prod.mk.inj (Option.some.inj (h.symm.trans hread))).1

theorem name_eq :
    name c = match Lexical.name? c.rest with
      | some (chars, behind) =>
        some (⟨String.ofList chars, c.ruler.position⟩, c.past chars behind)
      | none => none := by
  rw [name, loose]
  change (tightName c).bind _ = _
  rw [tightName]
  cases Lexical.name? c.rest <;> rfl

/-- A name is read if it is the next token. -/
theorem name_eq_some {n : Located String} :
    name c = some (n, c') ↔ ∃ chars behind, Token.read? c.rest = some (.name chars, behind) ∧
      ⟨String.ofList chars, c.ruler.position⟩ = n ∧ c.past chars behind = c' := by
  simp only [name_eq, Token.read?_name]
  cases Lexical.name? c.rest with
  | none => simp
  | some read =>
    obtain ⟨chars, behind⟩ := read
    simp

theorem name_of_read? {chars behind : List Char}
    (h : Token.read? c.rest = some (.name chars, behind)) :
    name c = some (⟨String.ofList chars, c.ruler.position⟩, c.past chars behind) :=
  name_eq_some.2 ⟨chars, behind, h, rfl, rfl⟩

/-- No name is read if another token is next. -/
theorem name_of_read?_ne {t : Token} {behind : List Char}
    (h : Token.read? c.rest = some (t, behind)) (ht : ∀ n, t ≠ .name n) : name c = none := by
  rw [Option.eq_none_iff_forall_ne_some]
  rintro ⟨n, c'⟩ hname
  obtain ⟨chars, _, hread, -⟩ := name_eq_some.1 hname
  exact ht chars (Prod.mk.inj (Option.some.inj (h.symm.trans hread))).1

/-! ### Selections -/

variable {level depth : Nat}

/-- A selected field, the first alternative for a selection. -/
def fieldSelection (level depth : Nat) : Grammar QuerySelection := do
  let p ← position
  let label ← optional (do
    let n ← name
    let _ ← mark ":"
    return n.value)
  let n ← name
  let args ← optional (arguments (do return (← variableName).value) depth)
  let uses ← directiveUses depth
  let below ← optional (selectionSet (level + 1) depth)
  return .field ⟨p, label, n, args.getD [], uses, below.map (·.1)⟩ ((below.map (·.2)).getD [])

/-- Selections other than fields. -/
def fragmentSelection (level depth : Nat) : Grammar QuerySelection := oneOf
  [do
    let p ← mark "..."
    let condition ← optional typeCondition
    let uses ← directiveUses depth
    let (start, below) ← selectionSet (level + 1) depth
    return .inlineFragment ⟨p, condition, uses, start⟩ below,
  do
    let p ← mark "..."
    notAhead typeCondition
    let n ← name
    let uses ← directiveUses depth
    return .spread ⟨p, n, uses⟩]

theorem selection_succ : selection level (depth + 1) c =
    (fieldSelection level depth c).or (fragmentSelection level depth c) := by
  rw [selection, oneOf_cons]
  rfl

theorem fragmentSelection_ne_field {head : FieldHead} {below : List QuerySelection} :
    fragmentSelection level depth c ≠ some (.field head below, c') := by
  intro h
  rw [fragmentSelection, oneOf_cons, Option.or_eq_some_iff] at h
  rcases h with h | ⟨-, h⟩
  · obtain ⟨p, _, -, h⟩ := bind_eq_some.1 h
    obtain ⟨condition, _, -, h⟩ := bind_eq_some.1 h
    obtain ⟨uses, _, -, h⟩ := bind_eq_some.1 h
    obtain ⟨set, _, -, h⟩ := bind_eq_some.1 h
    cases (pure_eq_some.1 h).1
  · rw [oneOf_cons, Option.or_eq_some_iff] at h
    rcases h with h | ⟨-, h⟩
    · obtain ⟨p, _, -, h⟩ := bind_eq_some.1 h
      obtain ⟨_, _, -, h⟩ := bind_eq_some.1 h
      obtain ⟨n, _, -, h⟩ := bind_eq_some.1 h
      obtain ⟨uses, _, -, h⟩ := bind_eq_some.1 h
      cases (pure_eq_some.1 h).1
    · cases h

theorem arguments_ne_nil {ν : Type} {var : Grammar ν} :
    arguments var depth c ≠ some ([], c') := by
  intro h
  obtain ⟨_, _, -, h⟩ := bind_eq_some.1 h
  obtain ⟨args, _, hargs, h⟩ := bind_eq_some.1 h
  obtain ⟨_, _, -, h⟩ := bind_eq_some.1 h
  obtain ⟨rfl, -⟩ := pure_eq_some.1 h
  obtain ⟨first, _, -, hargs⟩ := bind_eq_some.1 hargs
  obtain ⟨more, _, -, hargs⟩ := bind_eq_some.1 hargs
  cases (pure_eq_some.1 hargs).1

/-- Directives are read only where one stands. -/
theorem directiveUses_eq_some {uses : List (DirectiveUse String)}
    (h : directiveUses depth c = some (uses, c')) :
    c = c' ∨ ∃ behind, Token.read? c.rest = some (Token.directiveMark, behind) := by
  cases uses with
  | nil => exact .inl (many_eq_some_nil h)
  | cons use uses =>
    obtain ⟨_, _, -, h, -⟩ := many_eq_some_cons h
    obtain ⟨p, _, hmark, -⟩ := bind_eq_some.1 h
    obtain ⟨behind, hread, -⟩ := (mark_eq_some rfl (by decide)).1 hmark
    exact .inr ⟨behind, hread⟩

/-- A field without label and arguments is its name, directives, and a selection set if there is
    one. -/
theorem selection_eq_some_field {head : FieldHead} {below : List QuerySelection}
    (h : selection level (depth + 1) c = some (.field head below, c'))
    (hlabel : head.label = none) (harguments : head.arguments = []) :
    ∃ behind uses mid set, name c = some (head.name, behind) ∧
      directiveUses depth behind = some (uses, mid) ∧
      optional (selectionSet (level + 1) depth) mid = some (set, c') ∧
      below = (set.map (·.2)).getD [] := by
  rw [selection_succ, Option.or_eq_some_iff] at h
  rcases h with h | ⟨-, h⟩
  · obtain ⟨p, _, hp, h⟩ := bind_eq_some.1 h
    obtain ⟨label, _, hlabel', h⟩ := bind_eq_some.1 h
    obtain ⟨n, behind, hname, h⟩ := bind_eq_some.1 h
    obtain ⟨args, _, hargs, h⟩ := bind_eq_some.1 h
    obtain ⟨uses, mid, huses, h⟩ := bind_eq_some.1 h
    obtain ⟨set, _, hset, h⟩ := bind_eq_some.1 h
    obtain ⟨h, rfl⟩ := pure_eq_some.1 h
    cases h
    obtain rfl : label = none := hlabel
    obtain ⟨-, rfl⟩ := Prod.mk.inj (Option.some.inj hp)
    rcases optional_eq_some.1 hlabel' with ⟨_, ⟨⟩, _⟩ | ⟨-, -, rfl⟩
    rcases optional_eq_some.1 hargs with ⟨read, rfl, hread⟩ | ⟨-, -, rfl⟩
    · -- Arguments in parentheses are at least one.
      obtain rfl : read = [] := harguments
      exact absurd hread arguments_ne_nil
    · exact ⟨behind, uses, mid, set, hname, huses, hset, rfl⟩
  · exact absurd h fragmentSelection_ne_field

/-- Selections in braces, and the fault they have where they nest too deep. -/
theorem selectionSet_succ : selectionSet level (depth + 1) c =
    (mark "\x7b" >>= fun p => (if maxLevel < level then note ⟨.tooDeep, []⟩ else pure ()) >>=
      fun _ => some1 depth (selection level depth) >>= fun selections =>
        mark "\x7d" >>= fun _ => pure (p, selections)) c := by
  rw [selectionSet]
  split <;> rfl

theorem selectionSet_eq_some {p : Position} {selections : List QuerySelection}
    (h : selectionSet level (depth + 1) c = some ((p, selections), c')) :
    ∃ behind inner last, Token.read? c.rest = some (Token.openBrace, behind) ∧
      inner.rest = (Lexical.layout behind).2 ∧
      some1 depth (selection level depth) inner = some (selections, last) ∧
      ∃ behind', Token.read? last.rest = some (Token.closeBrace, behind') ∧
        c'.rest = (Lexical.layout behind').2 := by
  rw [selectionSet_succ] at h
  obtain ⟨_, _, hopen, h⟩ := bind_eq_some.1 h
  obtain ⟨_, inner, hnote, h⟩ := bind_eq_some.1 h
  obtain ⟨_, last, hselections, h⟩ := bind_eq_some.1 h
  obtain ⟨_, _, hclose, h⟩ := bind_eq_some.1 h
  obtain ⟨heq, rfl⟩ := pure_eq_some.1 h
  cases heq
  obtain ⟨behind, hread, -, rfl⟩ := (mark_eq_some rfl (by decide)).1 hopen
  obtain ⟨behind', hread', -, rfl⟩ := (mark_eq_some rfl (by decide)).1 hclose
  refine ⟨behind, inner, last, hread, ?_, hselections, behind', hread', rfl⟩
  split at hnote <;> cases hnote <;> rfl

theorem mark_bind_of_read?_ne {text : String} {m : Char} (htext : text.toList = [m])
    (hm : m ∈ Token.marks) {t : Token} {behind : List Char}
    (h : Token.read? c.rest = some (t, behind)) (ht : t ≠ .mark [m]) (f : Position → Grammar α) :
    (mark text >>= f) c = none :=
  bind_of_eq_none (mark_of_read?_ne htext hm h ht) f

/-- A selection set starts with a brace. -/
theorem selectionSet_of_read?_ne {t : Token} {behind : List Char}
    (h : Token.read? c.rest = some (t, behind)) (ht : t ≠ Token.openBrace) :
    selectionSet level depth c = none := by
  cases depth with
  | zero => rfl
  | succ depth =>
    rw [selectionSet_succ]
    exact mark_bind_of_read?_ne rfl (by decide) h ht _

/-- A name in front of a further name or a brace is a field, with the selection set there may be. -/
theorem selection_of_name {chars behind behind' : List Char} {t : Token}
    (hname : Token.read? c.rest = some (.name chars, behind))
    (hnext : Token.read? (Lexical.layout behind).2 = some (t, behind')) (ht : t.InFieldSet) :
    selection level (depth + 1) c =
      (optional (selectionSet (level + 1) depth) (c.past chars behind)).map fun (below, rest) =>
        (.field ⟨c.ruler.position, none, ⟨String.ofList chars, c.ruler.position⟩, [], [],
          below.map (·.1)⟩ ((below.map (·.2)).getD []), rest) := by
  have hname' := name_of_read? hname
  have hmark {m : Char} (hm : m ∈ [':', '(', '@']) : t ≠ .mark [m] := by
    rintro rfl
    generalize hmark : Token.mark [m] = t at ht
    cases ht <;> cases hmark
    all_goals simp at hm
  -- What follows the name is no sign of a label, of arguments or of a directive.
  have hlabel : optional (name >>= fun n => mark ":" >>= fun _ => pure n.value : Grammar String) c =
      some (none, c) := by
    refine optional_of_eq_none ?_
    rw [bind_of_eq_some hname']
    exact mark_bind_of_read?_ne rfl (by decide) hnext (hmark (m := ':') (by simp)) _
  have hargs : optional (arguments (do return (← variableName).value : Grammar String) depth)
      (c.past chars behind) = some (none, c.past chars behind) :=
    optional_of_eq_none (mark_bind_of_read?_ne rfl (by decide) hnext (hmark (m := '(') (by simp)) _)
  have huses : directiveUses depth (c.past chars behind) = some ([], c.past chars behind) :=
    many_of_eq_none (mark_bind_of_read?_ne rfl (by decide) hnext (hmark (m := '@') (by simp)) _)
  have hfield : fieldSelection level depth c =
      (optional (selectionSet (level + 1) depth) (c.past chars behind)).map fun (below, rest) =>
        (.field ⟨c.ruler.position, none, ⟨String.ofList chars, c.ruler.position⟩, [], [],
          below.map (·.1)⟩ ((below.map (·.2)).getD []), rest) := by
    rw [fieldSelection, bind_of_eq_some position_eq,
      bind_of_eq_some hlabel, bind_of_eq_some hname', bind_of_eq_some hargs,
      bind_of_eq_some huses]
    change (optional (selectionSet (level + 1) depth) (c.past chars behind)).bind _ = _
    cases optional (selectionSet (level + 1) depth) (c.past chars behind) <;> rfl
  rw [selection_succ, hfield]
  rw [optional]
  cases selectionSet (level + 1) depth (c.past chars behind) <;> rfl

/-- No selection starts with a closing brace. -/
theorem selection_of_closeBrace {behind : List Char}
    (h : Token.read? c.rest = some (Token.closeBrace, behind)) :
    selection level depth c = none := by
  cases depth with
  | zero => rfl
  | succ depth =>
    have hname : name c = none := name_of_read?_ne h fun n h => nomatch h
    have hspread : mark "..." c = none := by
      obtain hrest : c.rest = '\x7d' :: behind := (Token.read?_mark (by decide)).1 h
      rw [mark_eq, hrest]
      rfl
    have hfield : fieldSelection level depth c = none := by
      rw [fieldSelection, bind_of_eq_some position_eq,
        bind_of_eq_some (optional_of_eq_none (bind_of_eq_none hname _)), bind_of_eq_none hname]
    rw [selection_succ, hfield, Option.none_or, fragmentSelection, oneOf_cons, oneOf_cons,
      bind_of_eq_none hspread, bind_of_eq_none hspread]
    rfl

/-- A repetition which read something may as well have to. -/
theorem some1_of_many {bound : Nat} {step : Grammar α} {a : α} {more : List α}
    (h : many (bound + 1) step c = some (a :: more, c')) :
    some1 bound step c = some (a :: more, c') := by
  obtain ⟨_, mid, hbound, hstep, hmore⟩ := many_eq_some_cons h
  obtain rfl := Nat.succ.inj hbound
  rw [some1, bind_of_eq_some hstep, bind_of_eq_some hmore]
  rfl

/-- Selections which do not nest too deep, in braces. -/
theorem selectionSet_of_some1 {behind behind' : List Char} {last : Cursor}
    {selections : List QuerySelection} (hlevel : level ≤ maxLevel)
    (hopen : Token.read? c.rest = some (Token.openBrace, behind))
    (hselections : some1 depth (selection level depth) (c.past ['\x7b'] behind) =
      some (selections, last))
    (hclose : Token.read? last.rest = some (Token.closeBrace, behind')) :
    selectionSet level (depth + 1) c =
      some ((c.ruler.position, selections), last.past ['\x7d'] behind') := by
  have hdeep : (pure () : Grammar Unit) (c.past ['\x7b'] behind) =
      some ((), c.past ['\x7b'] behind) := rfl
  rw [selectionSet_succ, bind_of_eq_some (mark_of_read? rfl (by decide) hopen),
    if_neg (Nat.not_lt.2 hlevel), bind_of_eq_some hdeep,
    bind_of_eq_some hselections, bind_of_eq_some (mark_of_read? rfl (by decide) hclose)]
  rfl

/-! ### Documents -/

theorem mark_of_openBrace {text : String} (htext : ∃ d more, text.toList = d :: more ∧ d ≠ '\x7b')
    {behind : List Char} (h : c.rest = '\x7b' :: behind) : mark text c = none := by
  obtain ⟨d, more, htext, hd⟩ := htext
  rw [mark_eq, htext, h, List.isPrefixOf, beq_eq_false_iff_ne.2 hd]
  rfl

/-- A document which starts with an opening brace starts with a query which has no header. -/
theorem operation_of_openBrace {behind : List Char} (h : c.rest = '\x7b' :: behind) :
    operation depth c = (selectionSet 0 depth >>= fun set =>
      pure ⟨set.1, .query, none, [], [], set.1, set.2⟩ : Grammar Operation) c := by
  have hkind : operationKind c = none := by
    have hmark : ∀ kind : OperationKind, mark kind.word c = none := fun kind =>
      mark_of_openBrace (by cases kind <;> exact ⟨_, _, rfl, by decide⟩) h
    rw [operationKind]
    simp only [List.map_cons, List.map_nil, oneOf_cons, bind_of_eq_none (hmark _)]
    rfl
  rw [operation, orElse_eq, bind_of_eq_some position_eq,
    bind_of_eq_none hkind]
  rfl

theorem fragment_of_openBrace {behind : List Char} (h : c.rest = '\x7b' :: behind) :
    fragment depth c = none := by
  rw [fragment, bind_of_eq_none (mark_of_openBrace ⟨_, _, rfl, by decide⟩ h)]

/-- An operation or a fragment. -/
def queryDefinition (depth : Nat) : Grammar QueryDefinition :=
  orElse (do return .operation (← operation depth)) (do return .fragment (← fragment depth))

theorem queryDefinition_of_openBrace {behind : List Char} (h : c.rest = '\x7b' :: behind) :
    queryDefinition depth c = (selectionSet 0 depth c).map fun (set, rest) =>
      (.operation ⟨set.1, .query, none, [], [], set.1, set.2⟩, rest) := by
  rw [queryDefinition, orElse_eq, bind_of_eq_none (fragment_of_openBrace h), Option.or_none]
  change (operation depth c).bind _ = _
  rw [operation_of_openBrace h]
  change ((selectionSet 0 depth c).bind _).bind _ = _
  cases selectionSet 0 depth c <;> rfl

/-- There is no definition at the end of a text. -/
theorem queryDefinition_of_nil (h : c.rest = []) : queryDefinition depth c = none := by
  have hmark {text : String} (htext : text ≠ "") : mark text c = none := by
    rw [mark_eq, h]
    cases hlist : text.toList with
    | nil => exact absurd (String.toList_eq_nil_iff.1 hlist) htext
    | cons d more => rfl
  have hset : selectionSet 0 depth c = none := by
    cases depth with
    | zero => rfl
    | succ depth => rw [selectionSet_succ, bind_of_eq_none (hmark (by decide))]
  have hkind : operationKind c = none := by
    rw [operationKind]
    simp only [List.map_cons, List.map_nil, oneOf_cons, OperationKind.word,
      bind_of_eq_none (hmark (by decide : "query" ≠ "")),
      bind_of_eq_none (hmark (by decide : "mutation" ≠ "")),
      bind_of_eq_none (hmark (by decide : "subscription" ≠ ""))]
    rfl
  have hoperation : operation depth c = none := by
    rw [operation, orElse_eq, bind_of_eq_some position_eq,
      bind_of_eq_none hkind, bind_of_eq_none hset]
    rfl
  have hfragment : fragment depth c = none := bind_of_eq_none (hmark (by decide)) _
  rw [queryDefinition, orElse_eq, bind_of_eq_none hoperation, bind_of_eq_none hfragment]
  rfl

/-- A text is read if the step reads all of it. -/
theorem run_eq_some {step : Nat → Grammar α} {text : String} {a : α}
    {fault : Option DocumentError} :
    run step text = some (a, fault) ↔ ∃ c,
      step (text.length + 1) (Cursor.start text).skipLayout = some (a, c) ∧ c.rest = [] ∧
        c.fault = fault := by
  rw [run]
  split
  · next b ruler fault' h => simp [h]
  · next hnone =>
    simp only [reduceCtorEq, false_iff, not_exists, not_and]
    rintro ⟨rest, ruler, fault'⟩ h rfl
    exact absurd h (hnone _ _ _)

theorem queryDefinitions_eq : queryDefinitions depth = some1 depth (queryDefinition depth) := rfl

end Grammar

namespace QueryDocument

/-- Beside an operation without a name no other one has a place. -/
theorem operations_of_foldlM {o : Operation} (ho : o.name = none)
    {definitions : List QueryDefinition} {document document' : QueryDocument}
    (hdocument : document.operations = [o])
    (h : definitions.foldlM add document = .ok document') : document'.operations = [o] := by
  induction definitions generalizing document with
  | nil =>
    obtain rfl := Except.ok.inj h
    exact hdocument
  | cons d definitions ih =>
    rw [List.foldlM_cons] at h
    obtain ⟨next, hnext, h⟩ := Outcome.bind_eq_ok.1 h
    refine ih ?_ h
    cases d with
    | operation other =>
      -- Whether it has a name or not, it is refused.
      simp only [add, addOperation, hdocument, List.find?_cons, ho, Option.isNone_none] at hnext
      split at hnext <;> cases hnext
    | fragment f =>
      rw [add, addFragment] at hnext
      split at hnext <;> cases hnext
      exact hdocument

/-- A document whose first definition is an operation without a name has no other operation. -/
theorem operations_of_ofDefinitions {o : Operation} (ho : o.name = none)
    {definitions : List QueryDefinition} {document : QueryDocument}
    (h : ofDefinitions (.operation o :: definitions) = .ok document) :
    document.operations = [o] := by
  obtain ⟨document', hdocument', h⟩ := Outcome.bind_eq_ok.1 h
  rw [List.foldlM_cons] at hdocument'
  obtain ⟨next, hnext, hdocument'⟩ := Outcome.bind_eq_ok.1 hdocument'
  have hfirst : next.operations = [o] := by
    rw [add, addOperation, ho] at hnext
    cases hnext
    rfl
  have hall := operations_of_foldlM ho hfirst hdocument'
  rw [hall] at h
  rw [← Except.ok.inj h]
  exact hall

/-- A document is read if all of its text is, without a fault. -/
theorem read_eq_ok {text : String} {document : QueryDocument} :
    read text = .ok document ↔ ∃ definitions,
      Grammar.run Grammar.queryDefinitions text = some (definitions, none) ∧
        ofDefinitions definitions = .ok document := by
  unfold read
  cases Grammar.run Grammar.queryDefinitions text with
  | none => simp
  | some result =>
    obtain ⟨definitions, _ | fault⟩ := result
    · simp
    · simp

/-- A document of selections in braces is a query without a name. -/
theorem read_of_selectionSet {text : String} {behind : List Char} {c' : Cursor} {p : Position}
    {qs : List QuerySelection}
    (hopen : (Cursor.start text).skipLayout.rest = '\x7b' :: behind)
    (hset : Grammar.selectionSet 0 (text.length + 1) (Cursor.start text).skipLayout =
      some ((p, qs), c')) (hend : c'.rest = []) (hfault : c'.fault = none) :
    read text = .ok ⟨[⟨p, .query, none, [], [], p, qs⟩], []⟩ := by
  have hfirst : Grammar.queryDefinition (text.length + 1) (Cursor.start text).skipLayout =
      some (.operation ⟨p, .query, none, [], [], p, qs⟩, c') := by
    rw [Grammar.queryDefinition_of_openBrace hopen, hset]
    rfl
  refine read_eq_ok.2 ⟨[.operation ⟨p, .query, none, [], [], p, qs⟩],
    Grammar.run_eq_some.2 ⟨c', ?_, hend, hfault⟩, rfl⟩
  rw [Grammar.queryDefinitions_eq, Grammar.some1, Grammar.bind_of_eq_some hfirst,
    Grammar.bind_of_eq_some (Grammar.many_of_eq_none (Grammar.queryDefinition_of_nil hend))]
  rfl

end QueryDocument

end EntityGraph
