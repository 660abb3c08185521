import Mathlib
import EntityGraph.Language.Token

/-!
# Scanning

A text behind its layout is scanned token by token, each token being as long as it can be
(`Token.Scans`). Scanning is the whole of `Token.scan` if it leaves nothing over
(`Token.scan_of_scans`); a text laid out with blanks and comments between its tokens is scanned
into these tokens (`Token.Spells.scans`).
-/

namespace EntityGraph

namespace Lexical

/-! ### Layout -/

/-- Blanks, and comments which end with their line. -/
inductive Layout : List Char → Prop
  | nil : Layout []
  | blank {c : Char} {rest : List Char} : isBlank c = true → Layout rest → Layout (c :: rest)
  | comment {body : List Char} {lineEnd : Char} {rest : List Char} :
      (∀ c ∈ body, isLineEnd c = false) → isLineEnd lineEnd = true → Layout rest →
      Layout ('#' :: (body ++ lineEnd :: rest))

theorem layoutFrom_snd_cons {comment : Bool} {c : Char} {rest : List Char} :
    (layoutFrom comment (c :: rest)).2 =
      if comment || isBlank c || c = '#' then
        (layoutFrom (if comment then !isLineEnd c else c = '#') rest).2
      else c :: rest := by
  rw [layoutFrom]
  split <;> rfl

/-- A text without layout in front is left as it is. -/
theorem layout_eq_self {cs : List Char} (h : ∀ c ∈ cs.head?, isBlank c = false ∧ c ≠ '#') :
    (layout cs).2 = cs := by
  cases cs with
  | nil => rfl
  | cons c rest =>
    obtain ⟨hblank, hcomment⟩ := h c rfl
    rw [layout, layoutFrom_snd_cons, if_neg (by simp [hblank, hcomment])]

/-- What follows a comment up to its line end is skipped as if it stood alone. -/
theorem layoutFrom_comment {body : List Char} (hbody : ∀ c ∈ body, isLineEnd c = false)
    {lineEnd : Char} (hend : isLineEnd lineEnd = true) (rest : List Char) :
    (layoutFrom true (body ++ lineEnd :: rest)).2 = (layout rest).2 := by
  induction body with
  | nil => simp [layoutFrom_snd_cons, hend, layout]
  | cons c body ih =>
    obtain ⟨hc, hbody⟩ := List.forall_mem_cons.1 hbody
    rw [List.cons_append, layoutFrom_snd_cons]
    simpa [hc] using ih hbody

theorem Layout.concat {space more : List Char} (h : Layout space) (h' : Layout more) :
    Layout (space ++ more) := by
  induction h with
  | nil => exact h'
  | blank hc _ ih => exact .blank hc ih
  | comment hbody hend _ ih =>
    rw [List.cons_append, List.append_assoc, List.cons_append]
    exact .comment hbody hend ih

/-- Layout in front of a text is skipped with the layout of the text. -/
theorem Layout.append {space : List Char} (h : Layout space) (cs : List Char) :
    (layout (space ++ cs)).2 = (layout cs).2 := by
  induction h with
  | nil => rfl
  | @blank c rest hc _ ih =>
    have hnot : ¬ c = '#' := by rintro rfl; simp [isBlank, isLineEnd] at hc
    rw [← ih, List.cons_append, layout, layoutFrom_snd_cons]
    simp [hc, hnot, layout]
  | @comment body lineEnd rest hbody hend _ ih =>
    rw [← ih, List.cons_append, layout, layoutFrom_snd_cons, List.append_assoc, List.cons_append]
    simpa using layoutFrom_comment hbody hend (rest ++ cs)

/-- The first character of layout belongs to no name. -/
theorem Layout.head_not_isNameChar {space : List Char} (h : Layout space) :
    ∀ c ∈ space.head?, isNameChar c = false := by
  cases h with
  | nil => simp
  | @blank c rest hc _ =>
    simp only [isBlank, isLineEnd, Bool.or_eq_true, beq_iff_eq] at hc
    intro d hd
    obtain rfl := Option.some.inj hd
    rcases hc with (((rfl | rfl) | rfl) | rfl) | rfl | rfl <;> decide
  | comment => simp [isNameChar]

/-- Layout which ends within the first of two texts. -/
theorem layoutFrom_append_of_ne {comment : Bool} {cs : List Char}
    (h : (layoutFrom comment cs).2 ≠ []) (suffix : List Char) :
    (layoutFrom comment (cs ++ suffix)).2 = (layoutFrom comment cs).2 ++ suffix := by
  induction cs generalizing comment with
  | nil => exact absurd rfl h
  | cons c rest ih =>
    rw [layoutFrom_snd_cons] at h
    rw [List.cons_append, layoutFrom_snd_cons, layoutFrom_snd_cons]
    split
    · next hskip =>
      rw [if_pos hskip] at h
      exact ih h
    · rfl

/-- Behind a text which is all layout, a text starts within a comment or not. -/
theorem exists_layoutFrom_append {comment : Bool} {cs : List Char}
    (h : (layoutFrom comment cs).2 = []) (suffix : List Char) :
    ∃ comment', (layoutFrom comment (cs ++ suffix)).2 = (layoutFrom comment' suffix).2 := by
  induction cs generalizing comment with
  | nil => exact ⟨comment, rfl⟩
  | cons c rest ih =>
    rw [layoutFrom_snd_cons] at h
    rw [List.cons_append, layoutFrom_snd_cons]
    split
    · next hskip =>
      rw [if_pos hskip] at h
      exact ih h
    · next hskip =>
      rw [if_neg hskip] at h
      cases h

theorem length_layout_le (cs : List Char) : (layout cs).2.length ≤ cs.length := by
  suffices h : ∀ comment, (layoutFrom comment cs).2.length ≤ cs.length from h false
  induction cs with
  | nil => exact fun _ => Nat.le_refl _
  | cons c rest ih =>
    intro comment
    rw [layoutFrom_snd_cons]
    split
    · exact (ih _).trans (Nat.le_succ _)
    · exact Nat.le_refl _

/-! ### Names -/

/-- A letter or an underscore, with letters, digits and underscores behind it. -/
def isName : List Char → Bool
  | [] => false
  | c :: rest => isNameStart c && rest.all isNameChar

theorem not_blank_of_isNameStart {c : Char} (h : isNameStart c = true) :
    isBlank c = false ∧ c ≠ '#' := by
  constructor
  · by_contra hblank
    simp only [isBlank, isLineEnd, Bool.not_eq_false, Bool.or_eq_true, beq_iff_eq] at hblank
    rcases hblank with (((rfl | rfl) | rfl) | rfl) | rfl | rfl <;> simp [isNameStart] at h
  · rintro rfl
    simp [isNameStart] at h

/-- A run of characters of one sort ends where none of them follows. -/
theorem takeWhile_run {p : Char → Bool} {n behind : List Char} (hn : ∀ c ∈ n, p c = true)
    (hbehind : ∀ c ∈ behind.head?, p c = false) :
    (n ++ behind).takeWhile p = n ∧ (n ++ behind).dropWhile p = behind := by
  rw [List.takeWhile_append_of_pos hn, List.dropWhile_append_of_pos hn]
  cases behind with
  | nil => simp
  | cons c more => simp [hbehind c rfl]

/-- The name at the start of a text reaches as far as it can. -/
theorem name?_eq_some {cs n behind : List Char} :
    name? cs = some (n, behind) ↔
      cs = n ++ behind ∧ isName n = true ∧ ∀ c ∈ behind.head?, isNameChar c = false := by
  constructor
  · intro h
    cases cs with
    | nil => cases h
    | cons c rest =>
      rw [name?] at h
      split at h
      · next hc =>
        cases h
        refine ⟨by rw [List.cons_append, List.takeWhile_append_dropWhile], ?_, fun d hd => ?_⟩
        · rw [isName, hc, Bool.true_and, List.all_eq_true]
          exact fun d hd => List.mem_takeWhile_imp hd
        · have hhead := List.head?_dropWhile_not isNameChar rest
          rw [hd] at hhead
          simpa using hhead
      · cases h
  · rintro ⟨rfl, hn, hbehind⟩
    cases n with
    | nil => cases hn
    | cons c rest =>
      rw [isName, Bool.and_eq_true, List.all_eq_true] at hn
      obtain ⟨htake, hdrop⟩ := takeWhile_run hn.2 hbehind
      rw [List.cons_append, name?, if_pos hn.1, htake, hdrop]

/-- A name ends in front of a text which does not go on with it. -/
theorem name?_append {c : Char} {rest suffix n behind : List Char}
    (hsuffix : ∀ d ∈ suffix.head?, isNameChar d = false)
    (h : name? (c :: rest ++ suffix) = some (n, behind)) :
    ∃ behind', name? (c :: rest) = some (n, behind') ∧ behind = behind' ++ suffix := by
  have hstart : isNameStart c = true := by
    by_contra hnot
    rw [List.cons_append, name?, if_neg hnot] at h
    cases h
  obtain ⟨⟨n', behind'⟩, hname⟩ : ∃ read, name? (c :: rest) = some read :=
    ⟨_, by rw [name?, if_pos hstart]⟩
  obtain ⟨hcs, hn', hbehind'⟩ := name?_eq_some.1 hname
  -- The name of the shorter text is the one of the longer text, too.
  have hlong : name? (c :: rest ++ suffix) = some (n', behind' ++ suffix) := by
    refine name?_eq_some.2 ⟨by rw [hcs, List.append_assoc], hn', fun d hd => ?_⟩
    cases behind' with
    | nil => exact hsuffix d hd
    | cons e more => exact hbehind' d hd
  obtain ⟨rfl, rfl⟩ := Prod.mk.inj (Option.some.inj (hlong.symm.trans h))
  exact ⟨behind', hname, rfl⟩

end Lexical

namespace Token

/-! ### Single tokens -/

/-- The mark in front of a directive. -/
def directiveMark : Token := .mark ['@']

/-- Names, and marks of a single character. -/
inductive IsSimple : Token → Prop
  | name (n : List Char) : IsSimple (.name n)
  | mark {m : Char} : m ∈ marks → IsSimple (.mark [m])

/-- Names and braces: the tokens of field sets. -/
inductive InFieldSet : Token → Prop
  | name (n : List Char) : InFieldSet (.name n)
  | openBrace : InFieldSet openBrace
  | closeBrace : InFieldSet closeBrace

theorem InFieldSet.isSimple {t : Token} (h : t.InFieldSet) : t.IsSimple := by
  cases h with
  | name n => exact .name n
  | openBrace => exact .mark (by decide)
  | closeBrace => exact .mark (by decide)

theorem isSimple_directiveMark : directiveMark.IsSimple := .mark (by decide)

theorem not_isNameStart_of_mem_marks {c : Char} (h : c ∈ marks) :
    Lexical.isNameStart c = false := by
  have hall : ∀ c ∈ marks, Lexical.isNameStart c = false := by
    simp [marks, Lexical.isNameStart]
  exact hall c h

theorem read?_name {cs n behind : List Char} :
    read? cs = some (.name n, behind) ↔ Lexical.name? cs = some (n, behind) := by
  unfold read?
  split
  · simp [Lexical.name?]
  · simp [Lexical.name?, Lexical.isNameStart]
  · next c rest _ =>
    split
    · next hm =>
      simp [Lexical.name?, not_isNameStart_of_mem_marks hm]
    · split
      · next n' behind' hname => simp [hname]
      · next hname =>
        rw [hname]
        split <;> simp

theorem read?_mark {m : Char} (hm : m ∈ marks) {cs behind : List Char} :
    read? cs = some (.mark [m], behind) ↔ cs = m :: behind := by
  unfold read?
  split
  · simp
  · next rest =>
    have hne : '.' ≠ m := by rintro rfl; revert hm; decide
    simp [hne]
  · next c rest _ =>
    split
    · simp
    · next hc =>
      have hne : c ≠ m := by rintro rfl; exact hc hm
      split
      · simp [hne]
      · split <;> simp [hne]

/-- A simple token is as long as it is written. -/
theorem IsSimple.length_lt {t : Token} (ht : t.IsSimple) {cs behind : List Char}
    (h : read? cs = some (t, behind)) : behind.length < cs.length := by
  cases ht with
  | name n =>
    obtain ⟨rfl, hn, -⟩ := Lexical.name?_eq_some.1 (read?_name.1 h)
    cases n with
    | nil => cases hn
    | cons c n => simp
  | mark hm =>
    obtain rfl := (read?_mark hm).1 h
    simp

/-- A simple token ends in front of a text which goes on with no name. -/
theorem IsSimple.read?_append {t : Token} (ht : t.IsSimple) {c : Char}
    {rest suffix behind : List Char} (hsuffix : ∀ d ∈ suffix.head?, Lexical.isNameChar d = false)
    (h : read? (c :: rest ++ suffix) = some (t, behind)) :
    ∃ behind', read? (c :: rest) = some (t, behind') ∧ behind = behind' ++ suffix := by
  cases ht with
  | name n =>
    obtain ⟨behind', hname, hbehind⟩ := Lexical.name?_append hsuffix (read?_name.1 h)
    exact ⟨behind', read?_name.2 hname, hbehind⟩
  | mark hm =>
    obtain ⟨rfl, rfl⟩ := List.cons.inj ((read?_mark hm).1 h)
    exact ⟨rest, (read?_mark hm).2 rfl, rfl⟩

/-! ### Scanning -/

/-- A text which starts with a token consists of the given tokens, with layout behind each of
    them, and of a rest. -/
inductive Scans : List Char → List Token → List Char → Prop
  | done {rest : List Char} : Scans rest [] rest
  | token {cs behind rest : List Char} {t : Token} {ts : List Token} :
      read? cs = some (t, behind) → Scans (Lexical.layout behind).2 ts rest →
      Scans cs (t :: ts) rest

namespace Scans

variable {cs mid rest : List Char} {t : Token} {ts us : List Token}

theorem append (h : Scans cs ts mid) (h' : Scans mid us rest) : Scans cs (ts ++ us) rest := by
  induction h with
  | done => exact h'
  | token ht _ ih => exact .token ht (ih h')

theorem of_append (h : Scans cs (ts ++ us) rest) : ∃ mid, Scans cs ts mid ∧ Scans mid us rest := by
  induction ts generalizing cs with
  | nil => exact ⟨cs, .done, h⟩
  | cons t ts ih =>
    cases h with
    | token ht h =>
      obtain ⟨mid, hts, hus⟩ := ih h
      exact ⟨mid, .token ht hts, hus⟩

/-- Of a text which is wholly scanned, fewer tokens are the first ones. -/
theorem prefix_of_all (h : Scans cs ts []) (h' : Scans cs us rest) : us <+: ts := by
  -- By induction on the scan of the whole text, the end of which is fixed.
  generalize hend : ([] : List Char) = last at h
  induction h generalizing us with
  | done =>
    subst hend
    cases h' with
    | done => exact List.nil_prefix
    | token hread _ => cases hread
  | token hread _ ih =>
    cases h' with
    | done => exact List.nil_prefix
    | token hread' h' =>
      obtain ⟨rfl, rfl⟩ := Prod.mk.inj (Option.some.inj (hread.symm.trans hread'))
      exact (List.prefix_cons_inj _).2 (ih h' hend)

/-- A text has at least as many characters as simple tokens. -/
theorem length_le (h : Scans cs ts rest) (hts : ∀ t ∈ ts, t.IsSimple) :
    ts.length + rest.length ≤ cs.length := by
  induction h with
  | done => simp
  | @token cs behind rest t ts ht _ ih =>
    obtain ⟨hsimple, hts⟩ := List.forall_mem_cons.1 hts
    have hread := hsimple.length_lt ht
    have hlayout := Lexical.length_layout_le behind
    have hrest := ih hts
    simp only [List.length_cons]
    omega

/-- Nothing but the brace can be scanned of a text which ends in layout, and not even that within
    a comment. -/
theorem of_layout_closeBrace (hcs : (Lexical.layout cs).2 = [])
    (h : Scans (Lexical.layout (cs ++ [' ', '\x7d'])).2 (t :: ts) rest) :
    t = closeBrace ∧ ts = [] := by
  obtain ⟨comment, hlayout⟩ := Lexical.exists_layoutFrom_append hcs [' ', '\x7d']
  rw [Lexical.layout, hlayout] at h
  cases comment with
  | true =>
    -- The brace belongs to the comment.
    rw [show (Lexical.layoutFrom true [' ', '\x7d']).2 = [] by decide] at h
    cases h with
    | token hread _ => cases hread
  | false =>
    rw [show (Lexical.layoutFrom false [' ', '\x7d']).2 = ['\x7d'] by decide] at h
    have hbrace : read? ['\x7d'] = some (closeBrace, []) := (read?_mark (by decide)).2 rfl
    cases h with
    | token hread h =>
      obtain ⟨rfl, rfl⟩ := Prod.mk.inj (Option.some.inj (hbrace.symm.trans hread))
      cases h with
      | done => exact ⟨rfl, rfl⟩
      | token hread _ => cases hread

/-- The first simple token of a text in front of a blank and a closing brace stands in the text,
    unless this is all layout. -/
theorem of_cons_closeBrace {c : Char} {more : List Char} (hcs : (Lexical.layout cs).2 = c :: more)
    (ht : t.IsSimple) (h : Scans (Lexical.layout (cs ++ [' ', '\x7d'])).2 (t :: ts) rest) :
    ∃ behind, read? (Lexical.layout cs).2 = some (t, behind) ∧
      Scans (Lexical.layout (behind ++ [' ', '\x7d'])).2 ts rest := by
  have hsuffix : ∀ d ∈ [' ', '\x7d'].head?, Lexical.isNameChar d = false := by
    simp [Lexical.isNameChar]
  have hne : (Lexical.layoutFrom false cs).2 ≠ [] := by
    rw [← Lexical.layout, hcs]
    exact List.cons_ne_nil _ _
  rw [Lexical.layout, Lexical.layoutFrom_append_of_ne hne, ← Lexical.layout, hcs] at h
  cases h with
  | token hread h =>
    obtain ⟨behind, hfirst, rfl⟩ := ht.read?_append hsuffix hread
    exact ⟨behind, hcs ▸ hfirst, h⟩

/-- Scanned tokens, with a last one, of a text in front of a blank and a closing brace: either
    they all stand in the text, or the text ends in front of the last one, which is this brace. -/
theorem of_append_closeBrace (h : Scans (Lexical.layout (cs ++ [' ', '\x7d'])).2 (ts ++ [t]) rest)
    (hts : ∀ t ∈ ts, t.IsSimple) (ht : t.IsSimple) :
    (∃ rest, Scans (Lexical.layout cs).2 (ts ++ [t]) rest) ∨
      t = closeBrace ∧ Scans (Lexical.layout cs).2 ts [] := by
  induction ts generalizing cs with
  | nil =>
    cases hcs : (Lexical.layout cs).2 with
    | nil => exact .inr ⟨(of_layout_closeBrace hcs h).1, .done⟩
    | cons c more =>
      obtain ⟨behind, hread, -⟩ := of_cons_closeBrace hcs ht h
      exact .inl ⟨_, .token (hcs ▸ hread) .done⟩
  | cons first ts ih =>
    obtain ⟨hfirst, hts⟩ := List.forall_mem_cons.1 hts
    cases hcs : (Lexical.layout cs).2 with
    | nil => exact absurd (of_layout_closeBrace hcs h).2 (by simp)
    | cons c more =>
      obtain ⟨behind, hread, h⟩ := of_cons_closeBrace hcs hfirst h
      rcases ih h hts with ⟨rest, hall⟩ | ⟨hbrace, hall⟩
      · exact .inl ⟨rest, .token (hcs ▸ hread) hall⟩
      · exact .inr ⟨hbrace, .token (hcs ▸ hread) hall⟩

end Scans

theorem Scans.cons_iff {cs rest : List Char} {t : Token} {ts : List Token} :
    Scans cs (t :: ts) rest ↔
      ∃ behind, read? cs = some (t, behind) ∧ Scans (Lexical.layout behind).2 ts rest :=
  ⟨fun | .token ht h => ⟨_, ht, h⟩, fun ⟨_, ht, h⟩ => .token ht h⟩

theorem Scans.nil_iff {cs rest : List Char} : Scans cs [] rest ↔ cs = rest :=
  ⟨fun | .done => rfl, fun h => h ▸ .done⟩

/-- The tokens of a text are those which can be scanned without leaving a rest. -/
theorem scanFrom_eq_some {fuel : Nat} {cs : List Char} {ts : List Token} :
    scanFrom fuel cs = some ts ↔ Scans (Lexical.layout cs).2 ts [] ∧ ts.length < fuel := by
  induction fuel generalizing cs ts with
  | zero => simp [scanFrom]
  | succ fuel ih =>
    rw [scanFrom]
    split
    · next hcs =>
      rw [hcs]
      cases ts with
      | nil => simp [Scans.nil_iff]
      | cons t ts => simp [Scans.cons_iff, read?]
    · next start hstart =>
      cases hread : read? (Lexical.layout cs).2 with
      | none =>
        cases ts with
        | nil => simpa [Scans.nil_iff] using hstart
        | cons t ts => simp [Scans.cons_iff, hread]
      | some read =>
        obtain ⟨t, behind⟩ := read
        cases ts with
        | nil => simpa [Scans.nil_iff] using hstart
        | cons t' ts =>
          simp only [Option.map_eq_some_iff, ih, Scans.cons_iff, hread, Option.some.injEq,
            Prod.mk.injEq, List.cons.injEq, List.length_cons, Nat.add_lt_add_iff_right]
          constructor
          · rintro ⟨us, ⟨hus, hlength⟩, rfl, rfl⟩
            exact ⟨⟨behind, ⟨rfl, rfl⟩, hus⟩, hlength⟩
          · rintro ⟨⟨_, ⟨rfl, rfl⟩, hts⟩, hlength⟩
            exact ⟨ts, ⟨hts, hlength⟩, rfl, rfl⟩

/-- A text which is scanned into simple tokens has these. -/
theorem scan_eq_some {text : String} {ts : List Token} (hts : ∀ t ∈ ts, t.IsSimple) :
    scan text = some ts ↔ Scans (Lexical.layout text.toList).2 ts [] := by
  rw [scan, scanFrom_eq_some, and_iff_left_iff_imp]
  intro h
  have hscanned := h.length_le hts
  have hlayout := Lexical.length_layout_le text.toList
  rw [String.length_toList] at hlayout
  omega

/-! ### Texts laid out from tokens -/

/-- Names and marks with layout behind each of them, and at least some of it between names. -/
inductive LaidOut : List Token → List Char → Prop
  | nil : LaidOut [] []
  | name {n space rest : List Char} {ts : List Token} : Lexical.Layout space →
      (space = [] → ∀ m, ts.head? ≠ some (.name m)) → LaidOut ts rest →
      LaidOut (.name n :: ts) (n ++ (space ++ rest))
  | mark {m space rest : List Char} {ts : List Token} : Lexical.Layout space →
      LaidOut ts rest → LaidOut (.mark m :: ts) (m ++ (space ++ rest))

/-- The text spells the tokens, with layout in front of, between and behind them. -/
def Spells (ts : List Token) (text : List Char) : Prop :=
  ∃ space rest, Lexical.Layout space ∧ LaidOut ts rest ∧ text = space ++ rest

/-- The tokens are names and marks as they can be written. -/
def Writable (ts : List Token) : Prop :=
  ∀ t ∈ ts, t.IsSimple ∧ ∀ n, t = .name n → Lexical.isName n = true

namespace LaidOut

variable {ts : List Token} {text : List Char}

/-- A text laid out from tokens starts with no layout. -/
theorem layout_eq_self (h : LaidOut ts text) (hts : Writable ts) :
    (Lexical.layout text).2 = text := by
  refine Lexical.layout_eq_self ?_
  cases h with
  | nil => simp
  | @name n space rest ts _ _ _ =>
    have hn : Lexical.isName n = true := (hts _ List.mem_cons_self).2 n rfl
    cases n with
    | nil => cases hn
    | cons c n =>
      rw [Lexical.isName, Bool.and_eq_true] at hn
      intro d hd
      obtain rfl := Option.some.inj hd
      exact Lexical.not_blank_of_isNameStart hn.1
  | @mark m space rest ts _ _ =>
    cases (hts _ List.mem_cons_self).1 with
    | mark hm =>
      intro d hd
      obtain rfl := Option.some.inj hd
      have hall : ∀ c ∈ marks, Lexical.isBlank c = false ∧ c ≠ '#' := by
        simp [marks, Lexical.isBlank, Lexical.isLineEnd]
      exact hall _ hm

/-- A text laid out from tokens starts with no name, unless the first token is one. -/
theorem head_not_isNameChar (h : LaidOut ts text) (hts : Writable ts)
    (hname : ∀ n, ts.head? ≠ some (.name n)) :
    ∀ c ∈ text.head?, Lexical.isNameChar c = false := by
  cases h with
  | nil => simp
  | name => exact absurd rfl (hname _)
  | @mark m space rest ts _ _ =>
    cases (hts _ List.mem_cons_self).1 with
    | mark hm =>
      have hall : ∀ c ∈ marks, Lexical.isNameChar c = false := by
        simp [marks, Lexical.isNameChar]
      intro c hc
      obtain rfl := Option.some.inj hc
      exact hall _ hm

theorem scans (h : LaidOut ts text) (hts : Writable ts) : Scans text ts [] := by
  induction h with
  | nil => exact .done
  | @name n space rest ts hspace hgap hrest ih =>
    obtain ⟨hfirst, hts⟩ := List.forall_mem_cons.1 hts
    -- Layout ends a name, and so does a mark if there is no layout.
    have hdelimited : ∀ c ∈ (space ++ rest).head?, Lexical.isNameChar c = false := by
      cases space with
      | nil => exact hrest.head_not_isNameChar hts (hgap rfl)
      | cons c space => exact hspace.head_not_isNameChar
    refine .token (read?_name.2 (Lexical.name?_eq_some.2 ⟨rfl, hfirst.2 n rfl, hdelimited⟩)) ?_
    rw [hspace.append, hrest.layout_eq_self hts]
    exact ih hts
  | @mark m space rest ts hspace hrest ih =>
    obtain ⟨⟨hsimple, -⟩, htail⟩ := List.forall_mem_cons.1 hts
    have hlayout : (Lexical.layout (space ++ rest)).2 = rest := by
      rw [hspace.append, hrest.layout_eq_self htail]
    cases hsimple with
    | mark hm => exact .token ((read?_mark hm).2 rfl) (hlayout.symm ▸ ih htail)

/-- Tokens may have more layout behind them. -/
theorem pad {space' : List Char} (h : LaidOut ts text) (hts : ts ≠ [])
    (hspace' : Lexical.Layout space') : LaidOut ts (text ++ space') := by
  induction h with
  | nil => exact absurd rfl hts
  | @name n space rest ts hspace hgap hrest ih =>
    rw [List.append_assoc, List.append_assoc]
    cases ts with
    | nil =>
      cases hrest
      rw [List.nil_append, ← List.append_nil (space ++ space')]
      exact .name (hspace.concat hspace') (fun _ _ => by simp) .nil
    | cons t ts => exact .name hspace hgap (ih (List.cons_ne_nil _ _))
  | @mark m space rest ts hspace hrest ih =>
    rw [List.append_assoc, List.append_assoc]
    cases ts with
    | nil =>
      cases hrest
      rw [List.nil_append, ← List.append_nil (space ++ space')]
      exact .mark (hspace.concat hspace') .nil
    | cons t ts => exact .mark hspace (ih (List.cons_ne_nil _ _))

/-- Two laid out texts behind each other, where names do not meet. -/
theorem append {us : List Token} {text' : List Char} (h : LaidOut ts text)
    (h' : LaidOut us text') (hus : ∀ n, us.head? ≠ some (.name n)) :
    LaidOut (ts ++ us) (text ++ text') := by
  induction h with
  | nil => exact h'
  | @name n space rest ts hspace hgap _ ih =>
    rw [List.append_assoc, List.append_assoc]
    refine .name hspace (fun hspace m => ?_) ih
    cases ts with
    | nil => exact hus m
    | cons t ts => exact hgap hspace m
  | @mark m space rest ts hspace _ ih =>
    rw [List.append_assoc, List.append_assoc]
    exact .mark hspace ih

end LaidOut

namespace Spells

variable {ts : List Token} {text : List Char}

/-- A text is scanned into the tokens it spells. -/
theorem scans (h : Spells ts text) (hts : Writable ts) :
    Scans (Lexical.layout text).2 ts [] := by
  obtain ⟨space, rest, hspace, hrest, rfl⟩ := h
  rw [hspace.append, hrest.layout_eq_self hts]
  exact hrest.scans hts

/-- Between braces with blanks, a text spells the braces too. -/
theorem braced (h : Spells ts text) :
    Spells (openBrace :: (ts ++ [closeBrace])) ('\x7b' :: ' ' :: (text ++ [' ', '\x7d'])) := by
  obtain ⟨space, rest, hspace, hrest, rfl⟩ := h
  have hblank : Lexical.Layout [' '] := .blank rfl .nil
  have hopen : LaidOut (openBrace :: ts) (['\x7b'] ++ (' ' :: space ++ rest)) :=
    .mark (.blank rfl hspace) hrest
  have hclose : LaidOut [closeBrace] (['\x7d'] ++ ([] ++ [])) := .mark .nil .nil
  have hall := (hopen.pad (List.cons_ne_nil _ _) hblank).append hclose (fun _ h => nomatch h)
  exact ⟨[], _, .nil, hall, by simp⟩

end Spells

end Token

end EntityGraph
