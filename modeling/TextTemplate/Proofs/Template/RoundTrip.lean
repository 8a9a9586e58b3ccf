import TextTemplate.Proofs.Template.Descent
import TextTemplate.Proofs.Template.Draft
import TextTemplate.Proofs.Template.Keywords

/-!
# Reading what was written

The text of a draft is read back as the nodes of the draft. The reader takes it apart into the cuts
it was put together from, and each cut does to its stack what the draft says.

- `Harmless`: a text in front of which a brace is text.
- `Cut.Stands`: a cut that is read back in front of a text.
- `Automaton.run_cut`: the reader takes one step for a cut that stands.
- `run_chars`: the text of a text.
- `run_print`, `run_printAll`, `run_printRest`: the text of a draft, proved together along the tree.
- `Template.parse_printAll`: the main statement.
-/

namespace TextTemplate

/-! ## Braces in texts -/

/-- A text in front of which a brace is a character of text. -/
def Harmless (s : List Char) : Prop := ∀ sign ∈ s.head?, sign ∉ braceSigns

theorem harmless_cons {c : Char} (hc : c ∉ braceSigns) (s : List Char) : Harmless (c :: s) := by
  intro sign hsign
  obtain rfl : c = sign := Option.some.inj hsign
  exact hc

/-- In a text no brace begins a construct, whatever harmless text comes after it. -/
theorem harmless_writtenChars {c : Char} {s rest : List Char} (hs : NoConstruct (c :: s))
    (hrest : Harmless rest) (hc : c = '{') : Harmless (Draft.writtenChars s ++ rest) := by
  subst hc
  cases s with
  | nil => exact hrest
  | cons d s =>
    obtain ⟨t, ht⟩ := Draft.exists_source_writtenChar d
    rw [Draft.writtenChars_cons, ht]
    exact harmless_cons (fun hd => hs d hd ⟨[], s, rfl⟩) _

/-! ## Cuts that are read back -/

namespace Cut

/-- A cut that is read back in front of a text. -/
def Stands (cut : Cut) (rest : List Char) : Prop :=
  ∃ c s, cut.source ++ rest = c :: s ∧ next c s = .ok (cut, rest)

theorem stands_output {s : List Char} (h : Braced.Closed s) (rest : List Char) :
    (output s).Stands rest := by
  refine ⟨'@', '{' :: s ++ '}' :: rest, by simp [source], ?_⟩
  show braced .output output (s ++ '}' :: rest) = _
  rw [braced, h rest]

/-- After a brace, a sign begins a tag. -/
theorem next_sign {c : Char} (hc : c ∈ tagSigns) (s : List Char) :
    next '{' (c :: s) = braced .tag tag (c :: s) := by
  simp only [tagSigns, List.mem_cons, List.not_mem_nil, or_false] at hc
  rcases hc with rfl | rfl | rfl | rfl <;> rfl

/-- After a brace, a character that makes no construct of it is text. -/
theorem next_not_sign {c : Char} (hc : c ∉ braceSigns) (s : List Char) :
    next '{' (c :: s) = .ok (text '{', c :: s) := by
  rw [braceSigns, List.mem_cons, not_or] at hc
  rw [next.eq_def, if_neg (by decide), if_pos rfl]
  split
  · next heq => exact absurd (List.cons.inj heq).1 hc.1
  · next heq =>
    obtain ⟨rfl, -⟩ := List.cons.inj heq
    rw [if_neg hc.2]
  · next heq => exact absurd heq (List.cons_ne_nil _ _)

theorem stands_tag {c : Char} {s : List Char} (h : Braced.Closed (c :: s)) (hc : c ∈ tagSigns)
    (rest : List Char) : (tag (c :: s)).Stands rest := by
  refine ⟨'{', c :: s ++ '}' :: rest, by simp [source], ?_⟩
  rw [List.cons_append, next_sign hc, braced, ← List.cons_append, h rest]

/-- Whether a word begins a tag: a sign, and characters that are read as themselves. -/
def isTagWord (word : String) : Bool :=
  match word.toList with
  | [] => false
  | c :: w => decide (c ∈ tagSigns) && w.all fun d => decide (Braced.Quiet d)

theorem exists_of_isTagWord {word : String} (h : isTagWord word = true) :
    ∃ c w, word.toList = c :: w ∧ c ∈ tagSigns ∧ ∀ d ∈ w, Braced.Quiet d := by
  rw [isTagWord] at h
  split at h
  · exact absurd h Bool.false_ne_true
  · next c w hword =>
    rw [Bool.and_eq_true] at h
    exact ⟨c, w, hword, of_decide_eq_true h.1, Braced.quiet_of_all h.2⟩

/-- A tag that is a word alone stands. -/
theorem stands_word {word : String} (h : isTagWord word = true) (rest : List Char) :
    (tag word.toList).Stands rest := by
  obtain ⟨c, w, hword, hc, hw⟩ := exists_of_isTagWord h
  rw [hword]
  exact stands_tag (Braced.closed_sign hc hw) hc rest

/-- A tag with code after its word stands if the code may stand in braces. -/
theorem stands_tag_word {word : String} (h : isTagWord word = true) {s : List Char}
    (hs : Braced.Closed s) (rest : List Char) : (Draft.tag word s).Stands rest := by
  obtain ⟨c, w, hword, hc, hw⟩ := exists_of_isTagWord h
  rw [Draft.tag, hword]
  exact stands_tag (hs.after_sign hc hw) hc rest

/-- A remark ends at the first end of a remark. -/
theorem splitComment?_append {s : List Char} (h : ¬ ['<', '}'] <:+: s) (rest : List Char) :
    splitComment? (s ++ '<' :: '}' :: rest) = some (s, rest) := by
  induction s with
  | nil => rfl
  | cons c s ih =>
    have hs : splitComment? (s ++ '<' :: '}' :: rest) = some (s, rest) :=
      ih fun hpart => h (hpart.trans (List.suffix_cons c s).isInfix)
    rw [List.cons_append, splitComment?, hs]
    · rfl
    -- The first character and what follows it would be the end of a remark.
    · rintro t rfl heq
      cases s with
      | nil => exact absurd (List.cons.inj heq).1 (by decide)
      | cons d s =>
        obtain ⟨rfl, -⟩ := List.cons.inj heq
        exact h ⟨[], s, rfl⟩

theorem stands_comment {s : List Char} (h : ¬ ['<', '}'] <:+: s) (rest : List Char) :
    (comment s).Stands rest := by
  refine ⟨'{', '>' :: (s ++ '<' :: '}' :: rest), by simp [source], ?_⟩
  rw [next.eq_def, if_neg (by decide), if_pos rfl]
  simp only [splitComment?_append h]

/-- A character of text stands unless it is a brace and the text after it makes a construct of
it. -/
theorem stands_writtenChar {c : Char} {rest : List Char}
    (h : c = '{' → Harmless rest) :
    (Draft.writtenChar c).Stands rest := by
  rw [Draft.writtenChar]
  split
  · exact ⟨'@', '@' :: rest, rfl, rfl⟩
  · next hat =>
    refine ⟨c, rest, rfl, ?_⟩
    by_cases hbrace : c = '{'
    · subst hbrace
      cases rest with
      | nil => rfl
      | cons sign rest => exact next_not_sign (h rfl sign rfl) rest
    · rw [next.eq_def, if_neg hat, if_neg hbrace]

end Cut

/-! ## Steps -/

namespace Automaton

/-- The reader takes one step for a cut that stands. -/
theorem run_cut {p : Position} {c c' : Config} {cut : Cut} {piece : Piece} {rest : List Char}
    (hcut : cut.Stands rest) (hpiece : Piece.ofCut p cut = .ok piece)
    (hstep : c.step piece = .ok c') :
    run p c (cut.source ++ rest) = run (p.afterAll cut.source) c' rest := by
  obtain ⟨ch, s, hs, hnext⟩ := hcut
  have hfront : front p ch s = .ok (piece, rest) := by
    rw [front_eq_understand, hnext, understand, hpiece]
    rfl
  have hlen : s.length + 1 - rest.length = cut.source.length := by
    have := congrArg List.length hs
    simp only [List.length_append, List.length_cons] at this
    omega
  rw [run_eq_runPieces, run_eq_runPieces, hs, scanFrom_of_ok hfront, runPieces, hstep, hlen, ← hs,
    List.take_left]

theorem ofCut_writtenChar (p : Position) (c : Char) :
    Piece.ofCut p (Draft.writtenChar c) = .ok (.char c) := by
  rw [Draft.writtenChar]
  split
  · next h =>
    rw [h]
    rfl
  · rfl

/-! ## Texts -/

variable (p : Position) (nodes : List Node) (stack : List (Frame × List Node))

theorem run_char {c : Char} {rest : List Char}
    (h : c = '{' → Harmless rest) :
    run p ⟨nodes, stack⟩ ((Draft.writtenChar c).source ++ rest) =
      run (p.afterAll (Draft.writtenChar c).source) ⟨Node.addChar c nodes, stack⟩ rest :=
  run_cut (Cut.stands_writtenChar h) (ofCut_writtenChar p c) rfl

/-- Characters after a text make it longer. -/
theorem run_chars (t : String) {s rest : List Char}
    (hs : NoConstruct s) (hrest : Harmless rest) :
    run p ⟨nodes ++ [.text t], stack⟩ (Draft.writtenChars s ++ rest) =
      run (p.afterAll (Draft.writtenChars s)) ⟨nodes ++ [.text (t ++ String.ofList s)], stack⟩
        rest := by
  -- The text in front grows by each character that is read.
  induction s generalizing p t with
  | nil => simp [Draft.writtenChars]
  | cons c s ih =>
    have htext : t.push c ++ String.ofList s = t ++ String.ofList (c :: s) := by
      apply String.toList_injective
      simp
    rw [Draft.writtenChars_cons, List.append_assoc,
      run_char p _ stack (harmless_writtenChars hs hrest), addChar_append_text, ih _ _ hs.tail,
      htext, Position.afterAll_append]

/-- Characters after something else are a text. -/
theorem run_text (plain : Plain) {rest : List Char} (hnodes : ∀ t, nodes.getLast? ≠ some (.text t))
    (hrest : Harmless rest) :
    run p ⟨nodes, stack⟩ (Draft.writtenChars plain.chars ++ rest) =
      run (p.afterAll (Draft.writtenChars plain.chars))
        ⟨nodes ++ [.text (String.ofList plain.chars)], stack⟩ rest := by
  obtain ⟨chars, hne, hs⟩ := plain
  cases chars with
  | nil => exact absurd rfl hne
  | cons c s =>
    rw [Draft.writtenChars_cons, List.append_assoc,
      run_char p _ stack (harmless_writtenChars hs hrest), addChar_of_not_text c nodes hnodes,
      run_chars _ _ _ _ hs.tail hrest, ← singleton_append_ofList, Position.afterAll_append]

/-! ## Code -/

theorem run_output (code : Snippet Piece.expression) (rest : List Char) :
    run p ⟨nodes, stack⟩ ((Cut.output code.source).source ++ rest) =
      run (p.afterAll (Cut.output code.source).source)
        ⟨nodes ++ [.chunk .output code.code], stack⟩ rest := by
  have hpiece : Piece.ofCut p (.output code.source) = .ok (.chunk .output code.code) := by
    rw [Piece.ofCut, code.accepted]
    rfl
  exact run_cut (Cut.stands_output code.closed rest) hpiece rfl

theorem run_remark (remark : Remark) (rest : List Char) :
    run p ⟨nodes, stack⟩ ((Cut.comment remark.chars).source ++ rest) =
      run (p.afterAll (Cut.comment remark.chars).source)
        ⟨nodes ++ [.chunk (.other "comment") [.ofText (String.ofList remark.chars)]], stack⟩
        rest := by
  have hpiece : Piece.ofCut p (.comment remark.chars) =
      .ok (.chunk (.other "comment") [.ofText (String.ofList remark.chars)]) := by
    rw [Piece.ofCut, Piece.ofComment, remark.trimmed]
  exact run_cut (Cut.stands_comment remark.no_end rest) hpiece rfl

theorem run_effect (code : Effect) (rest : List Char) :
    run p ⟨nodes, stack⟩ ((Draft.tag "$do" code.source).source ++ rest) =
      run (p.afterAll (Draft.tag "$do" code.source).source)
        ⟨nodes ++ [.chunk .effect code.code], stack⟩ rest := by
  have hpiece : Piece.ofCut p (Draft.tag "$do" code.source) = .ok (.chunk .effect code.code) := by
    rw [Draft.tag, Piece.ofCut, Piece.ofTag_do p code.trimmed, code.accepted]
    rfl
  exact run_cut (Cut.stands_tag_word (by decide +kernel) code.closed rest) hpiece rfl

/-! ## Blocks -/

theorem run_if (condition : Condition) (rest : List Char) :
    run p ⟨nodes, stack⟩ ((Draft.tag "#if" condition.source).source ++ rest) =
      run (p.afterAll (Draft.tag "#if" condition.source).source)
        ⟨[], (.choice p [] condition.code, nodes) :: stack⟩ rest := by
  have hpiece : Piece.ofCut p (Draft.tag "#if" condition.source) =
      .ok (.openIf p condition.code) := by
    rw [Draft.tag, Piece.ofCut, Piece.ofTag_if p condition.trimmed, Piece.condition,
      if_neg condition.ne_nil, condition.accepted]
    rfl
  exact run_cut (Cut.stands_tag_word (by decide +kernel) condition.closed rest) hpiece rfl

theorem run_elseIf (opened : Position) (finished : List (Code × List Node)) (code : Code)
    (before : List Node) (condition : Condition) (rest : List Char) :
    run p ⟨nodes, (.choice opened finished code, before) :: stack⟩
        ((Draft.tag ":else if" condition.source).source ++ rest) =
      run (p.afterAll (Draft.tag ":else if" condition.source).source)
        ⟨[], (.choice opened (finished ++ [(code, nodes)]) condition.code, before) :: stack⟩
        rest := by
  have hpiece : Piece.ofCut p (Draft.tag ":else if" condition.source) =
      .ok (.terminator p (.elseIf condition.code)) := by
    rw [Draft.tag, Piece.ofCut, Piece.ofTag_elseIf p condition.trimmed, Piece.condition,
      if_neg condition.ne_nil, condition.accepted]
    rfl
  exact run_cut (Cut.stands_tag_word (by decide +kernel) condition.closed rest) hpiece rfl

theorem run_for (head : LoopHead) (rest : List Char) :
    run p ⟨nodes, stack⟩
        ((Draft.tag "#for" (LoopHead.join head.pattern head.iterator)).source ++ rest) =
      run (p.afterAll (Draft.tag "#for" (LoopHead.join head.pattern head.iterator)).source)
        ⟨[], (.loop p head.patternCode head.iteratorCode, nodes) :: stack⟩ rest := by
  have hpiece : Piece.ofCut p (Draft.tag "#for" (LoopHead.join head.pattern head.iterator)) =
      .ok (.openFor p head.patternCode head.iteratorCode) := by
    rw [Draft.tag, Piece.ofCut, Piece.ofTag_for p head.trimmed, head.accepted]
    rfl
  exact run_cut (Cut.stands_tag_word (by decide +kernel) head.closed rest) hpiece rfl

/-- The tags that are a word alone are read as the ends and divisions that they are. -/
theorem run_word {word : String} {t : Terminator} {c c' : Config}
    (hpiece : Piece.ofTag p word.toList = .ok (.terminator p t)) (hword : Cut.isTagWord word = true)
    (hclose : c.close p t = .ok c') (rest : List Char) :
    run p c ((Cut.tag word.toList).source ++ rest) =
      run (p.afterAll (Cut.tag word.toList).source) c' rest :=
  run_cut (Cut.stands_word hword rest) hpiece hclose

/-! ## Drafts -/

theorem harmless_tag (t s : List Char) : Harmless ((Cut.tag t).source ++ s) :=
  harmless_cons (by decide) _

theorem harmless_print {draft : Draft} (h : draft.isText = false) (s : List Char) :
    Harmless (draft.print ++ s) := by
  cases draft with
  | text plain => exact absurd h.symm Bool.false_ne_true
  | output code => exact harmless_cons (c := '@') (by decide) _
  | effect code => exact harmless_tag _ s
  | remark r => exact harmless_cons (c := '{') (by decide) _
  | choice condition body rest =>
    rw [Draft.print, List.append_assoc]
    exact harmless_tag _ _
  | loop head body =>
    rw [Draft.print, List.append_assoc]
    exact harmless_tag _ _

theorem harmless_printAll {drafts : List Draft} {s : List Char}
    (h : Draft.startsWithText drafts = false) (hs : Harmless s) :
    Harmless (Draft.printAll drafts ++ s) := by
  cases drafts with
  | nil => exact hs
  | cons draft drafts =>
    rw [Draft.printAll, List.append_assoc]
    exact harmless_print h _

theorem harmless_printRest (rest : Draft.Rest) (s : List Char) :
    Harmless (Draft.printRest rest ++ s) := by
  cases rest with
  | nothing => exact harmless_tag _ s
  | otherwise body =>
    rw [Draft.printRest, List.append_assoc]
    exact harmless_tag _ _
  | elseIf condition body rest =>
    rw [Draft.printRest, List.append_assoc]
    exact harmless_tag _ _

theorem node_ne_text {draft : Draft} (h : draft.isText = false) (t : String) :
    draft.node ≠ .text t := by
  cases draft with
  | text plain => exact absurd h.symm Bool.false_ne_true
  | _ => nofun

theorem getLast?_nil_ne_text (t : String) : ([] : List Node).getLast? ≠ some (.text t) := by
  rw [List.getLast?_nil]
  exact (Option.some_ne_none _).symm

mutual

/-- The text of a draft is read as its node. -/
theorem run_print (p : Position) (nodes : List Node) (stack : List (Frame × List Node))
    (draft : Draft) (s : List Char) (hspaced : draft.spaced = true)
    (htext : draft.isText = true → (∀ t, nodes.getLast? ≠ some (.text t)) ∧ Harmless s) :
    run p ⟨nodes, stack⟩ (draft.print ++ s) =
      run (p.afterAll draft.print) ⟨nodes ++ [draft.node], stack⟩ s := by
  match draft with
  | .text plain => exact run_text p nodes stack plain (htext rfl).1 (htext rfl).2
  | .output code => exact run_output p nodes stack code s
  | .effect code => exact run_effect p nodes stack code s
  | .remark r => exact run_remark p nodes stack r s
  | .choice condition body rest =>
    rw [Draft.spaced, Bool.and_eq_true] at hspaced
    rw [Draft.print, List.append_assoc, List.append_assoc, run_if,
      run_printAll _ _ _ body _ hspaced.1 (fun _ => getLast?_nil_ne_text)
        (harmless_printRest rest s),
      run_printRest _ _ _ _ _ _ _ rest s hspaced.2, Position.afterAll_append,
      Position.afterAll_append, Draft.node]
    rfl
  | .loop head body =>
    rw [Draft.spaced] at hspaced
    rw [Draft.print, List.append_assoc, List.append_assoc, run_for,
      run_printAll _ _ _ body _ hspaced (fun _ => getLast?_nil_ne_text) (harmless_tag _ _),
      run_word _ rfl (by decide +kernel) rfl, Position.afterAll_append,
      Position.afterAll_append, Draft.node]
    rfl

/-- The text of drafts is read as their nodes. -/
theorem run_printAll (p : Position) (nodes : List Node) (stack : List (Frame × List Node))
    (drafts : List Draft) (s : List Char) (hspaced : Draft.spacedAll drafts = true)
    (htext : Draft.startsWithText drafts = true → ∀ t, nodes.getLast? ≠ some (.text t))
    (hs : Harmless s) :
    run p ⟨nodes, stack⟩ (Draft.printAll drafts ++ s) =
      run (p.afterAll (Draft.printAll drafts)) ⟨nodes ++ Draft.nodes drafts, stack⟩ s := by
  match drafts with
  | [] =>
    rw [Draft.nodes, List.append_nil]
    rfl
  | draft :: drafts =>
    simp only [Draft.spacedAll, Bool.and_eq_true, Bool.not_eq_true', Bool.and_eq_false_iff]
      at hspaced
    obtain ⟨⟨hdraft, hapart⟩, hdrafts⟩ := hspaced
    -- The last node is a text only if this draft is one, and then the next draft is none.
    have hlast : Draft.startsWithText drafts = true →
        ∀ t, (nodes ++ [draft.node]).getLast? ≠ some (.text t) := by
      intro hstarts t ht
      rw [List.getLast?_concat] at ht
      have hnot : draft.isText = false := hapart.resolve_right (by rw [hstarts]; decide)
      exact node_ne_text hnot t (Option.some.inj ht)
    rw [Draft.printAll, List.append_assoc,
      run_print p nodes stack draft _ hdraft (fun h => ⟨htext h, harmless_printAll
        (hapart.resolve_left (by rw [h]; decide)) hs⟩),
      run_printAll _ _ _ drafts s hdrafts hlast hs, Draft.nodes, List.append_assoc,
      Position.afterAll_append]
    rfl

/-- The text of a choice after one of its bodies is read as the branches that are left. -/
theorem run_printRest (p : Position) (nodes : List Node) (stack : List (Frame × List Node))
    (opened : Position) (finished : List (Code × List Node)) (code : Code) (before : List Node)
    (rest : Draft.Rest) (s : List Char) (hspaced : Draft.spacedRest rest = true) :
    run p ⟨nodes, (.choice opened finished code, before) :: stack⟩ (Draft.printRest rest ++ s) =
      run (p.afterAll (Draft.printRest rest))
        ⟨before ++ Node.ofBranches (Draft.alternative rest) (finished ++ [(code, nodes)]), stack⟩
        s := by
  match rest with
  | .nothing => exact run_word p rfl (by decide +kernel) rfl s
  | .otherwise body =>
    rw [Draft.spacedRest] at hspaced
    rw [Draft.printRest, List.append_assoc, List.append_assoc,
      run_word _ rfl (by decide +kernel) rfl,
      run_printAll _ _ _ body _ hspaced (fun _ => getLast?_nil_ne_text) (harmless_tag _ _),
      run_word _ rfl (by decide +kernel) rfl, Position.afterAll_append,
      Position.afterAll_append]
    rfl
  | .elseIf condition body rest =>
    rw [Draft.spacedRest, Bool.and_eq_true] at hspaced
    rw [Draft.printRest, List.append_assoc, List.append_assoc, run_elseIf,
      run_printAll _ _ _ body _ hspaced.1 (fun _ => getLast?_nil_ne_text)
        (harmless_printRest rest s),
      run_printRest _ _ _ _ _ _ _ rest s hspaced.2, Position.afterAll_append,
      Position.afterAll_append, Draft.alternative, Node.ofBranches_append _ _ _ (by simp)]
    rfl

end

end Automaton

/-- **What is written is read back.** The text of drafts without two texts in a row on any level is
read as the nodes of these drafts. -/
theorem Template.parse_printAll (drafts : List Draft) (h : Draft.spacedAll drafts = true) :
    parse (Draft.printAll drafts) = .ok (Draft.nodes drafts) := by
  have hrun := Automaton.run_printAll .start [] [] drafts [] h
    (fun _ => Automaton.getLast?_nil_ne_text) nofun
  rw [List.append_nil, List.nil_append] at hrun
  rw [Automaton.parse_eq_runPieces, Piece.scan, ← Automaton.run_eq_runPieces,
    Automaton.Config.start, hrun, Automaton.run]
  rfl

/-! ## A sample -/

theorem eq_ok_of_toOption {ε α : Type} {x : Except ε α} {a : α} (h : x.toOption = some a) :
    x = .ok a := by
  cases x with
  | error e => cases h
  | ok b => exact congrArg Except.ok (Option.some.inj h)

/-- A brace in a literal does not end the braces around the literal. -/
def Snippet.sample : Snippet Piece.expression where
  source := ['"', '}', '"']
  code := [.literal "\"\x7d\""]
  closed rest := by
    show Braced.readFrom 0 [] ('"' :: ('}' :: '"' :: '}' :: rest)) = _
    rw [Braced.readFrom_literal (o := .quoted '"') (t := ['}', '"']) rfl rfl,
      Braced.readFrom_close rfl]
    rfl
  accepted := eq_ok_of_toOption (by decide +kernel)

def Effect.sample : Effect where
  source := "f(x)".toList
  code := [.word "f", .group .paren [.word "x"]]
  closed := Braced.closed_quiet (Braced.quiet_of_all (by decide))
  accepted := eq_ok_of_toOption (by decide +kernel)
  trimmed := by decide

def Condition.sample : Condition where
  source := "x > 0".toList
  code := [.word "x", .mark '>' .alone, .literal "0"]
  closed := Braced.closed_quiet (Braced.quiet_of_all (by decide))
  accepted := eq_ok_of_toOption (by decide +kernel)
  trimmed := by decide
  ne_nil := by decide

def LoopHead.sample : LoopHead where
  pattern := ['x']
  iterator := ['y']
  patternCode := [.word "x"]
  iteratorCode := [.word "y"]
  closed := Braced.closed_quiet (Braced.quiet_of_all (by decide))
  trimmed := by decide
  accepted := eq_ok_of_toOption (by decide +kernel)

/-- Every kind of draft: braces and the sign `@` stand at the end of a text in front of code, the
sign of a tag at the beginning of one behind code. -/
def Draft.sample : List Draft :=
  [.text ⟨"\x7b@".toList, by decide, by decide⟩, .output .sample,
    .choice .sample [.remark ⟨['x', ' ', '<'], by decide, by decide⟩]
      (.elseIf .sample [] (.otherwise
        [.loop .sample [.effect .sample, .text ⟨"#\x7b".toList, by decide, by decide⟩]])),
    .choice .sample [] .nothing]

theorem Template.parse_printAll_sample :
    Draft.spacedAll Draft.sample = true ∧
      parse (Draft.printAll Draft.sample) = .ok (Draft.nodes Draft.sample) :=
  ⟨by decide, parse_printAll Draft.sample (by decide)⟩

end TextTemplate
