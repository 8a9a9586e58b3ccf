import TextTemplate.Proofs.Template.Lookahead
import TextTemplate.Proofs.Template.Places
import TextTemplate.Proofs.Template.Relocation

/-!
# What no more text can mend

Some complaints are that something is not closed when the template ends, and more text may close it.
All others are final: they are about a construct that has been read, and what follows it is not
looked at.

- `Cause.SaysOpenEnd`: the words of a complaint that something is not closed.
- `saysOpenEnd_iff`: no other complaint is put in such words.
- `isOpenEnd_of_finish`: at the end of a template nothing else is wrong.
- `runPieces_append_of_error`: all other faults are reported again if the template goes on.
- `Position.opens_of_parse_error`: a fault stands where a construct begins.
- `Template.parseAt_append_of_definite`: the main statement.
-/

namespace TextTemplate

/-! ## Complaints -/

namespace Cause

/-- The beginnings of complaints that something is not closed. -/
def openEndings : List String :=
  ["Unclosed ", "Unterminated literal in ", "Unterminated raw string in "]

/-- Whether words complain that something is not closed. -/
def SaysOpenEnd (message : String) : Prop := ∃ s ∈ openEndings, s.toList <+: message.toList

theorem saysOpenEnd_of_isOpenEnd {cause : Cause} (h : cause.isOpenEnd = true) :
    SaysOpenEnd cause.message := by
  have hlit (s t : String) : s.toList <+: (s ++ t).toList := by
    rw [String.toList_append]
    exact List.prefix_append _ _
  cases cause with
  | unclosed b =>
    refine ⟨"Unclosed ", by simp [openEndings], ?_⟩
    show _ <+: ("Unclosed " ++ b.text ++ ": missing `\x7d`").toList
    rw [String.append_assoc]
    exact hlit _ _
  | unterminatedLiteral b =>
    exact ⟨"Unterminated literal in ", by simp [openEndings], hlit _ b.text⟩
  | unterminatedRaw b =>
    exact ⟨"Unterminated raw string in ", by simp [openEndings], hlit _ b.text⟩
  | unclosedComment => exact ⟨"Unclosed ", by simp [openEndings], by decide⟩
  | unclosedIf => exact ⟨"Unclosed ", by simp [openEndings], by decide⟩
  | unclosedElse => exact ⟨"Unclosed ", by simp [openEndings], by decide⟩
  | unclosedFor => exact ⟨"Unclosed ", by simp [openEndings], by decide⟩
  | _ => cases h

/-- Only complaints that something is not closed begin like this. -/
theorem not_saysOpenEnd {cause : Cause} (h : cause.isOpenEnd = false) :
    ¬ SaysOpenEnd cause.message := by
  -- The first three characters tell them from all others.
  have htake : cause.message.toList.take 3 ∉ [['U', 'n', 'c'], ['U', 'n', 't']] := by
    have hlit (s t : String)
        (hs : 3 ≤ s.toList.length ∧ s.toList.take 3 ∉ [['U', 'n', 'c'], ['U', 'n', 't']]) :
        (s ++ t).toList.take 3 ∉ [['U', 'n', 'c'], ['U', 'n', 't']] := by
      rw [String.toList_append, List.take_append_of_le_length hs.1]
      exact hs.2
    cases cause with
    | emptyExpression | loopHead => decide
    | expression source c =>
      have hwords := hlit "Invalid Rust expression `" (source ++ ("`: " ++ c.message)) (by decide)
      rwa [← String.append_assoc, ← String.append_assoc] at hwords
    | tokens => exact hlit "Invalid Rust tokens: " _ (by decide)
    | binding c => exact hlit "Invalid binding in \x7b$let\x7d: " c.message (by decide)
    | missingCondition chained => cases chained <;> decide
    | loopPattern c => exact hlit "Invalid pattern in \x7b#for\x7d: " c.message (by decide)
    | loopIterator c => exact hlit "Invalid iterator in \x7b#for\x7d: " c.message (by decide)
    | unknownTag tag =>
      have hwords := hlit "Unknown template tag `\x7b" (tag ++ "\x7d`") (by decide)
      rwa [← String.append_assoc] at hwords
    | unexpected d => cases d <;> decide
    | unclosed _ | unterminatedLiteral _ | unterminatedRaw _ => cases h
    | unclosedComment | unclosedIf | unclosedElse | unclosedFor => cases h
  rintro ⟨s, hs, t, ht⟩
  rw [← ht] at htake
  simp only [openEndings, List.mem_cons, List.not_mem_nil, or_false] at hs
  rcases hs with rfl | rfl | rfl
  all_goals
    rw [List.take_append_of_le_length (by decide)] at htake
    exact htake (by decide)

theorem saysOpenEnd_iff (cause : Cause) :
    SaysOpenEnd cause.message ↔ cause.isOpenEnd = true := by
  constructor
  · intro h
    by_contra hfalse
    exact not_saysOpenEnd (Bool.eq_false_iff.2 hfalse) h
  · exact saysOpenEnd_of_isOpenEnd

end Cause

/-! ## Runs -/

namespace Automaton

/-- At the end of a template nothing can be wrong but that a block is not closed. -/
theorem isOpenEnd_of_finish {c : Config} {f : Fault} (h : c.finish = .error f) :
    f.cause.isOpenEnd = true := by
  obtain ⟨nodes, stack⟩ := c
  match stack with
  | [] => cases h
  | (.choice _ _ _, _) :: _ | (.otherwise _ _, _) :: _ | (.loop _ _ _, _) :: _ =>
    cases h
    rfl

/-- A fault that more text cannot mend is reported again if the template goes on. Only a quote after
a quote and a brace may change what was read. -/
theorem runPieces_append_of_error {p : Position} {c : Config} {a t : List Char} {f : Fault}
    (h : runPieces c (Piece.scanFrom p a) = .error f) (hf : f.cause.isOpenEnd = false)
    (ht : ['\'', '}'] <:+ a → t.head? ≠ some '\'') :
    runPieces c (Piece.scanFrom p (a ++ t)) = .error f := by
  have hfinal {d : Config} (hd : d.finish = .error f) : False := by
    rw [isOpenEnd_of_finish hd] at hf
    cases hf
  fun_induction Piece.scanFrom p a generalizing c with
  | case1 p => exact (hfinal h).elim
  | case2 p ch s cause hnext =>
    rw [runPieces] at h
    cases h
    rw [Cut.isOpenEnd_of_next hnext] at hf
    cases hf
  | case3 p ch s cut rest hnext cause hcut =>
    have htext : ∀ d, cut ≠ .text d := by
      rintro d rfl
      cases hcut
    rw [List.cons_append,
      Piece.scanFrom_of_misread (Cut.next_append_of_not_text hnext htext ht) hcut]
    exact h
  | case4 p ch s cut rest hnext piece hcut ih =>
    rw [runPieces] at h
    cases hstep : c.step piece with
    | error e =>
      have htext : ∀ d, cut ≠ .text d := by
        rintro d rfl
        cases hcut
        cases hstep
      rw [hstep] at h
      rw [List.cons_append,
        Piece.scanFrom_of_cut (Cut.next_append_of_not_text hnext htext ht) hcut, runPieces, hstep]
      exact h
    | ok next =>
      rw [hstep] at h
      -- The run goes on to the fault, so that there is something left to read.
      have hjoins : rest = [] → ¬ cut.Joins t := by
        rintro rfl
        rw [Piece.scanFrom] at h
        exact (hfinal h).elim
      have hsuffix : rest <:+ ch :: s := ⟨cut.source, Cut.append_of_next hnext⟩
      rw [List.cons_append, Piece.scanFrom_of_cut (Cut.next_append hnext hjoins) hcut, runPieces,
        hstep]
      exact ih h fun hend => ht (hend.trans hsuffix)

end Automaton

/-! ## Templates -/

/-- A construct of a text begins before its end. -/
theorem Position.Opens.offset_lt {s : List Char} {p : Position} (h : p.Opens s) :
    p.offset < byteCount s := by
  obtain ⟨front, c, back, rfl, -, rfl⟩ := h
  have := c.utf8Size_pos
  rw [offset_afterAll, byteCount_append, byteCount]
  show 0 + byteCount front < _
  omega

/-- A fault stands where a construct begins. -/
theorem Position.opens_of_parse_error {s : List Char} {f : Fault}
    (h : Template.parse s = .error f) : f.position.Opens s := by
  rw [Automaton.parse_eq_runPieces] at h
  rcases Automaton.position_of_runPieces_error h with hq | ⟨piece, hpiece, hq⟩
  · exact absurd hq List.not_mem_nil
  · exact Piece.opens_of_mem_scanFrom [] rfl hpiece hq

namespace Template

/-- A fault that more text cannot mend is reported again if the template goes on. -/
theorem parse_append_of_error {a t : List Char} {f : Fault} (h : parse a = .error f)
    (hf : f.cause.isOpenEnd = false) (ht : ['\'', '}'] <:+ a → t.head? ≠ some '\'') :
    parse (a ++ t) = .error f := by
  rw [Automaton.parse_eq_runPieces] at h ⊢
  exact Automaton.runPieces_append_of_error h hf ht

/-- Before the construct that is reported there is nothing wrong that more text cannot mend. -/
theorem isOpenEnd_of_front {front back : List Char} {c : Char} {f g : Fault}
    (h : parse (front ++ c :: back) = .error f) (hc : c = '@' ∨ c = '{')
    (hp : f.position = Position.start.afterAll front) (hg : parse front = .error g) :
    g.cause.isOpenEnd = true := by
  by_contra hopen
  have hquote : ['\'', '}'] <:+ front → (c :: back).head? ≠ some '\'' := by
    intro _ hhead
    rcases hc with rfl | rfl <;> cases hhead
  have hagain := parse_append_of_error (t := c :: back) hg (Bool.eq_false_iff.2 hopen) hquote
  obtain rfl : f = g := Except.error.inj (h.symm.trans hagain)
  have hlt := (Position.opens_of_parse_error hg).offset_lt
  rw [hp, Position.offset_afterAll] at hlt
  change 0 + byteCount front < _ at hlt
  omega

/-- **A definite fault is final.** If a template is refused, and not for something that is not
closed, it is refused with the same words and at the same place whatever is added to it, unless it
ends with a quote and a brace. The fault is the first of its kind: the text before its construct may
be refused for something that is not closed, but for nothing else. -/
theorem parseAt_append_of_definite (lineOffset : Nat) (a : List Char) (f : Fault)
    (h : parseAt lineOffset a = .error f) (hf : ¬ Cause.SaysOpenEnd f.message) :
    (¬ ['\'', '}'] <:+ a → ∀ t, parseAt lineOffset (a ++ t) = .error f) ∧
      ∃ front c back, a = front ++ c :: back ∧ (c = '@' ∨ c = '{') ∧
        f.position = (Position.start.afterAll front).below lineOffset ∧
        ∀ g, parseAt lineOffset front = .error g → Cause.SaysOpenEnd g.message := by
  obtain ⟨e, he, rfl⟩ := (parseAt_eq_error_iff lineOffset).1 h
  constructor
  · intro hquote t
    have hdefinite : e.cause.isOpenEnd = false :=
      Bool.eq_false_iff.2 fun hopen => hf ((Cause.saysOpenEnd_iff _).2 hopen)
    have hagain := parse_append_of_error (t := t) he hdefinite fun hend => absurd hend hquote
    exact (parseAt_eq_error_iff lineOffset).2 ⟨e, hagain, rfl⟩
  · obtain ⟨front, c, back, rfl, hc, hp⟩ := Position.opens_of_parse_error he
    refine ⟨front, c, back, rfl, hc, congrArg (Position.below lineOffset) hp, ?_⟩
    intro g hg
    obtain ⟨d, hd, rfl⟩ := (parseAt_eq_error_iff lineOffset).1 hg
    have hopen := isOpenEnd_of_front he hc hp hd
    exact (Cause.saysOpenEnd_iff _).2 hopen

/-- A block that is closed by the end of another one. -/
def crossed : List Char := "\x7b#for x in y\x7d\n\x7b/if\x7d".toList

/-- The end of the wrong block is reported whatever comes after it. What comes before it is refused
as well, but only because the loop is not closed. -/
theorem parseAt_append_of_definite_crossed :
    ∃ f, parseAt 5 crossed = .error f ∧ ¬ Cause.SaysOpenEnd f.message ∧
      ¬ ['\'', '}'] <:+ crossed ∧ (∀ t, parseAt 5 (crossed ++ t) = .error f) ∧
      f.position = ⟨14, 7, 1⟩ ∧ f.message = "Unexpected \x7b/if\x7d" := by
  have hparse : parse crossed = .error ⟨⟨14, 2, 1⟩, .unexpected .endIf⟩ :=
    Automaton.parse_eq_error_of_map (by decide +kernel)
  have h := (parseAt_eq_error_iff 5).2 ⟨_, hparse, rfl⟩
  have hwords : ¬ Cause.SaysOpenEnd "Unexpected \x7b/if\x7d" :=
    fun hwords => absurd ((Cause.saysOpenEnd_iff (.unexpected .endIf)).1 hwords) (by decide)
  have hend : ¬ ['\'', '}'] <:+ crossed := by decide
  exact ⟨_, h, hwords, hend, (parseAt_append_of_definite 5 crossed _ h hwords).1 hend, rfl, rfl⟩

end Template

end TextTemplate
