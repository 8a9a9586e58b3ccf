import Mathlib.Data.List.Induction
import TextTemplate.Proofs.Program.Except
import TextTemplate.Proofs.Template.Descent
import TextTemplate.Proofs.Template.Keywords

/-!
# Where faults are

A fault is reported at a position that was kept while the text went on being read, perhaps for the
whole body of a block. It still is the exact place of a construct of the text.

- `line_afterAll`, `column_start_afterAll`: lines and columns, said of the text before a position.
- `Position.Opens`: a position of a text at which a construct may begin.
- `Piece.position?`: the position that a piece of a template points at.
- `opens_of_mem_scanFrom`: pieces point at the beginnings of constructs.
- `Automaton.Config.positions`: the positions that are kept on the stack.
- `positions_of_step`, `position_of_step_error`, `position_of_finish_error`: no step makes up a
  position.
- `position_of_runPieces_error`: so that a run reports one of those in the pieces.
- `position_of_parse_error`: the main statement.
-/

namespace TextTemplate

/-! ## Positions -/

theorem byteCount_append (s t : List Char) : byteCount (s ++ t) = byteCount s + byteCount t := by
  induction s with
  | nil => exact (Nat.zero_add _).symm
  | cons c s ih => simp only [List.cons_append, byteCount, ih, Nat.add_assoc]

namespace Position

theorem line_after (p : Position) (c : Char) :
    (p.after c).line = p.line + [c].count '\n' := by
  unfold after
  by_cases h : c = '\n'
  · subst h
    rfl
  · rw [if_neg h, List.count_singleton, if_neg (by simpa using h)]
    rfl

/-- Every line feed begins a line. -/
theorem line_afterAll (p : Position) (s : List Char) :
    (p.afterAll s).line = p.line + s.count '\n' := by
  induction s generalizing p with
  | nil => rfl
  | cons c s ih =>
    rw [afterAll_cons, ih, line_after, Nat.add_assoc, ← List.count_append]
    rfl

/-- The column counts the characters after the last line feed, or after the start of the text. -/
theorem column_start_afterAll (s : List Char) :
    (start.afterAll s).column = 1 + (s.reverse.takeWhile (· ≠ '\n')).length := by
  induction s using List.reverseRecOn with
  | nil => rfl
  | append_singleton s c ih =>
    rw [afterAll_append, List.reverse_append, List.reverse_singleton, List.singleton_append,
      List.takeWhile_cons, afterAll_cons, afterAll_nil, after]
    by_cases h : c = '\n'
    · simp [h]
    · simp [h, ih, Nat.add_assoc]

/-- A construct may begin at a position of a text: the text before it ends there, and one of the two
characters follows that begin constructs. -/
def Opens (s : List Char) (p : Position) : Prop :=
  ∃ front c back, s = front ++ c :: back ∧ (c = '@' ∨ c = '{') ∧ p = start.afterAll front

end Position

/-! ## Pieces -/

namespace Piece

open Text

/-- The position that a piece points at. -/
def position? : Piece → Option Position
  | char _ | chunk _ _ => none
  | openIf p _ | openFor p _ _ | terminator p _ => some p
  | fault f => some f.position

theorem exists_of_map_eq_ok {ε α β : Type} {f : α → β} {x : Except ε α} {b : β}
    (h : x.map f = .ok b) : ∃ a, x = .ok a ∧ f a = b := by
  cases x with
  | error e => cases h
  | ok a => exact ⟨a, rfl, Except.ok.inj h⟩

/-- The pieces that the table of tags holds. -/
theorem cases_of_ofWords? {p : Position} {word rest : List Char} {piece : Piece}
    (h : ofWords? p word rest = some (.ok piece)) :
    (∃ code, piece = openIf p code) ∨
      (∃ code pattern iterator, loopHead code = .ok (pattern, iterator) ∧
        piece = openFor p pattern iterator) ∨
      (∃ t, piece = terminator p t) ∨ ∃ code, piece = chunk .effect code := by
  unfold ofWords? at h
  split at h
  case h_1 =>
    split at h
    · cases h
    · obtain ⟨code, -, rfl⟩ := exists_of_map_eq_ok (Option.some.inj h)
      exact .inl ⟨code, rfl⟩
  case h_2 =>
    obtain ⟨⟨pattern, iterator⟩, hread, rfl⟩ := exists_of_map_eq_ok (Option.some.inj h)
    obtain ⟨code, -, hhead⟩ := bind_eq_ok_iff.1 hread
    exact .inr (.inl ⟨code, pattern, iterator, hhead, rfl⟩)
  case h_3 =>
    split at h
    · cases h
      exact .inr (.inr (.inl ⟨.otherwise, rfl⟩))
    split at h
    · split at h
      · cases h
      · obtain ⟨code, -, rfl⟩ := exists_of_map_eq_ok (Option.some.inj h)
        exact .inr (.inr (.inl ⟨.elseIf code, rfl⟩))
    · cases h
  case h_4 | h_5 =>
    split at h
    · cases h
      exact .inr (.inr (.inl ⟨_, rfl⟩))
    · cases h
  case h_6 | h_7 =>
    obtain ⟨code, -, rfl⟩ := exists_of_map_eq_ok (Option.some.inj h)
    exact .inr (.inr (.inr ⟨code, rfl⟩))
  case h_8 => cases h

/-- The pieces that a tag may stand for. -/
theorem cases_of_ofTag {p : Position} {tag : List Char} {piece : Piece}
    (h : ofTag p tag = .ok piece) :
    (∃ code, piece = openIf p code) ∨
      (∃ code pattern iterator, loopHead code = .ok (pattern, iterator) ∧
        piece = openFor p pattern iterator) ∨
      (∃ t, piece = terminator p t) ∨ ∃ code, piece = chunk .effect code := by
  rw [ofTag_eq] at h
  cases hentry : ofWords? p (firstWord (trim tag)) (afterWord (trim tag)) with
  | none =>
    rw [hentry] at h
    cases h
  | some result =>
    rw [hentry] at h
    rw [show result = .ok piece from h] at hentry
    exact cases_of_ofWords? hentry

/-- A tag that is understood points at its own position, if at any. -/
theorem position_of_ofTag {p q : Position} {tag : List Char} {piece : Piece}
    (h : ofTag p tag = .ok piece) (hq : piece.position? = some q) : q = p := by
  rcases cases_of_ofTag h with ⟨code, rfl⟩ | ⟨code, pattern, iterator, -, rfl⟩ | ⟨t, rfl⟩ |
    ⟨code, rfl⟩
  · exact (Option.some.inj hq).symm
  · exact (Option.some.inj hq).symm
  · exact (Option.some.inj hq).symm
  · cases hq

/-- A piece points at the position of its cut, if at any. -/
theorem position_of_ofCut {p q : Position} {cut : Cut} {piece : Piece}
    (h : ofCut p cut = .ok piece) (hq : piece.position? = some q) : q = p := by
  cases cut with
  | text c =>
    cases h
    exact absurd hq nofun
  | doubledAt =>
    cases h
    exact absurd hq nofun
  | comment t =>
    cases h
    exact absurd hq nofun
  | output t =>
    obtain ⟨code, -, rfl⟩ := exists_of_map_eq_ok h
    exact absurd hq nofun
  | tag t => exact position_of_ofTag h hq

/-- A character begins a construct if it is not read as text. -/
theorem begins_of_next_ne {c : Char} {s : List Char} (h : Cut.next c s ≠ .ok (.text c, s)) :
    c = '@' ∨ c = '{' := by
  by_contra hc
  rw [not_or] at hc
  refine h ?_
  unfold Cut.next
  rw [if_neg hc.1, if_neg hc.2]

/-- Pieces point at the beginnings of constructs. -/
theorem opens_of_mem_scanFrom (front : List Char) {s : List Char} {p q : Position} {piece : Piece}
    (hp : p = Position.start.afterAll front) (hmem : piece ∈ scanFrom p s)
    (hq : piece.position? = some q) : q.Opens (front ++ s) := by
  -- A character of text is understood and points nowhere, so in every case the piece that points
  -- comes from another cut.
  fun_induction scanFrom p s generalizing front with
  | case1 p => exact absurd hmem List.not_mem_nil
  | case2 p c s cause hnext =>
    obtain rfl := List.mem_singleton.1 hmem
    cases hq
    refine ⟨front, c, s, rfl, begins_of_next_ne (s := s) fun htext => ?_, hp⟩
    rw [htext] at hnext
    cases hnext
  | case3 p c s cut rest hnext cause hcut =>
    obtain rfl := List.mem_singleton.1 hmem
    cases hq
    refine ⟨front, c, s, rfl, begins_of_next_ne (s := s) fun htext => ?_, hp⟩
    rw [htext] at hnext
    cases hnext
    cases hcut
  | case4 p c s cut rest hnext first hcut ih =>
    rcases List.mem_cons.1 hmem with rfl | hmem
    · refine ⟨front, c, s, rfl, begins_of_next_ne (s := s) fun htext => ?_,
        (position_of_ofCut hcut hq).trans hp⟩
      rw [htext] at hnext
      cases hnext
      cases hcut
      cases hq
    · have hfront : p.afterAll cut.source = Position.start.afterAll (front ++ cut.source) := by
        rw [hp, Position.afterAll_append]
      have hopens := ih _ hfront hmem
      rwa [List.append_assoc, Cut.append_of_next hnext] at hopens

end Piece

/-! ## The stack -/

/-- The position that is reported if an open block is not closed. -/
def Frame.position : Frame → Position
  | choice p _ _ | otherwise _ p | loop p _ _ => p

namespace Automaton

/-- The positions that are kept on the stack. -/
def Config.positions (c : Config) : List Position := c.stack.map (·.1.position)

variable {c c' : Config} {p q : Position} {t : Terminator} {piece : Piece} {f : Fault}

/-- Closing or dividing a block keeps no other position than that of the tag. -/
theorem positions_of_close (h : c.close p t = .ok c') (hq : q ∈ c'.positions) :
    q ∈ c.positions ∨ q = p := by
  obtain ⟨nodes, stack⟩ := c
  match stack, t with
  | [], _ => exact absurd h nofun
  | (.choice opened finished condition, before) :: stack, .elseIf next =>
    cases h
    exact .inl hq
  | (.choice opened finished condition, before) :: stack, .otherwise =>
    cases h
    rcases List.mem_cons.1 hq with hq | hq
    · exact .inr hq
    · exact .inl (List.mem_cons_of_mem _ hq)
  | (.choice opened finished condition, before) :: stack, .endIf =>
    cases h
    exact .inl (List.mem_cons_of_mem _ hq)
  | (.choice opened finished condition, before) :: stack, .endFor => exact absurd h nofun
  | (.otherwise finished opened, before) :: stack, .endIf =>
    cases h
    exact .inl (List.mem_cons_of_mem _ hq)
  | (.otherwise finished opened, before) :: stack, .elseIf _
  | (.otherwise finished opened, before) :: stack, .otherwise
  | (.otherwise finished opened, before) :: stack, .endFor => exact absurd h nofun
  | (.loop opened pattern iterator, before) :: stack, .endFor =>
    cases h
    exact .inl (List.mem_cons_of_mem _ hq)
  | (.loop opened pattern iterator, before) :: stack, .elseIf _
  | (.loop opened pattern iterator, before) :: stack, .otherwise
  | (.loop opened pattern iterator, before) :: stack, .endIf => exact absurd h nofun

/-- A tag that cannot stand where it does is reported where it stands. -/
theorem position_of_close_error (h : c.close p t = .error f) : f.position = p := by
  obtain ⟨nodes, stack⟩ := c
  match stack, t with
  | [], _ | (.choice _ _ _, _) :: _, .endFor
  | (.otherwise _ _, _) :: _, .elseIf _ | (.otherwise _ _, _) :: _, .otherwise
  | (.otherwise _ _, _) :: _, .endFor
  | (.loop _ _ _, _) :: _, .elseIf _ | (.loop _ _ _, _) :: _, .otherwise
  | (.loop _ _ _, _) :: _, .endIf =>
    cases h
    rfl
  | (.choice _ _ _, _) :: _, .elseIf _ | (.choice _ _ _, _) :: _, .otherwise
  | (.choice _ _ _, _) :: _, .endIf | (.otherwise _ _, _) :: _, .endIf
  | (.loop _ _ _, _) :: _, .endFor => exact absurd h nofun

/-- A step keeps no other position than that of the piece. -/
theorem positions_of_step (h : c.step piece = .ok c') (hq : q ∈ c'.positions) :
    q ∈ c.positions ∨ piece.position? = some q := by
  cases piece with
  | char ch =>
    cases h
    exact .inl hq
  | chunk marker code =>
    cases h
    exact .inl hq
  | openIf p condition =>
    cases h
    rcases List.mem_cons.1 hq with rfl | hq
    · exact .inr rfl
    · exact .inl hq
  | openFor p pattern iterator =>
    cases h
    rcases List.mem_cons.1 hq with rfl | hq
    · exact .inr rfl
    · exact .inl hq
  | terminator p t =>
    rcases positions_of_close h hq with hq | rfl
    · exact .inl hq
    · exact .inr rfl
  | fault f => exact absurd h nofun

/-- A step that fails reports the position of the piece. -/
theorem position_of_step_error (h : c.step piece = .error f) :
    piece.position? = some f.position := by
  cases piece with
  | char ch => exact absurd h nofun
  | chunk marker code => exact absurd h nofun
  | openIf p condition => exact absurd h nofun
  | openFor p pattern iterator => exact absurd h nofun
  | terminator p t =>
    rw [position_of_close_error h]
    rfl
  | fault f =>
    cases h
    rfl

/-- At the end of the text a position is reported that was kept. -/
theorem position_of_finish_error (h : c.finish = .error f) : f.position ∈ c.positions := by
  obtain ⟨nodes, stack⟩ := c
  match stack with
  | [] => exact absurd h nofun
  | (.choice _ _ _, _) :: _ | (.otherwise _ _, _) :: _ | (.loop _ _ _, _) :: _ =>
    cases h
    exact List.mem_cons_self

/-- A run reports a position that was kept before it, or that one of its pieces points at. -/
theorem position_of_runPieces_error {pieces : List Piece} (h : runPieces c pieces = .error f) :
    f.position ∈ c.positions ∨ ∃ piece ∈ pieces, piece.position? = some f.position := by
  induction pieces generalizing c with
  | nil => exact .inl (position_of_finish_error h)
  | cons piece rest ih =>
    rw [runPieces] at h
    cases hstep : c.step piece with
    | error g =>
      rw [hstep] at h
      cases h
      exact .inr ⟨piece, List.mem_cons_self, position_of_step_error hstep⟩
    | ok next =>
      rw [hstep] at h
      rcases ih h with hq | ⟨other, hother, hq⟩
      · rcases positions_of_step hstep hq with hq | hq
        · exact .inl hq
        · exact .inr ⟨piece, List.mem_cons_self, hq⟩
      · exact .inr ⟨other, List.mem_cons_of_mem _ hother, hq⟩

end Automaton

/-! ## Templates -/

/-- **Faults are where their constructs begin.** The text before a fault ends in front of a
character that begins constructs. The fault counts the bytes of that text, its line feeds after
those of the lines before the template, and the characters after the last of them. -/
theorem Template.position_of_parse_error (s : List Char) (lineOffset : Nat) (f : Fault)
    (h : parse s = .error f) :
    ∃ front c back, s = front ++ c :: back ∧ (c = '@' ∨ c = '{') ∧
      f.position.offset = byteCount front ∧ f.position.offset < byteCount s ∧
      f.line lineOffset = 1 + front.count '\n' + lineOffset ∧
      f.position.column = 1 + (front.reverse.takeWhile (· ≠ '\n')).length := by
  rw [Automaton.parse_eq_runPieces] at h
  rcases Automaton.position_of_runPieces_error h with hq | ⟨piece, hpiece, hq⟩
  · exact absurd hq List.not_mem_nil
  · obtain ⟨front, c, back, hs, hc, hp⟩ : f.position.Opens s :=
      Piece.opens_of_mem_scanFrom [] rfl hpiece hq
    have hoffset : f.position.offset = byteCount front := by
      rw [hp, Position.offset_afterAll]
      exact Nat.zero_add _
    refine ⟨front, c, back, hs, hc, hoffset, ?_, ?_, ?_⟩
    · have := c.utf8Size_pos
      rw [hoffset, hs, byteCount_append, byteCount]
      omega
    · rw [Fault.line, hp, Position.line_afterAll]
      rfl
    · rw [hp, Position.column_start_afterAll]

/-- Line feeds in a literal and in a remark, characters of several bytes, and a loop that stays open
although the choice in it is closed. -/
def Template.unclosed : List Char :=
  "é\n@\x7b\"\n\x7d\"\x7d \x7b>\n<\x7dü\x7b#for x in y\x7d\x7b#if c\x7d\x7b:else\x7d\x7b/if\x7d".toList

/-- The loop is reported where it begins, when five lines stand before the template. -/
theorem Template.position_of_parse_error_unclosed :
    parse unclosed = .error ⟨⟨18, 4, 4⟩, .unclosedFor⟩ ∧
      ∃ front c back, unclosed = front ++ c :: back ∧ (c = '@' ∨ c = '{') ∧
        18 = byteCount front ∧ 18 < byteCount unclosed ∧
        9 = 1 + front.count '\n' + 5 ∧ 4 = 1 + (front.reverse.takeWhile (· ≠ '\n')).length := by
  have hmap : (Automaton.runPieces .start (Piece.scan unclosed)).map (fun _ => ()) =
      .error ⟨⟨18, 4, 4⟩, .unclosedFor⟩ := by decide +kernel
  have h : parse unclosed = .error ⟨⟨18, 4, 4⟩, .unclosedFor⟩ := by
    rw [Automaton.parse_eq_runPieces]
    cases hrun : Automaton.runPieces .start (Piece.scan unclosed) with
    | error g =>
      rw [hrun] at hmap
      cases hmap
      rfl
    | ok nodes =>
      rw [hrun] at hmap
      cases hmap
  exact ⟨h, position_of_parse_error unclosed 5 _ h⟩

end TextTemplate
