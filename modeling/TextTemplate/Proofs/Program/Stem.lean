import Mathlib.Data.List.InsertIdx
import TextTemplate.Proofs.Program.Renaming
import TextTemplate.Proofs.Program.Session

/-!
# The stem of the names

Every name of a compilation is made of a stem and a number. Which stem it is has no influence: with
another one the same steps give the same blocks under other names, and programs that run alike.

- `Instruction`: the steps of a script, which does not know the names. It refers by numbers to the
  blocks that it has ended, and may use them as expressions.
- `Session.history?`: the compilations that a script goes through.
- `State.restem`, `Session.restem`: a compilation with names of another stem.
- `follow?_text`, …, `follow?_finish`: what each step does.
- `follow?_restem`, `history?_restem`: one step and all steps of a script with either stem.
- `formed_follow`: every step keeps names with other stems away, so that the programs run alike.
- `history_of_stems`: the main statement.
-/

namespace TextTemplate

/-! ## Steps -/

namespace State

variable {α : Type} {p q : String} {s : State (Nested α)}

/-- The state of the same compilation with names of another stem. -/
def restem (p q : String) (s : State (Nested α)) : State (Nested α) :=
  { s with
    scope := Nested.renameBlock (.restem p q) s.scope
    options := { s.options with stem := q } }

theorem text_restem (t : String) : (s.restem p q).text t = (s.text t).restem p q := by
  unfold text restem
  rw [Nested.renameBlock_addFragment]
  rfl

theorem effect_restem (e : Nested α) :
    (s.restem p q).expression .effect (e.rename (.restem p q)) =
      (s.expression .effect e).restem p q := by
  unfold expression restem
  rw [Nested.renameBlock_addStatement, Nested.renameStatement]

/-- The next name has the other stem and the same number. -/
theorem fresh_restem (h : s.options.stem = p) :
    (s.restem p q).fresh = (s.fresh.1.restem p q, s.fresh.2.restem p q) := by
  have hname : s.fresh.1.restem p q = .numbered q s.counter := by
    rw [fresh, h, Ident.restem_numbered]
  rw [hname]
  rfl

theorem value_restem (h : s.options.stem = p) (e : Nested α) :
    (s.restem p q).value (e.rename (.restem p q)) =
      ((s.value e).1.restem p q, (s.value e).2.restem p q) := by
  show ((s.restem p q).fresh.1, ({ (s.restem p q).fresh.2 with
      scope := (s.restem p q).scope.addValue (s.restem p q).fresh.1 (e.rename (.restem p q)) } :
      State (Nested α))) =
    (s.fresh.1.restem p q, State.restem p q { s.fresh.2 with
      scope := s.scope.addValue s.fresh.1 e })
  rw [fresh_restem h]
  unfold restem
  rw [Nested.renameBlock_addValue]

/-- What is done with a tag does not depend on names. -/
theorem other_restem (h : s.fallback = .standard) (tag : String) (e : Nested α) :
    (s.restem p q).expression (.other tag) (e.rename (.restem p q)) =
      (s.expression (.other tag) e).restem p q := by
  have hscope (b : Block (Nested α)) : s.fallback (Nested.renameBlock (.restem p q) b) tag
      (e.rename (.restem p q)) = Nested.renameBlock (.restem p q) (s.fallback b tag e) := by
    rw [h]
    unfold Fallback.standard
    split
    · rfl
    · rw [Nested.renameBlock_addStatement, Nested.renameStatement]
  unfold expression restem
  rw [← hscope]

theorem begin_restem : (s.restem p q).begin =
    (Nested.renameBlock (.restem p q) s.begin.1, s.begin.2.restem p q) := by
  unfold begin restem
  rw [Nested.renameBlock_empty]

end State

/-! ## Scripts -/

/-- An expression in a script: one of its own, or a block that the script has ended before. -/
inductive Operand (α : Type)
  | atom (a : α)
  | ended (number : Nat)

/-- A step of a script. Where no block has the number, the one that does nothing is meant. -/
inductive Instruction (α : Type)
  | text (t : String)
  | expression (marker : Marker) (operand : Operand α)
  /-- Adds the block that has the number among those that have been ended. -/
  | block (number : Nat)
  /-- Asks for a name. -/
  | fresh
  /-- Begins a block. The one around it is kept or let go. -/
  | begin (keep : Bool)
  /-- Ends a block, and takes up again that kept one which has the number. -/
  | finish (number : Nat)

variable {α : Type}

/-- The expression that is meant, given the blocks that have been ended. -/
def Operand.resolve (ended : List (Block (Nested α))) : Operand α → Nested α
  | atom a => .atom a
  | Operand.ended number => .block (ended.getD number .empty)

/-- The step that is meant, given the blocks that have been ended. -/
def Instruction.move (ended : List (Block (Nested α))) : Instruction α → Move (Nested α)
  | text t => .text t
  | expression marker operand => .expression marker (operand.resolve ended)
  | block number => .block (ended.getD number .empty) .block
  | fresh => .fresh
  | begin keep => .begin keep
  | finish number => .finish number

namespace Session

/-- Takes a step of a script, if it can be taken. -/
def follow? (z : Session (Nested α)) (i : Instruction α) : Option (Session (Nested α)) :=
  z.step? (i.move z.finished)

/-- The compilations that a script goes through, from the first to the last. -/
def history? (z : Session (Nested α)) : List (Instruction α) → Option (List (Session (Nested α)))
  | [] => some [z]
  | i :: rest => (z.follow? i).bind fun next => (next.history? rest).map (z :: ·)

/-- The same compilation with names of another stem. -/
def restem (p q : String) (z : Session (Nested α)) : Session (Nested α) where
  state := z.state.restem p q
  given := z.given.map (.restem p q)
  asked := z.asked.map (.restem p q)
  kept := z.kept.map (Nested.renameBlock (.restem p q))
  dropped := z.dropped.map (Nested.renameBlock (.restem p q))
  finished := z.finished.map (Nested.renameBlock (.restem p q))

variable {p q : String} {z : Session (Nested α)}

@[simp] theorem state_restem : (z.restem p q).state = z.state.restem p q := rfl

theorem give_restem (named : Ident × State (Nested α)) :
    (z.restem p q).give (named.1.restem p q, named.2.restem p q) = (z.give named).restem p q := by
  unfold give restem
  rw [List.map_append]
  rfl

theorem getD_finished_restem (number : Nat) :
    (z.restem p q).finished.getD number .empty =
      Nested.renameBlock (.restem p q) (z.finished.getD number .empty) := by
  unfold restem
  rw [List.getD_eq_getElem?_getD, List.getD_eq_getElem?_getD, List.getElem?_map]
  cases z.finished[number]? with
  | none => exact (Nested.renameBlock_empty _).symm
  | some b => rfl

/-- With another stem an operand means the same expression with other names. -/
theorem resolve_restem (operand : Operand α) :
    operand.resolve (z.restem p q).finished =
      (operand.resolve z.finished).rename (.restem p q) := by
  cases operand with
  | atom a => rw [Operand.resolve, Operand.resolve, Nested.rename]
  | ended number => rw [Operand.resolve, Operand.resolve, Nested.rename, getD_finished_restem]

/-! ### Equations of the steps -/

section

variable (z)

theorem follow?_text (t : String) :
    z.follow? (.text t) = some { z with state := z.state.text t } := rfl

theorem follow?_output (operand : Operand α) : z.follow? (.expression .output operand) =
    some (z.give (z.state.value (operand.resolve z.finished))) := by
  rw [State.value_eq_expression]
  rfl

theorem follow?_effect (operand : Operand α) : z.follow? (.expression .effect operand) =
    some { z with state := z.state.expression .effect (operand.resolve z.finished) } := rfl

theorem follow?_other (tag : String) (operand : Operand α) :
    z.follow? (.expression (.other tag) operand) =
      some { z with state := z.state.expression (.other tag) (operand.resolve z.finished) } := rfl

/-- A block is added as the value of an expression. -/
theorem follow?_block (number : Nat) :
    z.follow? (.block number) = z.follow? (.expression .output (.ended number)) := rfl

theorem follow?_fresh : z.follow? .fresh =
    some { z.give z.state.fresh with asked := z.asked ++ [z.state.fresh.1] } := rfl

theorem follow?_begin (keep : Bool) : z.follow? (.begin keep) = some { z with
    state := z.state.begin.2
    kept := z.kept ++ if keep then [z.state.begin.1] else []
    dropped := z.dropped ++ if keep then [] else [z.state.begin.1] } := by
  cases keep with
  | true =>
    simp only [if_true, List.append_nil]
    rfl
  | false =>
    simp only [Bool.false_eq_true, if_false, List.append_nil]
    rfl

theorem follow?_finish (number : Nat) : z.follow? (.finish number) =
    z.kept[number]?.map fun parent => { z with
      state := (z.state.finish parent).2
      kept := z.kept.eraseIdx number
      finished := z.finished ++ [(z.state.finish parent).1] } := by
  show z.step? (.finish number) = _
  rw [step?]
  cases z.kept[number]? <;> rfl

end

/-- **One step with either stem** has the same effect, except for the stem of the names. -/
theorem follow?_restem (hstem : z.state.options.stem = p) (hfallback : z.state.fallback = .standard)
    (i : Instruction α) : (z.restem p q).follow? i = (z.follow? i).map (restem p q) := by
  have houtput (operand : Operand α) : (z.restem p q).follow? (.expression .output operand) =
      (z.follow? (.expression .output operand)).map (restem p q) := by
    rw [follow?_output, follow?_output, resolve_restem, state_restem, State.value_restem hstem,
      give_restem, Option.map_some]
  match i with
  | .text t =>
    rw [follow?_text, follow?_text, state_restem, State.text_restem]
    rfl
  | .expression .output operand => exact houtput operand
  | .expression .effect operand =>
    rw [follow?_effect, follow?_effect, resolve_restem, state_restem, State.effect_restem]
    rfl
  | .expression (.other tag) operand =>
    rw [follow?_other, follow?_other, resolve_restem, state_restem,
      State.other_restem hfallback]
    rfl
  | .block number =>
    rw [follow?_block, follow?_block]
    exact houtput (.ended number)
  | .fresh =>
    rw [follow?_fresh, follow?_fresh, state_restem, State.fresh_restem hstem, give_restem]
    simp [restem]
  | .begin keep =>
    rw [follow?_begin, follow?_begin, state_restem, State.begin_restem]
    cases keep <;> simp [restem]
  | .finish number =>
    have hkept : (z.restem p q).kept[number]? =
        z.kept[number]?.map (Nested.renameBlock (.restem p q)) := List.getElem?_map
    rw [follow?_finish, follow?_finish, hkept]
    cases z.kept[number]? with
    | none => rfl
    | some parent =>
      refine congrArg some ?_
      simp only [restem, List.map_append, List.map_singleton, List.eraseIdx_map]
      rfl

/-! ## Scripts with either stem -/

theorem restem_start (p q : String) (lineOffset : Nat) :
    (start ⟨lineOffset, p⟩ : Session (Nested α)).restem p q = start ⟨lineOffset, q⟩ := by
  simp [start, restem, State.restem, State.init]

/-- The compilations that a script goes through differ in the stem of their names only. -/
theorem history?_restem {lineOffset : Nat} (hz : Sound ⟨lineOffset, p⟩ z)
    (script : List (Instruction α)) :
    (z.restem p q).history? script = (z.history? script).map (List.map (restem p q)) := by
  induction script generalizing z with
  | nil => rfl
  | cons i rest ih =>
    have hstep := follow?_restem (q := q) (congrArg Options.stem hz.options_eq) hz.fallback_eq i
    rw [history?, history?, hstep]
    cases hi : z.follow? i with
    | none => rfl
    | some next =>
      show ((next.restem p q).history? rest).map _ = ((next.history? rest).map _).map _
      rw [ih (sound_step hz _ hi), Option.map_map, Option.map_map]
      rfl

end Session

/-! ## Runs of what a script has compiled -/

namespace Session

variable {p : String} {lineOffset : Nat} {z next : Session (Nested α)}

/-- All expressions that a compilation holds have names with the stem only, at every depth. -/
def Formed (stem : String) (z : Session (Nested α)) : Prop :=
  ∀ b ∈ z.blocks, ∀ s ∈ b.statements, Nested.Formed stem s.expr

/-- The blocks of a compilation may be used as expressions. -/
theorem formed_block (hz : Sound ⟨lineOffset, p⟩ z) (hf : z.Formed p) {b : Block (Nested α)}
    (hb : b ∈ z.blocks) : Nested.Formed p (.block b) := by
  refine .block b (fun id hid => ?_) (hz.references_eq b hb) (hf b hb)
  have hplaced : id ∈ z.placed :=
    List.mem_append_left _ (List.mem_flatMap.2 ⟨b, hb, hid⟩)
  have hgiven := hz.placed_perm.mem_iff.1 hplaced
  rw [hz.given_eq] at hgiven
  obtain ⟨n, -, rfl⟩ := List.mem_map.1 hgiven
  exact ⟨n, rfl⟩

theorem formed_resolve (hz : Sound ⟨lineOffset, p⟩ z) (hf : z.Formed p) (operand : Operand α) :
    Nested.Formed p (operand.resolve z.finished) := by
  cases operand with
  | atom a => exact .atom a
  | ended number =>
    rw [Operand.resolve, List.getD_eq_getElem?_getD]
    cases hb : z.finished[number]? with
    | none => exact .block .empty nofun rfl nofun
    | some b =>
      have hmem : b ∈ z.blocks :=
        List.mem_cons_of_mem _ (List.mem_append_right _ (List.mem_of_getElem? hb))
      exact formed_block hz hf hmem

/-- Statements may be added to the block that is being filled. -/
theorem Formed.extend (hf : z.Formed p) (added : List (Statement (Nested α)))
    (hscope : next.state.scope.statements = z.state.scope.statements ++ added)
    (hadded : ∀ s ∈ added, Nested.Formed p s.expr)
    (hothers : next.kept ++ next.dropped ++ next.finished = z.kept ++ z.dropped ++ z.finished) :
    next.Formed p := by
  intro b hb s hs
  rw [blocks, hothers] at hb
  rcases List.mem_cons.1 hb with rfl | hb
  · rw [hscope] at hs
    rcases List.mem_append.1 hs with hs | hs
    · exact hf _ List.mem_cons_self s hs
    · exact hadded s hs
  · exact hf b (List.mem_cons_of_mem _ hb) s hs

/-- Blocks may be moved about, and empty ones put among them. -/
theorem Formed.of_subset (hf : z.Formed p) (h : ∀ b ∈ next.blocks, b = .empty ∨ b ∈ z.blocks) :
    next.Formed p := by
  intro b hb s hs
  rcases h b hb with rfl | hb
  · exact absurd hs List.not_mem_nil
  · exact hf b hb s hs

/-- Every step of a script keeps names with other stems away. -/
theorem formed_follow (hz : Sound ⟨lineOffset, p⟩ z) (hf : z.Formed p) (i : Instruction α)
    (h : z.follow? i = some next) : next.Formed p := by
  have houtput (operand : Operand α)
      (h : z.follow? (.expression .output operand) = some next) : next.Formed p := by
    cases h
    refine hf.extend [.bind z.state.fresh.1 (operand.resolve z.finished)] rfl ?_ rfl
    exact List.forall_mem_singleton.2 (formed_resolve hz hf operand)
  have heffect (operand : Operand α) : ∀ s ∈ [Statement.effect (operand.resolve z.finished)],
      Nested.Formed p s.expr := List.forall_mem_singleton.2 (formed_resolve hz hf operand)
  match i with
  | .text t =>
    cases h
    exact hf.extend [] (List.append_nil _).symm (List.forall_mem_nil _) rfl
  | .expression .output operand => exact houtput operand h
  | .expression .effect operand =>
    cases h
    exact hf.extend _ rfl (heffect operand) rfl
  | .expression (.other tag) operand =>
    rw [follow?_other, State.other_eq_extend _ _ _ hz.fallback_eq] at h
    cases h
    by_cases htag : isComment tag = true
    · refine hf.extend [] ?_ (List.forall_mem_nil _) rfl
      rw [if_pos htag]
      rfl
    · refine hf.extend [.effect (operand.resolve z.finished)] ?_ (heffect operand) rfl
      rw [if_neg htag]
      rfl
  | .block number =>
    rw [follow?_block] at h
    exact houtput (.ended number) h
  | .fresh =>
    cases h
    exact hf.extend [] (List.append_nil _).symm (List.forall_mem_nil _) rfl
  | .begin keep =>
    rw [follow?_begin] at h
    cases h
    refine hf.of_subset fun b hb => ?_
    cases keep <;> simp [blocks, State.begin] at hb ⊢ <;> tauto
  | .finish number =>
    rw [follow?_finish] at h
    obtain ⟨parent, hparent, rfl⟩ := Option.map_eq_some_iff.1 h
    refine hf.of_subset fun b hb => .inr ?_
    have hkept := List.mem_of_getElem? hparent
    have herase : ∀ b ∈ z.kept.eraseIdx number, b ∈ z.kept := fun b => List.mem_of_mem_eraseIdx
    simp only [blocks, State.finish, List.mem_cons, List.mem_append, List.not_mem_nil,
      or_false] at hb ⊢
    rcases hb with rfl | (hb | hb) | hb | rfl
    · exact .inr (.inl (.inl hkept))
    · exact .inr (.inl (.inl (herase b hb)))
    · exact .inr (.inl (.inr hb))
    · exact .inr (.inr hb)
    · exact .inl rfl

/-- The number of names that were given, and of the statements and fragments of the block that is
being filled. -/
def size (z : Session (Nested α)) : Nat × Nat × Nat :=
  (z.state.counter, z.state.scope.statements.length, z.state.scope.fragments.length)

/-- Runs the program that has been compiled so far. -/
def run {σ χ : Type} (ev : Evaluator σ α χ) (z : Session (Nested α)) :
    Action σ (ExecError (NestedError χ)) Tree :=
  execute (Nested.evaluator ev) z.state.finalize

theorem size_restem (p q : String) (z : Session (Nested α)) : (z.restem p q).size = z.size := by
  simp [size, State.restem]

/-- With another stem the program runs alike. -/
theorem run_restem (q : String) {σ χ : Type} {ev : Evaluator σ α χ} (hev : ev.IgnoresNames)
    (hz : Sound ⟨lineOffset, p⟩ z) (hf : z.Formed p) : run ev (z.restem p q) = run ev z := by
  cases formed_block hz hf List.mem_cons_self with
  | block b hnumbered hreferences hexprs =>
    exact Nested.execute_rename (fun s hs => Nested.alike_of_formed hev (hexprs s hs)) hnumbered
      hreferences

/-- All compilations that a script goes through keep names with other stems away. -/
theorem formed_history (script : List (Instruction α)) {zs : List (Session (Nested α))}
    (hz : Sound ⟨lineOffset, p⟩ z) (hf : z.Formed p) (h : z.history? script = some zs) :
    ∀ w ∈ zs, Sound ⟨lineOffset, p⟩ w ∧ w.Formed p := by
  induction script generalizing z zs with
  | nil =>
    cases h
    exact List.forall_mem_singleton.2 ⟨hz, hf⟩
  | cons i rest ih =>
    obtain ⟨next, hnext, h⟩ := Option.bind_eq_some_iff.1 h
    obtain ⟨ws, hws, rfl⟩ := Option.map_eq_some_iff.1 h
    exact List.forall_mem_cons.2 ⟨⟨hz, hf⟩,
      ih (sound_step hz _ hnext) (formed_follow hz hf i hnext) hws⟩

/-- **The stem of the names does not matter.** With either stem a script takes the same steps. After
each of them the numbers of names, statements and fragments are the same, and so are all blocks but
for the stem of their names, also in the programs inside of them. What has been compiled gives the
same tree or the same error and ends in the same state, for every evaluator that does not look at
names. -/
theorem history_of_stems (p q : String) (lineOffset : Nat) (script : List (Instruction α)) :
    (start ⟨lineOffset, q⟩).history? script =
        ((start ⟨lineOffset, p⟩).history? script).map (List.map (restem p q)) ∧
      ((start ⟨lineOffset, q⟩).history? script).map (List.map size) =
        ((start ⟨lineOffset, p⟩).history? script).map (List.map size) ∧
      ∀ (σ χ : Type) (ev : Evaluator σ α χ), ev.IgnoresNames →
        ((start ⟨lineOffset, q⟩).history? script).map (List.map (run ev)) =
          ((start ⟨lineOffset, p⟩).history? script).map (List.map (run ev)) := by
  have hstart : Sound ⟨lineOffset, p⟩ (start ⟨lineOffset, p⟩ : Session (Nested α)) :=
    sound_start _
  have hformed : (start ⟨lineOffset, p⟩ : Session (Nested α)).Formed p := by
    refine List.forall_mem_singleton.2 ?_
    exact List.forall_mem_nil _
  have hhistory := history?_restem (q := q) hstart script
  rw [restem_start] at hhistory
  refine ⟨hhistory, ?_, fun σ χ ev hev => ?_⟩
  · rw [hhistory, Option.map_map, List.map_comp_map]
    exact congrArg (Option.map · _) (funext fun zs => List.map_congr_left fun z _ =>
      size_restem p q z)
  · rw [hhistory]
    cases hzs : (start ⟨lineOffset, p⟩ : Session (Nested α)).history? script with
    | none => rfl
    | some zs =>
      have hall := formed_history script hstart hformed hzs
      refine congrArg some ?_
      rw [List.map_map]
      exact List.map_congr_left fun z hz => run_restem q hev (hall z hz).1 (hall z hz).2

/-- Blocks inside of a block. The inner one is used twice: as a value, and for its effect. -/
def script : List (Instruction String) :=
  [.expression .output (.atom "a"), .begin true, .begin true, .expression .output (.atom "b"),
    .finish 1, .block 0, .text "x", .finish 0, .fresh, .block 1, .expression .effect (.ended 0)]

/-- Without a stem, and with one that is a digit, the script gives other names and runs alike. -/
theorem history_of_stems_script : BlockTree.recorder.IgnoresNames ∧
    ∃ zs zs', (start ⟨0, ""⟩).history? script = some zs ∧
      (start ⟨0, "1"⟩).history? script = some zs' ∧
      (zs.map fun z => z.given.map Ident.name).getLast? = some ["0", "1", "2", "3", "4"] ∧
      (zs'.map fun z => z.given.map Ident.name).getLast? = some ["10", "11", "12", "13", "14"] ∧
      zs'.map size = zs.map size ∧
      zs'.map (run BlockTree.recorder) = zs.map (run BlockTree.recorder) := by
  have hev : BlockTree.recorder.IgnoresNames := ⟨fun _ _ => rfl, fun _ _ => rfl⟩
  obtain ⟨zs, hzs, hnames⟩ : ∃ zs, (start ⟨0, ""⟩).history? script = some zs ∧
      (zs.map fun z => z.given.map Ident.name).getLast? = some ["0", "1", "2", "3", "4"] :=
    ⟨_, rfl, rfl⟩
  obtain ⟨zs', hzs', hnames'⟩ : ∃ zs, (start ⟨0, "1"⟩).history? script = some zs ∧
      (zs.map fun z => z.given.map Ident.name).getLast? = some ["10", "11", "12", "13", "14"] :=
    ⟨_, rfl, rfl⟩
  obtain ⟨-, hsize, hrun⟩ := history_of_stems "" "1" 0 script
  have hrun := hrun _ _ _ hev
  rw [hzs, hzs'] at hsize hrun
  exact ⟨hev, zs, zs', hzs, hzs', hnames, hnames', Option.some.inj hsize, Option.some.inj hrun⟩

end Session

end TextTemplate
