import Mathlib.Data.List.Perm.Basic
import TextTemplate.Program.Nested
import TextTemplate.Proofs.Program.Binding
import TextTemplate.Proofs.Program.Growth

/-!
# Names in a compilation

The steps of a compilation may be taken in any order. Blocks are begun inside of blocks; those
around them are kept and taken up again, in whatever order, or let go.

- `Move`: the steps that may be taken.
- `Session`: a compilation and what has been got from it: names, blocks put aside, finished blocks.
- `Session.step?`, `Session.run?`: one step and a run of steps. Only a block that was put aside and
  has not been taken up again can be taken up.
- `Session.Sound`: which names are given, and that each of them stands in one place.
- `sound_step`: every step keeps this.
- `names_of_run`: the main statement.
-/

namespace TextTemplate

/-- A step of a compilation. -/
inductive Move (ε : Type)
  | text (t : String)
  | expression (marker : Marker) (e : ε)
  /-- Adds a block, which need not come from this compilation. -/
  | block (program : Block ε) (wrap : Block ε → ε)
  /-- Asks for a name. -/
  | fresh
  /-- Begins a block. The one around it is kept or let go. -/
  | begin (keep : Bool)
  /-- Ends a block, and takes up again that kept one which has the number. -/
  | finish (number : Nat)

/-- A compilation, and what has been got from it. -/
structure Session (ε : Type) where
  state : State ε
  /-- All names, in the order in which they were given. -/
  given : List Ident
  /-- The names among them that were asked for. -/
  asked : List Ident
  /-- The blocks that were put aside and can still be taken up. -/
  kept : List (Block ε)
  /-- The blocks that were put aside and let go. -/
  dropped : List (Block ε)
  /-- The blocks that were ended. -/
  finished : List (Block ε)

namespace Session

variable {ε : Type}

/-- A compilation that has just begun. -/
def start (options : Options) : Session ε := ⟨.init options, [], [], [], [], []⟩

/-- Goes on with another state and one more name. -/
def give (z : Session ε) (named : Ident × State ε) : Session ε :=
  { z with state := named.2, given := z.given ++ [named.1] }

/-- Takes a step, if it can be taken. -/
def step? (z : Session ε) : Move ε → Option (Session ε)
  | .text t => some { z with state := z.state.text t }
  | .expression .output e => some (z.give (z.state.fresh.1, z.state.expression .output e))
  | .expression marker e => some { z with state := z.state.expression marker e }
  | .block program wrap => some (z.give (z.state.block program wrap))
  | .fresh => some { z.give z.state.fresh with asked := z.asked ++ [z.state.fresh.1] }
  | .begin keep =>
    let (parent, state) := z.state.begin
    if keep then some { z with state, kept := z.kept ++ [parent] }
    else some { z with state, dropped := z.dropped ++ [parent] }
  | .finish number =>
    match z.kept[number]? with
    | none => none
    | some parent =>
      let (program, state) := z.state.finish parent
      some { z with
        state
        kept := z.kept.eraseIdx number
        finished := z.finished ++ [program] }

/-- Takes steps one after the other. -/
def run? (z : Session ε) : List (Move ε) → Option (Session ε)
  | [] => some z
  | m :: rest => (z.step? m).bind fun z => z.run? rest

/-- All blocks there are: the one that is being filled, those put aside, and those that ended. -/
def blocks (z : Session ε) : List (Block ε) :=
  z.state.scope :: (z.kept ++ z.dropped ++ z.finished)

/-- The names that have a place: they are bound in a block, or were asked for. -/
def placed (z : Session ε) : List Ident :=
  z.blocks.flatMap Block.bindings ++ z.asked

/-- The names that have a place other than the block that is being filled. -/
def elsewhere (z : Session ε) : List Ident :=
  (z.kept ++ z.dropped ++ z.finished).flatMap Block.bindings ++ z.asked

theorem placed_eq (z : Session ε) : z.placed = z.state.scope.bindings ++ z.elsewhere := by
  rw [placed, blocks, List.flatMap_cons, List.append_assoc]
  rfl

/-- The names of a compilation are as they should be. -/
structure Sound (options : Options) (z : Session ε) : Prop where
  options_eq : z.state.options = options
  fallback_eq : z.state.fallback = .standard
  /-- The names are those with the numbers up to the counter, in order. -/
  given_eq : z.given = (List.range z.state.counter).map (Ident.numbered options.stem)
  /-- Every name has one place. -/
  placed_perm : z.placed.Perm z.given
  /-- Every block mentions the names that it binds, in the same order. -/
  references_eq : ∀ b ∈ z.blocks, b.references = b.bindings

variable {options : Options} {z : Session ε}

theorem sound_start (options : Options) : Sound options (start options : Session ε) where
  options_eq := rfl
  fallback_eq := rfl
  given_eq := rfl
  placed_perm := .nil
  references_eq b hb := by
    obtain rfl := List.mem_singleton.1 hb
    rfl

/-! ## Steps -/

/-- Moving blocks about, or putting empty ones among them, leaves all names where they are. -/
theorem Sound.of_perm (h : Sound options z) {z' : Session ε} (empties : List (Block ε))
    (hoptions : z'.state.options = z.state.options)
    (hfallback : z'.state.fallback = z.state.fallback)
    (hcounter : z'.state.counter = z.state.counter) (hgiven : z'.given = z.given)
    (hasked : z'.asked = z.asked) (hempties : ∀ b ∈ empties, b = .empty)
    (hblocks : z'.blocks.Perm (empties ++ z.blocks)) : Sound options z' where
  options_eq := hoptions.trans h.options_eq
  fallback_eq := hfallback.trans h.fallback_eq
  given_eq := by rw [hgiven, h.given_eq, hcounter]
  placed_perm := by
    have hnone : empties.flatMap Block.bindings = [] := by
      refine List.flatMap_eq_nil_iff.2 ?_
      intro b hb
      rw [hempties b hb]
      rfl
    have hbindings := hblocks.flatMap_right Block.bindings
    rw [List.flatMap_append, hnone, List.nil_append] at hbindings
    rw [hgiven, placed, hasked]
    exact (hbindings.append_right z.asked).trans h.placed_perm
  references_eq b hb := by
    rcases List.mem_append.1 (hblocks.mem_iff.1 hb) with hb | hb
    · rw [hempties b hb]
      rfl
    · exact h.references_eq b hb

/-- The names with the numbers up to the next one. -/
theorem map_range_succ (stem : String) (n : Nat) :
    (List.range (n + 1)).map (Ident.numbered stem) =
      (List.range n).map (Ident.numbered stem) ++ [.numbered stem n] := by
  rw [List.range_succ, List.map_append]
  rfl

/-- Adding entries to the block that is being filled gives their names. -/
theorem Sound.extend (h : Sound options z) {entries : List (Entry ε)} {n : Nat}
    {ids : List Ident} (hids : Entry.names entries = ids)
    (hn : (List.range n).map (Ident.numbered options.stem) = z.given ++ ids) :
    Sound options { z with state := z.state.extend entries n, given := z.given ++ ids } where
  options_eq := h.options_eq
  fallback_eq := h.fallback_eq
  given_eq := hn.symm
  placed_perm := by
    have hscope : (z.state.scope ++ Block.ofEntries entries).bindings =
        z.state.scope.bindings ++ ids := by
      rw [Block.bindings_append, Block.bindings_ofEntries, hids]
    have hold := h.placed_perm
    rw [placed_eq] at hold ⊢
    show List.Perm ((z.state.scope ++ Block.ofEntries entries).bindings ++ z.elsewhere) _
    -- The new names are the last in the block, and the names elsewhere come after them.
    rw [hscope, List.append_assoc]
    refine (List.perm_append_comm.append_left z.state.scope.bindings).trans ?_
    rw [← List.append_assoc]
    exact hold.append_right ids
  references_eq b hb := by
    rcases List.mem_cons.1 hb with rfl | hb
    · rw [State.scope_extend, Block.references_append, Block.bindings_append,
        h.references_eq _ List.mem_cons_self, Block.references_ofEntries, Block.bindings_ofEntries]
    · exact h.references_eq b (List.mem_cons_of_mem _ hb)

/-- A value takes the next name. -/
theorem Sound.give_value (h : Sound options z) (e : ε) :
    Sound options (z.give (z.state.value e)) := by
  have hn : (List.range (z.state.counter + 1)).map (Ident.numbered options.stem) =
      z.given ++ [.numbered z.state.options.stem z.state.counter] := by
    rw [map_range_succ, h.given_eq, h.options_eq]
  have hnext := h.extend (Entry.names_value _ e []) hn
  rwa [← State.value_eq_extend] at hnext

/-- A name that is asked for is the next one. -/
theorem Sound.ask (h : Sound options z) :
    Sound options { z.give z.state.fresh with asked := z.asked ++ [z.state.fresh.1] } where
  options_eq := h.options_eq
  fallback_eq := h.fallback_eq
  given_eq := by
    show z.given ++ [.numbered z.state.options.stem z.state.counter] = _
    rw [h.given_eq, h.options_eq]
    exact (map_range_succ _ _).symm
  placed_perm := by
    show List.Perm (z.blocks.flatMap Block.bindings ++ (z.asked ++ [z.state.fresh.1]))
      (z.given ++ [z.state.fresh.1])
    rw [← List.append_assoc]
    exact h.placed_perm.append_right _
  references_eq := h.references_eq

/-- **Every step keeps the names as they should be.** -/
theorem sound_step {z' : Session ε} (h : Sound options z) (m : Move ε)
    (hstep : z.step? m = some z') : Sound options z' := by
  match m with
  | .text t =>
    cases hstep
    have hnext := h.extend (n := z.state.counter) (Entry.names_text t []) (by simp [h.given_eq])
    rwa [← State.text_eq_extend, Entry.names_nil, List.append_nil] at hnext
  | .expression .output e =>
    cases hstep
    rw [← State.value_eq_expression]
    exact h.give_value e
  | .expression .effect e =>
    cases hstep
    have hnext := h.extend (n := z.state.counter) (Entry.names_effect e []) (by simp [h.given_eq])
    rwa [← State.effect_eq_extend, Entry.names_nil, List.append_nil] at hnext
  | .expression (.other tag) e =>
    cases hstep
    have hnames : Entry.names (if isComment tag then [] else [.effect e]) = ([] : List Ident) := by
      split <;> rfl
    have hnext := h.extend (n := z.state.counter) hnames (by simp [h.given_eq])
    rwa [← State.other_eq_extend _ _ _ h.fallback_eq, List.append_nil] at hnext
  | .block program wrap =>
    cases hstep
    exact h.give_value (wrap program)
  | .fresh =>
    cases hstep
    exact h.ask
  | .begin true =>
    cases hstep
    refine h.of_perm [.empty] rfl rfl rfl rfl rfl (by simp) ?_
    show List.Perm (.empty :: (z.kept ++ [z.state.scope] ++ z.dropped ++ z.finished))
      (.empty :: z.blocks)
    rw [blocks, List.append_assoc, List.append_assoc, List.append_assoc, List.singleton_append]
    exact .cons _ List.perm_middle
  | .begin false =>
    cases hstep
    refine h.of_perm [.empty] rfl rfl rfl rfl rfl (by simp) ?_
    show List.Perm (.empty :: (z.kept ++ (z.dropped ++ [z.state.scope]) ++ z.finished))
      (.empty :: z.blocks)
    rw [blocks, ← List.append_assoc z.kept, List.append_assoc (z.kept ++ z.dropped),
      List.singleton_append]
    exact .cons _ List.perm_middle
  | .finish number =>
    rw [step?] at hstep
    split at hstep
    · cases hstep
    · rename_i parent hparent
      cases hstep
      obtain ⟨hlt, rfl⟩ := List.getElem?_eq_some_iff.1 hparent
      refine h.of_perm [] rfl rfl rfl rfl rfl (by simp) ?_
      show List.Perm (z.kept[number] :: (z.kept.eraseIdx number ++ z.dropped ++
        (z.finished ++ [z.state.scope]))) _
      rw [← List.append_assoc, ← List.cons_append, List.append_assoc, ← List.cons_append]
      refine (List.perm_append_singleton _ _).trans (.cons _ ?_)
      rw [List.append_assoc]
      exact (List.getElem_cons_eraseIdx_perm hlt).append_right _

/-- A run keeps the names as they should be. -/
theorem sound_run (moves : List (Move ε)) {z' : Session ε} (h : Sound options z)
    (hrun : z.run? moves = some z') : Sound options z' := by
  induction moves generalizing z with
  | nil =>
    cases hrun
    exact h
  | cons m rest ih =>
    obtain ⟨w, hw, hrest⟩ := Option.bind_eq_some_iff.1 hrun
    exact ih (sound_step h m hw) hrest

/-- **Every name is given once and stands in one place.** After any run of steps the names that were
given are those with the numbers below the counter. Each of them is bound once, in one block, or was
asked for. All blocks, also those that were put aside or let go, mention the names that they bind in
the same order, so that no run of one of them fails for the sake of a name. -/
theorem names_of_run (options : Options) (moves : List (Move ε)) (z : Session ε)
    (h : (start options).run? moves = some z) :
    z.given = (List.range z.state.counter).map (Ident.numbered options.stem) ∧
      z.given.Nodup ∧ z.given.length = z.state.counter ∧
      z.placed.Nodup ∧ z.placed.Perm z.given ∧
      ∀ b ∈ z.blocks, b.references = b.bindings ∧
        ∀ (σ χ : Type) (ev : Evaluator σ ε χ) (s s' : σ) (id : Ident),
          (execute ev b).on s ≠ (.error (.unbound id), s') := by
  have hz := sound_run moves (sound_start options) h
  have hnodup : z.given.Nodup := by
    rw [hz.given_eq]
    exact List.Pairwise.map _ (fun i k => mt (Ident.numbered_injective _ ·)) List.nodup_range
  refine ⟨hz.given_eq, hnodup, ?_, hz.placed_perm.nodup_iff.2 hnodup, hz.placed_perm, ?_⟩
  · rw [hz.given_eq, List.length_map, List.length_range]
  · intro b hb
    have href := hz.references_eq b hb
    refine ⟨href, fun σ χ ev s s' id => execute_ne_unbound ev ?_ s s' id⟩
    intro id hid
    rwa [href] at hid

/-- Blocks inside of a block, of which the middle one is let go and the outer one taken up again. -/
def sample : List (Move (Nested String)) :=
  [.expression .output (.atom "a"), .begin true, .fresh, .begin false,
    .expression .output (.atom "b"), .text "x", .expression (.other "#") (.atom "c"), .finish 0,
    .block ⟨[.bind ⟨"12"⟩ (.atom "b")], [.ref ⟨"12"⟩, .text "x"]⟩ .block, .begin true]

/-- The names of the sample, with a stem that ends in a digit. -/
theorem names_of_run_sample :
    ∃ z, (start ⟨0, "1"⟩).run? sample = some z ∧
      z.given.map Ident.name = ["10", "11", "12", "13"] ∧
      z.placed.map Ident.name = ["10", "13", "12", "11"] ∧ z.placed.Nodup ∧
      ∀ b ∈ z.blocks, b.references = b.bindings := by
  obtain ⟨z, hz, hgiven, hplaced⟩ : ∃ z, (start ⟨0, "1"⟩).run? sample = some z ∧
      z.given.map Ident.name = ["10", "11", "12", "13"] ∧
      z.placed.map Ident.name = ["10", "13", "12", "11"] := ⟨_, rfl, rfl, rfl⟩
  obtain ⟨-, -, -, hnodup, -, hblocks⟩ := names_of_run ⟨0, "1"⟩ sample z hz
  exact ⟨z, hz, hgiven, hplaced, hnodup, fun b hb => (hblocks b hb).1⟩

end Session

end TextTemplate
