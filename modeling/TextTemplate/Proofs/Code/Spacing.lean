import TextTemplate.Code.Grammar

/-!
# The spacing of the mark before a semicolon

No operator contains a semicolon, so it makes no difference to the grammar whether a mark touches
the semicolon after it.

- `loosen`: code in which no mark touches a semicolon. What is asked of code has the same answer.
- `Alike`: two states of a reader of which one reads the loosened code.
- `Agree`, `Steady`: two readers that do the same on such states, and a reader that does the same on
  both.
-/

namespace TextTemplate

/-- A mark that does not touch what follows it. -/
def Token.apart : Token → Token
  | .mark c _ => .mark c .alone
  | t => t

namespace Grammar

/-- Code in which no mark touches a semicolon. -/
def loosen : Code → Code
  | [] => []
  | t :: rest => (if startsSign [';'] rest then t.apart else t) :: loosen rest

/-! ## What is asked of code -/

section

variable (code : Code)

@[simp] theorem length_loosen : (loosen code).length = code.length := by
  induction code with
  | nil => rfl
  | cons t rest ih => simp [loosen, ih]

@[simp] theorem isEmpty_loosen : (loosen code).isEmpty = code.isEmpty := by
  cases code <;> rfl

@[simp] theorem drop_loosen (n : Nat) : (loosen code).drop n = loosen (code.drop n) := by
  induction n generalizing code with
  | zero => rfl
  | succ n ih =>
    cases code with
    | nil => rfl
    | cons t rest => exact ih rest

@[simp] theorem map_apart_loosen : (loosen code).map Token.apart = code.map Token.apart := by
  induction code with
  | nil => rfl
  | cons t rest ih =>
    rw [loosen, List.map_cons, ih, List.map_cons]
    split
    · cases t <;> rfl
    · rfl

theorem size_apart (t : Token) : t.apart.size = t.size := by
  cases t <;> rfl

@[simp] theorem size_loosen : Code.size (loosen code) = Code.size code := by
  induction code with
  | nil => rfl
  | cons t rest ih =>
    rw [loosen, Code.size_cons, ih, Code.size_cons]
    split
    · rw [size_apart]
    · rfl

@[simp] theorem loosen_nil : loosen [] = [] := rfl

@[simp] theorem loosen_word (name : String) :
    loosen (.word name :: code) = .word name :: loosen code := by
  simp [loosen, Token.apart]

@[simp] theorem loosen_literal (text : String) :
    loosen (.literal text :: code) = .literal text :: loosen code := by
  simp [loosen, Token.apart]

@[simp] theorem loosen_group (d : Delimiter) (body : Code) :
    loosen (.group d body :: code) = .group d body :: loosen code := by
  simp [loosen, Token.apart]

@[simp] theorem loosen_mark (c : Char) (s : Spacing) :
    loosen (.mark c s :: code) =
      .mark c (if startsSign [';'] code then .alone else s) :: loosen code := by
  rw [loosen, Token.apart]
  split
  · rfl
  · rfl

@[simp] theorem startsWord_loosen (name : String) :
    startsWord name (loosen code) = startsWord name code := by
  rcases code with _ | ⟨_ | _ | _ | _, rest⟩ <;> simp [startsWord]

@[simp] theorem startsAnyWord_loosen : startsAnyWord (loosen code) = startsAnyWord code := by
  rcases code with _ | ⟨_ | _ | _ | _, rest⟩ <;> simp [startsAnyWord]

@[simp] theorem startsGroup_loosen (d : Delimiter) :
    startsGroup d (loosen code) = startsGroup d code := by
  rcases code with _ | ⟨_ | _ | _ | _, rest⟩ <;> simp [startsGroup]

@[simp] theorem startsIdentifier_loosen :
    startsIdentifier (loosen code) = startsIdentifier code := by
  rcases code with _ | ⟨_ | _ | _ | _, rest⟩ <;> simp [startsIdentifier]

@[simp] theorem startsText_loosen : startsText (loosen code) = startsText code := by
  rcases code with _ | ⟨_ | _ | _ | _, rest⟩ <;> simp [startsText]

@[simp] theorem startsPathWord_loosen : startsPathWord (loosen code) = startsPathWord code := by
  simp [startsPathWord]

theorem exists_of_startsSign {c : Char} {code : Code} (h : startsSign [c] code = true) :
    ∃ s rest, code = .mark c s :: rest := by
  rcases code with _ | ⟨_ | ⟨d, s⟩ | _ | _, rest⟩
  · cases h
  · cases h
  · obtain rfl : c = d := by simpa [startsSign] using h
    exact ⟨s, rest, rfl⟩
  · cases h
  · cases h

theorem startsSign_of_semicolon {code : Code} {c : Char} {text : List Char}
    (h : startsSign [';'] code = true) (hc : c ≠ ';') : startsSign (c :: text) code = false := by
  obtain ⟨s, rest, rfl⟩ := exists_of_startsSign h
  cases text <;> simp [startsSign, hc]

/-- Loosening changes no operator, as none of them has a semicolon after its first mark. -/
@[simp] theorem startsSign_loosen {text : List Char} (h : ';' ∉ text.tail) :
    startsSign text (loosen code) = startsSign text code := by
  induction text generalizing code with
  | nil =>
    rcases code with _ | ⟨_ | _ | _ | _, rest⟩ <;> simp [startsSign]
  | cons c text ih =>
    cases code with
    | nil => rfl
    | cons t rest =>
      cases t with
      | word name => simp [startsSign]
      | literal literal => simp [startsSign]
      | group d body => simp [startsSign]
      | mark d s =>
        cases text with
        | nil => simp [startsSign]
        | cons e text =>
          have hlast : ';' ∉ text := fun hmem => h (List.mem_cons_of_mem _ hmem)
          have hne : e ≠ ';' := fun he => h (he ▸ List.mem_cons_self)
          rw [loosen_mark, startsSign, startsSign, ih rest hlast]
          · by_cases hsemicolon : startsSign [';'] rest = true
            · rw [startsSign_of_semicolon hsemicolon hne, Bool.and_false, Bool.and_false]
            · rw [if_neg hsemicolon]
          · simp
          · simp

theorem startsLifetime_mark (c : Char) (s : Spacing) :
    startsLifetime (.mark c s :: code) = (c == '\'' && s == .joint && startsAnyWord code) := by
  by_cases hc : c = '\''
  · subst hc
    rcases code with _ | ⟨_ | _ | _ | _, rest⟩ <;> cases s <;> simp [startsLifetime, startsAnyWord]
  · simp [startsLifetime, hc]

theorem afterTree_mark (c : Char) (s : Spacing) : afterTree (.mark c s :: code) =
    if c == '\'' && s == .joint && startsAnyWord code then code.drop 1 else code := by
  by_cases hc : c = '\''
  · subst hc
    rcases code with _ | ⟨_ | _ | _ | _, rest⟩ <;> cases s <;> simp [afterTree, startsAnyWord]
  · simp [afterTree, hc]

/-- Only a word after a quote makes a lifetime, so that no semicolon is part of one. -/
theorem joint_loosen (s : Spacing) :
    ((if startsSign [';'] code then .alone else s) == .joint && startsAnyWord code) =
      (s == .joint && startsAnyWord code) := by
  rcases code with _ | ⟨_ | _ | _ | _, rest⟩ <;> simp [startsSign, startsAnyWord]

@[simp] theorem startsLifetime_loosen : startsLifetime (loosen code) = startsLifetime code := by
  rcases code with _ | ⟨_ | ⟨c, s⟩ | _ | _, rest⟩
  · rfl
  · simp [startsLifetime]
  · rw [loosen_mark, startsLifetime_mark, startsLifetime_mark, startsAnyWord_loosen, Bool.and_assoc,
      joint_loosen, Bool.and_assoc]
  · simp [startsLifetime]
  · simp [startsLifetime]

@[simp] theorem afterTree_loosen : afterTree (loosen code) = loosen (afterTree code) := by
  rcases code with _ | ⟨_ | ⟨c, s⟩ | _ | _, rest⟩
  · rfl
  · simp [afterTree]
  · rw [loosen_mark, afterTree_mark, afterTree_mark, startsAnyWord_loosen, Bool.and_assoc,
      joint_loosen, Bool.and_assoc]
    split
    · rw [drop_loosen]
    · rfl
  · simp [afterTree]
  · simp [afterTree]

@[simp] theorem startsLiteral_loosen : startsLiteral (loosen code) = startsLiteral code := by
  rcases code with _ | ⟨_ | ⟨c, s⟩ | _ | _, rest⟩
  · rfl
  · simp [startsLiteral]
  · by_cases hc : c = '-'
    · subst hc
      rcases rest with _ | ⟨_ | _ | _ | _, rest⟩ <;> simp [startsLiteral]
    · simp [startsLiteral, hc]
  · simp [startsLiteral]
  · simp [startsLiteral]

@[simp] theorem startsGenerics_loosen : startsGenerics (loosen code) = startsGenerics code := by
  simp [startsGenerics]

theorem startsGroup_map_apart (d : Delimiter) :
    startsGroup d (code.map Token.apart) = startsGroup d code := by
  rcases code with _ | ⟨_ | _ | _ | _, rest⟩ <;> rfl

end

/-! ## Readers on loosened code -/

/-- Two states of a reader of which the second reads the loosened code. What was read is the same
but for the spacing of its marks. -/
structure Alike (i j : Input) : Prop where
  tokens : j.tokens = loosen i.tokens
  done : j.done.map Token.apart = i.done.map Token.apart
  spilled : j.spilled = i.spilled

variable {α β γ δ : Type} {R : α → β → Prop} {S : γ → δ → Prop}

/-- Two outcomes that are the same, or the same complaint. The code that is left is the end of the
code that there was. -/
inductive Matching (R : α → β → Prop) (start : Code) :
    Except Complaint (α × Input) → Except Complaint (β × Input) → Prop
  | ok {a : α} {b : β} {i j : Input} (value : R a b) (state : Alike i j)
      (left : i.tokens <:+ start) : Matching R start (.ok (a, i)) (.ok (b, j))
  | error (c : Complaint) : Matching R start (.error c) (.error c)

theorem Matching.of_suffix {start code : Code} {x : Except Complaint (α × Input)}
    {y : Except Complaint (β × Input)} (h : Matching R code x y) (hcode : code <:+ start) :
    Matching R start x y := by
  cases h with
  | ok value state left => exact .ok value state (left.trans hcode)
  | error c => exact .error c

/-- Two readers that do the same, the second on loosened code. -/
def Agree (R : α → β → Prop) (p : Parser α) (q : Parser β) : Prop :=
  ∀ i j, Alike i j → Matching R i.tokens (p.run i) (q.run j)

/-- A reader to which the spacing of the marks before semicolons makes no difference. -/
abbrev Steady (p : Parser α) : Prop := Agree Eq p p

namespace Agree

/-! ### Steps -/

theorem pure {a : α} {b : β} (h : R a b) : Agree R (pure a) (pure b) :=
  fun _ _ hij => .ok h hij List.suffix_rfl

theorem fail (c : Complaint) : Agree R (throw c) (throw c) :=
  fun _ _ _ => .error c

theorem failThen (c : Complaint) {f : α → Parser γ} {g : α → Parser δ} :
    Agree S ((throw c : Parser α) >>= f) ((throw c : Parser α) >>= g) :=
  fun _ _ _ => .error c

theorem bind {p : Parser α} {q : Parser β} {f : α → Parser γ} {g : β → Parser δ} (hp : Agree R p q)
    (hf : ∀ a b, R a b → Agree S (f a) (g b)) : Agree S (p >>= f) (q >>= g) := by
  intro i j hij
  have h := hp i j hij
  rw [StateT.run_bind, StateT.run_bind]
  generalize p.run i = x at h ⊢
  generalize q.run j = y at h ⊢
  cases h with
  | error c => exact .error c
  | ok value state left => exact (hf _ _ value _ _ state).of_suffix left

/-- A reader after one that gives both the same. -/
theorem andThen {p : Parser α} {f : α → Parser γ} {g : α → Parser δ} (hp : Steady p)
    (hf : ∀ a, Agree S (f a) (g a)) : Agree S (p >>= f) (p >>= g) := by
  refine hp.bind ?_
  rintro a _ rfl
  exact hf a

/-- A reader and what is made of its answer. -/
theorem andReturn {p : Parser α} {f : α → β} (hp : Steady p) :
    Steady (p >>= fun a => Pure.pure (f a)) :=
  andThen hp fun _ => pure rfl

theorem ite {c : Prop} [Decidable c] {p p' : Parser α} {q q' : Parser β} (hp : Agree R p q)
    (hp' : Agree R p' q') : Agree R (if c then p else p') (if c then q else q') := by
  split
  · exact hp
  · exact hp'

/-- Something that is done under a condition, before what is done anyway. -/
theorem guard {c : Prop} [Decidable c] {p : Parser α} {f : Parser γ} {g : Parser δ}
    (hp : Steady p) (hf : Agree S f g) :
    Agree S (if c then p >>= fun _ => f else f) (if c then p >>= fun _ => g else g) :=
  ite (andThen hp fun _ => hf) hf

/-- One of two things that are done before what is done anyway. -/
theorem either {c : Prop} [Decidable c] {p q : Parser α} {f : α → Parser γ} {g : α → Parser δ}
    (hp : Steady p) (hq : Steady q) (hf : ∀ a, Agree S (f a) (g a)) :
    Agree S (if c then p >>= f else q >>= f) (if c then p >>= g else q >>= g) :=
  ite (andThen hp hf) (andThen hq hf)

/-- What is done may depend on the state. -/
theorem state {f : Input → Parser α} {g : Input → Parser β}
    (h : ∀ i j, Alike i j → Agree R (f i) (g j)) : Agree R (get >>= f) (get >>= g) :=
  fun i j hij => h i j hij i j hij

/-- What is done may depend on what is asked of the code that is left. -/
theorem look {f : Input → Parser α} (same : ∀ i j, Alike i j → f j = f i)
    (h : ∀ i, Steady (f i)) : Steady (get >>= f) :=
  state fun i j hij => by rw [same i j hij]; exact h i

theorem change {f g : Input → Input} (h : ∀ i j, Alike i j → Alike (f i) (g j))
    (hleft : ∀ i, (f i).tokens <:+ i.tokens) : Agree Eq (modify f : Parser Unit) (modify g) :=
  fun i j hij => .ok rfl (h i j hij) (hleft i)

/-- A change of what was read, which leaves the code to be read as it is. -/
theorem write {f g : Input → Code}
    (h : ∀ i j, Alike i j → (g j).map Token.apart = (f i).map Token.apart) :
    Agree Eq (modify fun i => { i with done := f i } : Parser Unit)
      (modify fun j => { j with done := g j }) :=
  change (fun i j hij => ⟨hij.tokens, h i j hij, hij.spilled⟩) fun _ => List.suffix_rfl

theorem ask {p : Code → Bool} (h : ∀ code, p (loosen code) = p code) : Steady (ask p) :=
  look (fun i j hij => by rw [hij.tokens, h]) fun _ => .pure rfl

theorem sees {text : String} (h : text.toList.tail.contains ';' = false) : Steady (sees text) :=
  ask fun code => startsSign_loosen code (by simpa using h)

theorem seesWord (name : String) : Steady (seesWord name) :=
  ask fun code => startsWord_loosen code name

theorem seesGroup (d : Delimiter) : Steady (seesGroup d) :=
  ask fun code => startsGroup_loosen code d

theorem refuse (wanted : List Wanted) : Steady (refuse wanted : Parser α) :=
  look (fun i j hij => by rw [hij.tokens, refuseAt, refuseAt, isEmpty_loosen]) fun _ => .fail _

/-! ### Tokens that are taken -/

theorem apart_apart (t : Token) : t.apart.apart = t.apart := by
  cases t <;> rfl

theorem skip : Steady skip := by
  refine change ?_ ?_
  · rintro ⟨tokens, done, spilled⟩ ⟨tokens', done', spilled'⟩ ⟨htokens, hdone, hspilled⟩
    dsimp only at htokens
    subst htokens
    cases tokens with
    | nil => exact ⟨rfl, hdone, hspilled⟩
    | cons t rest =>
      refine ⟨rfl, ?_, hspilled⟩
      have ht : (if startsSign [';'] rest then t.apart else t).apart = t.apart := by
        split
        · exact apart_apart t
        · rfl
      show _ :: done'.map Token.apart = _ :: done.map Token.apart
      rw [ht, hdone]
  · rintro ⟨tokens, done, spilled⟩
    cases tokens with
    | nil => exact List.suffix_rfl
    | cons t rest => exact List.suffix_cons t rest

theorem sign {text : String} (h : text.toList.tail.contains ';' = false) : Steady (sign text) := by
  refine andThen (sees h) fun seen => ite (change ?_ ?_) (.fail _)
  · intro i j hij
    refine ⟨?_, ?_, hij.spilled⟩
    · rw [hij.tokens]
      exact drop_loosen _ _
    · simp [hij.done]
  · exact fun i => List.drop_suffix _ _

theorem sign? {text : String} (h : text.toList.tail.contains ';' = false) : Steady (sign? text) :=
  andThen (sees h) fun _ => ite (.andReturn (sign h)) (.pure rfl)

theorem keyword (name : String) : Steady (keyword name) :=
  andThen (seesWord name) fun _ => ite skip (refuse _)

theorem keyword? (name : String) : Steady (keyword? name) :=
  andThen (seesWord name) fun _ => ite (.andReturn skip) (.pure rfl)

theorem identifier : Steady identifier := by
  refine look (fun i j hij => ?_) fun i => ?_
  · rw [hij.tokens]
    rcases i.tokens with _ | ⟨_ | _ | _ | _, rest⟩ <;> simp
  · split
    · exact ite (.fail _) skip
    · exact refuse _

theorem anyWord : Steady anyWord :=
  andThen (ask startsAnyWord_loosen) fun _ => ite skip (refuse _)

theorem literal : Steady literal := by
  refine look (fun i j hij => ?_) fun i => ?_
  · rw [hij.tokens]
    rcases i.tokens with _ | ⟨_ | ⟨c, s⟩ | _ | _, rest⟩
    · rfl
    · simp
    · by_cases hc : c = '-'
      · subst hc
        rcases rest with _ | ⟨_ | _ | _ | _, rest⟩ <;> simp
      · simp [hc]
    · simp
    · simp
  · split
    · exact andThen (sign rfl) fun _ => skip
    · exact skip

theorem lifetime : Steady lifetime :=
  andThen (ask startsLifetime_loosen) fun _ => ite (andThen skip fun _ => skip) (refuse _)

theorem lifetime? : Steady lifetime? :=
  andThen (ask startsLifetime_loosen) fun _ => ite (.andReturn lifetime) (.pure rfl)

theorem anyGroup : Steady anyGroup := by
  refine look (fun i j hij => ?_) fun i => ?_
  · rw [hij.tokens]
    rcases i.tokens with _ | ⟨_ | _ | _ | _, rest⟩ <;> simp
  · split
    · exact .andReturn skip
    · exact refuse _

/-! ### Groups -/

theorem exists_of_startsGroup {d : Delimiter} {code : Code} (h : startsGroup d code = true) :
    ∃ body rest, code = .group d body :: rest := by
  rcases code with _ | ⟨_ | _ | _ | ⟨e, body⟩, rest⟩
  · cases h
  · cases h
  · cases h
  · cases h
  · obtain rfl : d = e := by simpa [startsGroup] using h
    exact ⟨body, rest, rfl⟩

theorem groupThen_refuse {d : Delimiter} {inside : Parser α} {after : α → Parser β} {i : Input}
    (h : startsGroup d i.tokens = false) :
    (Grammar.groupThen d inside after).run i = (Grammar.refuse [.group d] : Parser β).run i := by
  obtain ⟨code, done, spilled⟩ := i
  rcases code with _ | ⟨_ | _ | _ | ⟨e, body⟩, rest⟩
  · rfl
  · rfl
  · rfl
  · rfl
  · have hd : ¬ d = e := by simpa [startsGroup] using h
    show (if d = e then _ else _ : Parser β).run _ = _
    rw [if_neg hd]

/-- A group is taken, its inside is read, and then what belongs to it. -/
theorem groupThen_run {d : Delimiter} {body rest : Code} (inside : Parser α) (after : α → Parser β)
    (done : Code) (spilled : Option Delimiter) :
    (Grammar.groupThen d inside after).run ⟨.group d body :: rest, done, spilled⟩ = (do
      let (a, inner) ← inside.run ⟨body, [], spilled⟩
      let leave : Parser β := do
        let b ← after a
        if !inner.tokens.isEmpty then modify fun i => { i with spilled := i.spilled.or (some d) }
        return b
      leave.run ⟨rest, .group d inner.done.reverse :: done, inner.spilled⟩) := by
  show (if d = d then _ else _ : Parser β).run _ = _
  rw [if_pos rfl]
  rfl

/-- The inside of a group is the same code for both readers. -/
theorem groupThen {d : Delimiter} {inside : Parser α} {after : α → Parser β}
    (h : ∀ a, Steady (after a)) : Steady (groupThen d inside after) := by
  rintro ⟨tokens, done, spilled⟩ ⟨tokens', done', spilled'⟩ hij
  obtain ⟨htokens, hdone, hspilled⟩ := hij
  dsimp only at htokens hdone hspilled
  subst htokens hspilled
  by_cases hgroup : startsGroup d tokens = true
  · obtain ⟨body, rest, rfl⟩ := exists_of_startsGroup hgroup
    rw [loosen_group, groupThen_run, groupThen_run]
    -- Both readers are in one state at the front of the group: nothing is asked of `inside`.
    cases inside.run ⟨body, [], spilled'⟩ with
    | error c => exact .error c
    | ok found =>
      obtain ⟨a, inner⟩ := found
      have hleave : Steady do
          let b ← after a
          if !inner.tokens.isEmpty then modify fun i => { i with spilled := i.spilled.or (some d) }
          return b :=
        andThen (h a) fun b => guard (change (fun i j hij => ⟨hij.tokens, hij.done, by
          rw [hij.spilled]⟩) fun i => List.suffix_rfl) (.pure rfl)
      have hstate : Alike ⟨rest, .group d inner.done.reverse :: done, inner.spilled⟩
          ⟨loosen rest, .group d inner.done.reverse :: done', inner.spilled⟩ :=
        ⟨rfl, by simp [hdone], rfl⟩
      exact (hleave _ _ hstate).of_suffix (List.suffix_cons _ _)
  · have hno := Bool.eq_false_iff.2 hgroup
    rw [groupThen_refuse hno, groupThen_refuse (by rw [startsGroup_loosen, hno])]
    exact refuse _ _ _ ⟨rfl, hdone, rfl⟩

theorem group {d : Delimiter} {inside : Parser α} : Steady (group d inside) :=
  groupThen fun _ => .pure rfl

/-! ### Repetition -/

theorem turns {turn : α → Parser (α × Bool)} {turn' : β → Parser (β × Bool)}
    (h : ∀ a b, R a b → Agree (fun x y => R x.1 y.1 ∧ x.2 = y.2) (turn a) (turn' b)) (n : Nat)
    {a : α} {b : β} (hab : R a b) : Agree R (turns turn n a) (turns turn' n b) := by
  induction n generalizing a b with
  | zero => exact .pure hab
  | succ n ih =>
    refine (h a b hab).bind ?_
    rintro ⟨a', more⟩ ⟨b', _⟩ ⟨hab', rfl⟩
    exact ite (ih hab') (.pure hab')

/-- As many turns are possible for both, since loosened code has as many tokens. -/
theorem several {turn : α → Parser (α × Bool)} {turn' : β → Parser (β × Bool)}
    (h : ∀ a b, R a b → Agree (fun x y => R x.1 y.1 ∧ x.2 = y.2) (turn a) (turn' b))
    {a : α} {b : β} (hab : R a b) : Agree R (several a turn) (several b turn') := by
  refine state fun i j hij => ?_
  rw [hij.tokens, length_loosen]
  exact turns h _ hab

/-- A turn of which the same comes for both. -/
theorem repeated {turn : α → Parser (α × Bool)} (h : ∀ a, Steady (turn a)) (a : α) :
    Steady (Grammar.several a turn) := by
  refine several (R := Eq) ?_ rfl
  rintro a _ rfl i j hij
  have hturn := h a i j hij
  generalize (turn a).run i = x at hturn ⊢
  generalize (turn a).run j = y at hturn ⊢
  cases hturn with
  | error c => exact .error c
  | ok value state left => exact .ok (by simp [value]) state left

theorem while? {condition : Parser Bool} {action : Parser Unit} (hcondition : Steady condition)
    (haction : Steady action) : Steady (while? condition action) :=
  repeated (fun _ => andThen hcondition fun _ =>
    ite (.andReturn haction) (.pure rfl)) ()

/-! ### What is written -/

/-- What a reader has read is the same but for the spacing of its marks. -/
theorem captured {p : Parser α} (hp : Steady p) :
    Agree (fun x y => x.1 = y.1 ∧ y.2.map Token.apart = x.2.map Token.apart) (captured p)
      (captured p) := by
  refine state fun i j hij => bind (write fun _ _ _ => rfl) fun _ _ _ => ?_
  refine andThen hp fun a => state fun k l hkl => bind (write fun _ _ _ => hij.done) fun _ _ _ => ?_
  exact .pure ⟨rfl, by simp [hkl.done]⟩

theorem emit {c d : Code} (h : d.map Token.apart = c.map Token.apart) :
    Agree Eq (emit c) (emit d) :=
  write fun i j hij => by simp [h, hij.done]

theorem keepAsStood {i j : Input} (h : Alike i j) : Agree Eq (keepAsStood i) (keepAsStood j) := by
  refine write fun k l hkl => ?_
  simp only [h.tokens, hkl.tokens, length_loosen, List.map_append, List.map_reverse, List.map_take,
    map_apart_loosen, h.done]

theorem asStood {p : Parser α} (hp : Steady p) : Steady (asStood p) :=
  state fun _ _ hij => andThen hp fun _ => bind (keepAsStood hij) fun _ _ _ => .pure rfl

end Agree

end Grammar

end TextTemplate
