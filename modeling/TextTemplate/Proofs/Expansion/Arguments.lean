import TextTemplate.Expansion.Invocation
import TextTemplate.Proofs.Code.Integers

/-!
# What is accepted as arguments

The arguments are read token by token, and at three places nothing more need come. What is
accepted is a string literal alone, or with a comma, or with a comma and the only option, or with
another comma behind that. Whatever else is given is refused; if that is for the sake of an option's
key, the complaint points at the key.

- `Invocation.takeString_eq_ok_iff`, `takeSign_eq_ok_iff`, `takeKey_eq_ok_iff`,
  `takeNumber_eq_ok_iff`, `finish_eq_ok_iff`: what one step takes.
- `Invocation.Tail`, `Invocation.Written`: the grammar of arguments.
- `Invocation.ofTokens_exactly_written`: the main statement.
-/

namespace TextTemplate

namespace Invocation

variable {tokens rest : List (Placed Token)} {i : Invocation}

/-! ## One step -/

theorem refuse_ne_ok {α : Type} (wanted : Grammar.Wanted) (tokens : List (Placed Token)) (a : α) :
    refuse wanted tokens ≠ .ok a := by
  cases tokens <;> exact nofun

theorem refuseSign_ne_ok {α : Type} (text : String) (tokens : List (Placed Token)) (a : α) :
    refuseSign text tokens ≠ .ok a := by
  cases tokens <;> exact nofun

theorem takeString_eq_ok_iff {literal : String} {place : Extent} {value : List Char} :
    takeString tokens = .ok (literal, place, value, rest) ↔
      tokens = ⟨place.start, place.stop, .literal literal⟩ :: rest ∧
        StringLiteral.value? literal.toList = some value := by
  constructor
  · intro h
    rw [takeString.eq_def] at h
    split at h
    · split at h
      · next hvalue =>
        cases h
        exact ⟨rfl, hvalue⟩
      · exact absurd h (refuse_ne_ok _ _ _)
    · exact absurd h (refuse_ne_ok _ _ _)
  · rintro ⟨rfl, hvalue⟩
    rw [takeString, hvalue]

theorem takeSign_eq_ok_iff {c : Char} :
    takeSign c tokens = .ok rest ↔ ∃ t s, tokens = t :: rest ∧ t.value = .mark c s := by
  constructor
  · intro h
    rw [takeSign.eq_def] at h
    split at h
    · split at h
      · next hd =>
        cases h
        exact ⟨_, _, rfl, congrArg (Token.mark · _) hd⟩
      · exact absurd h (refuseSign_ne_ok _ _ _)
    · exact absurd h (refuseSign_ne_ok _ _ _)
  · rintro ⟨⟨start, stop, t⟩, s, rfl, rfl⟩
    exact if_pos rfl

theorem takeKey_eq_ok_iff :
    takeKey tokens = .ok rest ↔ ∃ t, tokens = t :: rest ∧ t.value = .word "line_offset" := by
  constructor
  · intro h
    rw [takeKey.eq_def] at h
    split at h
    · split at h
      · cases h
      · split at h
        · next hw =>
          cases h
          exact ⟨_, rfl, congrArg Token.word hw⟩
        · cases h
    · exact absurd h (refuse_ne_ok _ _ _)
  · rintro ⟨⟨start, stop, t⟩, rfl, rfl⟩
    rfl

/-- The number of lines that an integer literal gives. -/
def IsCount (text : String) (n : Nat) : Prop :=
  (∃ b run suffix, Number.IsInteger text.toList b run suffix ∧ n = Number.valueIn b run) ∧
    n ≤ maxLineOffset

theorem isCount_iff {text : String} {n : Nat} :
    IsCount text n ↔
      (∃ suffix, Number.parts? text.toList = some (n, suffix)) ∧ n ≤ maxLineOffset := by
  simp only [IsCount, Number.parts?_eq_some_iff]
  refine and_congr_left' ⟨?_, ?_⟩
  · rintro ⟨b, run, suffix, h⟩
    exact ⟨suffix, b, run, h⟩
  · rintro ⟨suffix, b, run, h⟩
    exact ⟨b, run, suffix, h⟩

theorem takeNumber_eq_ok_iff {n : Nat} :
    takeNumber tokens = .ok (n, rest) ↔
      ∃ t text, tokens = t :: rest ∧ t.value = .literal text ∧ IsCount text n := by
  constructor
  · intro h
    rw [takeNumber.eq_def] at h
    split at h
    · split at h
      · next hparts =>
        split at h
        · next hle =>
          cases h
          exact ⟨_, _, rfl, rfl, isCount_iff.2 ⟨⟨_, hparts⟩, hle⟩⟩
        · cases h
      · exact absurd h (refuse_ne_ok _ _ _)
    · split at h
      · cases h
      · exact absurd h (refuse_ne_ok _ _ _)
    · exact absurd h (refuse_ne_ok _ _ _)
  · rintro ⟨⟨start, stop, t⟩, text, rfl, rfl, hcount⟩
    obtain ⟨⟨suffix, hparts⟩, hle⟩ := isCount_iff.1 hcount
    rw [takeNumber, hparts]
    exact if_pos hle

theorem finish_eq_ok_iff {α : Type} {a b : α} : finish a tokens = .ok b ↔ tokens = [] ∧ b = a := by
  cases tokens with
  | nil => exact ⟨fun h => ⟨rfl, (Except.ok.inj h).symm⟩, fun h => h.2 ▸ rfl⟩
  | cons t rest => exact ⟨nofun, fun h => nomatch h.1⟩

/-! ## The grammar -/

/-- A comma, or nothing. -/
inductive Comma : Code → Prop
  | nothing : Comma []
  | comma (s : Spacing) : Comma [.mark ',' s]

/-- What may follow the literal, and the number of lines that it gives. -/
inductive Tail : Code → Option Nat → Prop
  | bare {end' : Code} (h : Comma end') : Tail end' none
  | option (s s₁ : Spacing) {text : String} {n : Nat} (hcount : IsCount text n) {end' : Code}
    (h : Comma end') :
    Tail (.mark ',' s :: .word "line_offset" :: .mark '=' s₁ :: .literal text :: end') (some n)

/-- The tokens are arguments, and this is what they give. -/
structure Written (tokens : List (Placed Token)) (i : Invocation) : Prop where
  place : tokens.head?.map Placed.whole = some i.place
  value : StringLiteral.value? i.literal.toList = some i.value
  tokens : ∃ tail, Placed.values tokens = .literal i.literal :: tail ∧ Tail tail i.lineOffset

/-- A token in front of others, read off the values. -/
theorem values_eq_cons_iff {v : Token} {vs : Code} :
    Placed.values tokens = v :: vs ↔
      ∃ t ts, tokens = t :: ts ∧ t.value = v ∧ Placed.values ts = vs :=
  List.map_eq_cons_iff

/-- Nothing but a comma is taken at the end. -/
theorem ending_eq_ok_iff {α : Type} {a b : α} :
    (if tokens.isEmpty then pure a
      else do
        let rest ← takeSign ',' tokens
        finish a rest) = .ok b ↔ Comma (Placed.values tokens) ∧ b = a := by
  cases tokens with
  | nil => exact ⟨fun h => ⟨.nothing, (Except.ok.inj h).symm⟩, fun h => h.2 ▸ rfl⟩
  | cons t rest =>
    rw [List.isEmpty_cons, if_neg Bool.false_ne_true, bind_eq_ok_iff]
    constructor
    · rintro ⟨rest, hcomma, h⟩
      obtain ⟨t, s, ht, hs⟩ := takeSign_eq_ok_iff.1 hcomma
      cases ht
      obtain ⟨rfl, hb⟩ := finish_eq_ok_iff.1 h
      rw [Placed.values, List.map_cons, hs]
      exact ⟨.comma s, hb⟩
    · rintro ⟨hcomma, rfl⟩
      generalize hvs : Placed.values (t :: rest) = vs at hcomma
      cases hcomma with
      | nothing => cases hvs
      | comma s =>
        obtain ⟨hs, hrest⟩ := List.cons.inj hvs
        cases List.map_eq_nil_iff.1 hrest
        exact ⟨[], takeSign_eq_ok_iff.2 ⟨t, s, rfl, hs⟩, rfl⟩

/-- What is read is written so. -/
theorem written_of_ofTokens (h : ofTokens tokens = .ok i) : Written tokens i := by
  obtain ⟨⟨literal, place, value, rest⟩, htake, hrest⟩ := bind_eq_ok_iff.1 h
  obtain ⟨rfl, hvalue⟩ := takeString_eq_ok_iff.1 htake
  suffices htail : ∃ n, i = ⟨literal, place, value, n⟩ ∧ Tail (Placed.values rest) n by
    obtain ⟨n, rfl, htail⟩ := htail
    exact ⟨rfl, hvalue, _, rfl, htail⟩
  dsimp only at hrest
  split at hrest
  · next hempty =>
    cases hrest
    exact ⟨none, rfl, .bare (List.isEmpty_iff.1 hempty ▸ .nothing)⟩
  · obtain ⟨rest, hcomma, h₁⟩ := bind_eq_ok_iff.1 hrest
    obtain ⟨comma, s, rfl, hs⟩ := takeSign_eq_ok_iff.1 hcomma
    split at h₁
    · next hempty =>
      cases h₁
      refine ⟨none, rfl, .bare ?_⟩
      rw [List.isEmpty_iff.1 hempty, Placed.values, List.map_cons, hs]
      exact .comma s
    · obtain ⟨rest, hkey, h₂⟩ := bind_eq_ok_iff.1 h₁
      obtain ⟨key, rfl, hk⟩ := takeKey_eq_ok_iff.1 hkey
      obtain ⟨rest, hequal, h₃⟩ := bind_eq_ok_iff.1 h₂
      obtain ⟨equal, s₁, rfl, hs₁⟩ := takeSign_eq_ok_iff.1 hequal
      obtain ⟨⟨n, rest⟩, hnumber, h₄⟩ := bind_eq_ok_iff.1 h₃
      obtain ⟨number, text, rfl, htext, hcount⟩ := takeNumber_eq_ok_iff.1 hnumber
      obtain ⟨hending, rfl⟩ := ending_eq_ok_iff.1 h₄
      refine ⟨some n, rfl, ?_⟩
      simp only [Placed.values, List.map_cons, hs, hk, hs₁, htext]
      exact .option s s₁ hcount hending

/-- What is written so is read. -/
theorem ofTokens_of_written (h : Written tokens i) : ofTokens tokens = .ok i := by
  obtain ⟨literal, place, value, n⟩ := i
  obtain ⟨hplace, hvalue, vs, hvs, htail⟩ := h
  obtain ⟨⟨start, stop, t⟩, rest, rfl, rfl, hrest⟩ := values_eq_cons_iff.1 hvs
  obtain rfl : (⟨start, stop⟩ : Extent) = place := Option.some.inj hplace
  have htake : takeString (⟨start, stop, .literal literal⟩ :: rest) =
      .ok (literal, ⟨start, stop⟩, value, rest) := takeString_eq_ok_iff.2 ⟨rfl, hvalue⟩
  refine bind_eq_ok_iff.2 ⟨_, htake, ?_⟩
  cases htail with
  | bare hcomma =>
    cases hcomma with
    | nothing =>
      cases List.map_eq_nil_iff.1 hrest
      rfl
    | comma s =>
      obtain ⟨comma, rest, rfl, hs, hnil⟩ := values_eq_cons_iff.1 hrest
      cases List.map_eq_nil_iff.1 hnil
      exact bind_eq_ok_iff.2 ⟨_, takeSign_eq_ok_iff.2 ⟨_, _, rfl, hs⟩, rfl⟩
  | option s s₁ hcount hcomma =>
    obtain ⟨comma, rest, rfl, hs, h₁⟩ := values_eq_cons_iff.1 hrest
    obtain ⟨key, rest, rfl, hk, h₂⟩ := values_eq_cons_iff.1 h₁
    obtain ⟨equal, rest, rfl, hs₁, h₃⟩ := values_eq_cons_iff.1 h₂
    obtain ⟨number, rest, rfl, htext, rfl⟩ := values_eq_cons_iff.1 h₃
    refine bind_eq_ok_iff.2 ⟨_, takeSign_eq_ok_iff.2 ⟨_, _, rfl, hs⟩, ?_⟩
    refine bind_eq_ok_iff.2 ⟨_, takeKey_eq_ok_iff.2 ⟨_, rfl, hk⟩, ?_⟩
    refine bind_eq_ok_iff.2 ⟨_, takeSign_eq_ok_iff.2 ⟨_, _, rfl, hs₁⟩, ?_⟩
    refine bind_eq_ok_iff.2 ⟨_, takeNumber_eq_ok_iff.2 ⟨_, _, rfl, htext, hcount⟩, ?_⟩
    exact ending_eq_ok_iff.2 ⟨hcomma, rfl⟩

/-! ## Other options -/

/-- The key of an option that there is not is named in the complaint. -/
theorem takeKey_unknown {key : Placed Token} {w : String} (hkey : key.value = .word w)
    (hkeyword : w ∉ Grammar.keywords) (hw : w ≠ "line_offset") :
    takeKey (key :: rest) = .error ⟨some key.whole, .unknownOption w⟩ := by
  obtain ⟨start, stop, t⟩ := key
  obtain rfl : t = .word w := hkey
  have hcontains : Grammar.keywords.contains w = false :=
    Bool.eq_false_iff.2 fun h => hkeyword (List.contains_iff_mem.1 h)
  rw [takeKey, hcontains, if_neg Bool.false_ne_true, if_neg hw]
  rfl

/-- Behind a string literal and a comma, the key of an option that there is not is pointed at. -/
theorem ofTokens_unknown {literal comma key : Placed Token} {text w : String} {s : Spacing}
    (hliteral : literal.value = .literal text)
    (htext : (StringLiteral.value? text.toList).isSome = true) (hcomma : comma.value = .mark ',' s)
    (hkey : key.value = .word w) (hkeyword : w ∉ Grammar.keywords) (hw : w ≠ "line_offset") :
    ofTokens (literal :: comma :: key :: rest) =
      .error ⟨some key.whole, .unknownOption w⟩ := by
  obtain ⟨start, stop, t⟩ := literal
  obtain rfl : t = .literal text := hliteral
  obtain ⟨value, hvalue⟩ := Option.isSome_iff_exists.1 htext
  have htake : takeString (⟨start, stop, .literal text⟩ :: comma :: key :: rest) =
      .ok (text, ⟨start, stop⟩, value, comma :: key :: rest) :=
    takeString_eq_ok_iff.2 ⟨rfl, hvalue⟩
  have hsign : takeSign ',' (comma :: key :: rest) = .ok (key :: rest) :=
    takeSign_eq_ok_iff.2 ⟨_, _, rfl, hcomma⟩
  rw [ofTokens, htake]
  show (takeSign ',' (comma :: key :: rest) >>= _) = _
  rw [hsign]
  show (takeKey (key :: rest) >>= _) = _
  rw [takeKey_unknown hkey hkeyword hw]
  rfl

/-- **The arguments are exactly those of the grammar.** Tokens are read as arguments if and only if
they are a string literal, then perhaps a comma, or a comma and the option with an integer literal
of at most 64 bits, and then perhaps a comma; what is read is the literal and the number that the
digits stand for. All other tokens are refused. Behind a string literal and a comma, a word that is
no keyword and not the name of the option is pointed at as an unknown option. -/
theorem ofTokens_exactly_written :
    (∀ tokens i, ofTokens tokens = .ok i ↔ Written tokens i) ∧
    (∀ tokens, (¬ ∃ i, Written tokens i) → ∃ f, ofTokens tokens = .error f) ∧
    ∀ (literal comma key : Placed Token) (rest : List (Placed Token)) (text w : String)
      (s : Spacing),
      literal.value = .literal text → (StringLiteral.value? text.toList).isSome = true →
      comma.value = .mark ',' s → key.value = .word w → w ∉ Grammar.keywords →
      w ≠ "line_offset" →
      ∃ f, ofTokens (literal :: comma :: key :: rest) = .error f ∧ f.extent = some key.whole ∧
        f.cause.message = "unknown template option `" ++ w ++ "`, expected `line_offset`" := by
  have hread (tokens i) : ofTokens tokens = .ok i ↔ Written tokens i :=
    ⟨written_of_ofTokens, ofTokens_of_written⟩
  refine ⟨hread, fun tokens h => ?_, ?_⟩
  · cases hargs : ofTokens tokens with
    | error f => exact ⟨f, rfl⟩
    | ok i => exact absurd ⟨i, (hread tokens i).1 hargs⟩ h
  · intro literal comma key rest text w s hliteral htext hcomma hkey hkeyword hw
    exact ⟨_, ofTokens_unknown hliteral htext hcomma hkey hkeyword hw, rfl, rfl⟩

/-- A number in base sixteen with a low line and a suffix, a comma in the place of the literal, and
the raw form of the option. -/
theorem ofTokens_exactly_written_sample :
    ofTokens [⟨0, 3, .literal "\"x\""⟩, ⟨3, 4, .mark ',' .alone⟩, ⟨5, 16, .word "line_offset"⟩,
        ⟨17, 18, .mark '=' .alone⟩, ⟨19, 26, .literal "0x1_Fu8"⟩, ⟨26, 27, .mark ',' .alone⟩] =
      .ok ⟨"\"x\"", ⟨0, 3⟩, ['x'], some 31⟩ ∧
    (∃ f, ofTokens [⟨0, 1, .mark ',' .alone⟩] = .error f) ∧
    ∃ f, ofTokens [⟨0, 3, .literal "\"x\""⟩, ⟨3, 4, .mark ',' .alone⟩,
        ⟨5, 18, .word "r#line_offset"⟩] = .error f ∧ f.extent = some ⟨5, 18⟩ ∧
      f.cause.message = "unknown template option `r#line_offset`, expected `line_offset`" := by
  have hcount : IsCount "0x1_Fu8" 31 :=
    ⟨⟨16, ['1', '_', 'F'], ['u', '8'],
      ⟨rfl, rfl, List.all_eq_true.1 rfl, List.any_eq_true.1 rfl, by decide +kernel, rfl, nofun⟩, rfl⟩,
      by decide⟩
  have hvalue : StringLiteral.value? "\"x\"".toList = some ['x'] := by decide +kernel
  refine ⟨(ofTokens_exactly_written.1 _ _).2
      ⟨rfl, hvalue, _, rfl, .option _ _ hcount (.comma _)⟩,
    ofTokens_exactly_written.2.1 _ ?_,
    ofTokens_exactly_written.2.2 _ _ _ [] "\"x\"" "r#line_offset" .alone rfl
      (Option.isSome_of_eq_some hvalue) rfl rfl (by decide) (by decide)⟩
  rintro ⟨i, -, -, tail, h, -⟩
  cases h

end Invocation

end TextTemplate
