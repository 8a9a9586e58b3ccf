import TextTemplate.Expansion.Invocation
import TextTemplate.Proofs.Expansion.Entries
import TextTemplate.Proofs.Template.Places
import TextTemplate.Proofs.Template.Relocation

/-!
# The line and the spelling of a template

Code does not depend on where its template stands in a file, nor on how its literal is written: with
escapes or without, or raw. A complaint depends on the line only.

- `Template.parseAt_eq_ok_iff`: a template is read alike on every line.
- `Template.compile_lineOffset`: the lines before a template have no influence on its code.
- `Template.outcome`: the code of a text, or the words in which it is refused.
- `Invocation.expand_eq_outcome`: arguments have the outcome of the text that they stand for.
- `parseAt_of_lines`: the main statement.
-/

namespace TextTemplate

/-! ## Lines -/

namespace Template

/-- A template is read alike on every line. -/
theorem parseAt_eq_ok_iff (a b : Nat) {s : List Char} {nodes : List Node} :
    parseAt a s = .ok nodes ↔ parseAt b s = .ok nodes := by
  rw [parseAt_eq, parseAt_eq]
  cases parse s with
  | ok m => rfl
  | error e => exact ⟨nofun, nofun⟩

/-- The lines before a template have no influence on its code. -/
theorem compile_lineOffset (a b : Nat) (runtime : Code) (stem : String) (nodes : List Node) :
    compile runtime ⟨a, stem⟩ nodes = compile runtime ⟨b, stem⟩ nodes := by
  rw [compile, compile, Construct.ofNodes_eq_ofEntries, Construct.ofNodes_eq_ofEntries]

/-! ## Spellings -/

/-- The code of a template, or the words in which it is refused. -/
def outcome (s : List Char) (lineOffset : Nat) : Except String Code :=
  match parse s with
  | .error f => .error ("template error at " ++ f.display lineOffset)
  | .ok nodes => (compile Emit.defaultRuntime .standard nodes).mapError InvalidIdent.message

/-- The lines before a template have no influence on whether it has code. -/
theorem outcome_eq_ok_iff (a b : Nat) {s : List Char} {code : Code} :
    outcome s a = .ok code ↔ outcome s b = .ok code := by
  unfold outcome
  cases parse s with
  | ok nodes => rfl
  | error f => exact ⟨nofun, nofun⟩

end Template

namespace Invocation

variable {tokens : List (Placed Token)} {i : Invocation}

/-- Arguments have the outcome of the text that their literal stands for. -/
theorem expand_eq_outcome (h : ofTokens tokens = .ok i) :
    (expand tokens).mapError Refusal.message =
      Template.outcome i.value (i.lineOffset.getD 0) := by
  rw [expand, h]
  show i.compile.mapError _ = _
  rw [compile, Template.outcome]
  cases Template.parse i.value with
  | error f => rfl
  | ok nodes =>
    show ((Template.compile _ ⟨_, Options.standard.stem⟩ nodes).mapError _).mapError _ = _
    rw [Template.compile_lineOffset _ Options.standard.lineOffset]
    show _ = (Template.compile Emit.defaultRuntime .standard nodes).mapError InvalidIdent.message
    cases Template.compile Emit.defaultRuntime _ nodes <;> rfl

/-- Arguments expand to code if the text of their literal has that code. -/
theorem expand_eq_ok_iff (h : ofTokens tokens = .ok i) {code : Code} :
    expand tokens = .ok code ↔ Template.outcome i.value (i.lineOffset.getD 0) = .ok code := by
  rw [← expand_eq_outcome h]
  cases expand tokens with
  | ok c => exact ⟨fun h => by rw [Except.ok.inj h]; rfl, fun h => by rw [Except.ok.inj h]⟩
  | error r => exact ⟨nofun, nofun⟩

end Invocation

open Invocation in
/-- **Neither the line nor the spelling of a template changes its code.** On every line a template
is read as the same nodes, which have the same code, or has the same fault, as many lines further
down as there are more lines before it. Literals that stand for the same text expand to the same
code, or both are refused, and in the same words if they stand on the same line. -/
theorem Template.parseAt_of_lines (a b : Nat) (s : List Char) :
    parseAt a s = (parse s).mapError (Fault.below a) ∧
    (∀ nodes, (parseAt a s = .ok nodes ↔ parseAt b s = .ok nodes) ∧ ∀ runtime stem,
      compile runtime ⟨a, stem⟩ nodes = compile runtime ⟨b, stem⟩ nodes) ∧
    (∀ f, parseAt a s = .error f → ∃ g, parseAt b s = .error g ∧ g.message = f.message ∧
      g.position.column = f.position.column ∧ g.position.offset = f.position.offset ∧
      (g.position.line : Int) - f.position.line = b - a) ∧
    ∀ tokens tokens' i j, ofTokens tokens = .ok i → ofTokens tokens' = .ok j →
      i.value = s → j.value = s →
        (∀ code, expand tokens = .ok code ↔ expand tokens' = .ok code) ∧
        (i.lineOffset.getD 0 = j.lineOffset.getD 0 → (expand tokens).mapError Refusal.message =
          (expand tokens').mapError Refusal.message) := by
  refine ⟨parseAt_eq a s, fun nodes => ⟨parseAt_eq_ok_iff a b, fun runtime stem =>
    compile_lineOffset a b runtime stem nodes⟩, ?_, ?_⟩
  · intro f hf
    obtain ⟨e, he, rfl⟩ := (parseAt_eq_error_iff a).1 hf
    refine ⟨e.below b, (parseAt_eq_error_iff b).2 ⟨e, he, rfl⟩, rfl, rfl, rfl, ?_⟩
    show ((e.position.line + b : Nat) : Int) - (e.position.line + a : Nat) = b - a
    omega
  · rintro tokens tokens' i j hi hj rfl hvalue
    constructor
    · intro code
      rw [expand_eq_ok_iff hi, expand_eq_ok_iff hj, hvalue]
      exact outcome_eq_ok_iff _ _
    · intro hline
      rw [expand_eq_outcome hi, expand_eq_outcome hj, hvalue, hline]

/-- A tag that ends no choice. -/
def Template.stray : List Char := "\x7b/if\x7d".toList

/-- The same text written with an escape, three lines down. -/
def Template.escaped : List (Placed Token) :=
  [⟨0, 12, .literal "\"\\u\x7b7b\x7d/if\x7d\""⟩, ⟨12, 13, .mark ',' .alone⟩,
    ⟨14, 25, .word "line_offset"⟩, ⟨26, 27, .mark '=' .alone⟩, ⟨28, 29, .literal "3"⟩]

/-- The same text on the same line, in a raw literal. -/
def Template.raw : List (Placed Token) :=
  [⟨0, 10, .literal "r#\"\x7b/if\x7d\"#"⟩, ⟨10, 11, .mark ',' .alone⟩,
    ⟨12, 23, .word "line_offset"⟩, ⟨24, 25, .mark '=' .alone⟩, ⟨26, 29, .literal "0x3"⟩]

/-- The tag is reported five lines further down when there are five more lines before it, and in the
same words in either literal. -/
theorem Template.parseAt_of_lines_stray :
    ∃ f g i j, parseAt 3 stray = .error f ∧ parseAt 8 stray = .error g ∧
      g.message = f.message ∧ (g.position.line : Int) - f.position.line = 5 ∧
      Invocation.ofTokens escaped = .ok i ∧ Invocation.ofTokens raw = .ok j ∧
      outcome stray 3 =
        .error "template error at line 4, column 1: Unexpected \x7b/if\x7d" ∧
      (Invocation.expand escaped).mapError Refusal.message =
        (Invocation.expand raw).mapError Refusal.message := by
  have hparse : parse stray = .error ⟨.start, .unexpected .endIf⟩ :=
    Automaton.parse_eq_error_of_map (by decide +kernel)
  have haccepted (tokens : List (Placed Token)) (h : (Invocation.ofTokens tokens).map
      (fun i => (i.value, i.lineOffset)) = .ok (stray, some 3)) :
      ∃ i, Invocation.ofTokens tokens = .ok i ∧ i.value = stray ∧ i.lineOffset = some 3 := by
    obtain ⟨i, hi, heq⟩ := Piece.exists_of_map_eq_ok h
    exact ⟨i, hi, congrArg Prod.fst heq, congrArg Prod.snd heq⟩
  obtain ⟨i, hi, hivalue, hiline⟩ := haccepted escaped (by decide +kernel)
  obtain ⟨j, hj, hjvalue, hjline⟩ := haccepted raw (by decide +kernel)
  obtain ⟨-, -, hlines, hspellings⟩ := parseAt_of_lines 3 8 stray
  have hf := (parseAt_eq_error_iff 3).2 ⟨_, hparse, rfl⟩
  obtain ⟨g, hg, hmessage, -, -, hline⟩ := hlines _ hf
  refine ⟨_, g, i, j, hf, hg, hmessage, hline, hi, hj, ?_,
    (hspellings _ _ i j hi hj hivalue hjvalue).2 (by rw [hiline, hjline])⟩
  rw [outcome, hparse]
  decide +kernel

end TextTemplate
