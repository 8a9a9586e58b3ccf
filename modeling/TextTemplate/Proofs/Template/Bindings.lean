import TextTemplate.Program.Emit
import TextTemplate.Proofs.Code.Ending
import TextTemplate.Proofs.Code.Loosening
import TextTemplate.Proofs.Template.Keywords

/-!
# Tags that bind

The text of a binding is checked with a semicolon after it, as a text. What becomes the code are the
tokens of the text without one, and a program is written with a semicolon after them, as a token.
Both semicolons mean the same unless the text ends in a line comment.

- `Piece.ofTag_of_after?`, `Piece.binding_eq`: a tag that binds, and the code that is checked.
- `Piece.binding_closed`, `Piece.binding_remark`, `Piece.binding_documentation`: the endings of the
  text.
- `Piece.ofTag_let`: the tag for every text that is split into tokens.
- `Piece.ofTag_let_remarks`: line comments that make a difference.
-/

namespace TextTemplate

namespace Piece

open Text

/-- The piece of a tag that binds, where a statement decides whether there is one. -/
def ofStatement (statement code : Code) : Except Cause Piece :=
  ((Grammar.checkLet statement).mapError .binding).map fun _ => chunk .effect code

theorem ofTag_of_after? {tag rest : List Char} (p : Position)
    (htag : after? "$let" (trim tag) = some rest) :
    ofTag p tag = (binding rest).map (chunk .effect) := by
  rw [ofTag_of_keyword p (by decide) htag]
  rfl

variable {rest : List Char} {code checked : Code}

theorem binding_eq_error (h : Code.ofChars? ("let ".toList ++ rest ++ [';']) = none) :
    binding rest = .error (.binding .unsplit) := by
  rw [binding, Grammar.split, h]

theorem binding_eq (h : Code.ofChars? ("let ".toList ++ rest ++ [';']) = some checked)
    (hcode : Code.ofChars? ("let ".toList ++ rest) = some code) :
    (binding rest).map (chunk .effect) = ofStatement checked code := by
  rw [binding, Grammar.split, h, lex, hcode, ofStatement]
  dsimp only
  cases Grammar.checkLet checked with
  | error c => rfl
  | ok _ => rfl

/-! ## How the text of a binding ends -/

/-- A semicolon after a text that no line comment ends with is a token of its own, and it makes no
difference whether a mark touches it. -/
theorem binding_closed (hhead : rest.head? ≠ some '\ufeff') (hending : Lexeme.ending rest = .closed)
    (hcode : Code.ofChars? rest = some code) : (binding rest).map (chunk .effect) =
      ofStatement (Emit.effect (.word "let" :: code)) (.word "let" :: code) := by
  have hlet := Code.ofChars?_let_of_eq_some hhead hcode
  rcases Code.ofChars?_let_semicolon hending hhead hcode with hsame | ⟨front, c, rfl, htouching⟩
  · exact binding_eq hsame hlet
  · have hstatement : Emit.effect (.word "let" :: (front ++ [.mark c .alone])) =
        .word "let" :: front ++ [.mark c .alone, .mark ';' .alone] := by
      rw [Emit.effect, ← List.cons_append, List.append_assoc]
      rfl
    rw [binding_eq htouching hlet, hstatement, ofStatement, ofStatement, Grammar.checkLet_touching]

/-- A remark at the end of the text takes the semicolon with it. -/
theorem binding_remark (hhead : rest.head? ≠ some '\ufeff') (hending : Lexeme.ending rest = .remark)
    (hcode : Code.ofChars? rest = some code) : (binding rest).map (chunk .effect) =
      ofStatement (.word "let" :: code) (.word "let" :: code) :=
  binding_eq (Code.ofChars?_let_remark hending hhead hcode)
    (Code.ofChars?_let_of_eq_some hhead hcode)

/-- A line of documentation at the end of the text takes the semicolon with it, and the attribute
that it stands for ends no binding. -/
theorem binding_documentation (hending : Lexeme.ending rest = .documentation) :
    ∃ c, binding rest = .error (.binding c) := by
  cases h : Code.ofChars? ("let ".toList ++ rest ++ [';']) with
  | none => exact ⟨_, binding_eq_error h⟩
  | some checked =>
    cases hlet : Grammar.checkLet checked with
    | error c =>
      refine ⟨c, ?_⟩
      rw [binding, Grammar.split, h]
      simp only [hlet]
    | ok _ =>
      obtain ⟨front, body, rfl⟩ := Code.ofChars?_let_documentation hending h
      obtain ⟨front', s, hlast⟩ := Grammar.exists_of_checkLet hlet
      cases List.append_inj_right' hlast rfl

/-- After the word `let` a byte order mark is not passed over. -/
theorem binding_byteOrderMark (hhead : rest.head? = some '\ufeff') :
    binding rest = .error (.binding .unsplit) := by
  obtain ⟨s, rfl⟩ := List.head?_eq_some_iff.1 hhead
  refine binding_eq_error ((congrArg Code.ofChars? (List.append_assoc ..)).trans ?_)
  exact Code.ofChars?_let_byteOrderMark (s ++ [';'])

/-- **What a binding is checked to be.** If its text does not end in a line comment, the tag is
accepted if and only if its code with a semicolon as a further token is one binding, which is the
statement that is made from it. A line comment at the end takes the semicolon with it, so that the
code has to end in one itself, and a line of documentation is never accepted; nor is a byte order
mark. -/
theorem ofTag_let {tag : List Char} (p : Position) (htag : after? "$let" (trim tag) = some rest)
    (hcode : Code.ofChars? rest = some code) :
    (rest.head? ≠ some '\ufeff' → Lexeme.ending rest = .closed →
      ofTag p tag = ofStatement (Emit.effect (.word "let" :: code)) (.word "let" :: code)) ∧
    (rest.head? ≠ some '\ufeff' → Lexeme.ending rest = .remark →
      ofTag p tag = ofStatement (.word "let" :: code) (.word "let" :: code)) ∧
    (rest.head? = some '\ufeff' ∨ Lexeme.ending rest = .documentation →
      ∃ c, ofTag p tag = .error (.binding c)) := by
  rw [ofTag_of_after? p htag]
  refine ⟨fun hhead hending => binding_closed hhead hending hcode,
    fun hhead hending => binding_remark hhead hending hcode, ?_⟩
  rintro (hhead | hending)
  · exact ⟨.unsplit, by rw [binding_byteOrderMark hhead]; rfl⟩
  · obtain ⟨c, hc⟩ := binding_documentation hending
    exact ⟨c, by rw [hc]; rfl⟩

/-- A binding without a value, with a comment inside of it and a mark at its end. -/
theorem ofTag_let_declared :
    after? "$let" (trim "$let v /* none */: Vec<u8>".toList) = some "v /* none */: Vec<u8>".toList ∧
      ofTag .start "$let v /* none */: Vec<u8>".toList = .ok (chunk .effect
        [.word "let", .word "v", .mark ':' .alone, .word "Vec", .mark '<' .alone, .word "u8",
          .mark '>' .alone]) := by
  have htag : after? "$let" (trim "$let v /* none */: Vec<u8>".toList) =
      some "v /* none */: Vec<u8>".toList := by decide +kernel
  have hcode : Code.ofChars? "v /* none */: Vec<u8>".toList =
      some [.word "v", .mark ':' .alone, .word "Vec", .mark '<' .alone, .word "u8",
        .mark '>' .alone] := by decide +kernel
  have hending : Lexeme.ending "v /* none */: Vec<u8>".toList = .closed := by decide +kernel
  have hlet : Grammar.checkLet (Emit.effect [.word "let", .word "v", .mark ':' .alone, .word "Vec",
      .mark '<' .alone, .word "u8", .mark '>' .alone]) = .ok () := by decide +kernel
  refine ⟨htag, ?_⟩
  rw [(ofTag_let .start htag hcode).1 (by decide) hending, ofStatement, hlet]
  rfl

/-- **A binding that is refused for the remark after it**, though its code and a semicolon are a
binding, and one that is accepted though they are none, as it has brought its own semicolon. -/
theorem ofTag_let_remarks :
    (∃ code, after? "$let" (trim "$let x = 1 // c".toList) = some "x = 1 // c".toList ∧
      Code.ofChars? "x = 1 // c".toList = some code ∧
      Grammar.checkLet (Emit.effect (.word "let" :: code)) = .ok () ∧
      ∀ p, ofTag p "$let x = 1 // c".toList = .error (.binding (.expected false [.sign ";"]))) ∧
    ∃ code, after? "$let" (trim "$let x = 1; // c".toList) = some "x = 1; // c".toList ∧
      Code.ofChars? "x = 1; // c".toList = some code ∧
      Grammar.checkLet (Emit.effect (.word "let" :: code)) = .error (.leftover none) ∧
      ∀ p, ofTag p "$let x = 1; // c".toList = .ok (chunk .effect (.word "let" :: code)) := by
  constructor
  · have htag : after? "$let" (trim "$let x = 1 // c".toList) = some "x = 1 // c".toList := by
      decide +kernel
    have hcode : Code.ofChars? "x = 1 // c".toList =
        some [.word "x", .mark '=' .alone, .literal "1"] := by decide +kernel
    have hending : Lexeme.ending "x = 1 // c".toList = .remark := by decide +kernel
    have hlet : Grammar.checkLet [.word "let", .word "x", .mark '=' .alone, .literal "1"] =
        .error (.expected false [.sign ";"]) := by decide +kernel
    refine ⟨_, htag, hcode, by decide +kernel, fun p => ?_⟩
    rw [ofTag_of_after? p htag, binding_remark (by decide) hending hcode, ofStatement, hlet]
    rfl
  · have htag : after? "$let" (trim "$let x = 1; // c".toList) = some "x = 1; // c".toList := by
      decide +kernel
    have hcode : Code.ofChars? "x = 1; // c".toList =
        some [.word "x", .mark '=' .alone, .literal "1", .mark ';' .alone] := by decide +kernel
    have hending : Lexeme.ending "x = 1; // c".toList = .remark := by decide +kernel
    have hlet : Grammar.checkLet
        [.word "let", .word "x", .mark '=' .alone, .literal "1", .mark ';' .alone] = .ok () := by
      decide +kernel
    refine ⟨_, htag, hcode, by decide +kernel, fun p => ?_⟩
    rw [ofTag_of_after? p htag, binding_remark (by decide) hending hcode, ofStatement, hlet]
    rfl

end Piece

end TextTemplate
