import TextTemplate.Proofs.Code.Remarks
import TextTemplate.Proofs.Code.Slices

/-!
# Tokens with a semicolon after them

No word, number or literal goes on with a semicolon, and it begins none of the longer forms of a
token. So all readers of single tokens find the same at the front of a text if a semicolon is added
to its end, and leave it with what follows. Only a mark at the very end of the text comes to touch
it.

- `Word.splitAny?_semicolon`, `Number.dropFloat?_semicolon`, `StringLiteral.string?_semicolon`,
  `StringLiteral.character?_semicolon`: words, numbers and literals.
- `Token.touching`: the last mark of a text.
- `Lexeme.leaf?_semicolon`, `Lexeme.next?_semicolon`: tokens and lexemes.
-/

namespace TextTemplate

open Text

theorem head?_semicolon {c : Char} (h : c ≠ ';') (s : List Char) :
    ((s ++ [';']).head? == some c) = (s.head? == some c) := by
  cases s with
  | nil => simpa using h.symm
  | cons d s => rfl

/-! ## Words -/

namespace Word

theorem split?_semicolon (s : List Char) :
    split? (s ++ [';']) = (split? s).map fun (w, r) => (w, r ++ [';']) := by
  have hstart : isIdentifierStart ';' = false := by decide
  have hcontinue : isIdentifierContinue ';' = false := by decide
  cases s with
  | nil => simp [split?, hstart]
  | cons c s =>
    rw [List.cons_append, split?, split?, takeWhile_semicolon hcontinue,
      dropWhile_semicolon hcontinue]
    split
    · rfl
    · rfl

theorem splitAny?_semicolon (s : List Char) :
    splitAny? (s ++ [';']) = (splitAny? s).map fun (w, r) => (w, r ++ [';']) := by
  rw [splitAny?.eq_def s]
  split
  · next t =>
    rw [List.cons_append, List.cons_append, splitAny?, split?_semicolon]
    cases split? t with
    | none => rfl
    | some found =>
      obtain ⟨w, r⟩ := found
      dsimp only [Option.map_some]
      split
      · rfl
      · rfl
  · next h =>
    rw [← split?_semicolon]
    exact splitAny?.eq_2 _ (ne_append_semicolon ['r', '#'] (by decide) h)

theorem dropSuffix_semicolon (s : List Char) : dropSuffix (s ++ [';']) = dropSuffix s ++ [';'] := by
  rw [dropSuffix, dropSuffix, split?_semicolon]
  cases split? s with
  | none => rfl
  | some found => rfl

theorem continues_semicolon (s : List Char) : continues (s ++ [';']) = continues s := by
  cases s with
  | nil => exact (by decide : isIdentifierContinue ';' = false)
  | cons c s => rfl

theorem starts_semicolon (s : List Char) : starts (s ++ [';']) = starts s := by
  cases s with
  | nil => exact (by decide : isIdentifierStart ';' = false)
  | cons c s => rfl

end Word

/-! ## Numbers -/

namespace Number

theorem base_semicolon (s : List Char) : base (s ++ [';']) = ((base s).1, (base s).2 ++ [';']) := by
  fun_cases base s
  case case4 hx ho hb =>
    exact base.eq_4 _ (ne_append_semicolon ['0', 'x'] (by decide) hx)
      (ne_append_semicolon ['0', 'o'] (by decide) ho)
      (ne_append_semicolon ['0', 'b'] (by decide) hb)
  all_goals rfl

theorem startsDecimal_semicolon (s : List Char) : startsDecimal (s ++ [';']) = startsDecimal s := by
  cases s with
  | nil => exact (by decide : isDecimal ';' = false)
  | cons c s => rfl

theorem dropDigits?_semicolon (s : List Char) :
    dropDigits? (s ++ [';']) = (dropDigits? s).map (· ++ [';']) := by
  rw [dropDigits?, dropDigits?, base_semicolon]
  obtain ⟨b, t⟩ := base s
  have htake := takeWhile_semicolon (p := fun c => isDigitOf b c || c == '_') rfl t
  have hdrop := dropWhile_semicolon (p := fun c => isDigitOf b c || c == '_') rfl t
  simp only [htake, hdrop, startsDecimal_semicolon]
  split
  · rfl
  · rfl

theorem finish?_semicolon (s : List Char) :
    finish? (s ++ [';']) = (finish? s).map (· ++ [';']) := by
  simp only [finish?, Word.dropSuffix_semicolon, Word.continues_semicolon]
  split
  · rfl
  · rfl

/-- Two readers that go on as before, one after the other. -/
theorem bind_semicolon {f g : List Char → Option (List Char)}
    (hf : ∀ s, f (s ++ [';']) = (f s).map (· ++ [';']))
    (hg : ∀ s, g (s ++ [';']) = (g s).map (· ++ [';'])) (s : List Char) :
    (f (s ++ [';'])).bind g = ((f s).bind g).map (· ++ [';']) := by
  rw [hf, Option.bind_map, Option.map_bind]
  exact Option.bind_congr fun r _ => hg r

theorem dropInt?_semicolon (s : List Char) :
    dropInt? (s ++ [';']) = (dropInt? s).map (· ++ [';']) :=
  bind_semicolon dropDigits?_semicolon finish?_semicolon s

theorem dropExponent?_semicolon (s : List Char) :
    dropExponent? (s ++ [';']) = (dropExponent? s).map (· ++ [';']) := by
  have hdigits (s : List Char) :
      (if ((s ++ [';']).takeWhile isDecimalOrLow).any isDecimal
        then some ((s ++ [';']).dropWhile isDecimalOrLow) else none) =
      (if (s.takeWhile isDecimalOrLow).any isDecimal
        then some (s.dropWhile isDecimalOrLow) else none).map (· ++ [';']) := by
    rw [takeWhile_semicolon (by decide), dropWhile_semicolon (by decide)]
    split
    · rfl
    · rfl
  rw [dropExponent?, dropExponent?, dropWhile_semicolon (by decide)]
  generalize s.dropWhile (· == '_') = t
  rcases t with _ | ⟨c, t⟩
  · exact hdigits []
  · by_cases hplus : c = '+'
    · subst hplus
      exact hdigits t
    · by_cases hminus : c = '-'
      · subst hminus
        exact hdigits t
      · simpa [hplus, hminus] using hdigits (c :: t)

theorem exponentOr_semicolon (s : List Char) :
    (match s ++ [';'] with
      | 'e' :: t | 'E' :: t => some ((dropExponent? t).getD (s ++ [';']))
      | _ => some (s ++ [';'])) =
    (match s with
      | 'e' :: t | 'E' :: t => some ((dropExponent? t).getD s)
      | _ => some s).map (· ++ [';']) := by
  have hgetD (t : List Char) (c : Char) :
      some ((dropExponent? (t ++ [';'])).getD (c :: t ++ [';'])) =
        (some ((dropExponent? t).getD (c :: t))).map (· ++ [';']) := by
    rw [dropExponent?_semicolon]
    cases dropExponent? t with
    | none => rfl
    | some r => rfl
  rcases s with _ | ⟨c, t⟩
  · rfl
  · by_cases hlower : c = 'e'
    · subst hlower
      exact hgetD t 'e'
    · by_cases hupper : c = 'E'
      · subst hupper
        exact hgetD t 'E'
      · simp [hlower, hupper]

theorem dropFloatDigits?_semicolon (s : List Char) :
    dropFloatDigits? (s ++ [';']) = (dropFloatDigits? s).map (· ++ [';']) := by
  rw [dropFloatDigits?, dropFloatDigits?, startsDecimal_semicolon, dropWhile_semicolon (by decide)]
  split
  · generalize s.dropWhile isDecimalOrLow = t
    rcases t with _ | ⟨c, t⟩
    · rfl
    · by_cases hpoint : c = '.'
      · subst hpoint
        simp only [List.cons_append, Word.starts_semicolon, head?_semicolon (c := '.') (by decide),
          dropWhile_semicolon (p := isDecimalOrLow) (by decide)]
        split
        · rfl
        · exact exponentOr_semicolon _
      · by_cases hlower : c = 'e'
        · subst hlower
          exact dropExponent?_semicolon t
        · by_cases hupper : c = 'E'
          · subst hupper
            exact dropExponent?_semicolon t
          · simp [hpoint, hlower, hupper]
  · rfl

theorem dropFloat?_semicolon (s : List Char) :
    dropFloat? (s ++ [';']) = (dropFloat? s).map (· ++ [';']) :=
  bind_semicolon dropFloatDigits?_semicolon finish?_semicolon s

end Number

/-! ## Literals -/

namespace StringLiteral

theorem hexPair?_semicolon (s : List Char) :
    hexPair? (s ++ [';']) = (hexPair? s).map fun (n, r) => (n, r ++ [';']) := by
  have hmark : Number.digit? ';' = none := by decide
  rcases s with _ | ⟨a, _ | ⟨b, s⟩⟩
  · rfl
  · simp [hexPair?, hmark]
  · rw [List.cons_append, List.cons_append, hexPair?, hexPair?]
    split
    · rfl
    · rfl

theorem scalarDigits?_semicolon (k m : Nat) (s : List Char) :
    scalarDigits? k m (s ++ [';']) = (scalarDigits? k m s).map fun (n, r) => (n, r ++ [';']) := by
  have hmark : Number.digit? ';' = none := by decide
  fun_induction scalarDigits? k m s with
  | case1 k m => simp [scalarDigits?, hmark]
  | case2 k m c s d hd hk => simp [scalarDigits?, hd, hk]
  | case3 k m c s d hd hk ih => simp [scalarDigits?, hd, hk, ih]
  | case4 k m c s hd hk => simp [scalarDigits?, hd, hk]
  | case5 k m c s hd hk hc ih => simp [scalarDigits?, hd, hk, hc, ih]
  | case6 k m c s hd hk hlow hc => simp [scalarDigits?, hd, hk, hlow, hc]
  | case7 k m c s hd hk hlow hc => simp [scalarDigits?, hd, hk, hlow, hc]

theorem escape?_semicolon (d : Dialect) (s : List Char) :
    escape? d (s ++ [';']) = (escape? d s).map fun (c, r) => (c, r ++ [';']) := by
  fun_cases escape? d s
  case case7 s h => simp [escape?, h]
  case case8 s h => simp [escape?, h]
  case case9 s n r hr h => simp [escape?, hexPair?_semicolon, hr, h]
  case case10 s n r hr h => simp [escape?, hexPair?_semicolon, hr, h]
  case case11 s hr => simp [escape?, hexPair?_semicolon, hr]
  case case12 s n r hr c hc h => simp [escape?, scalarDigits?_semicolon, hr, hc, h]
  case case13 s n r hr c hc h => simp [escape?, scalarDigits?_semicolon, hr, hc, h]
  case case14 s n r hr hc => simp [escape?, scalarDigits?_semicolon, hr, hc]
  case case15 s hr => simp [escape?, scalarDigits?_semicolon, hr]
  case case16 hn hr ht hback hsingle hdouble hnul hx hu =>
    exact escape?.eq_10 d _ (ne_append_semicolon ['n'] (by decide) hn)
      (ne_append_semicolon ['r'] (by decide) hr) (ne_append_semicolon ['t'] (by decide) ht)
      (ne_append_semicolon ['\\'] (by decide) hback)
      (ne_append_semicolon ['\''] (by decide) hsingle)
      (ne_append_semicolon ['"'] (by decide) hdouble) (ne_append_semicolon ['0'] (by decide) hnul)
      (ne_append_semicolon ['x'] (by decide) hx) (ne_append_semicolon ['u', '{'] (by decide) hu)
  all_goals rfl

theorem startsLineEnd_semicolon (s : List Char) :
    startsLineEnd (s ++ [';']) = startsLineEnd s := by
  fun_cases startsLineEnd s
  case case3 hfeed hreturn =>
    exact startsLineEnd.eq_3 _ (ne_append_semicolon ['\n'] (by decide) hfeed)
      (ne_append_semicolon ['\r', '\n'] (by decide) hreturn)
  all_goals rfl

/-- After white space that ends the text the semicolon is left. -/
theorem dropIndent?_semicolon (s : List Char) :
    dropIndent? (s ++ [';']) = (dropIndent? s).map (· ++ [';']) ∨
      dropIndent? s = none ∧ dropIndent? (s ++ [';']) = some [';'] := by
  fun_induction dropIndent? s with
  | case1 => exact .inr ⟨rfl, rfl⟩
  | case2 s ih => simpa [dropIndent?] using ih
  | case3 s h =>
    exact .inl (dropIndent?.eq_3 _ (ne_append_semicolon ['\n'] (by decide) h))
  | case4 c s hreturn hc h ih =>
    rw [List.cons_append, dropIndent?, if_pos h]
    · exact ih
    · exact fun t hc => ne_append_semicolon ['\n'] (by decide) (fun r => hreturn r hc) t
    · exact hc
  | case5 c s hreturn hc h =>
    rw [List.cons_append, dropIndent?, if_neg h]
    · exact .inl rfl
    · exact fun t hc => ne_append_semicolon ['\n'] (by decide) (fun r => hreturn r hc) t
    · exact hc

section

variable {d : Dialect} {s : List Char}

theorem body?_lineEnd (h : startsLineEnd s = true) :
    body? d ('\\' :: s) = (dropIndent? s).bind (body? d) := by
  rw [body?, if_pos h]
  split
  · next s' hr =>
    show body? d s' = _
    rw [hr, Option.bind_some]
  · next hr => rw [hr, Option.bind_none]

theorem body?_escaped (h : startsLineEnd s = false) : body? d ('\\' :: s) =
    (escape? d s).bind fun (c, s') => (body? d s').map fun (v, r) => (c :: v, r) := by
  rw [body?, if_neg (Bool.eq_false_iff.1 h)]
  split
  · next c s' hr =>
    show (body? d s').map _ = _
    rw [hr, Option.bind_some]
  · next hr => rw [hr, Option.bind_none]

end

theorem body?_semicolon (d : Dialect) (s : List Char) :
    body? d (s ++ [';']) = (body? d s).map fun (v, r) => (v, r ++ [';']) := by
  have hmark : body? d [';'] = none := by simp [body?]
  fun_induction body? d s with
  | case1 => exact hmark
  | case2 s =>
    rw [List.cons_append, body?]
    rfl
  | case3 s ih =>
    rw [List.cons_append, List.cons_append, body?, ih, Option.map_map, Option.map_map]
    rfl
  | case4 s h =>
    rw [List.cons_append, body?]
    · rfl
    · exact ne_append_semicolon ['\n'] (by decide) h
  | case5 s hstart s' hs' _ ih =>
    rw [List.cons_append, body?_lineEnd ((startsLineEnd_semicolon s).trans hstart)]
    rcases dropIndent?_semicolon s with h | ⟨h, -⟩
    · rw [h, hs']
      exact ih
    · rw [h] at hs'
      cases hs'
  | case6 s hstart hs' =>
    rw [List.cons_append, body?_lineEnd ((startsLineEnd_semicolon s).trans hstart)]
    rcases dropIndent?_semicolon s with h | ⟨-, h⟩
    · rw [h, hs']
      rfl
    · rw [h]
      exact hmark
  | case7 s hstart c s' hs' _ ih =>
    have hno := Bool.eq_false_iff.2 hstart
    rw [List.cons_append, body?_escaped ((startsLineEnd_semicolon s).trans hno), escape?_semicolon,
      hs']
    simp only [Option.map_some, Option.bind_some, ih, Option.map_map]
    rfl
  | case8 s hstart hs' =>
    have hno := Bool.eq_false_iff.2 hstart
    rw [List.cons_append, body?_escaped ((startsLineEnd_semicolon s).trans hno), escape?_semicolon,
      hs']
    rfl
  | case9 c s hquote hline hreturn hback hplain ih =>
    rw [List.cons_append, body?, if_pos hplain, ih, Option.map_map, Option.map_map]
    · rfl
    · exact hquote
    · exact fun t hc => ne_append_semicolon ['\n'] (by decide) (fun r => hline r hc) t
    · exact hreturn
    · exact hback
  | case10 c s hquote hline hreturn hback hplain =>
    rw [List.cons_append, body?, if_neg hplain]
    · rfl
    · exact hquote
    · exact fun t hc => ne_append_semicolon ['\n'] (by decide) (fun r => hline r hc) t
    · exact hreturn
    · exact hback

theorem startsHashes_semicolon (n : Nat) (s : List Char) :
    startsHashes n (s ++ [';']) = startsHashes n s := by
  induction n generalizing s with
  | zero => rfl
  | succ n ih =>
    cases s with
    | nil => rfl
    | cons c s =>
      by_cases hc : c = '#'
      · subst hc
        exact ih s
      · simp [startsHashes, hc]

theorem le_length_of_startsHashes {n : Nat} {s : List Char} (h : startsHashes n s = true) :
    n ≤ s.length := by
  induction n generalizing s with
  | zero => exact Nat.zero_le _
  | succ n ih =>
    cases s with
    | nil => cases h
    | cons c s =>
      by_cases hc : c = '#'
      · subst hc
        exact Nat.succ_le_succ (ih h)
      · simp [startsHashes, hc] at h

theorem rawBody?_semicolon (d : Dialect) (n : Nat) (s : List Char) :
    rawBody? d n (s ++ [';']) = (rawBody? d n s).map fun (v, r) => (v, r ++ [';']) := by
  fun_induction rawBody? d n s with
  | case1 => simp [rawBody?]
  | case2 s ih =>
    rw [List.cons_append, List.cons_append, rawBody?, ih, Option.map_map, Option.map_map]
    rfl
  | case3 s h => exact rawBody?.eq_3 d n _ (ne_append_semicolon ['\n'] (by decide) h)
  | case4 c s hline hreturn h =>
    rw [List.cons_append, rawBody?, startsHashes_semicolon, if_pos h]
    · rw [Bool.and_eq_true] at h
      rw [List.drop_append_of_le_length (le_length_of_startsHashes h.2)]
      rfl
    · exact fun t hc => ne_append_semicolon ['\n'] (by decide) (fun r => hline r hc) t
    · exact hreturn
  | case5 c s hline hreturn h hplain ih =>
    rw [List.cons_append, rawBody?, startsHashes_semicolon, if_neg h, if_pos hplain, ih,
      Option.map_map, Option.map_map]
    · rfl
    · exact fun t hc => ne_append_semicolon ['\n'] (by decide) (fun r => hline r hc) t
    · exact hreturn
  | case6 c s hline hreturn h hplain =>
    rw [List.cons_append, rawBody?, startsHashes_semicolon, if_neg h, if_neg hplain]
    · rfl
    · exact fun t hc => ne_append_semicolon ['\n'] (by decide) (fun r => hline r hc) t
    · exact hreturn

theorem raw?_semicolon (d : Dialect) (s : List Char) :
    raw? d (s ++ [';']) = (raw? d s).map fun (v, r) => (v, r ++ [';']) := by
  rw [raw?, raw?, takeWhile_semicolon (by decide), dropWhile_semicolon (by decide)]
  generalize s.dropWhile (· == '#') = t
  rcases t with _ | ⟨c, t⟩
  · rfl
  · by_cases hc : c = '"'
    · subst hc
      simp only [List.cons_append, rawBody?_semicolon]
      split
      · rfl
      · rfl
    · simp [hc]

theorem quoted?_semicolon (d : Dialect) (s : List Char) :
    quoted? d (s ++ [';']) = (quoted? d s).map fun (v, r) => (v, r ++ [';']) := by
  fun_cases quoted? d s
  case case1 s => exact body?_semicolon d s
  case case2 s => exact raw?_semicolon d s
  case case3 hquote hraw =>
    exact quoted?.eq_3 d _ (ne_append_semicolon ['"'] (by decide) hquote)
      (ne_append_semicolon ['r'] (by decide) hraw)

theorem string?_semicolon (s : List Char) :
    string? (s ++ [';']) = (string? s).map fun (v, r) => (v, r ++ [';']) := by
  have hdialect : dialect (s ++ [';']) = ((dialect s).1, (dialect s).2 ++ [';']) := by
    fun_cases dialect s
    case case3 hb hc =>
      exact dialect.eq_3 _ (ne_append_semicolon ['b'] (by decide) hb)
        (ne_append_semicolon ['c'] (by decide) hc)
    all_goals rfl
  rw [string?, string?, hdialect]
  exact quoted?_semicolon _ _

theorem characterBody?_semicolon (d : Dialect) (s : List Char) :
    characterBody? d (s ++ [';']) = (characterBody? d s).map fun (c, r) => (c, r ++ [';']) := by
  fun_cases characterBody? d s
  case case1 s c r h =>
    rw [List.cons_append, characterBody?, escape?_semicolon, h]
    rfl
  case case2 s h =>
    rw [List.cons_append, characterBody?, escape?_semicolon]
    cases hs : escape? d s with
    | none => rfl
    | some found =>
      obtain ⟨c, _ | ⟨q, r⟩⟩ := found
      · rfl
      · by_cases hq : q = '\''
        · subst hq
          exact absurd hs (h c r)
        · simp [hq]
  case case3 c r hback hplain => simp [characterBody?, hplain]
  case case4 c r hback hplain => simp [characterBody?, hplain]
  case case5 hback hquote =>
    refine characterBody?.eq_3 d _ (ne_append_semicolon ['\\'] (by decide) hback) fun c r h => ?_
    rcases s with _ | ⟨a, _ | ⟨b, s⟩⟩
    · cases h
    · cases h
    · obtain ⟨-, h⟩ := List.cons.inj h
      obtain ⟨rfl, -⟩ := List.cons.inj h
      exact hquote a s rfl

theorem character?_semicolon (s : List Char) :
    character? (s ++ [';']) = (character? s).map fun (c, r) => (c, r ++ [';']) := by
  fun_cases character? s
  case case1 s => exact characterBody?_semicolon .text s
  case case2 s => exact characterBody?_semicolon .bytes s
  case case3 hquote hbyte =>
    exact character?.eq_3 _ (ne_append_semicolon ['\''] (by decide) hquote)
      (ne_append_semicolon ['b', '\''] (by decide) hbyte)

end StringLiteral

/-! ## Tokens -/

/-- A mark at the very end of a text touches a semicolon after it. -/
def Token.touching (rest : List Char) : Token → Token
  | .mark c spacing => .mark c (if rest = [] then .joint else spacing)
  | t => t

namespace Lexeme

variable {s : List Char}

theorem sign?_semicolon (h : s ≠ []) :
    sign? (s ++ [';']) = (sign? s).map fun (c, r) => (c, r ++ [';']) := by
  have hcons {c : Char} {s : List Char} (hline : ∀ t, c = '/' → s = '/' :: t → False)
      (hblock : ∀ t, c = '/' → s = '*' :: t → False) :
      sign? (c :: (s ++ [';'])) = if c ∈ signs then some (c, s ++ [';']) else none :=
    sign?.eq_3 c _ (fun t hc => ne_append_semicolon ['/'] (by decide) (fun r => hline r hc) t)
      (fun t hc => ne_append_semicolon ['*'] (by decide) (fun r => hblock r hc) t)
  fun_cases sign? s
  case case3 c s hline hblock hc => rw [List.cons_append, hcons hline hblock, if_pos hc]; rfl
  case case4 c s hline hblock hc => rw [List.cons_append, hcons hline hblock, if_neg hc]; rfl
  case case5 => exact absurd rfl h
  all_goals rfl

theorem dropLiteral?_semicolon (s : List Char) :
    dropLiteral? (s ++ [';']) = (dropLiteral? s).map (· ++ [';']) := by
  rw [dropLiteral?, dropLiteral?, StringLiteral.string?_semicolon]
  cases StringLiteral.string? s with
  | some found => exact congrArg some (Word.dropSuffix_semicolon found.2)
  | none =>
    rw [StringLiteral.character?_semicolon]
    cases StringLiteral.character? s with
    | some found => exact congrArg some (Word.dropSuffix_semicolon found.2)
    | none =>
      simp only [Option.map_none, Number.dropFloat?_semicolon, Number.dropInt?_semicolon]
      cases Number.dropFloat? s with
      | some r => rfl
      | none => rfl

theorem literal?_semicolon (s : List Char) :
    literal? (s ++ [';']) = (literal? s).map fun (t, r) => (t, r ++ [';']) := by
  rw [literal?, literal?, dropLiteral?_semicolon, Option.map_map, Option.map_map]
  refine Option.map_congr fun r _ => ?_
  have hlength : (s ++ [';']).length - (r ++ [';']).length = s.length - r.length := by simp
  simp only [Function.comp_apply, hlength]
  rw [List.take_append_of_le_length (by omega)]

theorem startsWithAny_semicolon {openings : List (List Char)} (h : ∀ o ∈ openings, ';' ∉ o)
    (s : List Char) : startsWithAny openings (s ++ [';']) = startsWithAny openings s := by
  induction openings with
  | nil => rfl
  | cons o openings ih =>
    obtain ⟨ho, h⟩ := List.forall_mem_cons.1 h
    have hrest := ih h
    simp only [startsWithAny, List.any_cons] at hrest ⊢
    rw [isPrefixOf_semicolon ho, hrest]

theorem word?_semicolon (s : List Char) :
    word? (s ++ [';']) = (word? s).map fun (t, r) => (t, r ++ [';']) := by
  have hopenings : startsWithAny literalOpenings (s ++ [';']) = startsWithAny literalOpenings s :=
    startsWithAny_semicolon (by decide) s
  rw [word?, word?, hopenings, Word.splitAny?_semicolon]
  split
  · rfl
  · rw [Option.map_map, Option.map_map]
    rfl

theorem mark?_semicolon (h : s ≠ []) :
    mark? (s ++ [';']) = (mark? s).map fun (t, r) => (t.touching r, r ++ [';']) := by
  rw [mark?.eq_def, mark?.eq_def, sign?_semicolon h]
  cases sign? s with
  | none => rfl
  | some found =>
    obtain ⟨c, r⟩ := found
    by_cases hquote : c = '\''
    · subst hquote
      simp only [Option.map_some, Word.splitAny?_semicolon]
      cases Word.splitAny? r with
      | none => rfl
      | some found =>
        obtain ⟨w, after⟩ := found
        simp only [Option.map_some, head?_semicolon (c := '\'') (by decide),
          head?_semicolon (c := '#') (by decide),
          isPrefixOf_semicolon (w := "r#".toList) (by decide)]
        split
        · rfl
        · simp [Token.touching]
    · have hspacing : (if (sign? (r ++ [';'])).isSome then Spacing.joint else .alone) =
          if r = [] then .joint else if (sign? r).isSome then .joint else .alone := by
        by_cases hr : r = []
        · subst hr
          rfl
        · rw [if_neg hr, sign?_semicolon hr, Option.isSome_map]
      simp [Token.touching, hspacing]

theorem leaf?_semicolon (h : s ≠ []) :
    leaf? (s ++ [';']) = (leaf? s).map fun (t, r) => (t.touching r, r ++ [';']) := by
  rw [leaf?.eq_def, leaf?.eq_def, literal?_semicolon]
  cases hliteral : literal? s with
  | some found =>
    obtain ⟨r, -, rfl⟩ := Option.map_eq_some_iff.1 hliteral
    rfl
  | none =>
    rw [mark?_semicolon h]
    cases mark? s with
    | some found => rfl
    | none =>
      rw [word?_semicolon]
      cases hword : word? s with
      | some found =>
        obtain ⟨t, r⟩ := found
        obtain ⟨⟨w, rfl⟩, -⟩ := suffix_of_word? hword
        rfl
      | none =>
        simp only [Option.map_none, isPrefixOf_semicolon (w := errorMark) (by decide)]
        split
        · next hprefix =>
          obtain ⟨t, rfl⟩ := List.isPrefixOf_iff_prefix.1 hprefix
          rw [List.append_assoc, List.drop_left, List.drop_left]
          rfl
        · rfl

theorem delimiter?_semicolon (h : s ≠ []) :
    delimiter? (s ++ [';']) = (delimiter? s).map fun (d, r) => (d, r ++ [';']) := by
  cases s with
  | nil => exact absurd rfl h
  | cons c s =>
    have hmark : errorMark.isPrefixOf (c :: (s ++ [';'])) = errorMark.isPrefixOf (c :: s) :=
      isPrefixOf_semicolon (by decide) (c :: s)
    rw [List.cons_append, delimiter?, delimiter?, hmark]
    split
    · rfl
    · cases Delimiter.ofOpening? c with
      | some d => rfl
      | none =>
        cases Delimiter.ofClosing? c with
        | some d => rfl
        | none => rfl

/-- A lexeme at the very end of a text touches a semicolon after it. -/
def touching (rest : List Char) : Lexeme → Lexeme
  | tokens [t] => tokens [t.touching rest]
  | lexeme => lexeme

/-- A semicolon after a text is no part of its first token, unless this is documentation that only
the end of the text ends. -/
theorem next?_semicolon (h : s ≠ []) (hdoc : ∀ d r, Comment.documentation? s = some (d, r) →
    ['/', '/'].isPrefixOf s = true → r ≠ []) :
    next? (s ++ [';']) = (next? s).map fun (lexeme, r) => (lexeme.touching r, r ++ [';']) := by
  rw [next?, next?]
  cases hs : Comment.documentation? s with
  | some found =>
    obtain ⟨d, r⟩ := found
    rw [Comment.documentation?_semicolon hs (hdoc d r hs)]
    have htwo : (tokens (ofDocumentation d)).touching r = tokens (ofDocumentation d) := by
      rw [ofDocumentation]
      split
      · rfl
      · rfl
    simp only [Option.map_some, htwo]
  | none =>
    rw [Comment.documentation?_semicolon_of_none hs, delimiter?_semicolon h]
    cases hdelimiter : delimiter? s with
    | some found =>
      obtain ⟨lexeme, r⟩ := found
      obtain ⟨d, ⟨-, rfl⟩ | ⟨-, rfl⟩⟩ := exists_of_delimiter? hdelimiter
      · rfl
      · rfl
    | none =>
      simp only [Option.map_none, leaf?_semicolon h, Option.map_map]
      rfl

end Lexeme

end TextTemplate
