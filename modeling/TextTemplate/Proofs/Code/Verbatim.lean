import TextTemplate.Expansion.Invocation
import TextTemplate.Proofs.Code.Slices
import TextTemplate.Proofs.Template.Places

/-!
# Literals that are written as they read

A literal in quotes is never shorter than its value and the two quotes. It is exactly as long if and
only if nothing in it stands for something else, so that its length alone tells whether the bytes of
the value are those of the literal.

- `add_byteCount_le_of_suffix`: an end of a text, in characters and in bytes.
- `StringLiteral.utf8Size_of_escape?`: an escape is at least as long as its character.
- `StringLiteral.Verbatim`: a text in which every character stands for itself.
- `StringLiteral.exists_inner_of_body?`: the inside of a literal, piece by piece.
- `Lexeme.exists_of_leaf?`, `leaf?_of_ofText?`: a token that is a text literal has a value.
- `Invocation.literal_of_isVerbatim`: what a literal is that passes the length test.
- `Invocation.isVerbatim_iff`: the main statement.
-/

namespace TextTemplate

/-! ## Bytes -/

theorem utf8ByteSize_ofList (s : List Char) : (String.ofList s).utf8ByteSize = byteCount s := by
  induction s with
  | nil => rfl
  | cons c s ih =>
    rw [← List.singleton_append, String.ofList_append, String.utf8ByteSize_append, ih,
      byteCount_append]
    simp [byteCount]

theorem utf8ByteSize_eq_byteCount (s : String) : s.utf8ByteSize = byteCount s.toList := by
  rw [← utf8ByteSize_ofList, String.ofList_toList]

theorem length_le_byteCount (s : List Char) : s.length ≤ byteCount s := by
  induction s with
  | nil => exact Nat.le_refl 0
  | cons c s ih =>
    have hc := c.utf8Size_pos
    rw [List.length_cons, byteCount]
    omega

/-- What is cut off the front of a text has no fewer bytes than characters. -/
theorem add_byteCount_le_of_suffix {r s : List Char} (h : r <:+ s) :
    s.length + byteCount r ≤ r.length + byteCount s := by
  obtain ⟨w, rfl⟩ := h
  have hw := length_le_byteCount w
  rw [List.length_append, byteCount_append]
  omega

namespace StringLiteral

/-! ## Escapes -/

variable {s r : List Char}

/-- A number in braces has a digit and a closing brace. -/
theorem length_add_two_of_scalarDigits? {m n : Nat} (h : scalarDigits? 0 m s = some (n, r)) :
    r.length + 2 ≤ s.length := by
  rw [scalarDigits?.eq_def] at h
  split at h
  · cases h
  · split at h
    · have hlt := length_scalarDigits? h
      rw [List.length_cons]
      omega
    · cases h

theorem length_of_hexPair? {n : Nat} (h : hexPair? s = some (n, r)) : s.length = r.length + 2 := by
  revert h
  fun_cases hexPair? s <;> grind

/-- An escape has at least as many characters as its own character has bytes. -/
theorem utf8Size_of_escape? {c : Char} (h : escape? .text s = some (c, r)) :
    c.utf8Size + r.length ≤ s.length := by
  have hshort (e : Char) {s : List Char} {x : Char} (hx : x.utf8Size = 1)
      (hs : some (x, s) = some (c, r)) : c.utf8Size + r.length ≤ (e :: s).length := by
    obtain ⟨rfl, rfl⟩ := Prod.mk.inj (Option.some.inj hs)
    rw [hx, List.length_cons]
    omega
  revert h
  fun_cases escape? .text s
  case case1 | case2 | case3 | case4 | case5 | case6 | case7 => exact hshort _ (by decide)
  case case9 s n s' hs hbyte =>
    intro h
    obtain ⟨rfl, rfl⟩ := Prod.mk.inj (Option.some.inj h)
    have hn : n < 128 := of_decide_eq_true hbyte
    have hsize : (Char.ofNat n).utf8Size = 1 := by
      rw [Char.utf8Size_eq_one_iff, Char.ofNat, dif_pos (.inl (by omega))]
      exact Nat.le_of_lt_succ hn
    have hlength := length_of_hexPair? hs
    rw [List.length_cons]
    omega
  case case12 s n s' hs e he hscalar =>
    intro h
    obtain ⟨rfl, rfl⟩ := Prod.mk.inj (Option.some.inj h)
    have hsize := e.utf8Size_le_four
    have hlength := length_add_two_of_scalarDigits? hs
    rw [List.length_cons, List.length_cons]
    omega
  all_goals exact fun h => absurd h.symm (Option.some_ne_none _)

theorem byteCount_of_escape? {c : Char} (h : escape? .text s = some (c, r)) :
    c.utf8Size + byteCount r ≤ byteCount s := by
  obtain ⟨e, w, rfl, -⟩ := exists_of_escape? h
  have hlength := utf8Size_of_escape? h
  have hbytes := add_byteCount_le_of_suffix (List.suffix_append (e :: w) r)
  rw [List.cons_append] at hbytes
  omega

/-! ## The inside of a literal -/

/-- In a text between quotes every character stands for itself: there is no backslash, and no line
end of two characters. -/
def Verbatim (inner : List Char) : Prop := '\\' ∉ inner ∧ ¬ ['\r', '\n'] <:+: inner

instance (inner : List Char) : Decidable (Verbatim inner) := inferInstanceAs (Decidable (_ ∧ _))

theorem not_verbatim_cons {c : Char} {t : List Char} (h : ¬ Verbatim t) : ¬ Verbatim (c :: t) :=
  fun hc => h ⟨fun hmem => hc.1 (List.mem_cons_of_mem c hmem),
    fun hinfix => hc.2 (List.infix_cons hinfix)⟩

theorem Verbatim.cons {c : Char} {t : List Char} (h : Verbatim t) (hback : c ≠ '\\')
    (hreturn : c ≠ '\r') : Verbatim (c :: t) := by
  refine ⟨fun hmem => ?_, fun hinfix => ?_⟩
  · obtain hc | hmem := List.mem_cons.1 hmem
    · exact hback hc.symm
    · exact h.1 hmem
  · obtain hprefix | hinfix := List.infix_cons_iff.1 hinfix
    · exact hreturn (List.cons_prefix_cons.1 hprefix).1.symm
    · exact h.2 hinfix

/-- The inside of a literal has more bytes than its value, or it is its value and every character
stands for itself. -/
theorem exists_inner_of_body? {v : List Char} (h : body? .text s = some (v, r)) :
    ∃ t, s = t ++ '"' :: r ∧
      (byteCount v < byteCount t ∧ ¬ Verbatim t ∨ v = t ∧ Verbatim t) := by
  have hle {v t : List Char}
      (h : byteCount v < byteCount t ∧ ¬ Verbatim t ∨ v = t ∧ Verbatim t) :
      byteCount v ≤ byteCount t := by
    obtain ⟨h, -⟩ | ⟨rfl, -⟩ := h
    · exact Nat.le_of_lt h
    · exact Nat.le_refl _
  have hback : '\\'.utf8Size = 1 := rfl
  fun_induction body? .text s generalizing v with
  | case1 => cases h
  | case2 s =>
    obtain ⟨rfl, rfl⟩ := Prod.mk.inj (Option.some.inj h)
    exact ⟨[], rfl, .inr ⟨rfl, List.not_mem_nil, by simp⟩⟩
  | case3 s ih =>
    simp only [Option.map_eq_some_iff, Prod.exists, Prod.mk.injEq] at h
    obtain ⟨v, r, hv, rfl, rfl⟩ := h
    obtain ⟨t, rfl, ht⟩ := ih hv
    have hbytes := hle ht
    refine ⟨'\r' :: '\n' :: t, rfl, .inl ⟨?_, fun h => h.2 ⟨[], t, rfl⟩⟩⟩
    have hreturn : '\r'.utf8Size = 1 := rfl
    simp only [byteCount]
    omega
  | case4 => cases h
  | case5 s _ s' hs' _ ih =>
    obtain ⟨t, rfl, ht⟩ := ih h
    have hbytes := hle ht
    obtain ⟨w, rfl, -⟩ := exists_of_dropIndent? hs'
    refine ⟨'\\' :: (w ++ t), by simp, .inl ⟨?_, fun h => h.1 List.mem_cons_self⟩⟩
    rw [byteCount, byteCount_append]
    omega
  | case6 => cases h
  | case7 s _ c s' hs' _ ih =>
    simp only [Option.map_eq_some_iff, Prod.exists, Prod.mk.injEq] at h
    obtain ⟨v, r, hv, rfl, rfl⟩ := h
    obtain ⟨t, rfl, ht⟩ := ih hv
    have hbytes := hle ht
    have hescape := byteCount_of_escape? hs'
    obtain ⟨e, w, rfl, -⟩ := exists_of_escape? hs'
    refine ⟨'\\' :: e :: (w ++ t), by simp, .inl ⟨?_, fun h => h.1 List.mem_cons_self⟩⟩
    simp only [byteCount, byteCount_append] at hescape ⊢
    omega
  | case8 => cases h
  | case9 c s _ _ hreturn hback _ ih =>
    simp only [Option.map_eq_some_iff, Prod.exists, Prod.mk.injEq] at h
    obtain ⟨v, r, hv, rfl, rfl⟩ := h
    obtain ⟨t, rfl, ⟨hlt, ht⟩ | ⟨rfl, ht⟩⟩ := ih hv
    · refine ⟨c :: t, rfl, .inl ⟨?_, not_verbatim_cons ht⟩⟩
      rw [byteCount, byteCount]
      omega
    · exact ⟨c :: v, rfl, .inr ⟨rfl, ht.cons hback hreturn⟩⟩
  | case10 => cases h

/-! ## Whole literals -/

/-- A literal in quotes: its inside, and after the closing quote perhaps a suffix. -/
theorem exists_inner_of_value? {v : List Char} (h : value? ('"' :: s) = some v) :
    ∃ t suffix, s = t ++ '"' :: suffix ∧
      (byteCount v < byteCount t ∧ ¬ Verbatim t ∨ v = t ∧ Verbatim t) := by
  obtain ⟨⟨v', suffix⟩, hbody, rfl⟩ := Option.map_eq_some_iff.1 h
  obtain ⟨t, hs, ht⟩ := exists_inner_of_body? hbody
  exact ⟨t, suffix, hs, ht⟩

end StringLiteral

namespace Lexeme

open StringLiteral

variable {s r : List Char} {text : String}

theorem dropFloat?_eq_none (h : Number.startsDecimal s = false) : Number.dropFloat? s = none := by
  simp [Number.dropFloat?, Number.dropFloatDigits?, h]

theorem dropInt?_eq_none (hbase : Number.base s = (10, s)) (h : Number.startsDecimal s = false) :
    Number.dropInt? s = none := by
  simp [Number.dropInt?, Number.dropDigits?, hbase, h]

/-- No other literal begins like a text literal. -/
theorem exists_of_dropLiteral? (htext : isText s = true) (h : dropLiteral? s = some r) :
    ∃ value t, quoted? .text s = some (value, t) ∧ Word.dropSuffix t = r := by
  have hfirst : string? s = quoted? .text s ∧ character? s = none ∧ Number.dropFloat? s = none ∧
      Number.dropInt? s = none := by
    rw [isText.eq_def] at htext
    split at htext
    · exact ⟨rfl, rfl, dropFloat?_eq_none rfl, dropInt?_eq_none rfl rfl⟩
    · exact ⟨rfl, rfl, dropFloat?_eq_none rfl, dropInt?_eq_none rfl rfl⟩
    · cases htext
  obtain ⟨hstring, hcharacter, hfloat, hint⟩ := hfirst
  rw [dropLiteral?.eq_def, hstring, hcharacter, hfloat, hint] at h
  split at h
  · next value t hvalue => exact ⟨value, t, hvalue, Option.some.inj h⟩
  · cases h

/-- A token that is a text literal is read as one. -/
theorem exists_of_leaf? (htext : isText text.toList = true) (h : leaf? s = some (.literal text, r))
    (hs : isText s = true) :
    ∃ value t, quoted? .text s = some (value, t) ∧ Word.dropSuffix t = r := by
  rw [leaf?.eq_def] at h
  split at h
  · next hliteral =>
    obtain rfl := Option.some.inj h
    obtain ⟨r', hr, hpair⟩ := Option.map_eq_some_iff.1 hliteral
    obtain ⟨-, rfl⟩ := Prod.mk.inj hpair
    exact exists_of_dropLiteral? hs hr
  · split at h
    · next hmark =>
      obtain rfl := Option.some.inj h
      obtain ⟨c, spacing, hc, -⟩ := cons_of_mark? hmark
      cases hc
    · split at h
      · next hword =>
        obtain rfl := Option.some.inj h
        obtain ⟨⟨w, hw⟩, -⟩ := suffix_of_word? hword
        cases hw
      · split at h
        · obtain ⟨hmark, -⟩ := Prod.mk.inj (Option.some.inj h)
          rw [← Token.literal.inj hmark, String.toList_ofList] at htext
          exact absurd htext (by decide)
        · cases h

end Lexeme

/-- A text that is a single literal is read as that token, and nothing is left. -/
theorem leaf?_of_ofText? {text : String} (h : Code.ofText? text = some [.literal text]) :
    Lexeme.leaf? text.toList = some (.literal text, []) := by
  obtain ⟨tokens, htokens, hvalues⟩ := Option.map_eq_some_iff.1 h
  obtain ⟨⟨start, stop, t⟩, rfl, ht⟩ := List.map_eq_singleton_iff.1 hvalues
  obtain rfl : t = .literal text := ht
  obtain ⟨front, back, hs, -, -, hleaf⟩ :=
    Placed.exists_of_locate? htokens (List.mem_singleton.2 rfl)
  have hlength := congrArg List.length hs
  rw [List.length_append, List.length_append] at hlength
  obtain rfl : back = [] := List.eq_nil_of_length_eq_zero (by omega)
  rwa [List.append_nil] at hleaf

namespace Invocation

open StringLiteral

/-- The length test in numbers of bytes. -/
theorem isVerbatim_iff_byteCount (i : Invocation) :
    i.isVerbatim = true ↔ i.literal.toList.head? = some '"' ∧
      byteCount i.literal.toList = byteCount i.value + 2 := by
  rw [isVerbatim, utf8ByteSize_ofList, utf8ByteSize_eq_byteCount, Bool.and_eq_true, beq_iff_eq,
    beq_iff_eq]

/-- The inside of a literal that passes the length test is its value. -/
theorem literal_of_isVerbatim {i : Invocation} (hvalue : value? i.literal.toList = some i.value)
    (h : i.isVerbatim = true) :
    i.literal.toList = '"' :: (i.value ++ ['"']) ∧ Verbatim i.value := by
  obtain ⟨hhead, hbytes⟩ := (isVerbatim_iff_byteCount i).1 h
  obtain ⟨s, hs⟩ := List.head?_eq_some_iff.1 hhead
  rw [hs] at hvalue hbytes ⊢
  obtain ⟨t, suffix, rfl, ht⟩ := exists_inner_of_value? hvalue
  have hquote : '"'.utf8Size = 1 := rfl
  simp only [byteCount, byteCount_append, hquote] at hbytes
  obtain ⟨hlt, -⟩ | ⟨rfl, hv⟩ := ht
  · omega
  · have hsuffix := length_le_byteCount suffix
    obtain rfl : suffix = [] := List.eq_nil_of_length_eq_zero (by omega)
    exact ⟨rfl, hv⟩

/-- The last character of a text is not part of a suffix if it is a quote. -/
theorem eq_nil_of_dropSuffix {t inner suffix : List Char} (h : Word.dropSuffix suffix = [])
    (hs : inner ++ ['"'] = t ++ '"' :: suffix) : suffix = [] ∧ inner = t := by
  obtain ⟨w, hw, hquiet, -⟩ := Braced.exists_of_dropSuffix suffix
  rw [h, List.append_nil] at hw
  subst hw
  obtain rfl | ⟨w, c, rfl⟩ := List.eq_nil_or_concat suffix
  · exact ⟨rfl, List.append_cancel_right hs⟩
  · have hlast := congrArg List.getLast? hs
    rw [List.concat_eq_append, List.getLast?_concat, ← List.cons_append, ← List.append_assoc,
      List.getLast?_concat] at hlast
    have hc := hquiet c (by simp)
    rw [← Option.some.inj hlast] at hc
    exact absurd hc (by decide)

/-- The bytes between two quotes stand one place further on than by themselves. -/
theorem exists_getElem_quoted {text : String} {inner : List Char}
    (h : text.toList = '"' :: (inner ++ ['"'])) (o : Nat)
    (ho : o < (String.ofList inner).toByteArray.size) :
    ∃ ho' : o + 1 < text.toByteArray.size,
      text.toByteArray[o + 1] = (String.ofList inner).toByteArray[o] := by
  have hquote : (['"'] : List Char).utf8Encode.size = 1 := rfl
  have hbytes : text.toByteArray =
      ['"'].utf8Encode ++ (String.ofList inner).toByteArray ++ ['"'].utf8Encode := by
    rw [← String.ofList_toList (s := text), h, String.toByteArray_ofList, String.toByteArray_ofList,
      ← List.singleton_append, List.utf8Encode_append, List.utf8Encode_append, ByteArray.append_assoc]
  have hsize : o + 1 < text.toByteArray.size := by
    rw [hbytes, ByteArray.size_append, ByteArray.size_append, hquote]
    omega
  refine ⟨hsize, ?_⟩
  simp only [hbytes]
  rw [ByteArray.getElem_append_left (by rw [ByteArray.size_append, hquote]; omega),
    ByteArray.getElem_append_right (by rw [hquote]; omega)]
  simp only [hquote, Nat.add_sub_cancel]

/-- A text literal begins with a quote and is two bytes longer than its value if and only if it is
written in quotes without a suffix and every character between the quotes stands for itself. Then
what stands there is the value, and so each byte of the value follows the same byte of the literal,
counted from its opening quote. -/
theorem isVerbatim_iff {text : String} (htoken : Code.ofText? text = some [.literal text])
    (htext : isText text.toList = true) :
    ∃ value, value? text.toList = some value ∧
      (∀ place lineOffset, (Invocation.mk text place value lineOffset).isVerbatim = true ↔
        ∃ inner, text.toList = '"' :: (inner ++ ['"']) ∧ Verbatim inner) ∧
      ∀ inner, text.toList = '"' :: (inner ++ ['"']) → Verbatim inner →
        value = inner ∧ ∀ o (_ : o < (String.ofList value).toByteArray.size),
          ∃ _ : o + 1 < text.toByteArray.size,
            text.toByteArray[o + 1] = (String.ofList value).toByteArray[o] := by
  obtain ⟨value, suffix, hquoted, hsuffix⟩ :=
    Lexeme.exists_of_leaf? htext (leaf?_of_ofText? htoken) htext
  have hvalue : value? text.toList = some value := by
    rw [value?, if_pos htext, hquoted]
    rfl
  have hinner {inner : List Char} (h : text.toList = '"' :: (inner ++ ['"']))
      (hverbatim : Verbatim inner) : value = inner := by
    rw [h] at hquoted
    obtain ⟨t, hs, ht⟩ := exists_inner_of_body? hquoted
    obtain ⟨-, rfl⟩ := eq_nil_of_dropSuffix hsuffix hs
    obtain ⟨-, hno⟩ | ⟨rfl, -⟩ := ht
    · exact absurd hverbatim hno
    · rfl
  refine ⟨value, hvalue, fun place lineOffset => ⟨fun h => ?_, ?_⟩, fun inner h hverbatim => ?_⟩
  · exact ⟨value, literal_of_isVerbatim hvalue h⟩
  · rintro ⟨inner, h, hverbatim⟩
    rw [isVerbatim_iff_byteCount, hinner h hverbatim, h]
    refine ⟨rfl, ?_⟩
    have hquote : '"'.utf8Size = 1 := rfl
    simp only [byteCount, byteCount_append, hquote]
    omega
  · obtain rfl := hinner h hverbatim
    exact ⟨rfl, exists_getElem_quoted h⟩

/-- A literal of two lines, with a character of two bytes. -/
theorem isVerbatim_iff_two_lines :
    Code.ofText? "\"é@\n\x7bx\"" = some [.literal "\"é@\n\x7bx\""] ∧
      value? "\"é@\n\x7bx\"".toList = some "é@\n\x7bx".toList ∧
      ∀ place lineOffset,
        (Invocation.mk "\"é@\n\x7bx\"" place "é@\n\x7bx".toList lineOffset).isVerbatim = true := by
  have htoken : Code.ofText? "\"é@\n\x7bx\"" = some [.literal "\"é@\n\x7bx\""] := by decide +kernel
  have hinner : "\"é@\n\x7bx\"".toList = '"' :: ("é@\n\x7bx".toList ++ ['"']) := by decide
  have hverbatim : Verbatim "é@\n\x7bx".toList := by decide
  obtain ⟨value, hvalue, hiff, hbytes⟩ := isVerbatim_iff htoken (by decide)
  obtain ⟨rfl, -⟩ := hbytes _ hinner hverbatim
  exact ⟨htoken, hvalue, fun place lineOffset =>
    (hiff place lineOffset).2 ⟨_, hinner, hverbatim⟩⟩

end Invocation

end TextTemplate
