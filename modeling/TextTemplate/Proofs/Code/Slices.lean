import TextTemplate.Proofs.Template.Braces

/-!
# Tokens as slices of a text

Every reader of code leaves an end of the text. So the characters that a token was read from stand in
the text where the places of the token say, and a literal is written there as it is kept.

- `Comment.suffix_skip`, `Comment.suffix_of_documentation?`: comments.
- `Lexeme.append_of_leaf?`: a literal and what follows it make up the text.
- `Lexeme.suffix_of_next?`: tokens and delimiters.
- `Placed.exists_of_from?`: where the lexemes of a text were read.
- `Placed.forall_of_nestWith?`: the tokens outside of groups are those of the lexemes.
- `Placed.exists_of_locate?`: a literal outside of groups is a slice of the text.
-/

namespace TextTemplate

/-! ## Comments -/

namespace Comment

theorem suffix_line (s : List Char) : (line s).2 <:+ s := by
  fun_induction line s with
  | case1 => exact List.suffix_refl _
  | case2 s => exact List.suffix_refl ('\n' :: s)
  | case3 s => exact List.suffix_cons '\r' ('\n' :: s)
  | case4 c s _ _ l r h ih =>
    rw [h] at ih
    exact ih.trans (List.suffix_cons c s)

theorem suffix_of_dropBlock? {depth : Nat} {s r : List Char} (h : dropBlock? depth s = some r) :
    r <:+ s := by
  fun_induction dropBlock? depth s with
  | case1 s =>
    obtain rfl := Option.some.inj h
    exact List.suffix_refl _
  | case2 depth s ih => exact (ih h).trans (List.suffix_append ['/', '*'] s)
  | case3 depth s ih => exact (ih h).trans (List.suffix_append ['*', '/'] s)
  | case4 depth c s _ _ ih => exact (ih h).trans (List.suffix_cons c s)
  | case5 => cases h

theorem suffix_skip (s : List Char) : skip s <:+ s := by
  fun_induction skip s with
  | case1 => exact List.suffix_refl _
  | case2 c s _ ih => exact ih.trans ((suffix_line s).trans (List.suffix_cons c s))
  | case3 c s _ _ r h ih =>
    exact ih.trans ((suffix_of_dropBlock? h).trans
      ((List.drop_suffix 1 s).trans (List.suffix_cons c s)))
  | case4 => exact List.suffix_refl _
  | case5 c s _ _ _ ih => exact ih.trans (List.suffix_cons c s)
  | case6 => exact List.suffix_refl _

theorem suffix_of_documentation? {s r : List Char} {d : Documentation}
    (h : documentation? s = some (d, r)) : r <:+ s := by
  have hline {inner : Bool} {t : List Char} (front : List Char)
      (h : documentationLine inner t = some (d, r)) : r <:+ front ++ t := by
    obtain ⟨-, rfl⟩ := Prod.mk.inj (Option.some.inj h)
    exact (suffix_line t).trans (List.suffix_append front t)
  have hblock {inner : Bool} {third : Char} {t : List Char} (front : List Char)
      (h : documentationBlock inner third t = some (d, r)) : r <:+ front ++ third :: t := by
    obtain ⟨r', hr, hpair⟩ := Option.map_eq_some_iff.1 h
    obtain ⟨-, rfl⟩ := Prod.mk.inj hpair
    exact (suffix_of_dropBlock? hr).trans (List.suffix_append front _)
  have hfound := (Option.filter_eq_some_iff.1 h).1
  split at hfound
  · exact hline ['/', '/', '!'] hfound
  · cases hfound
  · exact hline ['/', '/', '/'] hfound
  · exact hblock ['/', '*'] hfound
  · cases hfound
  · exact hblock ['/', '*'] hfound
  · cases hfound

end Comment

/-! ## Lexemes -/

namespace Lexeme

open Braced

variable {s r : List Char}

theorem suffix_of_drops (h : Drops s r) : r <:+ s := by
  obtain ⟨w, rfl, -⟩ := h
  exact List.suffix_append w r

theorem suffix_dropSuffix (s : List Char) : Word.dropSuffix s <:+ s := by
  obtain ⟨w, hs, -⟩ := exists_of_dropSuffix s
  exact ⟨w, hs.symm⟩

theorem suffix_of_dropLiteral? (h : dropLiteral? s = some r) : r <:+ s := by
  rw [dropLiteral?.eq_def] at h
  split at h
  · next v t hstring =>
    obtain rfl := Option.some.inj h
    have ht : t <:+ s := by
      obtain ⟨p, -, ⟨u, rfl, -⟩ | ⟨n, b, rfl, -⟩⟩ := StringLiteral.exists_of_string? hstring
      · exact List.suffix_append _ t
      · exact List.suffix_append _ t
    exact (suffix_dropSuffix t).trans ht
  · split at h
    · next c t hcharacter =>
      obtain rfl := Option.some.inj h
      obtain ⟨p, -, u, rfl, -⟩ := StringLiteral.exists_of_character? hcharacter
      exact (suffix_dropSuffix t).trans (List.suffix_append _ t)
    · rcases Option.or_eq_some_iff.1 h with h | ⟨-, h⟩
      · exact suffix_of_drops (drops_dropFloat? h).1
      · exact suffix_of_drops (drops_dropInt? h).1

/-- A literal and what follows it make up the text. -/
theorem append_of_literal? {t : Token} (h : literal? s = some (t, r)) :
    ∃ u, t = .literal (String.ofList u) ∧ s = u ++ r := by
  obtain ⟨r', hr, hpair⟩ := Option.map_eq_some_iff.1 h
  obtain ⟨rfl, rfl⟩ := Prod.mk.inj hpair
  obtain ⟨u, rfl⟩ := suffix_of_dropLiteral? hr
  refine ⟨u, ?_, rfl⟩
  rw [List.length_append, Nat.add_sub_cancel, List.take_left]

theorem cons_of_sign? {c : Char} (h : sign? s = some (c, r)) : s = c :: r := by
  rw [sign?.eq_def] at h
  split at h
  · cases h
  · cases h
  · split at h
    · obtain ⟨rfl, rfl⟩ := Prod.mk.inj (Option.some.inj h)
      rfl
    · cases h
  · cases h

/-- A mark is one character. -/
theorem cons_of_mark? {t : Token} (h : mark? s = some (t, r)) :
    ∃ c spacing, t = .mark c spacing ∧ s = c :: r := by
  rw [mark?.eq_def] at h
  split at h
  · cases h
  · next t' hs =>
    split at h
    · split at h
      · cases h
      · obtain ⟨rfl, rfl⟩ := Prod.mk.inj (Option.some.inj h)
        exact ⟨_, _, rfl, cons_of_sign? hs⟩
    · cases h
  · next c t' _ hs =>
    obtain ⟨rfl, rfl⟩ := Prod.mk.inj (Option.some.inj h)
    exact ⟨_, _, rfl, cons_of_sign? hs⟩

/-- What follows a word is an end of the text. -/
theorem suffix_of_word? {t : Token} (h : word? s = some (t, r)) :
    (∃ w, t = .word w) ∧ r <:+ s := by
  rw [word?] at h
  split at h
  · cases h
  · obtain ⟨⟨w, r'⟩, hw, hpair⟩ := Option.map_eq_some_iff.1 h
    obtain ⟨rfl, rfl⟩ := Prod.mk.inj hpair
    obtain ⟨p, -, t', v, rfl, hv⟩ := exists_of_splitAny? hw
    obtain ⟨-, rfl, -, -⟩ := exists_of_split? hv
    exact ⟨⟨_, rfl⟩, (List.suffix_append v r').trans (List.suffix_append p _)⟩

/-- What follows a token is an end of the text, and a literal is kept as it is written. -/
theorem append_of_leaf? {t : Token} (h : leaf? s = some (t, r)) :
    r <:+ s ∧ ∀ text, t = .literal text → s = text.toList ++ r := by
  rw [leaf?.eq_def] at h
  split at h
  · next hliteral =>
    obtain rfl := Option.some.inj h
    obtain ⟨u, rfl, rfl⟩ := append_of_literal? hliteral
    refine ⟨List.suffix_append u r, ?_⟩
    rintro text ⟨⟩
    rw [String.toList_ofList]
  · split at h
    · next hmark =>
      obtain rfl := Option.some.inj h
      obtain ⟨c, spacing, rfl, rfl⟩ := cons_of_mark? hmark
      exact ⟨List.suffix_cons c r, fun text htext => by cases htext⟩
    · split at h
      · next hword =>
        obtain rfl := Option.some.inj h
        obtain ⟨⟨w, rfl⟩, hr⟩ := suffix_of_word? hword
        exact ⟨hr, fun text htext => by cases htext⟩
      · split at h
        · next hprefix =>
          obtain ⟨rfl, rfl⟩ := Prod.mk.inj (Option.some.inj h)
          obtain ⟨t, rfl⟩ := List.isPrefixOf_iff_prefix.1 hprefix
          rw [List.drop_left]
          refine ⟨List.suffix_append _ t, ?_⟩
          rintro text ⟨⟩
          rw [String.toList_ofList]
        · cases h

/-- The tokens of a lexeme. -/
def code : Lexeme → Code
  | opening _ | closing _ => []
  | tokens code => code

/-- The text of a documentation comment stands in a group. -/
theorem literal_notMem_ofDocumentation {d : Comment.Documentation} {text : String} :
    .literal text ∉ ofDocumentation d := by
  rw [ofDocumentation]
  split
  · simp
  · simp

/-- What follows a lexeme is an end of the text. -/
theorem suffix_of_next? {lexeme : Lexeme} (h : next? s = some (lexeme, r)) : r <:+ s := by
  rw [next?.eq_def] at h
  split at h
  · next hdoc =>
    obtain ⟨-, rfl⟩ := Prod.mk.inj (Option.some.inj h)
    exact Comment.suffix_of_documentation? hdoc
  · split at h
    · next hdelimiter =>
      obtain rfl := Option.some.inj h
      obtain ⟨d, ⟨rfl, -⟩ | ⟨rfl, -⟩⟩ := exists_of_delimiter? hdelimiter
      · exact List.suffix_cons _ r
      · exact List.suffix_cons _ r
    · obtain ⟨⟨t, r'⟩, hleaf, hpair⟩ := Option.map_eq_some_iff.1 h
      obtain ⟨rfl, rfl⟩ := Prod.mk.inj hpair
      exact (append_of_leaf? hleaf).1

/-- A literal among the tokens of a lexeme is the token that was read. -/
theorem leaf?_of_next? {lexeme : Lexeme} (h : next? s = some (lexeme, r)) {text : String}
    (htext : .literal text ∈ lexeme.code) : leaf? s = some (.literal text, r) := by
  rw [next?.eq_def] at h
  split at h
  · obtain ⟨rfl, rfl⟩ := Prod.mk.inj (Option.some.inj h)
    exact absurd htext literal_notMem_ofDocumentation
  · split at h
    · next hdelimiter =>
      obtain rfl := Option.some.inj h
      obtain ⟨d, ⟨-, rfl⟩ | ⟨-, rfl⟩⟩ := exists_of_delimiter? hdelimiter
      · cases htext
      · cases htext
    · obtain ⟨⟨t, r'⟩, hleaf, hpair⟩ := Option.map_eq_some_iff.1 h
      obtain ⟨rfl, rfl⟩ := Prod.mk.inj hpair
      rw [List.mem_singleton.1 htext]
      exact hleaf

end Lexeme

/-! ## Places -/

namespace Placed

open Lexeme

/-- A value was read from the characters `u` of the text between `front` and `back`, by the reader of
lexemes, if `offset` characters stand before the text. -/
def ReadAt (offset : Nat) (x : Placed Lexeme) (front u back : List Char) : Prop :=
  x.start = offset + front.length ∧ x.stop = x.start + u.length ∧
    next? (u ++ back) = some (x.value, back)

/-- Every lexeme of a text was read where its places say. -/
theorem exists_of_from? {start : Nat} {s : List Char} {lexemes : List (Placed Lexeme)}
    (h : from? start s = some lexemes) :
    ∀ x ∈ lexemes, ∃ front u back, s = front ++ (u ++ back) ∧ x.ReadAt start front u back := by
  fun_induction from? start s generalizing lexemes with
  | case1 =>
    obtain rfl := Option.some.inj h
    exact fun x hx => absurd hx List.not_mem_nil
  | case2 => cases h
  | case3 start s s' hs' lexeme r hnext hlt before after =>
    rename_i ih
    obtain ⟨lexemes, hlexemes, rfl⟩ := Option.map_eq_some_iff.1 h
    obtain ⟨gap, hgap⟩ : s' <:+ s := Comment.suffix_skip s
    obtain ⟨u, hu⟩ : r <:+ s' := suffix_of_next? hnext
    have hbefore : before = start + gap.length := by
      show start + (s.length - s'.length) = _
      rw [← hgap, List.length_append, Nat.add_sub_cancel]
    have hafter : after = before + u.length := by
      show before + (s'.length - r.length) = _
      rw [← hu, List.length_append, Nat.add_sub_cancel]
    intro x hx
    rcases List.mem_cons.1 hx with rfl | hx
    · refine ⟨gap, u, r, by rw [hu, hgap], hbefore, hafter, ?_⟩
      rw [hu]
      exact hnext
    · obtain ⟨front, v, back, hr, hstart, hstop, hread⟩ := ih hlexemes x hx
      refine ⟨gap ++ (u ++ front), v, back, ?_, ?_, hstop, hread⟩
      · rw [List.append_assoc, List.append_assoc, ← hr, hu, hgap]
      · rw [hstart, hafter, hbefore, List.length_append, List.length_append, Nat.add_assoc,
          Nat.add_assoc]
  | case4 => cases h

/-- So was every lexeme of a whole text, which may begin with a byte order mark. -/
theorem exists_of_all? {s : List Char} {lexemes : List (Placed Lexeme)}
    (h : all? s = some lexemes) :
    ∀ x ∈ lexemes, ∃ front u back, s = front ++ (u ++ back) ∧ x.ReadAt 0 front u back := by
  intro x hx
  rw [all?.eq_def] at h
  split at h
  · obtain ⟨front, u, back, rfl, hstart, hread⟩ := exists_of_from? h x hx
    refine ⟨'\ufeff' :: front, u, back, rfl, ?_, hread⟩
    rw [hstart, List.length_cons, Nat.zero_add, Nat.add_comm]
  · exact exists_of_from? h x hx

/-- What is true of groups, and of the tokens of all lexemes, is true of all tokens outside of
groups. -/
theorem forall_of_nestWith? {P : Placed Token → Prop} {lexemes : List (Placed Lexeme)}
    {opened : List Open} {done tokens : List (Placed Token)}
    (hgroup : ∀ start stop d body, P ⟨start, stop, .group d body⟩)
    (hlexemes : ∀ x ∈ lexemes, ∀ t ∈ x.value.code, P ⟨x.start, x.stop, t⟩)
    (hopened : ∀ g ∈ opened, ∀ t ∈ g.before, P t) (hdone : ∀ t ∈ done, P t)
    (h : nestWith? lexemes opened done = some tokens) : ∀ t ∈ tokens, P t := by
  fun_induction nestWith? lexemes opened done with
  | case1 done =>
    obtain rfl := Option.some.inj h
    exact fun t ht => hdone t (List.mem_reverse.1 ht)
  | case2 => cases h
  | case3 start stop code rest opened done ih =>
    obtain ⟨hfirst, hrest⟩ := List.forall_mem_cons.1 hlexemes
    refine ih hrest hopened (fun t ht => ?_) h
    rcases List.mem_append.1 ht with ht | ht
    · obtain ⟨u, hu, rfl⟩ := List.mem_map.1 (List.mem_reverse.1 ht)
      exact hfirst u hu
    · exact hdone t ht
  | case4 start stop d rest opened done ih =>
    obtain ⟨-, hrest⟩ := List.forall_mem_cons.1 hlexemes
    exact ih hrest (List.forall_mem_cons.2 ⟨hdone, hopened⟩) (List.forall_mem_nil _) h
  | case5 start stop rest g opened done ih =>
    obtain ⟨-, hrest⟩ := List.forall_mem_cons.1 hlexemes
    obtain ⟨hbefore, hopened⟩ := List.forall_mem_cons.1 hopened
    exact ih hrest hopened (List.forall_mem_cons.2 ⟨hgroup _ _ _ _, hbefore⟩) h
  | case6 => cases h
  | case7 => cases h

/-- A literal outside of groups stands in the text where its places say, and it is read there. -/
theorem exists_of_locate? {s : List Char} {tokens : List (Placed Token)}
    (h : Code.locate? s = some tokens) {start stop : Nat} {text : String}
    (hmem : ⟨start, stop, .literal text⟩ ∈ tokens) :
    ∃ front back, s = front ++ (text.toList ++ back) ∧ start = front.length ∧
      stop = start + text.toList.length ∧
      leaf? (text.toList ++ back) = some (.literal text, back) := by
  obtain ⟨lexemes, hall, hnest⟩ := Option.bind_eq_some_iff.1 h
  have hslices := exists_of_all? hall
  have hall := forall_of_nestWith? (P := fun x => ∀ text, x.value = .literal text →
      ∃ front back, s = front ++ (text.toList ++ back) ∧ x.start = front.length ∧
        x.stop = x.start + text.toList.length ∧
        leaf? (text.toList ++ back) = some (.literal text, back))
    (fun _ _ _ _ _ htext => by cases htext) (fun x hx t ht text => ?_) (List.forall_mem_nil _)
    (List.forall_mem_nil _) hnest
  · exact hall _ hmem text rfl
  · rintro rfl
    obtain ⟨front, u, back, rfl, hstart, hstop, hnext⟩ := hslices x hx
    obtain rfl : u = text.toList :=
      List.append_cancel_right ((append_of_leaf? (leaf?_of_next? hnext ht)).2 text rfl)
    exact ⟨front, back, rfl, by rw [hstart, Nat.zero_add], hstop, leaf?_of_next? hnext ht⟩

end Placed

end TextTemplate
