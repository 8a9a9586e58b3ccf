import TextTemplate.Proofs.Text.Words
import TextTemplate.Template.Piece

/-!
# Tags by their words

The tests for tags overlap: each looks at the front of the tag, in a fixed order. What a tag is
depends on whole words only, and on how it is spaced only as far as a keyword needs white space
after it.

- `Piece.after?_eq`: a test for a keyword compares the first word.
- `Piece.ofWords?`: the tags with their first words.
- `Piece.ofTag_eq`, `Piece.ofTag_of_keyword`: a tag is looked up by its first word.
- `Piece.ofTag_if`, `Piece.ofTag_for`, `Piece.ofTag_elseIf`, `Piece.ofTag_do`: tags with more text.
- `Piece.Respaced`, `Piece.lookup?_of_respaced`: other white space leads to the same tag.
- `Piece.ofTag_by_words`: the main statement.
-/

namespace TextTemplate

namespace Piece

open Text

/-! ## Keywords -/

/-- A tag begins with a keyword exactly if this is its first word. -/
theorem after?_eq (word : String) (hword : Solid word.toList) (tag : List Char) :
    after? word tag =
      if String.ofList (firstWord tag) = word then some (afterWord tag) else none := by
  have hiff : String.ofList (firstWord tag) = word ↔ firstWord tag = word.toList := by
    rw [← String.toList_inj, String.toList_ofList]
  simp only [hiff]
  rw [after?]
  split
  · next hprefix =>
    obtain ⟨t, rfl⟩ := List.isPrefixOf_iff_prefix.1 hprefix
    rw [List.drop_left]
    cases t with
    | nil =>
      obtain ⟨hfirst, hrest⟩ := words_append (r := []) hword nofun
      rw [if_pos hfirst, hrest, trim_nil]
    | cons c t =>
      cases hc : isBlank c with
      | true =>
        have hhead : ∀ d ∈ (c :: t).head?, isBlank d = true := by
          rintro d ⟨⟩
          exact hc
        obtain ⟨hfirst, hrest⟩ := words_append hword hhead
        rw [if_pos hfirst, hrest]
        exact if_pos hc
      | false =>
        -- The first word goes on after the keyword.
        have hlonger : firstWord (word.toList ++ c :: t) ≠ word.toList := by
          have hgoesOn : firstWord (c :: t) = c :: firstWord t :=
            List.takeWhile_cons_of_pos (by rw [hc]; rfl)
          rw [firstWord_solid_append hword, hgoesOn]
          exact fun h => absurd (List.append_right_eq_self.1 h) (List.cons_ne_nil _ _)
        rw [if_neg hlonger]
        exact if_neg (by rw [hc]; exact Bool.false_ne_true)
  · next hprefix =>
    have hother : firstWord tag ≠ word.toList := by
      intro hfirst
      refine hprefix (List.isPrefixOf_iff_prefix.2 ?_)
      rw [← hfirst]
      exact firstWord_prefix tag
    rw [if_neg hother]

/-! ## The table -/

/-- The piece of a tag with a first word and what follows it, if there is such a tag. -/
def ofWords? (p : Position) (word rest : List Char) : Option (Except Cause Piece) :=
  match String.ofList word with
  | "#if" =>
    if rest = [] then some (.error (.missingCondition false))
    else some ((lex rest).map (openIf p))
  | "#for" => some ((lex rest >>= loopHead).map fun head => openFor p head.1 head.2)
  | ":else" =>
    if rest = [] then some (.ok (terminator p .otherwise))
    else if String.ofList (firstWord rest) = "if" then
      if afterWord rest = [] then some (.error (.missingCondition true))
      else some ((lex (afterWord rest)).map fun code => terminator p (.elseIf code))
    else none
  | "/if" => if rest = [] then some (.ok (terminator p .endIf)) else none
  | "/for" => if rest = [] then some (.ok (terminator p .endFor)) else none
  | "$do" => some ((expression rest).map (chunk .effect))
  | "$let" => some ((binding rest).map (chunk .effect))
  | _ => none

theorem map_condition (chained : Bool) (s : List Char) (f : Code → Piece) :
    (condition chained s).map f =
      if s = [] then .error (.missingCondition chained) else (lex s).map f := by
  rw [condition]
  split <;> rfl

theorem map_loopHead (p : Position) (s : List Char) :
    (do
      let (pattern, iterator) ← loopHead (← lex s)
      return openFor p pattern iterator) =
      (lex s >>= loopHead).map fun head => openFor p head.1 head.2 := by
  cases lex s with
  | error cause => rfl
  | ok code =>
    show (loopHead code >>= _) = (loopHead code).map _
    cases loopHead code <;> rfl

/-- A tag is what its words say. -/
theorem ofTag_eq (p : Position) (tag : List Char) :
    ofTag p tag = (ofWords? p (firstWord (trim tag)) (afterWord (trim tag))).getD
      (.error (.unknownTag (String.ofList (trim tag)))) := by
  have hend (word : String) (hword : Solid word.toList) : trim tag = word.toList ↔
      String.ofList (firstWord (trim tag)) = word ∧ afterWord (trim tag) = [] := by
    rw [trim_eq_iff hword, ← String.toList_inj, String.toList_ofList]
  have hendIf := hend "/if" (by decide)
  have hendFor := hend "/for" (by decide)
  rw [ofTag, ofTrimmedTag, after?_eq "#if" (by decide), after?_eq "#for" (by decide),
    after?_eq ":else" (by decide), after?_eq "$do" (by decide), after?_eq "$let" (by decide)]
  simp only [hendIf, hendFor]
  rw [ofWords?]
  -- Only the words matter from here on; the tests look for one word after the other.
  generalize String.ofList (firstWord (trim tag)) = word
  generalize afterWord (trim tag) = rest
  symm
  split
  case h_1 =>
    rw [if_pos rfl]
    dsimp only
    rw [map_condition]
    split <;> rfl
  case h_2 =>
    rw [if_neg (by decide), if_pos rfl]
    exact (map_loopHead p rest).symm
  case h_3 =>
    have hif := after?_eq "if" (by decide) rest
    by_cases hrest : rest = []
    · simp [hrest]
    · by_cases hword : String.ofList (firstWord rest) = "if"
      · simp only [hword, if_true] at hif
        simp only [hrest, hword, hif, map_condition, ↓reduceIte, String.reduceEq,
          Option.some.injEq, Option.bind_some]
        split <;> rfl
      · simp only [hword, if_false] at hif
        simp [hrest, hword, hif]
  case h_4 | h_5 =>
    simp only [String.reduceEq, ↓reduceIte, reduceCtorEq, Option.bind_none, true_and, false_and]
    split <;> rfl
  case h_6 | h_7 => simp
  case h_8 hif hfor helse hendIf hendFor hdo hlet =>
    rw [if_neg hif, if_neg hfor, if_neg helse, if_neg hdo, if_neg hlet, if_neg nofun,
      Option.bind_none, if_neg (mt And.left hendIf), if_neg (mt And.left hendFor)]
    rfl

/-- A tag that begins with a keyword is what the table says about this word. -/
theorem ofTag_of_keyword {word : String} {tag rest : List Char} (p : Position)
    (hword : Solid word.toList) (htag : after? word (trim tag) = some rest) :
    ofTag p tag = (ofWords? p word.toList rest).getD
      (.error (.unknownTag (String.ofList (trim tag)))) := by
  rw [after?_eq word hword] at htag
  split at htag
  · next hfirst =>
    cases htag
    rw [ofTag_eq, ← hfirst, String.toList_ofList]
  · cases htag

/-! ## Tags with more text -/

section

variable (p : Position) {s : List Char}

/-- A tag of a word, a blank and more text. -/
theorem ofTag_word (word : List Char) (hword : IsWord word) (s : List Char) :
    ofTag p (word ++ ' ' :: s) = (ofWords? p word (trim s)).getD
      (.error (.unknownTag (String.ofList (trim (word ++ ' ' :: s))))) := by
  obtain ⟨hfirst, hafter⟩ := words_trim hword (b := [' ']) (by decide) s
  rw [List.append_assoc, List.singleton_append] at hfirst hafter
  rw [ofTag_eq, hfirst, hafter]

/-- Of a second condition only the text after the word `if` matters. -/
theorem ofWords?_elseIf {b : List Char} (hb : Gap b) (s : List Char) :
    ofWords? p ":else".toList (trim ("if".toList ++ b ++ s)) =
      some ((condition true (trim s)).map fun code => terminator p (.elseIf code)) := by
  obtain ⟨hfirst, hafter⟩ := words_trim (w := "if".toList) (by decide) hb s
  have hne : trim ("if".toList ++ b ++ s) ≠ [] := by
    intro h
    rw [h] at hfirst
    exact absurd hfirst (by decide)
  show (if _ then _ else _) = _
  rw [if_neg hne, hfirst, hafter, if_pos String.ofList_toList, map_condition]
  split <;> rfl

theorem ofTag_if (hs : trim s = s) :
    ofTag p ("#if".toList ++ ' ' :: s) = (condition false s).map (openIf p) := by
  rw [ofTag_word p "#if".toList (by decide), hs, map_condition]
  show Option.getD (if _ then _ else _) _ = _
  split <;> rfl

theorem ofTag_for (hs : trim s = s) :
    ofTag p ("#for".toList ++ ' ' :: s) =
      (lex s >>= loopHead).map fun head => openFor p head.1 head.2 := by
  rw [ofTag_word p "#for".toList (by decide), hs]
  rfl

theorem ofTag_elseIf (hs : trim s = s) :
    ofTag p (":else if".toList ++ ' ' :: s) =
      (condition true s).map fun code => terminator p (.elseIf code) := by
  have htag : ":else if".toList ++ ' ' :: s =
      ":else".toList ++ ' ' :: ("if".toList ++ [' '] ++ s) :=
    rfl
  rw [htag, ofTag_word p ":else".toList (by decide), ofWords?_elseIf p (by decide), hs]
  rfl

theorem ofTag_do (hs : trim s = s) :
    ofTag p ("$do".toList ++ ' ' :: s) = (expression s).map (chunk .effect) := by
  rw [ofTag_word p "$do".toList (by decide), hs]
  rfl

end

/-! ## White space in tags -/

/-- Texts of tags that differ only in the white space around the tag and behind a keyword. -/
inductive Respaced : List Char → List Char → Prop
  | before (a b : List Char) (ha : Blanks a) (hb : Blanks b) (tag : List Char) :
    Respaced (a ++ tag) (b ++ tag)
  | after (tag a b : List Char) (ha : Blanks a) (hb : Blanks b) : Respaced (tag ++ a) (tag ++ b)
  | behind (word a b : List Char) (hword : IsWord word) (ha : Gap a) (hb : Gap b)
    (rest : List Char) : Respaced (word ++ a ++ rest) (word ++ b ++ rest)
  | behindIf (gap a b : List Char) (hgap : Gap gap) (ha : Gap a) (hb : Gap b) (rest : List Char) :
    Respaced (":else".toList ++ gap ++ ("if".toList ++ a ++ rest))
      (":else".toList ++ gap ++ ("if".toList ++ b ++ rest))
  | trans {s t u : List Char} (hst : Respaced s t) (htu : Respaced t u) : Respaced s u

/-- The entry of a tag in the table. -/
def lookup? (p : Position) (tag : List Char) : Option (Except Cause Piece) :=
  ofWords? p (firstWord (trim tag)) (afterWord (trim tag))

theorem lookup?_behind {word a : List Char} (p : Position) (hword : IsWord word) (ha : Gap a)
    (rest : List Char) : lookup? p (word ++ a ++ rest) = ofWords? p word (trim rest) := by
  obtain ⟨hfirst, hafter⟩ := words_trim hword ha rest
  rw [lookup?, hfirst, hafter]

/-- Other white space leads to the same entry. -/
theorem lookup?_of_respaced (p : Position) {s t : List Char} (h : Respaced s t) :
    lookup? p s = lookup? p t := by
  induction h with
  | before a b ha hb tag => rw [lookup?, lookup?, trim_blanks_append ha, trim_blanks_append hb]
  | after tag a b ha hb =>
    rw [lookup?, lookup?, trim_append_blanks tag ha, trim_append_blanks tag hb]
  | behind word a b hword ha hb rest => rw [lookup?_behind p hword ha, lookup?_behind p hword hb]
  | behindIf gap a b hgap ha hb rest =>
    have helse : IsWord ":else".toList := by decide
    rw [lookup?_behind p helse hgap, lookup?_behind p helse hgap, ofWords?_elseIf p ha,
      ofWords?_elseIf p hb]
  | trans _ _ ihst ihtu => exact ihst.trans ihtu

/-- **Tags are decided by whole words.** A tag is what the table says about its first word and what
follows this word, and there is no other tag. So a tag may be spaced in any way: it stays what it
is, and if it is unknown, only its text in the complaint is another one. -/
theorem ofTag_by_words (p : Position) (tag : List Char) :
    ofTag p tag = (ofWords? p (firstWord (trim tag)) (afterWord (trim tag))).getD
        (.error (.unknownTag (String.ofList (trim tag)))) ∧
      ∀ tag', Respaced tag tag' → ofTag p tag' = ofTag p tag ∨
        ofTag p tag = .error (.unknownTag (String.ofList (trim tag))) ∧
          ofTag p tag' = .error (.unknownTag (String.ofList (trim tag'))) := by
  refine ⟨ofTag_eq p tag, fun tag' h => ?_⟩
  have hentry := lookup?_of_respaced p h
  have htag : ofTag p tag = (lookup? p tag).getD _ := ofTag_eq p tag
  have htag' : ofTag p tag' = (lookup? p tag').getD _ := ofTag_eq p tag'
  rw [← hentry] at htag'
  cases hfound : lookup? p tag with
  | none =>
    rw [hfound] at htag htag'
    exact .inr ⟨htag, htag'⟩
  | some piece =>
    rw [hfound] at htag htag'
    exact .inl (htag'.trans htag.symm)

/-- A second condition with other white space in every place where it may be. -/
theorem ofTag_by_words_spaced :
    Respaced ":else if x".toList "\u2003:else\n\tif\u00a0 x ".toList ∧
      ofTag .start ":else if x".toList = .ok (terminator .start (.elseIf [.word "x"])) ∧
      ofTag .start "\u2003:else\n\tif\u00a0 x ".toList =
        .ok (terminator .start (.elseIf [.word "x"])) := by
  have hspaced : Respaced ":else if x".toList "\u2003:else\n\tif\u00a0 x ".toList :=
    .trans (.behindIf [' '] [' '] ['\u00a0', ' '] (by decide) (by decide) (by decide) ['x'])
      (.trans (.behind ":else".toList [' '] ['\n', '\t'] (by decide) (by decide) (by decide)
          "if\u00a0 x".toList)
        (.trans (.before [] ['\u2003'] (by decide) (by decide) ":else\n\tif\u00a0 x".toList)
          (.after "\u2003:else\n\tif\u00a0 x".toList [] [' '] (by decide) (by decide))))
  have hfirst : firstWord (trim ":else if x".toList) = ":else".toList := by decide
  have hafter : afterWord (trim ":else if x".toList) = trim ("if".toList ++ [' '] ++ ['x']) := by
    decide
  have hcondition : condition true (trim ['x']) = .ok [.word "x"] := by
    rw [condition, if_neg (by decide), lex,
      show Code.ofChars? (trim ['x']) = some [.word "x"] by decide +kernel]
  have htag : ofTag .start ":else if x".toList =
      .ok (terminator .start (.elseIf [.word "x"])) := by
    rw [(ofTag_by_words .start _).1, hfirst, hafter, ofWords?_elseIf .start (by decide), hcondition]
    rfl
  refine ⟨hspaced, htag, ?_⟩
  rcases (ofTag_by_words .start _).2 _ hspaced with h | ⟨h, -⟩
  · exact h.trans htag
  · rw [htag] at h
    cases h

/-- A keyword that goes on is none. -/
example : ofTag .start "#iffy x".toList = .error (.unknownTag "#iffy x") := rfl

/-- Nor is there a tag that ends a choice and goes on. -/
example : ofTag .start " /if  x".toList = .error (.unknownTag "/if  x") := rfl

end Piece

end TextTemplate
