import TextTemplate.Proofs.Template.NormalForm
import TextTemplate.Proofs.Template.Splitting

/-!
# A template up to a construct

A construct at the front of a template is found without a look at what comes after it, but for a
single quote. So the template may go on in another way behind a construct, and is still cut in the
same way up to there.

- `Opening.at?_swap`, `Braced.readFrom_swap`: a text in braces with something else behind it.
- `Cut.closes`: cuts that end with a brace.
- `Cut.Stands.swap`: a cut with something else behind it.
- `Cut.InRow`: the cuts of a template, one after the other, up to some point of it.
- `Cut.InRow.swap`: the cuts of a template that goes on in another way.
- `Piece.Understood`: cuts in a row that are understood.
- `Piece.scanFrom_of_understood`: their pieces are the first pieces of the template.
-/

namespace TextTemplate

namespace Opening

variable {before : List Char} {c : Char}

/-- Whether a literal begins is seen from what comes before the closing brace, if there is
anything. -/
theorem at?_of_ne_nil {w : List Char} (hw : w ≠ []) (b x : List Char) :
    at? before c (w ++ '}' :: x) = at? before c (w ++ '}' :: b) := by
  have hhashes : hashes? (w ++ '}' :: x) = hashes? (w ++ '}' :: b) := by
    have hbrace : '}' ∈ w ++ ['}'] := List.mem_append_right w List.mem_cons_self
    rw [List.append_cons w '}' x, List.append_cons w '}' b, hashes?_append hbrace,
      hashes?_append hbrace]
  have hcharacter : startsCharacter (w ++ '}' :: x) = startsCharacter (w ++ '}' :: b) := by
    obtain ⟨d, w, rfl⟩ := List.exists_cons_of_ne_nil hw
    by_cases hd : d = '\\'
    · subst hd
      rfl
    · cases w with
      | nil => simp [startsCharacter, hd]
      | cons e w => by_cases he : e = '\'' <;> simp [startsCharacter, hd, he]
  rw [at?, at?, hhashes, hcharacter]

/-- No literal begins before a closing brace, unless a quote follows it. -/
theorem at?_brace {b x : List Char} (hx : x.head? = some '\'' → b.head? = some '\'')
    (h : at? before c ('}' :: b) = none) : at? before c ('}' :: x) = none := by
  have hhashes (s : List Char) : hashes? ('}' :: s) = none := rfl
  have hcharacter (s : List Char) : startsCharacter ('}' :: s) = true ↔ s.head? = some '\'' := by
    cases s with
    | nil => exact ⟨nofun, nofun⟩
    | cons d s => by_cases hd : d = '\'' <;> simp [startsCharacter, hd]
  rw [at?, hhashes] at h ⊢
  by_cases hquote : c = '"'
  · rw [if_pos hquote] at h
    cases h
  rw [if_neg hquote] at h ⊢
  by_cases hsingle : c = '\''
  · rw [if_pos hsingle] at h ⊢
    by_cases hb : startsCharacter ('}' :: b) = true
    · rw [if_pos hb] at h
      cases h
    · rw [if_neg]
      exact fun hs => hb ((hcharacter b).2 (hx ((hcharacter x).1 hs)))
  · rw [if_neg hsingle] at h ⊢
    exact h

/-- Where no literal begins, none begins if something else comes after the closing brace. -/
theorem at?_swap {w b x : List Char} (hx : x.head? = some '\'' → b.head? = some '\'')
    (h : at? before c (w ++ '}' :: b) = none) : at? before c (w ++ '}' :: x) = none := by
  by_cases hw : w = []
  · subst hw
    exact at?_brace hx h
  · rw [at?_of_ne_nil hw b, h]

theorem ends_of_splitQuoted? {close : Char} (hclose : close ≠ '\\') {s t r : List Char}
    (h : splitQuoted? close s = some (t, r)) : (quoted close).Ends t := by
  obtain ⟨w, hw, rfl, -⟩ := (splitQuoted?_eq_some_iff hclose).1 h
  exact fun x => (splitQuoted?_eq_some_iff hclose).2 ⟨w, hw, rfl, rfl⟩

/-- A literal that begins and ends is read up to its end, whatever follows. -/
theorem ends_of_at? {s t r : List Char} {o : Opening} (ho : at? before c s = some o)
    (hs : o.split? s = some (t, r)) : o.Ends t := by
  rw [← before.reverse_reverse] at ho
  rcases at?_eq_some_iff.1 ho with ⟨-, rfl⟩ | ⟨-, -, rfl⟩ | ⟨-, -, n, u, rfl, rfl⟩
  · exact ends_of_splitQuoted? (by decide) hs
  · exact ends_of_splitQuoted? (by decide) hs
  · rw [split?_raw] at hs
    obtain ⟨⟨v, r⟩, hv, hpair⟩ := Option.map_eq_some_iff.1 hs
    cases hpair
    obtain ⟨w, hw, rfl, -⟩ := splitRaw?_eq_some_iff.1 hv
    intro x
    rw [List.append_assoc, List.cons_append, split?_raw,
      splitRaw?_eq_some_iff.2 ⟨w, hw, rfl, rfl⟩]
    rfl

end Opening

namespace Braced

/-- A text in braces stays as it is if something else comes behind it. -/
theorem readFrom_swap {depth : Nat} {before s u b x : List Char}
    (h : readFrom depth before s = .ok (u, b))
    (hx : x.head? = some '\'' → b.head? = some '\'') :
    readFrom depth before (u ++ '}' :: x) = .ok (u, x) := by
  fun_induction readFrom depth before s generalizing u with
  | case1 => cases h
  | case2 depth before c s o ho t r hs ih =>
    obtain ⟨w, hw, rfl⟩ := prepend_eq_ok_iff.1 h
    have hsource : t ++ w ++ '}' :: b = s := by
      rw [List.append_assoc, append_of_readFrom hw, Opening.append_of_split? hs]
    have hne : t ++ w ≠ [] := List.append_ne_nil_of_left_ne_nil (ne_nil_of_split? hs) w
    have hat : Opening.at? before c (t ++ w ++ '}' :: x) = some o := by
      rw [Opening.at?_of_ne_nil hne b, hsource, ho]
    have hsplit := Opening.ends_of_at? ho hs (w ++ '}' :: x)
    rw [List.append_assoc] at hat
    rw [List.append_assoc, List.cons_append, readFrom_literal hat hsplit, ih hw]
    rfl
  | case3 => cases h
  | case4 before s ho =>
    cases h
    exact readFrom_close rfl
  | case5 before s depth ho ih =>
    obtain ⟨w, hw, rfl⟩ := prepend_eq_ok_iff.1 h
    rw [← append_of_readFrom hw] at ho
    rw [List.append_assoc, List.singleton_append, readFrom_close_succ (Opening.at?_swap hx ho),
      ih hw]
    rfl
  | case6 depth before c s ho hc ih =>
    obtain ⟨w, hw, rfl⟩ := prepend_eq_ok_iff.1 h
    rw [← append_of_readFrom hw] at ho
    have hrest := ih hw
    rw [dite_eq_ite] at hrest
    rw [List.append_assoc, List.singleton_append, readFrom_char (Opening.at?_swap hx ho) hc,
      hrest]
    rfl

end Braced

/-! ## Cuts -/

namespace Cut

/-- Cuts that end with a brace. -/
def closes : Cut → Bool
  | output _ | comment _ | tag _ => true
  | text _ | doubledAt => false

/-- A character of text makes no construct with what follows it. -/
theorem not_joins_of_next {c : Char} {s : List Char} (h : next c s = .ok (text c, s)) :
    ¬ (text c).Joins s := by
  intro hjoins
  rcases exists_of_joins hjoins with ⟨r, rfl, rfl⟩ | ⟨r, rfl, rfl⟩ | ⟨bracing, make, r, hmake, hr⟩
  · cases h
  · rw [next_comment] at h
    split at h <;> cases h
  · have hcut := hr []
    rw [List.append_nil, List.append_nil, h] at hcut
    obtain ⟨t, ht, -⟩ := eq_ok_of_braced hcut.symm
    rcases hmake with rfl | rfl <;> cases ht

theorem stands_text_iff (c : Char) (rest : List Char) :
    (text c).Stands rest ↔ ¬ (text c).Joins rest := by
  constructor
  · rintro ⟨d, s, hs, hnext⟩
    obtain ⟨rfl, rfl⟩ := List.cons.inj hs
    exact not_joins_of_next hnext
  · exact fun h => ⟨c, rest, rfl, next_of_not_joins h⟩

/-- Text in braces is the same cut if something else comes behind it. -/
theorem braced_swap {bracing : Bracing} {make : List Char → Cut} {cut : Cut} {t b x : List Char}
    (h : braced bracing make (t ++ '}' :: b) = .ok (cut, b))
    (hx : x.head? = some '\'' → b.head? = some '\'') :
    braced bracing make (t ++ '}' :: x) = .ok (make t, x) := by
  unfold braced at h
  split at h
  · next u r hread =>
    cases h
    obtain rfl : u = t := List.append_cancel_right (Braced.append_of_read hread)
    rw [braced, Braced.read, Braced.readFrom_swap hread hx]
  · cases h

theorem source_output_append (t r : List Char) :
    (output t).source ++ r = '@' :: '{' :: (t ++ '}' :: r) := by
  simp [source]

theorem source_tag_append (t r : List Char) : (tag t).source ++ r = '{' :: (t ++ '}' :: r) := by
  simp [source]

/-- A tag begins with one of the signs. -/
theorem mem_tagSigns_of_next {d : Char} {s t r : List Char}
    (h : next '{' (d :: s) = .ok (tag t, r)) : d ∈ tagSigns := by
  by_contra hd
  by_cases hremark : d = '>'
  · subst hremark
    obtain ⟨u, hu⟩ : ∃ u, splitComment? s = u := ⟨_, rfl⟩
    rw [next_comment, hu] at h
    cases u <;> cases h
  · rw [next_not_sign (List.not_mem_cons_of_ne_of_not_mem hremark hd)] at h
    cases h

/-- A cut that ends with a brace stands if something else comes behind it. Only a quote may make it
another one. -/
theorem Stands.swap {cut : Cut} {b x : List Char} (h : cut.Stands b) (hcut : cut.closes = true)
    (hx : x.head? = some '\'' → b.head? = some '\'') : cut.Stands x := by
  obtain ⟨c, s, hs, hnext⟩ := h
  cases cut with
  | text _ => exact absurd hcut Bool.false_ne_true
  | doubledAt => exact absurd hcut Bool.false_ne_true
  | comment t =>
    obtain ⟨u, hu⟩ := splitComment?_of_next hnext
    exact stands_comment (no_end_of_splitComment? hu) x
  | output t =>
    rw [source_output_append] at hs
    obtain ⟨rfl, rfl⟩ := List.cons.inj hs
    exact ⟨'@', '{' :: (t ++ '}' :: x), source_output_append t x, braced_swap hnext hx⟩
  | tag t =>
    rw [source_tag_append] at hs
    obtain ⟨rfl, rfl⟩ := List.cons.inj hs
    refine ⟨'{', t ++ '}' :: x, source_tag_append t x, ?_⟩
    cases t with
    | nil => cases hnext
    | cons d t =>
      have hd := mem_tagSigns_of_next hnext
      rw [List.cons_append, next_sign hd] at hnext ⊢
      exact braced_swap (t := d :: t) hnext hx

/-- A cut stands if something else comes behind what follows it. -/
theorem Stands.swap_append {cut : Cut} {v b x : List Char} (h : cut.Stands (v ++ b)) (hv : v ≠ []) :
    cut.Stands (v ++ x) := by
  obtain ⟨d, v, rfl⟩ := List.exists_cons_of_ne_nil hv
  cases hcut : cut.closes with
  | true => exact h.swap hcut id
  | false =>
    cases cut with
    | text c =>
      rw [stands_text_iff] at h ⊢
      exact h
    | doubledAt => exact ⟨'@', '@' :: (d :: v ++ x), rfl, rfl⟩
    | output _ | comment _ | tag _ => exact absurd hcut nofun

/-! ## Cuts in a row -/

/-- The text that cuts were taken from. -/
def sources (cuts : List Cut) : List Char := cuts.flatMap source

/-- The cuts of a template, one after the other, up to a point of it. -/
inductive InRow : (cuts : List Cut) → (rest : List Char) → Prop
  | nil (rest : List Char) : InRow [] rest
  | cons {cut : Cut} {cuts : List Cut} {rest : List Char} (hcut : cut.Stands (sources cuts ++ rest))
    (hcuts : InRow cuts rest) : InRow (cut :: cuts) rest

theorem sources_ne_nil {cuts : List Cut} (h : cuts ≠ []) : sources cuts ≠ [] := by
  obtain ⟨cut, cuts, rfl⟩ := List.exists_cons_of_ne_nil h
  have hcut : cut.source ≠ [] := List.ne_nil_of_length_pos cut.length_source_pos
  exact List.append_ne_nil_of_left_ne_nil hcut _

/-- The cuts are the same if the template goes on in another way behind a brace. -/
theorem InRow.swap {cuts : List Cut} {b x : List Char} (h : InRow cuts b)
    (hlast : ∀ cut ∈ cuts.getLast?, cut.closes = true)
    (hx : x.head? = some '\'' → b.head? = some '\'') : InRow cuts x := by
  induction h with
  | nil => exact .nil x
  | @cons cut cuts b hcut _ ih =>
    by_cases hcuts : cuts = []
    · subst hcuts
      exact .cons (hcut.swap (hlast cut rfl) hx) (.nil x)
    · have hlast' : ∀ last ∈ cuts.getLast?, last.closes = true := fun last hmem =>
        hlast last (List.mem_getLast?_cons hmem)
      exact .cons (hcut.swap_append (sources_ne_nil hcuts)) (ih hlast' hx)

end Cut

namespace Piece

open Cut

/-- Cuts in a row that are understood, the first of them at a position. -/
inductive Understood : (p : Position) → (cuts : List Cut) → (pieces : List Piece) → Prop
  | nil (p : Position) : Understood p [] []
  | cons {p : Position} {cut : Cut} {piece : Piece} {cuts : List Cut} {pieces : List Piece}
    (hcut : ofCut p cut = .ok piece) (hcuts : Understood (p.afterAll cut.source) cuts pieces) :
    Understood p (cut :: cuts) (piece :: pieces)

variable {p : Position} {cuts : List Cut} {pieces : List Piece} {rest : List Char}

/-- The first pieces of a template are those of its first cuts. -/
theorem scanFrom_of_understood (hrow : InRow cuts rest) (h : Understood p cuts pieces) :
    scanFrom p (sources cuts ++ rest) = pieces ++ scanFrom (p.afterAll (sources cuts)) rest := by
  induction h with
  | nil p => rfl
  | @cons p cut piece cuts pieces hpiece _ ih =>
    obtain _ | ⟨⟨c, s, hs, hnext⟩, hrow⟩ := hrow
    have hsource : sources (cut :: cuts) = cut.source ++ sources cuts := rfl
    rw [hsource, List.append_assoc, hs, scanFrom_of_cut hnext hpiece, ih hrow,
      Position.afterAll_append]
    rfl

/-- If nothing is wrong with a template, its first cuts are understood. -/
theorem exists_understood (hrow : InRow cuts rest)
    (h : ∀ f, .fault f ∉ scanFrom p (sources cuts ++ rest)) :
    ∃ pieces, Understood p cuts pieces := by
  induction hrow generalizing p with
  | nil => exact ⟨[], .nil p⟩
  | @cons cut cuts rest hcut hrow ih =>
    obtain ⟨c, s, hs, hnext⟩ := hcut
    have hsource : sources (cut :: cuts) = cut.source ++ sources cuts := rfl
    rw [hsource, List.append_assoc, hs] at h
    cases hpiece : ofCut p cut with
    | error cause =>
      rw [scanFrom_of_misread hnext hpiece] at h
      exact absurd List.mem_cons_self (h _)
    | ok piece =>
      rw [scanFrom_of_cut hnext hpiece] at h
      obtain ⟨pieces, hpieces⟩ := ih fun f hf => h f (List.mem_cons_of_mem piece hf)
      exact ⟨piece :: pieces, .cons hpiece hpieces⟩

/-- A cut that ends with a brace is no character of text. -/
theorem ne_char_of_ofCut {cut : Cut} {piece : Piece} (h : ofCut p cut = .ok piece)
    (hcut : cut.closes = true) (c : Char) : piece ≠ .char c := by
  rintro rfl
  cases cut with
  | text _ => exact absurd hcut Bool.false_ne_true
  | doubledAt => exact absurd hcut Bool.false_ne_true
  | comment t => cases h
  | output t =>
    obtain ⟨code, -, hcode⟩ := exists_of_map_eq_ok h
    cases hcode
  | tag t =>
    rcases cases_of_ofTag h with ⟨_, h⟩ | ⟨_, _, _, _, h⟩ | ⟨_, h⟩ | ⟨_, h⟩ <;> cases h

theorem ne_char_of_getLast? (h : Understood p cuts pieces)
    (hlast : ∀ cut ∈ cuts.getLast?, cut.closes = true) :
    ∀ piece ∈ pieces.getLast?, ∀ c, piece ≠ .char c := by
  induction h with
  | nil p => exact nofun
  | @cons p cut piece cuts pieces hpiece hpieces ih =>
    cases hpieces with
    | nil =>
      intro last hmem
      obtain rfl : piece = last := Option.some.inj hmem
      exact ne_char_of_ofCut hpiece (hlast cut rfl)
    | cons hcut hcuts =>
      rw [List.getLast?_cons_cons] at hlast ⊢
      exact ih hlast

end Piece

end TextTemplate
