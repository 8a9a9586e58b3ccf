import TextTemplate.Code.StringLiteral
import TextTemplate.Text.Alphanumeric

/-!
# Text in braces

Code in a template stands between braces and may itself hold braces. It ends at the closing brace
that belongs to the one before it; braces inside of string and character literals do not count.

- `Opening`: the literals that may hold braces.
- `Opening.at?`: the literal that begins at a character.
- `Opening.split?`: a literal and what follows it.
- `Braced.read`: the text up to the closing brace, and what follows that brace.
- `Braced.append_of_read`: nothing is lost.
-/

namespace TextTemplate

/-- A literal in which braces do not count. -/
inductive Opening
  /-- Up to the next quote of its kind that no backslash is before. -/
  | quoted (close : Char)
  /-- Up to the next quote with that many `#` after it. -/
  | raw (hashes : Nat)
deriving DecidableEq, Repr

/-- Why text in braces does not end. -/
inductive OpenEnd
  | braces
  | quoted
  | raw
deriving DecidableEq, Repr

namespace Opening

/-- Whether a character literal, and not a lifetime, follows a single quote: an escape, or one
character and a quote. -/
def startsCharacter : List Char → Bool
  | '\\' :: _ => true
  | _ :: '\'' :: _ => true
  | _ => false

/-- Whether an `r` begins a literal after a text, of which the last character comes first: it does
not belong to a word, unless that word is the `b` of a literal. -/
def startsToken : (before : List Char) → Bool
  | [] => true
  | 'b' :: [] => true
  | 'b' :: c :: _ => !Text.isWordChar c
  | c :: _ => !Text.isWordChar c

/-- The number of `#` between an `r` and a quote. -/
def hashes? (s : List Char) : Option Nat :=
  let run := s.takeWhile (· == '#')
  if (s.drop run.length).head? = some '"' then some run.length else none

/-- The literal that begins at the character `c`, given the text before it, last character first,
and the text after it. -/
def at? (before : List Char) (c : Char) (s : List Char) : Option Opening :=
  if c = '"' then some (quoted '"')
  else if c = '\'' then if startsCharacter s then some (quoted '\'') else none
  else if c = 'r' then if startsToken before then (hashes? s).map raw else none
  else none

/-- The text up to a closing quote, and the rest. A backslash takes the next character along. -/
def splitQuoted? (close : Char) : List Char → Option (List Char × List Char)
  | [] => none
  | '\\' :: [] => none
  | '\\' :: c :: s => (splitQuoted? close s).map fun (t, r) => ('\\' :: c :: t, r)
  | c :: s =>
    if c = close then some ([c], s) else (splitQuoted? close s).map fun (t, r) => (c :: t, r)

/-- The text up to a quote with `hashes` signs after it, and the rest. -/
def splitRaw? (hashes : Nat) : List Char → Option (List Char × List Char)
  | [] => none
  | c :: s =>
    if c = '"' && StringLiteral.startsHashes hashes s then
      some (c :: s.take hashes, s.drop hashes)
    else (splitRaw? hashes s).map fun (t, r) => (c :: t, r)

/-- What follows the first character of a literal, split at its end. -/
def split? : Opening → List Char → Option (List Char × List Char)
  | quoted close, s => splitQuoted? close s
  | raw hashes, s =>
    (splitRaw? hashes (s.drop (hashes + 1))).map fun (t, r) => (s.take (hashes + 1) ++ t, r)

/-- Why text in braces does not end if this literal does not. -/
def openEnd : Opening → OpenEnd
  | quoted _ => .quoted
  | raw _ => .raw

theorem append_of_splitQuoted? {close : Char} {s t r : List Char}
    (h : splitQuoted? close s = some (t, r)) : t ++ r = s := by
  fun_induction splitQuoted? close s generalizing t with
  | case1 => simp at h
  | case2 => simp at h
  | case3 c s ih =>
    simp only [Option.map_eq_some_iff, Prod.exists, Prod.mk.injEq] at h
    obtain ⟨u, v, hu, rfl, rfl⟩ := h
    simp [ih hu]
  | case4 =>
    obtain ⟨rfl, rfl⟩ := by simpa using h
    rfl
  | case5 c s _ _ _ ih =>
    simp only [Option.map_eq_some_iff, Prod.exists, Prod.mk.injEq] at h
    obtain ⟨u, v, hu, rfl, rfl⟩ := h
    simp [ih hu]

theorem append_of_splitRaw? {hashes : Nat} {s t r : List Char}
    (h : splitRaw? hashes s = some (t, r)) : t ++ r = s := by
  fun_induction splitRaw? hashes s generalizing t with
  | case1 => simp at h
  | case2 c s hc =>
    obtain ⟨rfl, rfl⟩ := by simpa using h
    simp
  | case3 c s hc ih =>
    simp only [Option.map_eq_some_iff, Prod.exists, Prod.mk.injEq] at h
    obtain ⟨u, v, hu, rfl, rfl⟩ := h
    simp [ih hu]

/-- A literal and what follows it make up the text. -/
theorem append_of_split? {o : Opening} {s t r : List Char} (h : o.split? s = some (t, r)) :
    t ++ r = s := by
  cases o with
  | quoted close => exact append_of_splitQuoted? h
  | raw hashes =>
    simp only [split?, Option.map_eq_some_iff, Prod.exists, Prod.mk.injEq] at h
    obtain ⟨u, v, hu, rfl, rfl⟩ := h
    rw [List.append_assoc, append_of_splitRaw? hu, List.take_append_drop]

theorem length_of_split? {o : Opening} {s t r : List Char} (h : o.split? s = some (t, r)) :
    r.length ≤ s.length := by
  have := congrArg List.length (append_of_split? h)
  simp at this
  omega

end Opening

namespace Braced

/-- Puts a text before the text that was read. -/
def prepend (t : List Char) :
    Except OpenEnd (List Char × List Char) → Except OpenEnd (List Char × List Char)
  | .ok (u, r) => .ok (t ++ u, r)
  | .error e => .error e

theorem prepend_eq_ok_iff {t u r : List Char} {x : Except OpenEnd (List Char × List Char)} :
    prepend t x = .ok (u, r) ↔ ∃ v, x = .ok (v, r) ∧ u = t ++ v := by
  rcases x with e | ⟨v, w⟩
  · simp [prepend]
  · simp only [prepend, Except.ok.injEq, Prod.mk.injEq]
    exact ⟨fun ⟨h, h'⟩ => ⟨v, ⟨rfl, h'⟩, h.symm⟩, fun ⟨_, ⟨h, h'⟩, h''⟩ => ⟨by rw [h'', h], h'⟩⟩

/-- The text up to the brace that closes the braces around it, and what follows that brace. `depth`
is the number of braces that are open inside of these, `before` the text that has been read, last
character first. -/
def readFrom (depth : Nat) (before : List Char) :
    List Char → Except OpenEnd (List Char × List Char)
  | [] => .error .braces
  | c :: s =>
    match Opening.at? before c s with
    | some o =>
      match _h : o.split? s with
      | some (t, r) => prepend (c :: t) (readFrom depth (t.reverse ++ c :: before) r)
      | none => .error o.openEnd
    | none =>
      if c = '}' then
        match depth with
        | 0 => .ok ([], s)
        | depth + 1 => prepend [c] (readFrom depth (c :: before) s)
      else prepend [c] (readFrom (if c = '{' then depth + 1 else depth) (c :: before) s)
termination_by s => s.length
decreasing_by
  · have := Opening.length_of_split? _h
    simp
    omega
  all_goals simp

/-- The text after an opening brace up to the brace that closes it, and what follows. -/
def read (s : List Char) : Except OpenEnd (List Char × List Char) :=
  readFrom 0 [] s

theorem append_of_readFrom {depth : Nat} {before s t r : List Char}
    (h : readFrom depth before s = .ok (t, r)) : t ++ '}' :: r = s := by
  fun_induction readFrom depth before s generalizing t with
  | case1 => simp at h
  | case2 _ _ _ _ _ _ _ _ hs ih =>
    obtain ⟨w, hw, rfl⟩ := prepend_eq_ok_iff.1 h
    simp [ih hw, Opening.append_of_split? hs]
  | case3 => simp at h
  | case4 =>
    obtain ⟨rfl, rfl⟩ := by simpa using h
    rfl
  | case5 _ _ _ _ ih =>
    obtain ⟨w, hw, rfl⟩ := prepend_eq_ok_iff.1 h
    simp [ih hw]
  | case6 _ _ _ _ _ _ ih =>
    obtain ⟨w, hw, rfl⟩ := prepend_eq_ok_iff.1 h
    simp [ih hw]

/-- The text, the closing brace and what follows it make up the whole. -/
theorem append_of_read {s t r : List Char} (h : read s = .ok (t, r)) : t ++ '}' :: r = s :=
  append_of_readFrom h

end Braced

end TextTemplate
