import Mathlib.Data.List.Find
import TextTemplate.Proofs.Code.Spacing

/-!
# Bindings whose last mark touches the semicolon

The rules of the grammar that may read code before a semicolon are gone through one by one: none of
them depends on whether a mark touches a semicolon. Other rules read the inside of groups only,
which is the same code either way.

- `Rules.Steady`, `steady_read`: the rules of all kinds of code, by induction on the depth.
- `AngleItem.write_map_apart`: lists in angle brackets are written with the spacing of their items.
- `checkLet_loosen`, `checkLet_touching`: the check of a binding.
- `EndsAtSemicolon`, `exists_of_checkLet`: a binding ends in a semicolon.
-/

namespace TextTemplate

namespace Grammar

open Agree

/-- The rules of the kinds of code that may stand before a semicolon are steady. -/
structure Rules.Steady (rules : Rules) : Prop where
  expression (structs : Bool) : Grammar.Steady (rules (.expression structs))
  operand (structs : Bool) : Grammar.Steady (rules (.operand structs))
  operators (structs : Bool) (base : Precedence) (left : Shape) :
    Grammar.Steady (rules (.operators structs base left))
  pattern : Grammar.Steady (rules .pattern)
  type (plus : Bool) : Grammar.Steady (rules (.type plus))
  arguments : Grammar.Steady (rules .arguments)
  parameter : Grammar.Steady (rules .parameter)

variable {self : Rules} (h : self.Steady)

/-! ## The recursive kinds -/

section

include h

theorem steady_expression : Steady self.expression :=
  .andReturn (h.expression true)

theorem steady_condition : Steady self.condition :=
  .andReturn (h.expression false)

theorem steady_pattern : Steady self.pattern :=
  .andReturn h.pattern

theorem steady_type : Steady self.type :=
  .andReturn (h.type true)

theorem steady_typeNoSum : Steady self.typeNoSum :=
  .andReturn (h.type false)

theorem steady_arguments : Steady self.arguments :=
  .andReturn h.arguments

theorem steady_parameter : Steady self.parameter :=
  .andReturn h.parameter

theorem steady_alternatives : Steady self.alternatives := by
  have hbar : Steady do return (← sees "|") && !(← sees "||") && !(← sees "|=") :=
    andThen (.sees rfl) fun _ => andThen (.sees rfl) fun _ => .andReturn (.sees rfl)
  exact andThen (.sign? rfl) fun leading => andThen h.pattern fun first =>
    andThen hbar fun more => .ite (.andReturn (.while? hbar (andThen (.sign rfl) fun _ =>
      steady_pattern h))) (.pure rfl)

theorem steady_result : Steady (result self) :=
  andThen (.sign? rfl) fun _ => .ite (steady_typeNoSum h) (.pure rfl)

end

theorem steady_block : Steady self.block := .group

theorem steady_attributedBlock : Steady (attributedBlock self) := .group

theorem steady_attributes : Steady (attributes self) :=
  .repeated (fun _ => andThen (.sign? rfl) fun _ => .ite (.andReturn .group) (.pure rfl)) _

/-! ## Paths -/

section

include h

theorem steady_pathName (inExpression : Bool) : Steady (pathName self inExpression) := by
  refine andThen (.ask fun code => by simp) fun _ => .ite (.andReturn .anyWord) ?_
  refine andThen (.seesWord _) fun _ => .either .anyWord .identifier fun _ => ?_
  refine .look (fun i j hij => by simp [hij.tokens]) fun i => .ite ?_ (.pure rfl)
  exact andThen (.sign? rfl) fun _ => andThen (.ask fun code => by simp) fun _ =>
    .andReturn (steady_arguments h)

theorem steady_pathRest (inExpression : Bool) (form : PathForm) :
    Steady (pathRest self inExpression form) := by
  refine .repeated (fun form => .look (fun i j hij => by simp [hij.tokens]) fun i => ?_) form
  exact .ite (andThen (.sign rfl) fun _ => .andReturn (steady_pathName h _)) (.pure rfl)

theorem steady_path (inExpression : Bool) : Steady (path self inExpression) :=
  andThen (.sign? rfl) fun _ => andThen (steady_pathName h _) fun _ => steady_pathRest h _ _

theorem steady_qualifiedPath (inExpression : Bool) : Steady (qualifiedPath self inExpression) := by
  refine andThen (.sign? rfl) fun _ => .ite ?_ (steady_path h _)
  refine andThen (steady_type h) fun _ => andThen (.keyword? _) fun _ => .guard (steady_path h _) ?_
  refine andThen (.sign rfl) fun _ => andThen (.sign rfl) fun _ => ?_
  exact .repeated (fun form => andThen (steady_pathName h _) fun _ => .andReturn (.sign? rfl)) _

end

/-! ## Lists in angle brackets -/

namespace AngleItem

/-- An item with its comma. -/
def written (a : AngleItem) : Code := a.code ++ if a.comma then Code.joined [','] else []

/-- An item after others; the flag is whether a comma stands after them. -/
def add (others : Code × Bool) (a : AngleItem) : Code × Bool :=
  (others.1 ++ (if others.2 then [] else Code.joined [',']) ++ a.written, a.comma)

theorem write_eq (items : List AngleItem) : write items =
    (items.filter (·.lifetime)).flatMap written ++ ((items.filter (!·.lifetime)).foldl add
      ([], ((items.filter (·.lifetime)).getLast?.map (·.comma)).getD true)).1 := by
  rw [write, List.partition_eq_filter_filter]
  dsimp only [Function.comp_def]
  cases (items.filter (·.lifetime)).getLast? with
  | none => rfl
  | some a => rfl

/-- An item without the spacing of its marks. -/
def apart (a : AngleItem) : AngleItem := { a with code := a.code.map Token.apart }

theorem written_apart (a : AngleItem) : a.apart.written = a.written.map Token.apart := by
  rw [written, written, List.map_append, apart]
  cases a.comma with
  | true => rfl
  | false => rfl

theorem add_apart (others : Code × Bool) (a : AngleItem) :
    add (others.1.map Token.apart, others.2) a.apart =
      ((add others a).1.map Token.apart, (add others a).2) := by
  rw [add, add, written_apart, List.map_append, List.map_append]
  cases others.2 with
  | true => rfl
  | false => rfl

theorem foldl_add_apart (items : List AngleItem) (others : Code × Bool) :
    (items.map apart).foldl add (others.1.map Token.apart, others.2) =
      ((items.foldl add others).1.map Token.apart, (items.foldl add others).2) := by
  induction items generalizing others with
  | nil => rfl
  | cons a items ih => rw [List.map_cons, List.foldl_cons, add_apart, ih, List.foldl_cons]

/-- The order of the items and the commas between them do not depend on how marks are spaced. -/
theorem write_map_apart (items : List AngleItem) :
    write (items.map apart) = (write items).map Token.apart := by
  have hlifetime : (items.map apart).filter (·.lifetime) = (items.filter (·.lifetime)).map apart :=
    List.filter_map ..
  have hother : (items.map apart).filter (!·.lifetime) = (items.filter (!·.lifetime)).map apart :=
    List.filter_map ..
  have hclosed : ((items.filter (·.lifetime)).map apart).getLast?.map (·.comma) =
      (items.filter (·.lifetime)).getLast?.map (·.comma) := by
    rw [List.getLast?_map, Option.map_map]
    rfl
  rw [write_eq, write_eq, hlifetime, hother, hclosed, List.map_append, List.flatMap_map,
    List.map_flatMap]
  congr 1
  · exact congrArg (List.flatMap · _) (funext written_apart)
  · exact congrArg Prod.fst (foldl_add_apart _ ([], _))

/-- Lists of items that are the same but for the spacing of their marks. -/
def Same (xs ys : List AngleItem) : Prop := ys.map apart = xs.map apart

theorem Same.cons {xs ys : List AngleItem} {c d : Code} (h : Same xs ys)
    (hcode : d.map Token.apart = c.map Token.apart) (lifetime comma : Bool) :
    Same (⟨lifetime, c, comma⟩ :: xs) (⟨lifetime, d, comma⟩ :: ys) := by
  rw [Same, List.map_cons, List.map_cons, h, apart, apart, hcode]

theorem Same.isEmpty {xs ys : List AngleItem} (h : Same xs ys) : ys.isEmpty = xs.isEmpty := by
  rw [← List.isEmpty_map (f := apart), h, List.isEmpty_map]

theorem Same.write {xs ys : List AngleItem} (h : Same xs ys) :
    (write ys.reverse).map Token.apart = (write xs.reverse).map Token.apart := by
  rw [← write_map_apart, ← write_map_apart, List.map_reverse, List.map_reverse, h]

end AngleItem

/-- The items are the same but for the spacing of their marks, and so is what is written. -/
theorem steady_angled {item : Parser Bool} {comma : Parser Unit} (hitem : Steady item)
    (hcomma : Steady comma) : Steady (angled item comma) := by
  refine andThen (.sign rfl) fun _ => ?_
  -- The items that were read so far are the state of the turns, and they need not be equal.
  refine .bind (R := AngleItem.Same) (.several (fun xs ys hxy => ?_) rfl) fun xs ys hxy => ?_
  · refine andThen (.sees rfl) fun _ => .ite (.pure ⟨hxy, rfl⟩) ?_
    refine .bind (.captured hitem) fun ⟨lifetime, code⟩ ⟨_, code'⟩ ⟨hlifetime, hcode⟩ => ?_
    dsimp only at hlifetime hcode
    subst hlifetime
    refine andThen (.sees rfl) fun _ => .ite (.pure ⟨hxy.cons hcode _ _, rfl⟩) ?_
    exact .bind (.captured hcomma) fun _ _ _ => .pure ⟨hxy.cons hcode _ _, rfl⟩
  · refine .bind (.emit hxy.write) fun _ _ _ => andThen (.sign rfl) fun _ => .pure ?_
    rw [hxy.isEmpty]

/-! ## Bounds -/

theorem map_apart_dropWhile {p : Token → Bool} (hp : ∀ t : Token, p t.apart = p t) {c d : Code}
    (h : d.map Token.apart = c.map Token.apart) :
    (d.dropWhile p).map Token.apart = (c.dropWhile p).map Token.apart := by
  have hcomp : p ∘ Token.apart = p := funext hp
  have hdrop (code : Code) : (code.map Token.apart).dropWhile p =
      (code.dropWhile p).map Token.apart := by
    rw [List.dropWhile_map, hcomp]
  rw [← hdrop, h, hdrop]

theorem steady_seesCallArguments : Steady seesCallArguments :=
  .ask fun code => by simp

theorem steady_constMark (allowed : Bool) : Steady (constMark allowed) := by
  refine andThen (.seesGroup _) fun _ => .ite ?_ ?_
  · exact andThen .group fun _ => .guard (.fail _) (.pure rfl)
  · exact andThen (.keyword? _) fun _ => .ite (.guard (.fail _) (.pure rfl)) (.pure rfl)

theorem steady_capture : Steady capture := by
  refine andThen (.keyword _) fun _ => .andReturn (steady_angled ?_ ?_)
  · refine andThen .lifetime? fun _ => .ite (.pure rfl) ?_
    exact andThen (.ask fun code => by simp) fun _ => .ite (.andReturn .anyWord) (.refuse _)
  · exact andThen (.sign? rfl) fun _ => .ite (.refuse _) (.pure rfl)

theorem steady_seesBound (consts : Bool) : Steady (seesBound consts) :=
  .ask fun code => by simp

section

include h

theorem steady_binder : Steady (binder self) := by
  refine andThen (.keyword? _) fun _ => .ite ?_ (.pure rfl)
  refine andThen (.sign rfl) fun _ =>
    andThen (.repeated (fun _ => ?_) _) fun _ => .andReturn (.sign rfl)
  refine andThen (.sees rfl) fun _ => .ite (.pure rfl) ?_
  exact andThen (steady_parameter h) fun _ => andThen (.sees rfl) fun _ =>
    .ite (.pure rfl) (.andReturn (.sign rfl))

theorem steady_callArguments : Steady (callArguments self) := by
  refine .bind (.write fun i j hij => ?_) fun _ _ _ => ?_
  · exact map_apart_dropWhile (fun t => by cases t <;> rfl) hij.done
  · exact .bind (.captured (.sign? rfl)) fun _ _ _ => andThen .group fun _ => steady_result h

theorem steady_traitBound (consts : Bool) : Steady (traitBound self consts) := by
  refine andThen (steady_binder h) fun _ => andThen (steady_constMark _) fun _ =>
    andThen (.sign? rfl) fun _ => .either (steady_binder h) (.pure rfl) fun _ => ?_
  exact andThen (steady_path h _) fun _ => andThen steady_seesCallArguments fun _ =>
    .guard (steady_callArguments h) (.guard (.fail _) (.pure rfl))

theorem steady_bound (captures consts : Bool) : Steady (bound self captures consts) := by
  refine andThen .lifetime? fun _ => .ite (.pure rfl) ?_
  refine andThen (.seesWord _) fun _ => .ite ?_ ?_
  · exact andThen steady_capture fun _ => .ite (.pure rfl) (.failThen _)
  · refine .state fun i j hij => andThen (.seesGroup _) fun _ =>
      .either .group (steady_traitBound h _) fun _ => ?_
    exact .ite (.bind (.keepAsStood hij) fun _ _ _ => .pure rfl) (.pure rfl)

theorem steady_bounds (plus captures consts : Bool) :
    Steady (bounds self plus captures consts) := by
  refine .repeated (fun _ => andThen (steady_bound h _ _) fun _ => ?_) _
  exact andThen (.sign? rfl) fun _ => .ite (.andReturn (steady_seesBound _)) (.pure rfl)

end

/-! ## Arguments in angle brackets -/

theorem steady_seesConst : Steady seesConst :=
  .ask fun code => by simp

theorem steady_constArgument : Steady (constArgument self) := by
  refine andThen (.ask startsLiteral_loosen) fun _ => .ite .literal ?_
  refine andThen (.ask startsIdentifier_loosen) fun _ => .ite .identifier ?_
  exact andThen (.seesGroup _) fun _ => .ite steady_attributedBlock (.refuse _)

section

include h

theorem steady_argument : Steady (argument self) := by
  refine .look (fun i j hij => by simp [hij.tokens]) fun i => .ite ?_ ?_
  · exact .andReturn .lifetime
  refine andThen steady_seesConst fun _ => .ite (.andReturn steady_constArgument) ?_
  refine andThen (h.type true) fun _ => .ite ?_ (.pure rfl)
  refine andThen (.sign? rfl) fun _ => .ite ?_ ?_
  · exact andThen steady_seesConst fun _ =>
      .either steady_constArgument (steady_type h) fun _ => .pure rfl
  · refine andThen (.sign? rfl) fun _ => .guard (.repeated (fun _ => ?_) _) (.pure rfl)
    refine andThen (.sees rfl) fun _ => andThen (.sees rfl) fun _ => .ite (.pure rfl) ?_
    exact andThen (steady_bound h _ _) fun _ => .andReturn (.sign? rfl)

theorem steady_argumentList : Steady (argumentList self) :=
  .andReturn (steady_angled (steady_argument h) (.sign rfl))

/-! ## Types -/

theorem steady_moreBounds : Steady (moreBounds self) :=
  .while? (.sees rfl) (andThen (.sign rfl) fun _ =>
    .andReturn (steady_bound h _ _))

theorem steady_objectType (plus : Bool) : Steady (objectType self plus) :=
  andThen (steady_bounds h _ _ _) fun _ => .guard (.fail _) (.pure rfl)

theorem steady_parenType (plus : Bool) : Steady (parenType self plus) :=
  .groupThen fun _ => .guard (steady_moreBounds h) (.pure rfl)

end

theorem steady_callConvention : Steady callConvention :=
  andThen (.keyword? _) fun _ => .ite (andThen (.ask startsText_loosen) fun _ =>
    .ite .literal (.pure rfl)) (.pure rfl)

section

include h

theorem steady_functionType : Steady (functionType self) :=
  andThen (.keyword? _) fun _ => andThen steady_callConvention fun _ =>
    andThen (.keyword _) fun _ => .andReturn (.groupThen fun _ => steady_result h)

theorem steady_pathType (plus introduced : Bool) : Steady (pathType self plus introduced) := by
  refine andThen (steady_qualifiedPath h _) fun form => .ite (.pure rfl) ?_
  refine andThen (.sees rfl) fun _ => andThen (.sees rfl) fun _ => .ite ?_ ?_
  · exact andThen (.sign rfl) fun _ => .andReturn .anyGroup
  refine andThen (.sees rfl) fun _ => .ite ?_ (.pure rfl)
  refine .andReturn (.repeated (fun _ => ?_) _)
  refine andThen (.sign? rfl) fun _ => .ite ?_ (.pure rfl)
  exact andThen (steady_seesBound _) fun _ => .ite (.andReturn (steady_bound h _ _)) (.pure rfl)

theorem steady_typeRule (plus : Bool) : Steady (typeRule self plus) := by
  refine andThen (steady_binder h) fun _ => .look (fun i j hij => by simp [hij.tokens]) fun i => ?_
  refine .guard (.refuse _) ?_
  refine .ite (steady_parenType h _) ?_
  refine .ite (steady_functionType h) ?_
  refine .ite (steady_pathType h _ _) ?_
  refine .ite (.state fun i j hij => andThen (.keyword _) fun _ =>
    andThen (.sign? rfl) fun _ => andThen (steady_objectType h _) fun _ =>
      .ite (.bind (.keepAsStood hij) fun _ _ _ => .pure rfl) (.pure rfl)) ?_
  refine .ite (.andReturn .group) ?_
  refine .ite (andThen (.sign rfl) fun _ => andThen (.keyword? _) fun _ => .ite
    (.andReturn (steady_typeNoSum h)) (andThen (.keyword? _) fun _ =>
      .either (steady_typeNoSum h) (.refuse _) fun _ => .pure rfl)) ?_
  refine .ite (andThen (.sign rfl) fun _ => andThen .lifetime? fun _ =>
    andThen (.keyword? _) fun _ => .andReturn (steady_typeNoSum h)) ?_
  refine .ite (.andReturn (.sign rfl)) ?_
  refine .ite (andThen (.keyword _) fun _ => andThen (steady_bounds h _ _ _) fun _ =>
    .guard (.fail _) (.pure rfl)) ?_
  refine .ite (.andReturn .skip) ?_
  exact .ite (steady_objectType h _) (.refuse _)

end

/-! ## Generic parameters -/

theorem endsParameter_loosen (code : Code) : endsParameter (loosen code) = endsParameter code := by
  simp [endsParameter]

theorem steady_afterColon {list : Parser Bool} (hlist : Steady list) : Steady (afterColon list) :=
  .state fun _ _ hij => andThen (.sign? rfl) fun _ => .ite (andThen hlist fun _ =>
    .ite (.write fun _ _ _ => hij.done) (.pure rfl)) (.pure rfl)

theorem steady_lifetimeParameter : Steady lifetimeParameter := by
  refine andThen .lifetime fun _ => steady_afterColon (.repeated (fun _ => ?_) _)
  refine andThen (.ask endsParameter_loosen) fun _ => .ite (.pure rfl) ?_
  exact andThen .lifetime fun _ => .andReturn (.sign? rfl)

section

include h

theorem steady_boundList {ends : Code → Bool} (hends : ∀ code, ends (loosen code) = ends code)
    (strict consts : Bool) : Steady (boundList self ends strict consts) := by
  refine .repeated (fun _ => andThen (.ask hends) fun _ => .ite (.pure rfl) ?_) _
  refine andThen (steady_bound h _ _) fun _ => .ite ?_ ?_
  · exact andThen (.ask hends) fun _ => .ite (.pure rfl) (.andReturn (.sign rfl))
  · exact .andReturn (.sign? rfl)

theorem steady_typeParameter : Steady (typeParameter self) := by
  refine andThen .identifier fun _ => andThen (steady_afterColon ?_) fun _ =>
    andThen (.sign? rfl) fun _ => .ite (steady_type h) (.pure rfl)
  exact steady_boundList h (fun code => by simp [endsParameter_loosen]) _ _

theorem steady_constParameter : Steady (constParameter self) :=
  andThen (.keyword _) fun _ => andThen .identifier fun _ => andThen (.sign rfl) fun _ =>
    andThen (steady_type h) fun _ => andThen (.sign? rfl) fun _ =>
      .ite steady_constArgument (.pure rfl)

theorem steady_parameterRule : Steady (parameterRule self) := by
  refine andThen steady_attributes fun _ => .look (fun i j hij => by simp [hij.tokens]) fun i => ?_
  refine .ite (.andReturn (steady_typeParameter h)) ?_
  refine .ite (.andReturn steady_lifetimeParameter) ?_
  exact .either (steady_constParameter h) (.refuse _) fun _ => .pure rfl

end

/-! ## Patterns -/

theorem steady_fieldIndex (text : String) : Steady (fieldIndex text) := by
  rw [fieldIndex]
  split
  · exact .fail _
  · exact .ite (.fail _) (.ite (.pure rfl) (.fail _))

theorem steady_negativeIndex {α : Type} (text : String) :
    Steady (negativeIndex text : Parser α) := by
  rw [negativeIndex]
  split
  · exact .ite (.failThen _) (.failThen _)
  · exact .fail _

theorem steady_member : Steady member := by
  refine .look (fun i j hij => ?_) fun i => ?_
  · rw [hij.tokens]
    rcases i.tokens with _ | ⟨_ | ⟨c, s⟩ | _ | _, rest⟩
    · rfl
    · simp
    · by_cases hc : c = '-'
      · subst hc
        rcases rest with _ | ⟨_ | _ | _ | _, rest⟩ <;> simp
      · simp [hc]
    · simp
    · simp
  · split
    · exact .guard (.refuse _) (.andReturn .skip)
    · exact .guard (.refuse _) (andThen (steady_fieldIndex _) fun _ =>
        .bind (.captured .skip) fun _ _ _ => .bind (.emit rfl) fun _ _ _ => .pure rfl)
    · exact .guard (.refuse _) (steady_negativeIndex _)
    · exact .refuse _

theorem steady_rangeLimits : Steady rangeLimits :=
  andThen (.sign? rfl) fun _ => .ite (.pure rfl) (andThen (.sees rfl) fun _ =>
    .guard (.refuse _) (andThen (.sign? rfl) fun _ => .ite (.pure rfl) (.refuse _)))

theorem steady_patternLimits : Steady patternLimits := by
  refine andThen (.sign? rfl) fun _ => .ite (.pure rfl) ?_
  refine andThen (.sees rfl) fun _ => .ite ?_ (.andReturn (.sign rfl))
  exact .bind (.captured (.sign rfl)) fun _ _ _ => .bind (.emit rfl) fun _ _ _ => .pure rfl

section

include h

theorem steady_rangeEnd : Steady (rangeEnd self) := by
  refine .look (fun i j hij => by simp [hij.tokens]) fun i => .ite (.pure rfl) ?_
  refine .ite (.andReturn .literal) ?_
  refine .ite (andThen steady_attributes fun _ => .andReturn (steady_qualifiedPath h _)) ?_
  exact andThen (.keyword? _) fun _ => .ite (.andReturn steady_attributedBlock) (.refuse _)

theorem steady_rangeTail : Steady (rangeTail self) :=
  andThen steady_patternLimits fun _ => andThen (steady_rangeEnd h) fun _ =>
    .ite (.pure rfl) (.guard (.refuse _) (.pure rfl))

theorem steady_pathPattern : Steady (pathPattern self) := by
  refine andThen (steady_qualifiedPath h _) fun form => ?_
  refine andThen (.sees rfl) fun _ => andThen (.sees rfl) fun _ => .ite ?_ ?_
  · exact andThen (.sign rfl) fun _ => .andReturn .anyGroup
  refine andThen (.seesGroup _) fun _ => .ite (.andReturn .group) ?_
  refine andThen (.seesGroup _) fun _ => .ite (.andReturn .group) ?_
  exact andThen (.sees rfl) fun _ => .ite (steady_rangeTail h) (.pure rfl)

theorem steady_namePattern : Steady (namePattern self) :=
  andThen (.keyword? _) fun _ => andThen (.keyword? _) fun _ => andThen (.seesWord _) fun _ =>
    .either .anyWord .identifier fun _ => andThen (.sign? rfl) fun _ =>
      .guard (steady_pattern h) (.pure rfl)

theorem steady_patternRule : Steady (patternRule self) := by
  refine .look (fun i j hij => by simp [hij.tokens]) fun i => ?_
  refine .ite (steady_pathPattern h) ?_
  refine .ite (.andReturn .skip) ?_
  refine .ite (.andReturn (.asStood (andThen (.keyword _) fun _ => steady_pattern h))) ?_
  refine .ite (andThen (steady_rangeEnd h) fun _ => andThen (.sees rfl) fun _ =>
    .ite (steady_rangeTail h) (.pure rfl)) ?_
  refine .ite (steady_namePattern h) ?_
  refine .ite (andThen (.sign rfl) fun _ => andThen (.keyword? _) fun _ =>
    .andReturn (steady_pattern h)) ?_
  refine .ite (.andReturn .group) ?_
  refine .ite (.andReturn .group) ?_
  refine .ite ?_ (.refuse _)
  exact andThen steady_rangeLimits fun _ => andThen (steady_rangeEnd h) fun _ =>
    .ite (.pure rfl) (.guard (.refuse _) (.pure rfl))

end

/-! ## Operators -/

/-- No semicolon stands after the first mark of an operator that may be read. -/
theorem semicolon_notMem_operator : ∀ o ∈ binaryOperators, ';' ∉ o.1.toList.tail := by
  decide

theorem find?_binaryOperators_loosen (code : Code) :
    (binaryOperators.find? fun (text, _) => startsSign text.toList (loosen code)) =
      binaryOperators.find? fun (text, _) => startsSign text.toList code :=
  List.find?_congr fun o ho => startsSign_loosen code (semicolon_notMem_operator o ho)

/-- The operator that comes next is the same, and one of the operators. -/
theorem agree_operator? :
    Agree (fun a b => a = b ∧ ∀ o ∈ a, o ∈ binaryOperators) operator? operator? := by
  refine .state fun i j hij => ?_
  rw [hij.tokens]
  exact .pure ⟨(find?_binaryOperators_loosen i.tokens).symm,
    fun o ho => List.mem_of_find?_eq_some ho⟩

theorem steady_seesAssignment : Steady seesAssignment :=
  andThen (.sees rfl) fun _ => .andReturn (.sees rfl)

theorem steady_nextPrecedence : Steady nextPrecedence := by
  refine .bind agree_operator? ?_
  rintro found _ ⟨rfl, -⟩
  cases found with
  | some o => exact .pure rfl
  | none =>
    refine andThen steady_seesAssignment fun _ => .ite (.pure rfl) ?_
    refine andThen (.sees rfl) fun _ => .ite (.pure rfl) ?_
    exact andThen (.seesWord _) fun _ => .ite (.pure rfl) (.pure rfl)

theorem steady_endsRange (structs : Bool) : Steady (endsRange structs) := by
  refine .ask fun code => ?_
  simp (disch := decide) only [startsSign_loosen, isEmpty_loosen, startsGroup_loosen,
    startsWord_loosen]

theorem steady_checkCast : Steady checkCast := by
  refine .look (fun i j hij => by simp [hij.tokens]) fun i => ?_
  refine .ite ?_ ?_
  · exact .guard (.fail _) (.guard (.fail _) (.failThen _))
  · exact .guard (.fail _) (.guard (.fail _) (.ite (.fail _) (.pure rfl)))

section

include h

theorem steady_rightOperand (structs : Bool) (p : Precedence) :
    Steady (rightOperand self structs p) := by
  refine andThen (h.operand _) fun _ => .repeated (fun left => ?_) _
  refine andThen steady_nextPrecedence fun _ => .ite ?_ (.pure rfl)
  refine .look (fun i j hij => by simp [hij.tokens]) fun i =>
    andThen (h.operators _ _ _) fun left => ?_
  exact .look (fun i j hij => by simp [hij.tokens]) fun i => .pure rfl

theorem steady_rangeOperator (structs : Bool) : Steady (rangeOperator self structs) :=
  andThen steady_rangeLimits fun _ => andThen (steady_endsRange _) fun _ =>
    .ite (.andReturn (steady_rightOperand h _ _)) (.pure rfl)

theorem steady_operatorsRule (structs : Bool) (base : Precedence) (left : Shape) :
    Steady (operatorsRule self structs base left) := by
  refine .repeated (fun left => .ite (.pure rfl) (.bind agree_operator? ?_)) _
  rintro found _ ⟨rfl, hmem⟩
  cases found with
  | some o =>
    obtain ⟨text, p⟩ := o
    -- The operator is taken by its text, which is known only to be one of the operators.
    have htext := semicolon_notMem_operator _ (hmem _ rfl)
    refine .ite (.pure rfl) (.guard (.fail _) ?_)
    exact andThen (.sign (by simpa using htext)) fun _ => .andReturn (steady_rightOperand h _ _)
  | none =>
    refine andThen steady_seesAssignment fun _ => .ite (andThen (.sign rfl) fun _ =>
      .andReturn (steady_rightOperand h _ _)) ?_
    refine andThen (.sees rfl) fun _ => .ite (.andReturn (steady_rangeOperator h _)) ?_
    refine andThen (.seesWord _) fun _ => .ite (andThen (.keyword _) fun _ =>
      andThen (steady_typeNoSum h) fun _ => .andReturn steady_checkCast) (.pure rfl)

end

/-! ## What trails an operand -/

theorem steady_mapM {α β : Type} {f : α → Parser β} (hf : ∀ a, Steady (f a)) (xs : List α) :
    Steady (xs.mapM f) := by
  induction xs with
  | nil => exact .pure rfl
  | cons x xs ih =>
    rw [List.mapM_cons]
    exact andThen (hf x) fun _ => .andReturn ih

theorem steady_fieldNumber (text : String) : Steady (fieldNumber text) := by
  refine andThen (steady_mapM (fun _ => steady_fieldIndex _) _) fun _ =>
    .bind (.captured .skip) fun _ _ _ => .bind (.emit rfl) fun _ _ _ => ?_
  exact .guard (.emit rfl) (.pure rfl)

section

include h

theorem steady_afterPoint : Steady (afterPoint self) := by
  have hrest (more : Bool) : Steady (do
      if more && !(← keyword? "await") then
        let named ← member
        if named then
          let turbofish ← sees "::"
          if turbofish then
            sign "::"
            self.arguments
          if turbofish || (← seesGroup .paren) then group .paren (listed self.expression)) := by
    refine andThen (.keyword? _) fun _ => .ite ?_ (.pure rfl)
    refine andThen steady_member fun _ => .ite ?_ (.pure rfl)
    have hcall (turbofish : Bool) : Steady (do
        if turbofish || (← seesGroup .paren) then group .paren (listed self.expression)) :=
      andThen (.seesGroup _) fun _ => .ite .group (.pure rfl)
    exact andThen (.sees rfl) fun _ => .ite (andThen (.sign rfl) fun _ =>
      andThen (steady_arguments h) fun _ => hcall _) (hcall _)
  refine .look (fun i j hij => ?_) fun i => ?_
  · rw [hij.tokens]
    rcases i.tokens with _ | ⟨_ | ⟨c, s⟩ | _ | _, rest⟩
    · rfl
    · simp
    · by_cases hc : c = '-'
      · subst hc
        rcases rest with _ | ⟨_ | _ | _ | _, rest⟩ <;> simp
      · simp [hc]
    · simp
    · simp
  · split
    · exact .either (steady_fieldNumber _) (.pure rfl) hrest
    · exact .either (steady_negativeIndex _) (.pure rfl) hrest
    · exact andThen (.pure rfl) hrest

theorem steady_trailing (left : Shape) : Steady (trailing self left) := by
  refine .repeated (fun left => ?_) _
  refine andThen (.seesGroup _) fun _ => .ite (.andReturn .group) ?_
  refine andThen (.sees rfl) fun _ => andThen (.sees rfl) fun _ =>
    .ite (andThen (.sign rfl) fun _ => .andReturn (steady_afterPoint h)) ?_
  refine andThen (.seesGroup _) fun _ => .ite (.andReturn .group) ?_
  exact andThen (.sees rfl) fun _ => .ite (.andReturn (.sign rfl)) (.pure rfl)

end

/-! ## Operands -/

theorem steady_seesExpression : Steady seesExpression := by
  refine .ask fun code => ?_
  simp (disch := decide) only [startsSign_loosen, startsAnyWord_loosen, startsGroup_loosen,
    startsWord_loosen, startsLiteral_loosen, startsLifetime_loosen]

theorem steady_label : Steady label :=
  andThen .lifetime fun _ => .sign rfl

section

include h

theorem steady_ifExpression : Steady (ifExpression self) := by
  refine .andReturn (.repeated (fun _ => ?_) _)
  refine andThen (.keyword _) fun _ => andThen (steady_condition h) fun _ =>
    andThen steady_block fun _ => andThen (.keyword? _) fun _ => .ite ?_ (.pure rfl)
  refine andThen (.seesWord _) fun _ => .ite (.pure rfl) ?_
  exact andThen (.seesGroup _) fun _ => .either steady_block (.refuse _) fun _ => .pure rfl

theorem steady_whileExpression : Steady (whileExpression self) :=
  andThen (.keyword _) fun _ => andThen (steady_condition h) fun _ =>
    .andReturn steady_attributedBlock

theorem steady_forExpression : Steady (forExpression self) :=
  andThen (.keyword _) fun _ => andThen (steady_alternatives h) fun _ =>
    andThen (.keyword _) fun _ => andThen (steady_condition h) fun _ =>
      .andReturn steady_attributedBlock

theorem steady_matchExpression : Steady (matchExpression self) :=
  andThen (.keyword _) fun _ => andThen (steady_condition h) fun _ => .andReturn .group

end

theorem steady_skipSign : Steady operandRule.skipSign := by
  refine .look (fun i j hij => ?_) fun i => ?_
  · rw [hij.tokens]
    rcases i.tokens with _ | ⟨_ | _ | _ | _, rest⟩ <;> simp
  · split
    · exact .sign (by simp)
    · exact .pure rfl

theorem steady_loopExpression : Steady (loopExpression self) :=
  andThen (.keyword _) fun _ => .andReturn steady_attributedBlock

theorem steady_parenExpression : Steady (parenExpression self) :=
  .andReturn .group

theorem steady_bracketExpression : Steady (bracketExpression self) :=
  .andReturn .group

section

include h

theorem steady_labeled : Steady (labeled self) := by
  refine andThen steady_label fun _ => andThen (.seesWord _) fun _ =>
    .ite (steady_whileExpression h) ?_
  refine andThen (.seesWord _) fun _ => .ite (steady_forExpression h) ?_
  refine andThen (.seesWord _) fun _ => .ite steady_loopExpression ?_
  exact andThen (.seesGroup _) fun _ => .ite (.andReturn steady_attributedBlock) (.refuse _)

theorem steady_closure (structs : Bool) : Steady (closure self structs) := by
  refine andThen (steady_binder h) fun _ => andThen (.keyword? _) fun _ =>
    andThen (.keyword? _) fun _ => andThen (.keyword? _) fun _ => andThen (.keyword? _) fun _ =>
      andThen (.sign rfl) fun _ => andThen (.repeated (fun _ => ?_) _) fun _ =>
        andThen (.sign rfl) fun _ => andThen (.sign? rfl) fun _ => ?_
  · refine andThen (.sees rfl) fun _ => .ite (.pure rfl) ?_
    refine andThen steady_attributes fun _ => andThen (steady_pattern h) fun _ =>
      andThen (.sign? rfl) fun _ => .guard (steady_type h) ?_
    exact andThen (.sees rfl) fun _ => .ite (.pure rfl) (.andReturn (.sign rfl))
  · exact .ite (andThen (steady_type h) fun _ => .andReturn steady_block)
      (.andReturn (h.expression _))

theorem steady_pathExpression (structs : Bool) : Steady (pathExpression self structs) := by
  refine andThen (steady_qualifiedPath h _) fun form => ?_
  refine andThen (.sees rfl) fun _ => andThen (.sees rfl) fun _ => .ite ?_ ?_
  · exact andThen (.sign rfl) fun _ => .andReturn .anyGroup
  · exact andThen (.seesGroup _) fun _ => .guard .group (.pure rfl)

theorem steady_breakExpression (structs : Bool) : Steady (breakExpression self structs) := by
  refine andThen (.keyword _) fun _ =>
    .look (fun i j hij => by simp [hij.tokens]) fun i => .ite ?_ ?_
  · exact andThen (steady_expression h) fun _ => .failThen _
  · exact andThen .lifetime? fun _ => andThen steady_seesExpression fun _ =>
      andThen (.seesGroup _) fun _ => .guard (steady_expression h) (.pure rfl)

theorem steady_jump (name : String) : Steady (jump self name) :=
  andThen (.keyword _) fun _ => andThen steady_seesExpression fun _ =>
    .guard (steady_expression h) (.pure rfl)

theorem steady_letExpression (structs : Bool) : Steady (letExpression self structs) :=
  andThen (.keyword _) fun _ => andThen (steady_alternatives h) fun _ =>
    andThen (.sign rfl) fun _ => andThen (h.operand _) fun _ => .andReturn (h.operators _ _ _)

theorem steady_atom (structs : Bool) : Steady (atom self structs) := by
  refine .look (fun i j hij => by simp [hij.tokens]) fun i => ?_
  refine .ite (.andReturn .literal) ?_
  refine .ite (andThen (.keyword _) fun _ => andThen (.keyword? _) fun _ =>
    .andReturn steady_block) ?_
  refine .ite (andThen (.keyword _) fun _ => .andReturn steady_block) ?_
  refine .ite (steady_closure h _) ?_
  refine .ite (.andReturn (.asStood (andThen (.keyword _) fun _ => andThen (.sign rfl) fun _ =>
    andThen .identifier fun _ => .group))) ?_
  refine .ite (steady_pathExpression h _) ?_
  refine .ite steady_parenExpression ?_
  refine .ite (steady_breakExpression h _) ?_
  refine .ite (andThen (.keyword _) fun _ => .andReturn .lifetime?) ?_
  refine .ite (steady_jump h _) ?_
  refine .ite (.andReturn (.asStood (andThen (.keyword _) fun _ => steady_expression h))) ?_
  refine .ite steady_bracketExpression ?_
  refine .ite (steady_letExpression h _) ?_
  refine .ite (steady_ifExpression h) ?_
  refine .ite (steady_whileExpression h) ?_
  refine .ite (steady_forExpression h) ?_
  refine .ite steady_loopExpression ?_
  refine .ite (steady_matchExpression h) ?_
  refine .ite (steady_jump h _) ?_
  refine .ite (andThen (.keyword _) fun _ => .andReturn steady_attributedBlock) ?_
  refine .ite (andThen (.keyword _) fun _ => .andReturn steady_attributedBlock) ?_
  refine .ite (.andReturn steady_attributedBlock) ?_
  refine .ite (.andReturn (steady_rangeOperator h _)) ?_
  refine .ite (.andReturn .skip) ?_
  exact .ite (steady_labeled h) (.refuse _)

theorem steady_operandRule (structs : Bool) : Steady (operandRule self structs) := by
  refine andThen steady_attributes fun _ => .look (fun i j hij => by simp [hij.tokens]) fun i => ?_
  refine .ite ?_ (.ite ?_ ?_)
  · refine andThen (.sign rfl) fun _ => .look (fun i j hij => by simp [hij.tokens]) fun i =>
      .ite (andThen .skip fun _ => andThen .skip fun _ => ?_) (andThen (.keyword? _) fun _ => ?_)
    · exact .andReturn (h.operand _)
    · exact .andReturn (h.operand _)
  · exact andThen steady_skipSign fun _ => .andReturn (h.operand _)
  · refine andThen (steady_atom h _) fun _ => andThen (steady_trailing h _) fun _ => ?_
    exact .guard (.fail _) (.pure rfl)

theorem steady_expressionRule (structs : Bool) : Steady (expressionRule self structs) :=
  andThen (h.operand _) fun _ => h.operators _ _ _

end

/-! ## Statements -/

theorem steady_endsInBraces : Steady endsInBraces := by
  refine .state fun i j hij => .pure ?_
  rw [← startsGroup_map_apart, ← hij.done, startsGroup_map_apart]

section

include h

theorem steady_letStatement : Steady (letStatement self) := by
  refine andThen (.keyword _) fun _ => andThen (steady_pattern h) fun _ =>
    andThen (.sign? rfl) fun _ => .guard (steady_type h) ?_
  have hend : Steady (sign ";") := .sign rfl
  refine andThen (.sign? rfl) fun _ => .ite (andThen (steady_expression h) fun _ => ?_) hend
  refine andThen steady_endsInBraces fun _ => andThen (.seesWord _) fun _ => .ite ?_ hend
  exact andThen (.keyword _) fun _ => andThen steady_block fun _ => hend

end

/-! ## All kinds -/

/-- Rules over steady rules are steady. -/
theorem Rules.Steady.rule (h : self.Steady) : (rule self).Steady where
  expression := steady_expressionRule h
  operand := steady_operandRule h
  operators := steady_operatorsRule h
  pattern := steady_patternRule h
  type := steady_typeRule h
  arguments := steady_argumentList h
  parameter := steady_parameterRule h

/-- The readers of all kinds are steady, however deep rules may be inside one another. -/
theorem steady_read (depth : Nat) : (read depth).Steady := by
  induction depth with
  | zero =>
    have hdeep (kind : Nonterminal) : Steady (read 0 kind) := .fail _
    exact ⟨fun _ => hdeep _, fun _ => hdeep _, fun _ _ _ => hdeep _, hdeep _, fun _ => hdeep _,
      hdeep _, hdeep _⟩
  | succ depth ih => exact ih.rule

/-! ## Whole pieces of code -/

/-- A whole piece of code is read if nothing is left over, neither inside of it nor at its end. -/
theorem map_all {α : Type} (p : Parser α) (code : Code) :
    (p.all code).map Prod.fst = (p.run ⟨code, [], none⟩).bind fun x =>
      if x.2.spilled = none ∧ x.2.tokens = [] then .ok x.1 else .error (.leftover x.2.spilled) := by
  rw [Parser.all]
  cases p.run ⟨code, [], none⟩ with
  | error c => rfl
  | ok found =>
    obtain ⟨a, tokens, done, spilled⟩ := found
    cases spilled with
    | some d => rfl
    | none =>
      cases tokens with
      | nil => rfl
      | cons t rest => rfl

theorem all_loosen {α : Type} {p : Parser α} (hp : Steady p) (code : Code) :
    (p.all (loosen code)).map Prod.fst = (p.all code).map Prod.fst := by
  have hrun := hp ⟨code, [], none⟩ ⟨loosen code, [], none⟩ ⟨rfl, rfl, rfl⟩
  rw [map_all, map_all]
  generalize p.run ⟨code, [], none⟩ = x at hrun ⊢
  generalize p.run ⟨loosen code, [], none⟩ = y at hrun ⊢
  cases hrun with
  | error c => rfl
  | ok value state left =>
    simp only [Except.bind, value, state.spilled, state.tokens, ← List.isEmpty_iff, isEmpty_loosen]

/-- The spacing of the marks before semicolons makes no difference to a binding. -/
theorem checkLet_loosen (code : Code) : checkLet (loosen code) = checkLet code := by
  have hdepth : depthFor (loosen code) = depthFor code := by rw [depthFor, size_loosen, depthFor]
  rw [checkLet, hdepth]
  exact all_loosen (steady_letStatement (steady_read _)) code

theorem loosen_touching (front : Code) (c : Char) (s t : Spacing) :
    loosen (front ++ [.mark c s, .mark ';' t]) =
      loosen (front ++ [.mark c .alone, .mark ';' t]) := by
  induction front with
  | nil => simp [startsSign]
  | cons a front ih =>
    have hnext : startsSign [';'] (front ++ [.mark c s, .mark ';' t]) =
        startsSign [';'] (front ++ [.mark c .alone, .mark ';' t]) := by
      rcases front with _ | ⟨_ | _ | _ | _, front⟩ <;> rfl
    rw [List.cons_append, loosen, ih, hnext, List.cons_append, loosen]

/-- It makes no difference to a binding whether its last mark touches the semicolon. -/
theorem checkLet_touching (front : Code) (c : Char) (s t : Spacing) :
    checkLet (front ++ [.mark c s, .mark ';' t]) =
      checkLet (front ++ [.mark c .alone, .mark ';' t]) := by
  rw [← checkLet_loosen, loosen_touching, checkLet_loosen]

/-! ## The end of a binding -/

/-- A steady reader takes tokens off the front of the code. -/
theorem suffix_of_steady {α : Type} {p : Parser α} (hp : Steady p) {i : Input} {found : α × Input}
    (h : p.run i = .ok found) : found.2.tokens <:+ i.tokens := by
  have hrun := hp i ⟨loosen i.tokens, i.done, i.spilled⟩ ⟨rfl, rfl, rfl⟩
  rw [h] at hrun
  generalize p.run _ = y at hrun
  cases hrun with
  | ok value state left => exact left

/-- A reader that takes a semicolon last. -/
def EndsAtSemicolon {α : Type} (p : Parser α) : Prop :=
  ∀ i a j, p.run i = .ok (a, j) →
    ∃ left, left <:+ i.tokens ∧ startsSign [';'] left = true ∧ j.tokens = left.drop 1

namespace EndsAtSemicolon

variable {α β : Type}

theorem sign : EndsAtSemicolon (sign ";") := by
  intro i a j hrun
  by_cases hsign : startsSign [';'] i.tokens = true
  · refine ⟨i.tokens, List.suffix_rfl, hsign, ?_⟩
    change (if startsSign [';'] i.tokens = true then _ else _ : Parser Unit).run i = _ at hrun
    rw [if_pos hsign] at hrun
    cases hrun
    rfl
  · change (if startsSign [';'] i.tokens = true then _ else _ : Parser Unit).run i = _ at hrun
    rw [if_neg hsign] at hrun
    cases hrun

theorem andThen {p : Parser α} {f : α → Parser β} (hp : Steady p)
    (hf : ∀ a, EndsAtSemicolon (f a)) : EndsAtSemicolon (p >>= f) := by
  intro i b j hrun
  rw [StateT.run_bind] at hrun
  cases hp' : p.run i with
  | error c =>
    rw [hp'] at hrun
    cases hrun
  | ok found =>
    rw [hp'] at hrun
    obtain ⟨left, hleft, hsign, hj⟩ := hf found.1 found.2 b j hrun
    exact ⟨left, hleft.trans (suffix_of_steady hp hp'), hsign, hj⟩

theorem ite {c : Prop} [Decidable c] {p q : Parser α} (hp : EndsAtSemicolon p)
    (hq : EndsAtSemicolon q) : EndsAtSemicolon (if c then p else q) := by
  split
  · exact hp
  · exact hq

theorem guard {c : Prop} [Decidable c] {p : Parser β} {q : Parser α} (hp : Steady p)
    (hq : EndsAtSemicolon q) : EndsAtSemicolon (if c then p >>= fun _ => q else q) :=
  ite (andThen hp fun _ => hq) hq

theorem letStatement (h : self.Steady) : EndsAtSemicolon (letStatement self) := by
  refine andThen (.keyword _) fun _ => andThen (steady_pattern h) fun _ =>
    andThen (.sign? rfl) fun _ => guard (steady_type h) ?_
  refine andThen (.sign? rfl) fun _ => ite (andThen (steady_expression h) fun _ => ?_) sign
  refine andThen steady_endsInBraces fun _ => andThen (.seesWord _) fun _ => ite ?_ sign
  exact andThen (.keyword _) fun _ => andThen steady_block fun _ => sign

end EndsAtSemicolon

/-- The last token of a binding is its semicolon. -/
theorem exists_of_checkLet {code : Code} (h : checkLet code = .ok ()) :
    ∃ front s, code = front ++ [.mark ';' s] := by
  have hall : ((letStatement (read (depthFor code))).all code).map Prod.fst = .ok () := h
  rw [map_all] at hall
  cases hrun : (letStatement (read (depthFor code))).run ⟨code, [], none⟩ with
  | error c =>
    rw [hrun] at hall
    cases hall
  | ok found =>
    rw [hrun, Except.bind] at hall
    split at hall
    · next hdone =>
      obtain ⟨left, ⟨front, hfront⟩, hsign, hdrop⟩ :=
        EndsAtSemicolon.letStatement (steady_read _) _ _ _ hrun
      obtain ⟨s, rest, rfl⟩ := exists_of_startsSign hsign
      obtain rfl : rest = [] := hdrop.symm.trans hdone.2
      exact ⟨front, s, hfront.symm⟩
    · cases hall

end Grammar

end TextTemplate
