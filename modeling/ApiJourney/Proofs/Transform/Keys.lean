-- SUMMARY: What transforms give holds no key twice, if the extracted value does not.
import ApiJourney.Proofs.Keys
import ApiJourney.Proofs.Sorting
import ApiJourney.Proofs.Transform.Operations
import ApiJourney.Transform.Evaluation
import Mathlib

/-!
# Keys in the results of transforms

An object that a transform gives is one of the extracted value, or it is written out in the
expression. Those written out are built entry by entry, and an entry whose key is found already
takes the place of that one. So no object in a result holds a key twice, if none in the extracted
value does.
-/

namespace ApiJourney

namespace Transform

open Text Value Located

/-! ## Functions -/

section Functions

variable {l : Located} {args : List Located} {kws : Keywords Located}

theorem textOf_gives (h : l.WellKeyed) : Gives (textOf l) := by
  unfold textOf
  split
  · exact h
  · exact gives_map fun _ => rfl
  · next n _ =>
    -- else the written form of an unknown integer is unfolded
    generalize shownText (.int n) = r
    exact gives_map fun _ => written_wellKeyed rfl
  · exact gives_map fun _ => rfl

/-- An argument that is given, in either way, is one of those that are passed. -/
theorem argOr_gives {positional : Option Located} (hpositional : ∀ l ∈ positional, l.WellKeyed)
    (hkws : ∀ k ∈ kws, k.2.WellKeyed) (name : String) :
    Ensures (argOr positional name kws) (fun given => ∀ l ∈ given, l.WellKeyed)
      fun _ => True := by
  unfold argOr
  split
  · trivial
  · exact hpositional
  · exact fun l hl => hkws _ (mem_of_lookup hl)

variable (hargs : ∀ l ∈ args, l.WellKeyed) (hkws : ∀ k ∈ kws, k.2.WellKeyed)

include hargs in
theorem mem_getElem?_wellKeyed (i : Nat) : ∀ l ∈ args[i]?, l.WellKeyed :=
  fun l hl => hargs l (List.mem_of_getElem? hl)

theorem decodeBytes_gives (bs : List UInt8) (encoding way : String) :
    GivesValue (decodeBytes bs encoding way) := by
  unfold decodeBytes
  split_ifs
  · rfl
  · split
    · exact ((Ensures.vacuous _).imp_ok (fun _ _ => rfl)).map
    · trivial

include hargs hkws in
theorem toText_gives : Gives (toText args kws) := by
  unfold toText
  refine .andThen fun _ => .ite trivial ?_
  refine (argOr_gives (mem_getElem?_wellKeyed hargs 0) hkws _).bind fun object hobject => ?_
  refine .andThen fun encoding => .andThen fun errors => ?_
  refine .andThen fun name => .andThen fun way => ?_
  cases object with
  | none => rfl
  | some l =>
    refine .ite (textOf_gives (hobject l rfl)) ?_
    split
    · exact (decodeBytes_gives _ _ _).fresh
    · trivial

theorem integerOf_gives (cs : List Char) : Gives (integerValue.integerOf cs) := by
  unfold integerValue.integerOf
  split <;> trivial

theorem integerValue_gives (h : l.WellKeyed) : Gives (integerValue l) := by
  unfold integerValue
  split
  · exact h
  · exact integerOf_gives _
  · exact integerOf_gives _
  · exact gives_map fun _ => rfl

theorem integerInBase_gives (v base : Value) : Gives (integerInBase v base) := by
  unfold integerInBase
  split
  · trivial
  · refine .ite trivial (.andThen fun cs => ?_)
    split <;> trivial

include hargs in
theorem toInteger_gives : Gives (toInteger args kws) := by
  unfold toInteger
  refine .andThen fun _ => ?_
  split
  · rfl
  · exact integerValue_gives (hargs _ (List.mem_singleton_self _))
  · exact integerInBase_gives _ _
  · exact integerInBase_gives _ _
  · trivial

theorem decimalOf_gives (cs : List Char) : Gives (floatValue.decimalOf cs) := by
  unfold floatValue.decimalOf
  split <;> trivial

include hargs in
theorem toFloat_gives : Gives (toFloat args kws) := by
  unfold toFloat
  refine .andThen fun _ => ?_
  split
  · rfl
  · unfold floatValue
    split
    · exact hargs _ (List.mem_singleton_self _)
    · exact decimalOf_gives _
    · exact decimalOf_gives _
    · exact gives_map fun _ => rfl
  · trivial

theorem toBool_gives : Gives (toBool args kws) := by
  unfold toBool
  refine .andThen fun _ => ?_
  split <;> trivial

theorem roundFloat_gives (x : Float) (places : Int) : GivesValue (roundFloat x places) := by
  unfold roundFloat
  split
  · refine .ite rfl (.ite rfl ?_)
    dsimp only
    split <;> trivial
  · rfl

theorem integerAsIs_wellKeyed (h : l.WellKeyed) (n : Int) : (integerAsIs l n).WellKeyed := by
  unfold integerAsIs
  split
  · exact h
  · rfl

theorem roundValue_gives (h : l.WellKeyed) (places : Value) : Gives (roundValue l places) := by
  unfold roundValue
  split
  · split <;> trivial
  · split
    · exact (roundFloat_gives _ _).fresh
    · trivial
  · split
    · trivial
    · exact integerAsIs_wellKeyed h _
    · split
      · split_ifs
        · exact integerAsIs_wellKeyed h _
        · rfl
      · trivial

include hargs hkws in
theorem rounded_gives : Gives (rounded args kws) := by
  unfold rounded
  refine .andThen fun _ => .ite trivial ?_
  refine (argOr_gives (mem_getElem?_wellKeyed hargs 0) hkws _).bind fun number hnumber => ?_
  refine .andThen fun places => ?_
  cases number with
  | none => trivial
  | some l => exact roundValue_gives (hnumber l rfl) _

theorem complexAbs_gives (re im : Float) : GivesValue (complexAbs re im) := by
  unfold complexAbs
  split
  · rfl
  · rfl
  · rfl
  · rfl
  · dsimp only
    split_ifs <;> trivial

include hargs in
theorem absolute_gives : Gives (absolute args kws) := by
  unfold absolute
  refine .andThen fun _ => ?_
  split
  · split
    · split_ifs
      · rfl
      · exact integerAsIs_wellKeyed (hargs _ (List.mem_singleton_self _)) _
    · rfl
    · exact (complexAbs_gives _ _).fresh
    · trivial
  · trivial

theorem extreme_gives (op : OrderOp) {best : Located} (hbest : best.WellKeyed)
    {ls : List Located} (hls : ∀ l ∈ ls, l.WellKeyed) : Gives (extreme op best ls) := by
  induction ls generalizing best with
  | nil => exact hbest
  | cons l ls ih =>
    rw [List.forall_mem_cons] at hls
    rw [extreme]
    refine .andThen fun better => ?_
    split
    · exact ih hls.1 hls.2
    · exact ih hbest hls.2

include hargs in
theorem choices_gives :
    Ensures (choices args kws) (fun ls => ∀ l ∈ ls, l.WellKeyed) fun _ => True := by
  unfold choices
  split
  · trivial
  · exact iterate_gives (hargs _ (List.mem_singleton_self _))
  · exact .ite trivial hargs

include hargs hkws in
/-- The least and the greatest item are items. -/
theorem extremeOf_gives (op : OrderOp) : Gives (extremeOf op args kws) := by
  unfold extremeOf
  refine .andThen fun _ => ?_
  refine (choices_gives hargs).bind fun ls hls => ?_
  split
  · split
    · next l hl => exact hkws _ (mem_of_lookup hl)
    · trivial
  · rw [List.forall_mem_cons] at hls
    exact .ite trivial (extreme_gives op hls.1 hls.2)

/-- What was sorted are the same items. -/
theorem sorted_list_gives (before : Sorting.Test Fault Located) {ls : List Located}
    (h : ∀ l ∈ ls, l.WellKeyed) :
    Ensures (sorted before ls) (fun ls => ∀ l ∈ ls, l.WellKeyed) fun _ => True :=
  (sorted_perm before ls).imp_ok fun _ hperm l hl => h l (hperm.mem_iff.1 hl)

include hargs in
theorem sortedItems_gives : Gives (sortedItems args kws) := by
  unfold sortedItems
  refine .andThen fun _ => ?_
  split
  · refine (iterate_gives (hargs _ (List.mem_singleton_self _))).bind fun items hitems => ?_
    refine .andThen fun backwards => .ite trivial (.ite ?_ ?_)
    · have hturned : ∀ l ∈ items.reverse, l.WellKeyed := fun l hl =>
        hitems l (List.mem_reverse.1 hl)
      refine (sorted_list_gives _ hturned).bind fun ls hls => ?_
      exact list_wellKeyed fun l hl => hls l (List.mem_reverse.1 hl)
    · exact ((sorted_list_gives _ hitems).imp_ok (fun _ hls => list_wellKeyed hls)).map
  · trivial

theorem caseOf_gives (f : List Char → List Char) : Gives (caseOf f args kws) := by
  unfold caseOf
  refine .andThen fun _ => .ite trivial (.andThen fun l => ?_)
  split
  · exact gives_map fun _ => written_wellKeyed rfl
  · trivial

theorem lengthOf_gives (v : Value) : GivesValue (lengthOf v) := by
  unfold lengthOf
  split <;> trivial

theorem sized_gives : Gives (sized args kws) := by
  unfold sized
  refine .andThen fun _ => ?_
  split
  · exact (lengthOf_gives _).fresh
  · trivial

include hargs hkws in
theorem callFunction_gives (name : String) : Gives (callFunction name args kws) := by
  unfold callFunction
  split
  · next f hf =>
    refine Ensures.mapError ?_
    have hmem := mem_of_lookup hf
    simp only [functions, List.mem_cons, Prod.mk.injEq, List.not_mem_nil, or_false] at hmem
    rcases hmem with ⟨-, rfl⟩ | ⟨-, rfl⟩ | ⟨-, rfl⟩ | ⟨-, rfl⟩ | ⟨-, rfl⟩ | ⟨-, rfl⟩ | ⟨-, rfl⟩ |
      ⟨-, rfl⟩ | ⟨-, rfl⟩ | ⟨-, rfl⟩ | ⟨-, rfl⟩ | ⟨-, rfl⟩
    · exact sized_gives
    · exact toText_gives hargs hkws
    · exact toInteger_gives hargs
    · exact toFloat_gives hargs
    · exact toBool_gives
    · exact rounded_gives hargs hkws
    · exact absolute_gives hargs
    · exact extremeOf_gives hargs hkws .lt
    · exact extremeOf_gives hargs hkws .gt
    · exact sortedItems_gives hargs
    · exact caseOf_gives _
    · exact caseOf_gives _
  · trivial

end Functions

/-! ## Expressions -/

section Evaluation

variable {value : Value} {a b l : Located}

theorem lift_gives {r : Except Fault Located} (h : Gives r) : Gives (lift r) :=
  Ensures.mapError h

theorem takenOver?_wellKeyed {template : List Char} (h : b.WellKeyed)
    (hl : takenOver? template b = some l) : l.WellKeyed := by
  unfold takenOver? at hl
  dsimp only at hl
  split at hl
  · next k _ hk =>
    have hk : k.WellKeyed := by
      split at hk
      · exact single?_wellKeyed h hk
      · cases hk
        exact h
    split at hl
    · exact (textOf_gives hk).of_ok (toOption_eq_some.1 hl)
    · exact (textOf_gives hk).of_ok (toOption_eq_some.1 hl)
    · cases hl
  · cases hl

theorem remainder_gives (a : Located) (hb : b.WellKeyed) : Gives (remainder a b) := by
  unfold remainder
  split
  · refine .andThen fun _ => .andThen fun filled => ?_
    cases htaken : takenOver? _ b with
    | none => rfl
    | some l => exact takenOver?_wellKeyed hb htaken
  · exact lift_gives (gives_map fun _ => rfl)
  · exact lift_gives (onNumbers_gives modNumbers_gives _ _).fresh

theorem applyBinary_gives (op : BinaryOp) (ha : a.WellKeyed) (hb : b.WellKeyed) :
    Gives (applyBinary op a b) := by
  cases op with
  | add => exact lift_gives (addValues_gives ha hb)
  | sub => exact lift_gives (onNumbers_gives subNumbers_gives _ _).fresh
  | mul =>
    exact .andThen fun _ => .andThen fun _ =>
      lift_gives (mulValues_gives ha hb)
  | div => exact lift_gives (onNumbers_gives divNumbers_gives _ _).fresh
  | floorDiv => exact lift_gives (onNumbers_gives floorDivNumbers_gives _ _).fresh
  | mod => exact remainder_gives a hb
  | _ => trivial

theorem keep_gives (h : l.WellKeyed) : Gives (keep l) := by
  unfold keep
  split
  · next n _ _ => cases n <;> rfl
  · exact h
  · trivial

theorem applyUnary_gives (op : UnaryOp) (h : l.WellKeyed) : Gives (applyUnary op l) := by
  cases op with
  | neg => exact lift_gives (negate_gives _).fresh
  | pos => exact lift_gives (keep_gives h)
  | not => rfl
  | invert => trivial

theorem literal_wellKeyed (l : Literal) : l.value.isWellKeyed = true := by
  cases l <;> rfl

theorem nameValue_gives (h : value.isWellKeyed = true) (id : String) :
    Gives (nameValue value id) := by
  unfold nameValue
  split
  · exact h
  · rfl
  · rfl
  · rfl
  · trivial

mutual

/-- An expression gives a well keyed value, if the extracted value is one. -/
theorem eval_gives (h : value.isWellKeyed = true) : ∀ e : Expr, Gives (eval value e)
  | .constant l => by
    rw [eval]
    exact literal_wellKeyed l
  | .name id => by
    rw [eval]
    exact nameValue_gives h id
  | .binary op l r => by
    rw [eval]
    exact (eval_gives h l).bind fun a ha => (eval_gives h r).bind fun b hb =>
      applyBinary_gives op ha hb
  | .unary op e => by
    rw [eval]
    exact (eval_gives h e).bind fun a ha => applyUnary_gives op ha
  | .all es => by
    rw [eval]
    exact evalAll_gives h _ rfl es
  | .any es => by
    rw [eval]
    exact evalAny_gives h _ rfl es
  | .compare e rest => by
    rw [eval]
    exact (eval_gives h e).bind fun l _ => evalCompare_gives h l rest
  | .ifElse test body orelse => by
    rw [eval]
    exact (eval_gives h test).bind fun t _ => .ite (eval_gives h body) (eval_gives h orelse)
  | .subscript target index => by
    have htarget := eval_gives h target
    cases index with
    | slice start stop step =>
      rw [eval]
      exact htarget.bind fun t ht => .andThen fun a =>
        .andThen fun b => .andThen fun c =>
          lift_gives (cut_gives ht _ _ _)
    | _ =>
      rw [eval]
      · exact htarget.bind fun t ht => .andThen fun i =>
          Ensures.mapError (subscript_gives ht i)
      · exact nofun
  | .slice _ _ _ => by
    rw [eval]
    trivial
  | .call f args kws => by
    -- The receiver of a method is a part of `f`: what it gives is taken before `f` is opened.
    have hreceiver := receiver_gives h f
    rw [eval]
    refine .ite trivial ((evalList_gives h args).bind fun ls hls =>
      (evalKeywords_gives h kws).bind fun ks hks => ?_)
    split
    · exact callFunction_gives hls hks _
    · exact (hreceiver _ _ rfl).bind fun t ht => callMethod_gives ht hls
    · trivial
  | .attribute _ _ => by
    rw [eval]
    trivial
  | .list es => by
    rw [eval]
    exact ((evalList_gives h es).imp_ok (fun _ hls => list_wellKeyed hls)).map
  | .tuple es => by
    rw [eval]
    exact ((evalList_gives h es).imp_ok (fun _ hls => tuple_wellKeyed hls)).map
  | .dict es => by
    rw [eval]
    exact .ite trivial (evalEntries_gives h [] rfl es).map
  | .starred _ => by
    rw [eval]
    trivial
  | .foreign _ => by
    rw [eval]
    trivial

/-- What a method is called on is no operand of the call itself. -/
theorem receiver_gives (h : value.isWellKeyed = true) :
    ∀ (f target : Expr) (name : String), f = .attribute target name → Gives (eval value target)
  | .attribute target _ => by
    have htarget := eval_gives h target
    rintro _ _ ⟨⟩
    exact htarget
  | .constant _ | .name _ | .binary _ _ _ | .unary _ _ | .all _ | .any _ | .compare _ _
  | .ifElse _ _ _ | .subscript _ _ | .slice _ _ _ | .call _ _ _ | .list _ | .tuple _ | .dict _
  | .starred _ | .foreign _ => nofun

theorem evalList_gives (h : value.isWellKeyed = true) : ∀ es : List Expr,
    Ensures (evalList value es) (fun ls => ∀ l ∈ ls, l.WellKeyed) fun _ => True
  | [] => by
    rw [evalList]
    exact nofun
  | e :: rest => by
    rw [evalList]
    exact (eval_gives h e).bind fun l hl => (evalList_gives h rest).bind fun ls hls =>
      List.forall_mem_cons.2 ⟨hl, hls⟩

theorem evalAll_gives (h : value.isWellKeyed = true) :
    ∀ (last : Located) (_ : last.WellKeyed) (es : List Expr), Gives (evalAll value last es)
  | _, hlast, [] => by
    rw [evalAll]
    exact hlast
  | _, _, e :: rest => by
    rw [evalAll]
    exact (eval_gives h e).bind fun l hl => .ite (evalAll_gives h l hl rest) hl

theorem evalAny_gives (h : value.isWellKeyed = true) :
    ∀ (last : Located) (_ : last.WellKeyed) (es : List Expr), Gives (evalAny value last es)
  | _, hlast, [] => by
    rw [evalAny]
    exact hlast
  | _, _, e :: rest => by
    rw [evalAny]
    exact (eval_gives h e).bind fun l hl => .ite hl (evalAny_gives h l hl rest)

theorem evalCompare_gives (h : value.isWellKeyed = true) :
    ∀ (a : Located) (rest : List (CompareOp × Expr)), Gives (evalCompare value a rest)
  | _, [] => by
    rw [evalCompare]
    rfl
  | a, (op, e) :: rest => by
    rw [evalCompare]
    exact (eval_gives h e).bind fun b _ => .andThen fun holds =>
      .ite (evalCompare_gives h b rest) rfl

theorem evalKeywords_gives (h : value.isWellKeyed = true) : ∀ kws : List (Option String × Expr),
    Ensures (evalKeywords value kws) (fun ks => ∀ k ∈ ks, k.2.WellKeyed) fun _ => True
  | [] => by
    rw [evalKeywords]
    exact nofun
  | (_, e) :: rest => by
    rw [evalKeywords]
    refine (eval_gives h e).bind fun l hl => (evalKeywords_gives h rest).bind fun ks hks => ?_
    dsimp only
    split_ifs
    · exact hks
    · exact List.forall_mem_cons.2 ⟨hl, hks⟩

/-- The entries put into an object keep its keys apart. -/
theorem evalEntries_gives (h : value.isWellKeyed = true) : ∀ (done : List (Located × Located))
    (_ : wellKeyedEntries (plainEntries done) = true) (es : List (Option Expr × Expr)),
    Ensures (evalEntries value done es) (fun es => (Located.dict es).WellKeyed) fun _ => True
  | _, hdone, [] => by
    rw [evalEntries]
    exact hdone
  | done, hdone, (k, e) :: rest => by
    rw [evalEntries]
    refine .andThen fun key => (eval_gives h e).bind fun l hl => ?_
    split
    · next hkey => exact evalEntries_gives h _ (insert_wellKeyed hdone hkey hl) rest
    · trivial

end

/-- What a transform computes holds no key twice, if the extracted value does not. -/
theorem apply_wellKeyed (h : value.isWellKeyed = true) (text : String) :
    Ensures (apply value text) (fun v => v.isWellKeyed = true) fun _ => True := by
  unfold apply
  refine .andThen fun e => .ite trivial ?_
  exact Ensures.mapError (Ensures.map (eval_gives h e))

end Evaluation

end Transform

end ApiJourney
