-- SUMMARY: Transforms have a value or one of their errors, but for a few ways out of that.
import ApiJourney.Proofs.Outcome
import ApiJourney.Proofs.Text.Parts
import ApiJourney.Transform.Evaluation
import Mathlib

/-!
# Failures of transforms

Whatever fails while a transform is read, checked or evaluated is an error of the transform, with
a few exceptions. A text that has no bytes is not read at all, a null character may make reading
fail for another reason, and so may very many brackets in a text that is malformed. And an error
about a key that is missing in an object is reported together with the key, which fails if the key
has no written form. Such a key is asked for by a subscript somewhere in the expression.
-/

namespace ApiJourney.Transform

open Text

/-! ## Parts of expressions -/

/-- The expressions that an expression is directly made of. -/
def Expr.operands : Expr → List Expr
  | .constant _ | .name _ | .foreign _ => []
  | .binary _ l r => [l, r]
  | .unary _ e | .attribute e _ | .starred e => [e]
  | .all es | .any es | .list es | .tuple es => es
  | .compare e rest => e :: rest.map Prod.snd
  | .ifElse test body orelse => [test, body, orelse]
  | .subscript target index => [target, index]
  | .slice start stop step => start.toList ++ stop.toList ++ step.toList
  | .call f args kws => f :: (args ++ kws.map Prod.snd)
  | .dict es => es.flatMap fun (k, v) => k.toList ++ [v]

/-- An expression is a part of itself and of what its operands are parts of. -/
inductive Expr.Part : Expr → Expr → Prop where
  | refl (e : Expr) : Part e e
  | operand {part o e : Expr} : o ∈ e.operands → Part part o → Part part e

/-- A subscript asks an object for a key that is not in it. -/
inductive Misses (value : Value) : Expr → Value → Prop where
  | subscript {target index : Expr} {t i : Located} {es : Entries} :
      eval value target = .ok t → t.value = .dict es → eval value index = .ok i →
      i.value.hashable = true → Located.find? (Located.entriesOf t.origin es) i = none →
      Misses value (.subscript target index) i.value

/-! ## Missing keys -/

/-- An error that is not about a missing key. -/
def Error.IsPlain : Error → Prop
  | .missing _ => False
  | _ => True

/-- If the error is about a missing key, a part of one of the expressions misses it. -/
def Explained (value : Value) (es : List Expr) : Error → Prop
  | .missing written =>
    ∃ e ∈ es, ∃ part key, part.Part e ∧ Misses value part key ∧ key.written? = written
  | _ => True

theorem Error.IsPlain.explained {value : Value} {es : List Expr} {x : Error} (h : x.IsPlain) :
    Explained value es x := by
  cases x <;> trivial

/-- What is computed from the expressions fails with errors that they explain. -/
def Traces (value : Value) (es : List Expr) (r : Except Error α) : Prop :=
  Ensures r (fun _ => True) (Explained value es)

namespace Traces

variable {value : Value} {es es' : List Expr} {r : Except Error α}

theorem ok (a : α) : Traces value es (.ok a) :=
  trivial

theorem of_plain (h : Ensures r (fun _ => True) Error.IsPlain) : Traces value es r :=
  h.imp (fun _ h => h) fun _ hx => hx.explained

theorem mono (h : Traces value es r) (hes : es ⊆ es') : Traces value es' r := by
  refine Ensures.imp h (fun _ h => h) fun x hx => ?_
  cases x with
  | missing written =>
    obtain ⟨e, he, hpart⟩ := hx
    exact ⟨e, hes he, hpart⟩
  | _ => trivial

/-- What explains an error of the operands explains it of the expression. -/
theorem of_operands {e : Expr} (h : Traces value e.operands r) : Traces value [e] r := by
  refine Ensures.imp h (fun _ h => h) fun x hx => ?_
  cases x with
  | missing written =>
    obtain ⟨o, ho, part, key, hpart, hmisses⟩ := hx
    exact ⟨e, List.mem_singleton_self e, part, key, .operand ho hpart, hmisses⟩
  | _ => trivial

/-- What explains an error of some of the operands explains it of the expression. -/
theorem below {e : Expr} (h : Traces value es r) (hes : es ⊆ e.operands) : Traces value [e] r :=
  of_operands (h.mono hes)

theorem bind {f : α → Except Error β} (h : Traces value es r) (hes : es ⊆ es')
    (hf : ∀ a, r = .ok a → Traces value es' (f a)) : Traces value es' (r >>= f) := by
  cases r with
  | ok a => exact hf a rfl
  | error x => exact mono h hes

theorem map {f : α → β} (h : Traces value es r) : Traces value es (r.map f) :=
  Ensures.map h

end Traces

theorem lift_plain (r : Except Fault α) : Ensures (lift r) (fun _ => True) Error.IsPlain := by
  cases r <;> trivial

theorem checkRepetition_plain (seq count : Value) :
    Ensures (checkRepetition seq count) (fun _ => True) Error.IsPlain := by
  unfold checkRepetition
  dsimp only
  split
  · split_ifs <;> trivial
  · trivial

theorem checkTemplate_plain (cs : List Char) :
    Ensures (checkTemplate cs) (fun _ => True) Error.IsPlain := by
  unfold checkTemplate
  induction templateSizes (cs.length + 1) cs with
  | nil => trivial
  | cons size sizes ih =>
    refine Ensures.bind (P := fun _ => True) ?_ fun _ _ => ih
    unfold checkSize
    split_ifs
    · trivial
    · split
      · split_ifs <;> trivial
      · trivial

theorem remainder_plain (a b : Located) :
    Ensures (remainder a b) (fun _ => True) Error.IsPlain := by
  unfold remainder
  split
  · exact (checkTemplate_plain _).bind fun _ _ => (lift_plain _).bind fun _ _ => trivial
  · exact lift_plain _
  · exact lift_plain _

theorem applyBinary_plain (op : BinaryOp) (a b : Located) :
    Ensures (applyBinary op a b) (fun _ => True) Error.IsPlain := by
  cases op with
  | mul =>
    exact (checkRepetition_plain _ _).bind fun _ _ => (checkRepetition_plain _ _).bind fun _ _ =>
      lift_plain _
  | mod => exact remainder_plain a b
  | add | sub | div | floorDiv => exact lift_plain _
  | _ => trivial

theorem applyUnary_plain (op : UnaryOp) (l : Located) :
    Ensures (applyUnary op l) (fun _ => True) Error.IsPlain := by
  cases op with
  | neg | pos => exact lift_plain _
  | _ => trivial

theorem callFunction_plain (name : String) (args : List Located) (kws : Keywords Located) :
    Ensures (callFunction name args kws) (fun _ => True) Error.IsPlain := by
  unfold callFunction
  split
  · exact lift_plain _
  · trivial

theorem checkArgs_plain (target : Value) (name : String) (args : List Value) :
    Ensures (checkArgs target name args) (fun _ => True) Error.IsPlain := by
  unfold checkArgs
  repeat' split
  all_goals trivial

theorem callMethod_plain (target : Located) (name : String) (args : List Located)
    (kws : Keywords Located) :
    Ensures (callMethod target name args kws) (fun _ => True) Error.IsPlain := by
  unfold callMethod
  split_ifs
  · trivial
  · refine (checkArgs_plain _ _ _).bind fun _ _ => (lift_plain _).bind fun result _ => ?_
    split_ifs <;> trivial

theorem nameValue_plain (value : Value) (id : String) :
    Ensures (nameValue value id) (fun _ => True) Error.IsPlain := by
  unfold nameValue
  split <;> trivial

/-- Only the key of a subscript is reported as missing. -/
theorem subscript_traces {value : Value} {target index : Expr} {t i : Located}
    (ht : eval value target = .ok t) (hi : eval value index = .ok i) :
    Traces value [.subscript target index] ((subscript t i).mapError (keyError i.value)) := by
  unfold subscript
  split
  · next es hes =>
    split_ifs with hhash
    · trivial
    · split
      · trivial
      · next hnone =>
        rw [Bool.not_eq_true', Bool.not_eq_false] at hhash
        exact ⟨_, List.mem_singleton_self _, _, i.value, .refl _,
          .subscript ht hes hi hhash hnone, rfl⟩
  · split
    · next s hs =>
      unfold indexed
      split
      · trivial
      · dsimp only
        split <;> trivial
    · trivial

theorem eval_subscript {value : Value} {target index : Expr}
    (hindex : ∀ start stop step, index ≠ .slice start stop step) :
    eval value (.subscript target index) = (do
      let t ← eval value target
      let i ← eval value index
      (subscript t i).mapError (keyError i.value)) := by
  rw [eval]
  exact hindex

/-- The operands of a subscript and the subscript itself explain its errors. -/
theorem indexed_traces {value : Value} {target index : Expr}
    (hslice : ∀ start stop step, index ≠ .slice start stop step)
    (htarget : Traces value [target] (eval value target))
    (hindex : Traces value [index] (eval value index)) :
    Traces value [.subscript target index] (eval value (.subscript target index)) := by
  rw [eval_subscript hslice]
  exact (htarget.below (by simp [Expr.operands])).bind (List.Subset.refl _) fun t ht =>
    (hindex.below (by simp [Expr.operands])).bind (List.Subset.refl _) fun i hi =>
      subscript_traces ht hi

/-! ## Evaluation -/

section Evaluation

variable {value : Value}

mutual

/-- An expression is evaluated, or a part of it explains the error. -/
theorem eval_traces : ∀ e : Expr, Traces value [e] (eval value e)
  | .constant l => by
    rw [eval]
    exact .ok _
  | .name id => by
    rw [eval]
    exact .of_plain (nameValue_plain value id)
  | .binary op l r => by
    rw [eval]
    refine .of_operands ?_
    exact (eval_traces l).bind (by simp [Expr.operands]) fun a _ =>
      (eval_traces r).bind (by simp [Expr.operands]) fun b _ => .of_plain (applyBinary_plain op a b)
  | .unary op e => by
    rw [eval]
    refine .of_operands ?_
    exact (eval_traces e).bind (by simp [Expr.operands]) fun a _ =>
      .of_plain (applyUnary_plain op a)
  | .all es => by
    rw [eval]
    exact .of_operands (evalAll_traces _ es)
  | .any es => by
    rw [eval]
    exact .of_operands (evalAny_traces _ es)
  | .compare e rest => by
    rw [eval]
    refine .of_operands ?_
    exact (eval_traces e).bind (by simp [Expr.operands]) fun l _ =>
      (evalCompare_traces l rest).mono (by simp [Expr.operands])
  | .ifElse test body orelse => by
    rw [eval]
    refine .of_operands ?_
    refine (eval_traces test).bind (by simp [Expr.operands]) fun t _ => ?_
    split_ifs
    · exact (eval_traces body).mono (by simp [Expr.operands])
    · exact (eval_traces orelse).mono (by simp [Expr.operands])
  | .subscript target index => by
    -- The bounds of a slice are parts of `index`: their traces are taken before `index` is opened.
    have htarget := eval_traces target
    have hindex := eval_traces index
    have hbounds := bounds_traces index
    cases index with
    | slice start stop step =>
      obtain ⟨hstart, hstop, hstep⟩ := hbounds _ _ _ rfl
      rw [eval]
      refine .of_operands ?_
      exact htarget.bind (by simp [Expr.operands]) fun t _ =>
        hstart.bind (by simp [Expr.operands]) fun a _ =>
          hstop.bind (by simp [Expr.operands]) fun b _ =>
            hstep.bind (by simp [Expr.operands]) fun c _ => .of_plain (lift_plain _)
    | _ => exact indexed_traces nofun htarget hindex
  | .slice _ _ _ => by
    rw [eval]
    trivial
  | .call f args kws => by
    -- Only a method evaluates its receiver, so what is called is opened after the arguments.
    have hreceiver := receiver_traces f
    rw [eval]
    split_ifs
    · trivial
    refine .of_operands ?_
    refine (evalList_traces args).bind (by simp [Expr.operands]) fun ls _ =>
      (evalKeywords_traces kws).bind (by simp [Expr.operands]) fun ks _ => ?_
    split
    · next id => exact .of_plain (callFunction_plain id ls ks)
    · next target name =>
      exact (hreceiver _ _ rfl).bind (by simp [Expr.operands]) fun t _ =>
        .of_plain (callMethod_plain t name ls ks)
    · trivial
  | .attribute _ _ => by
    rw [eval]
    trivial
  | .list es => by
    rw [eval]
    exact .of_operands (evalList_traces es).map
  | .tuple es => by
    rw [eval]
    exact .of_operands (evalList_traces es).map
  | .dict es => by
    rw [eval]
    split_ifs
    · trivial
    · exact .of_operands (evalEntries_traces [] es).map
  | .starred _ => by
    rw [eval]
    trivial
  | .foreign _ => by
    rw [eval]
    trivial

/-- The bounds of a slice are no operands of the subscript itself. -/
theorem bounds_traces : ∀ (index : Expr) (start stop step : Option Expr),
    index = .slice start stop step →
      Traces value [index] (evalOption value start) ∧
        Traces value [index] (evalOption value stop) ∧
          Traces value [index] (evalOption value step)
  | .slice start stop step => by
    have hstart := evalOption_traces start
    have hstop := evalOption_traces stop
    have hstep := evalOption_traces step
    rintro _ _ _ ⟨⟩
    exact ⟨hstart.below (by simp [Expr.operands]), hstop.below (by simp [Expr.operands]),
      hstep.below (by simp [Expr.operands])⟩
  | .constant _ | .name _ | .binary _ _ _ | .unary _ _ | .all _ | .any _ | .compare _ _
  | .ifElse _ _ _ | .subscript _ _ | .call _ _ _ | .attribute _ _ | .list _ | .tuple _ | .dict _
  | .starred _ | .foreign _ => nofun

/-- Nor is what a method is called on an operand of the call. -/
theorem receiver_traces : ∀ (f target : Expr) (name : String),
    f = .attribute target name → Traces value [f] (eval value target)
  | .attribute target _ => by
    have htarget := eval_traces target
    rintro _ _ ⟨⟩
    exact htarget.below (by simp [Expr.operands])
  | .constant _ | .name _ | .binary _ _ _ | .unary _ _ | .all _ | .any _ | .compare _ _
  | .ifElse _ _ _ | .subscript _ _ | .slice _ _ _ | .call _ _ _ | .list _ | .tuple _ | .dict _
  | .starred _ | .foreign _ => nofun

theorem evalOption_traces : ∀ e : Option Expr, Traces value e.toList (evalOption value e)
  | none => by
    rw [evalOption]
    exact .ok _
  | some e => by
    rw [evalOption]
    exact eval_traces e

theorem evalList_traces : ∀ es : List Expr, Traces value es (evalList value es)
  | [] => by
    rw [evalList]
    exact .ok _
  | e :: rest => by
    rw [evalList]
    exact (eval_traces e).bind (by simp) fun l _ =>
      (evalList_traces rest).bind (by simp) fun ls _ => .ok _

theorem evalAll_traces : ∀ (last : Located) (es : List Expr),
    Traces value es (evalAll value last es)
  | _, [] => by
    rw [evalAll]
    exact .ok _
  | _, e :: rest => by
    rw [evalAll]
    refine (eval_traces e).bind (by simp) fun l _ => ?_
    split_ifs
    · exact (evalAll_traces l rest).mono (by simp)
    · exact .ok _

theorem evalAny_traces : ∀ (last : Located) (es : List Expr),
    Traces value es (evalAny value last es)
  | _, [] => by
    rw [evalAny]
    exact .ok _
  | _, e :: rest => by
    rw [evalAny]
    refine (eval_traces e).bind (by simp) fun l _ => ?_
    split_ifs
    · exact .ok _
    · exact (evalAny_traces l rest).mono (by simp)

theorem evalCompare_traces : ∀ (a : Located) (rest : List (CompareOp × Expr)),
    Traces value (rest.map Prod.snd) (evalCompare value a rest)
  | _, [] => by
    rw [evalCompare]
    exact .ok _
  | a, (op, e) :: rest => by
    rw [evalCompare]
    refine (eval_traces e).bind (by simp) fun b _ =>
      (Traces.of_plain (lift_plain _)).bind (List.Subset.refl _) fun holds _ => ?_
    split_ifs
    · exact (evalCompare_traces b rest).mono (by simp)
    · exact .ok _

theorem evalKeywords_traces : ∀ kws : List (Option String × Expr),
    Traces value (kws.map Prod.snd) (evalKeywords value kws)
  | [] => by
    rw [evalKeywords]
    exact .ok _
  | (_, e) :: rest => by
    rw [evalKeywords]
    exact (eval_traces e).bind (by simp) fun l _ =>
      (evalKeywords_traces rest).bind (by simp) fun ks _ => .ok _

theorem evalEntries_traces : ∀ (done : List (Located × Located)) (es : List (Option Expr × Expr)),
    Traces value (es.flatMap fun (k, v) => k.toList ++ [v]) (evalEntries value done es)
  | _, [] => by
    rw [evalEntries]
    exact .ok _
  | done, (k, e) :: rest => by
    rw [evalEntries]
    refine (evalOption_traces k).bind (by simp) fun key _ =>
      (eval_traces e).bind (by simp) fun l _ => ?_
    split_ifs
    · exact (evalEntries_traces _ rest).mono (by simp)
    · trivial

end

end Evaluation

/-! ## Transforms -/

/-- Half of a surrogate pair in a transform that is not too long to be read. -/
def HoldsHalf (text : String) : Prop :=
  (∃ c ∈ text.toList, isHalf c = true) ∧ text.length ≤ maxLength

/-- A null character in a transform that is not too long to be read. -/
def HoldsNull (text : String) : Prop :=
  Char.ofNat 0 ∈ text.toList ∧ text.length ≤ maxLength

def isOpening (c : Char) : Bool :=
  c == '(' || c == '[' || c == '\x7b'

/-- A malformed transform with more brackets than there certainly is memory for. There is for all
    that can be read, but looking for what is wrong takes more of it. -/
def Crowded (text : String) : Prop :=
  parse? (trim text.toList) = none ∧ 150 < text.toList.countP isOpening

theorem isBlank_of_isHalf {c : Char} (h : isHalf c = true) : isBlank c = false := by
  rw [Bool.eq_false_iff]
  intro hblank
  have hlow : c.toNat ≤ 0x3000 := by
    simp only [isBlank, Bool.or_eq_true, Bool.and_eq_true, decide_eq_true_eq, beq_iff_eq] at hblank
    omega
  have hcode : codeOf c = c.toNat := by
    rw [codeOf, if_neg]
    simp only [Bool.and_eq_true, decide_eq_true_eq]
    omega
  rw [isHalf, isSurrogate, hcode] at h
  simp only [Bool.and_eq_true, decide_eq_true_eq] at h
  omega

theorem any_isHalf_trim {text : String} :
    (trim text.toList).any isHalf = true ↔ ∃ c ∈ text.toList, isHalf c = true := by
  rw [List.any_eq_true]
  exact exists_congr fun c => and_congr_left fun hhalf => mem_trim_iff (isBlank_of_isHalf hhalf)

/-- A transform is not read for two reasons that are no errors of its own. -/
theorem compile_fault_iff {text : String} {f : Fault} :
    compile text = .error (.fault f) ↔ f = .unencodable ∧ HoldsHalf text ∨
      f = .badValue ∧ HoldsNull text ∧ ¬ HoldsHalf text := by
  have hnull : Char.ofNat 0 ∈ trim text.toList ↔ Char.ofNat 0 ∈ text.toList :=
    mem_trim_iff (by decide)
  unfold compile
  rw [HoldsNull, HoldsHalf, ← any_isHalf_trim, ← hnull]
  dsimp only
  split_ifs with hempty hlong hhalf hholds
  · simp [List.isEmpty_iff.1 hempty]
  · simp [hlong]
  · simp [hhalf, Nat.le_of_not_lt hlong, eq_comm]
  · rw [List.contains_iff_mem] at hholds
    simp [hhalf, hholds, Nat.le_of_not_lt hlong, eq_comm]
  · rw [List.contains_iff_mem] at hholds
    split
    · simp [hhalf, hholds]
    · split <;> simp [hhalf, hholds]

/-- A part of the transform asks an object for a missing key that has no written form. -/
def MissesUnwritten (value : Value) (text : String) : Prop :=
  ∃ e part key, compile text = .ok e ∧ part.Part e ∧ Misses value part key ∧ key.written? = none

theorem Error.reported_eq_fault {x : Error} {f : Fault} (h : x.reported = .fault f) :
    x = .missing none ∧ f = .badValue := by
  unfold Error.reported at h
  split at h
  · exact ⟨rfl, (Failure.fault.inj h).symm⟩
  · cases h

/-- Why a transform may neither have a value nor fail with an error of its own. -/
inductive Breaks (value : Value) (text : String) : Fault → Prop where
  /-- The text has no bytes. -/
  | half : HoldsHalf text → Breaks value text .unencodable
  /-- The text holds a null character. -/
  | null : HoldsNull text → Breaks value text .badValue
  /-- The text is malformed and opens very many brackets. -/
  | crowded : Crowded text → Breaks value text .outOfMemory
  /-- A missing key cannot be written into the error. -/
  | missing : MissesUnwritten value text → Breaks value text .badValue

theorem apply_fault {value : Value} {text : String} {f : Fault}
    (h : apply value text = .error (.fault f)) : Breaks value text f := by
  unfold apply at h
  cases hcompile : compile text with
  | error failure =>
    rw [hcompile] at h
    obtain rfl := Except.error.inj h
    rcases compile_fault_iff.1 hcompile with ⟨rfl, hhalf⟩ | ⟨rfl, hnull, -⟩
    · exact .half hhalf
    · exact .null hnull
  | ok e =>
    rw [hcompile] at h
    replace h : (if maxDepth < e.depth then .error (.error (.failed .tooDeep))
      else ((eval value e).map (·.value)).mapError Error.reported) = .error (.fault f) := h
    split_ifs at h
    · cases h
    · have htraces : Traces value [e] (eval value e) := eval_traces e
      revert h htraces
      cases eval value e with
      | ok l => exact nofun
      | error x =>
        intro h htraces
        obtain ⟨rfl, rfl⟩ := Error.reported_eq_fault (Except.error.inj h)
        -- The trace names the look-up that failed, and the only expression traced is `e`.
        obtain ⟨_, hmem, part, key, hpart, hmisses, hwritten⟩ := htraces
        obtain rfl := List.mem_singleton.1 hmem
        exact .missing ⟨_, part, key, hcompile, hpart, hmisses, hwritten⟩

theorem apply_half {value : Value} {text : String} (h : HoldsHalf text) :
    apply value text = .error (.fault .unencodable) := by
  rw [apply, compile_fault_iff.2 (.inl ⟨rfl, h⟩)]
  rfl

theorem eval_misses {value key : Value} {e : Expr} (h : Misses value e key) :
    eval value e = .error (.missing key.written?) := by
  cases h with
  | @subscript target index t i es ht hobject hi hhash hnone =>
    have hslice : ∀ start stop step, index ≠ .slice start stop step := by
      rintro start stop step rfl
      rw [eval] at hi
      cases hi
    rw [eval_subscript hslice, ht, hi]
    change (subscript t i).mapError (keyError i.value) = _
    rw [subscript, hobject]
    dsimp only
    rw [hhash, hnone]
    rfl

theorem apply_misses {value key : Value} {text : String} {e : Expr}
    (hcompile : compile text = .ok e) (hdepth : e.depth ≤ maxDepth) (h : Misses value e key)
    (hwritten : key.written? = none) : apply value text = .error (.fault .badValue) := by
  rw [apply, hcompile]
  refine (if_neg (Nat.not_lt.2 hdepth)).trans ?_
  rw [eval_misses h, hwritten]
  rfl

/-- A transform has a value or fails with an error of its own, unless it breaks. A text that has no
    bytes always is a fault, and so is an expression that asks for a missing key without a written
    form. -/
theorem apply_unless (value : Value) (text : String) :
    ((∃ v, apply value text = .ok v) ∨ (∃ x, apply value text = .error (.error x)) ∨
      ∃ f, apply value text = .error (.fault f) ∧ Breaks value text f) ∧
    (HoldsHalf text → apply value text = .error (.fault .unencodable)) ∧
    (∀ e key, compile text = .ok e → e.depth ≤ maxDepth → Misses value e key →
      key.written? = none → apply value text = .error (.fault .badValue)) := by
  refine ⟨?_, apply_half, fun e key hcompile hdepth h hwritten =>
    apply_misses hcompile hdepth h hwritten⟩
  cases happly : apply value text with
  | ok v => exact .inl ⟨v, rfl⟩
  | error failure =>
    cases failure with
    | error x => exact .inr (.inl ⟨x, rfl⟩)
    | fault f => exact .inr (.inr ⟨f, rfl, apply_fault happly⟩)

/-! ## Half of a pair and a key without a written form -/

/-- Half of a surrogate pair, in quotes. -/
def halfText : String := String.ofList ['\'', ofCode 0xD800, '\'']

theorem halfText_holdsHalf : HoldsHalf halfText :=
  ⟨⟨ofCode 0xD800, by decide, by decide⟩, by decide⟩

/-- The square of the extracted value, looked for in an empty object. -/
def squareLookup : Expr :=
  .subscript (.dict []) (.binary .mul (.name "value") (.name "value"))

def squareTokens : List Token :=
  [.sign "\x7b", .sign "\x7d", .sign "[", .word "value", .sign "*", .word "value", .sign "]"]

theorem lex_squareLookup : lex "\x7b\x7d[value*value]".toList = some squareTokens := by
  have hskip : skipLeading 0 0 (unifyLines "\x7b\x7d[value*value]".toList) =
      some "\x7b\x7d[value*value]".toList := by cbv
  have hlength : "\x7b\x7d[value*value]".toList.length + 1 = 16 := by decide
  have htokens : tokens 16 0 "\x7b\x7d[value*value]".toList = some squareTokens := by rfl
  rw [lex, hskip, Option.bind_eq_bind, Option.bind_some, hlength, htokens]

theorem parse?_squareLookup : parse? "\x7b\x7d[value*value]".toList = some squareLookup := by
  have hread : expressions (40 * ("\x7b\x7d[value*value]".toList.length + 2)) squareTokens =
      some ([squareLookup], false) := by cbv
  rw [parse?, lex_squareLookup, Option.bind_eq_bind, Option.bind_some, hread]
  rfl

theorem compile_squareLookup : compile "\x7b\x7d[value*value]" = .ok squareLookup := by
  have hcomplaint : squareLookup.complaint? = none := by cbv
  exact compile_of_parse? (by decide) (by decide) (by decide) parse?_squareLookup hcomplaint

theorem squareLookup_misses (n : Int) : Misses (.int n) squareLookup (.int (n * n)) := by
  have hsquare : eval (.int n) (.binary .mul (.name "value") (.name "value")) =
      .ok (.fresh (.int (n * n))) := rfl
  have hobject : eval (.int n) (.dict []) = .ok (.dict []) := rfl
  have hempty : (Located.dict []).value = .dict [] := rfl
  exact .subscript hobject hempty hsquare rfl rfl

/-- The square of a power of ten has no written form, if that power has very many digits. -/
theorem written?_square {k : Nat} (h : Numeral.maxDigits ≤ k + k) :
    (Value.int (10 ^ k * 10 ^ k)).written? = none := by
  have hlarge : 10 ^ Numeral.maxDigits ≤ 10 ^ (k + k) := Nat.pow_le_pow_right (by decide) h
  have habs : (10 ^ k * 10 ^ k : Int).natAbs = 10 ^ (k + k) := by
    rw [Int.natAbs_mul, Int.natAbs_pow, ← pow_add]
    rfl
  rw [Value.written?, Value.intText?, habs, Nat.pow_eq, if_pos hlarge]

theorem apply_squareLookup :
    apply (.int (10 ^ 4000)) "\x7b\x7d[value*value]" = .error (.fault .badValue) :=
  apply_misses compile_squareLookup (by decide) (squareLookup_misses _)
    (written?_square (by decide))

/-- Two ways out are taken: by half of a pair on any value, and by the square of a long number. -/
theorem halfText_squareLookup_fault :
    HoldsHalf halfText ∧ apply (.text "a") halfText = .error (.fault .unencodable) ∧
    compile "\x7b\x7d[value*value]" = .ok squareLookup ∧ squareLookup.depth ≤ maxDepth ∧
    Misses (.int (10 ^ 4000)) squareLookup (.int (10 ^ 4000 * 10 ^ 4000)) ∧
    (Value.int (10 ^ 4000 * 10 ^ 4000)).written? = none ∧
    apply (.int (10 ^ 4000)) "\x7b\x7d[value*value]" = .error (.fault .badValue) := by
  have hdepth : squareLookup.depth ≤ maxDepth := by decide
  have hmisses := squareLookup_misses (10 ^ 4000)
  have hwritten : (Value.int (10 ^ 4000 * 10 ^ 4000)).written? = none := written?_square (by decide)
  exact ⟨halfText_holdsHalf, (apply_unless _ _).2.1 halfText_holdsHalf, compile_squareLookup,
    hdepth, hmisses, hwritten,
    (apply_unless _ _).2.2 _ _ compile_squareLookup hdepth hmisses hwritten⟩

/-- So a transform need not have a value or an error of its own. -/
theorem apply_not_total : ¬ ∀ (value : Value) (text : String),
    (∃ v, apply value text = .ok v) ∨ ∃ x, apply value text = .error (.error x) := by
  intro h
  rcases h (.int (10 ^ 4000)) "\x7b\x7d[value*value]" with ⟨v, hv⟩ | ⟨x, hx⟩
  · cases apply_squareLookup.symm.trans hv
  · cases apply_squareLookup.symm.trans hx

end ApiJourney.Transform
