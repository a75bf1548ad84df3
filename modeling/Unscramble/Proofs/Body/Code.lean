import Unscramble.Proofs.Body.Operations
import Unscramble.Proofs.Operation.Forms
import Unscramble.Proofs.Plan.Operands

/-! Function literals that take a list and an integer, as syntax: their text and what they do are read from
the same code. -/
namespace Unscramble
open Text

/-- A piece of a text: a character, the name of a variable, or a blank. -/
inductive Token where
  | char (c : Char)
  | list | number | element
  | gap
  deriving DecidableEq, Repr

def chars (s : String) : List Token := s.toList.map .char

/-- What the three variables are called, and the blank behind a keyword. -/
structure Names where
  list : Char
  number : Char
  element : Char
  gap : Char
  isWord_list : isWord list = true
  isWord_number : isWord number = true
  isWord_element : isWord element = true
  isBlank_gap : isBlank gap = true
  nodup : [list, number, element].Nodup

namespace Token

def sign : Token → Sign
  | char c => .fixed c
  | list | number | element => .word
  | gap => .blank

def write (n : Names) : Token → Char
  | char c => c
  | list => n.list
  | number => n.number
  | element => n.element
  | gap => n.gap

theorem holds_write (n : Names) (t : Token) : Operation.holds t.sign (t.write n) = true := by
  cases t with
  | char c => exact beq_self_eq_true c
  | list => exact n.isWord_list
  | number => exact n.isWord_number
  | element => exact n.isWord_element
  | gap => exact n.isBlank_gap

theorem signed_write (n : Names) (ts : List Token) :
    Operation.Signed (ts.map sign) (ts.map (write n)) := by
  refine List.forall₂_map_left_iff.2 (List.forall₂_map_right_iff.2 ?_)
  exact List.forall₂_same.2 fun t _ => holds_write n t

def wildcard : Token → Char
  | char c => c
  | list | number | element => '_'
  | gap => ' '

theorem stands_write {n : Names} (hgap : n.gap = ' ') (t : Token) : Stands t.wildcard (t.write n) := by
  cases t with
  | char c => exact Stands.refl c
  | list => exact n.isWord_list
  | number => exact n.isWord_number
  | element => exact n.isWord_element
  | gap => exact hgap.symm

theorem fits_write {n : Names} (hgap : n.gap = ' ') (ts : List Token) :
    Fits (ts.map wildcard) (ts.map (write n)) := by
  refine List.forall₂_map_left_iff.2 (List.forall₂_map_right_iff.2 ?_)
  exact List.forall₂_same.2 fun t _ => stands_write hgap t

end Token

/-- An index: `0`, `e`, `e%d.length` or `(e%d.length+d.length)%d.length`. Here and below, `d` is the list,
`e` the integer and `f` the variable of an element. -/
inductive Index where
  | zero | number | remainder | around
  deriving DecidableEq, Repr

/-- A value: `f`, `e`, `d[i]`, `d.pop()` or `d.splice(i,1,v)[0]`. -/
inductive Item where
  | element | number
  | at (i : Index)
  | popped
  | taken (i : Index) (v : Item)
  deriving DecidableEq, Repr

/-- A statement: `d.push(v)`, `d.unshift(v)`, `d[i]=v`, `d.splice(i,1,v)`, `d.splice(i,1)`, `d.splice(0,e)`
or `d.splice(-e).reverse().forEach(function(f){a})`. -/
inductive Action where
  | push (v : Item)
  | unshift (v : Item)
  | assign (i : Index) (v : Item)
  | replace (i : Index) (v : Item)
  | remove (i : Index)
  | dropFront
  | refill (a : Action)
  deriving DecidableEq, Repr

/-- A body: `a`, `a;c`, `e=i;c`, `var f=v;c` or `for(e=i;e--;)a`. -/
inductive Code where
  | last (a : Action)
  | next (a : Action) (c : Code)
  | set (i : Index) (c : Code)
  | declare (v : Item) (c : Code)
  | countdown (i : Index) (a : Action)
  deriving DecidableEq, Repr

def Index.tokens : Index → List Token
  | zero => chars "0"
  | number => [.number]
  | remainder => .number :: (chars "%" ++ .list :: chars ".length")
  | around => chars "(" ++ .number :: (chars "%" ++ .list :: (chars ".length+" ++
      .list :: (chars ".length)%" ++ .list :: chars ".length")))

def Item.tokens : Item → List Token
  | element => [.element]
  | number => [.number]
  | .at i => .list :: (chars "[" ++ (i.tokens ++ chars "]"))
  | popped => .list :: chars ".pop()"
  | taken i v => .list :: (chars ".splice(" ++ (i.tokens ++ (chars ",1," ++ (v.tokens ++ chars ")[0]"))))

def Action.tokens : Action → List Token
  | push v => .list :: (chars ".push(" ++ (v.tokens ++ chars ")"))
  | unshift v => .list :: (chars ".unshift(" ++ (v.tokens ++ chars ")"))
  | assign i v => .list :: (chars "[" ++ (i.tokens ++ (chars "]=" ++ v.tokens)))
  | replace i v => .list :: (chars ".splice(" ++ (i.tokens ++ (chars ",1," ++ (v.tokens ++ chars ")"))))
  | remove i => .list :: (chars ".splice(" ++ (i.tokens ++ chars ",1)"))
  | dropFront => .list :: (chars ".splice(0," ++ .number :: chars ")")
  | refill a => .list :: (chars ".splice(-" ++ .number :: (chars ").reverse().forEach(function(" ++
      .element :: (chars ")\x7b" ++ (a.tokens ++ chars "\x7d)"))))

def Code.tokens : Code → List Token
  | last a => a.tokens
  | next a c => a.tokens ++ (chars ";" ++ c.tokens)
  | set i c => .number :: (chars "=" ++ (i.tokens ++ (chars ";" ++ c.tokens)))
  | declare v c => chars "var" ++ .gap :: .element :: (chars "=" ++ (v.tokens ++ (chars ";" ++ c.tokens)))
  | countdown i a => chars "for(" ++ .number :: (chars "=" ++ (i.tokens ++ (chars ";" ++
      .number :: (chars "--;)" ++ a.tokens))))

def Code.literal (c : Code) (n : Names) : Text :=
  Elements.function [n.list, ',', n.number] (c.tokens.map (Token.write n))

def Code.literalTokens (c : Code) : List Token :=
  chars "function(" ++ .list :: (chars "," ++ .number :: (chars ")\x7b" ++ (c.tokens ++ chars "\x7d")))

def Code.template (c : Code) : Template := c.literalTokens.map Token.sign

theorem write_chars (n : Names) (s : String) : (chars s).map (Token.write n) = s.toList := by
  rw [chars, List.map_map]
  exact List.map_id s.toList

theorem Code.write_literalTokens (c : Code) (n : Names) :
    c.literalTokens.map (Token.write n) = c.literal n := by
  simp only [literalTokens, List.map_append, List.map_cons, write_chars]
  rfl

theorem Code.signed_literal (c : Code) (n : Names) : Operation.Signed c.template (c.literal n) :=
  c.write_literalTokens n ▸ Token.signed_write n c.literalTokens

def Code.form (c : Code) : Text := c.literalTokens.map Token.wildcard

theorem Code.fits_literal (c : Code) {n : Names} (hgap : n.gap = ' ') : Fits c.form (c.literal n) :=
  c.write_literalTokens n ▸ Token.fits_write hgap c.literalTokens

def Index.eval (e : Int) : Index → Body Value Int
  | zero => pure 0
  | number => pure e
  | remainder => Body.remainder e
  | around => Body.wrapped e

@[simp]
theorem Index.eval_zero (e : Int) : zero.eval e = pure 0 := rfl

@[simp]
theorem Index.eval_number (e : Int) : number.eval e = pure e := rfl

@[simp]
theorem Index.eval_remainder (e : Int) : remainder.eval e = Body.remainder e := rfl

@[simp]
theorem Index.eval_around (e : Int) : around.eval e = Body.wrapped e := rfl

@[simp]
def Item.eval (e : Int) (f : Option Value) : Item → Body Value Value
  | element => match f with
    | none => failure
    | some v => pure v
  | number => pure (.integer e)
  | .at i => do Body.item (← i.eval e)
  | popped => Body.pop
  | taken i v => do
    let n ← i.eval e
    let x ← v.eval e f
    Body.first (← Body.splice n (some 1) [x])

@[simp]
def Action.eval (e : Int) (f : Option Value) : Action → Body Value Unit
  | push v => do Body.push (← v.eval e f)
  | unshift v => do Body.unshift (← v.eval e f)
  | assign i v => do
    let n ← i.eval e
    Body.assign n (← v.eval e f)
  | replace i v => do
    let n ← i.eval e
    let x ← v.eval e f
    let _ ← Body.splice n (some 1) [x]
    return
  | remove i => do
    let _ ← Body.splice (← i.eval e) (some 1) []
    return
  | dropFront => do
    let _ ← Body.splice 0 (some e) []
    return
  | refill a => do
    let removed ← Body.splice (-e) none []
    forM removed.reverse fun v => a.eval e (some v)

/-- `for(;e--;)` before `body`, which has the `e` that is counted down. -/
def Body.counted {α : Type} (body : Int → Body α Unit) : Nat → Body α Unit
  | 0 => pure ()
  | n + 1 => do
    body n
    counted body n

@[simp]
def Code.eval (e : Int) (f : Option Value) : Code → Body Value Unit
  | last a => a.eval e f
  | next a c => do
    a.eval e f
    c.eval e f
  | set i c => do c.eval (← i.eval e) f
  | declare v c => do c.eval e (some (← v.eval e f))
  | countdown i a => do
    let n ← i.eval e
    -- from below zero the count never ends
    if n < 0 then failure
    Body.counted (fun e => a.eval e f) n.toNat

/-- How a shape is written that takes a list and an integer. Where a shape leaves it open, the index is
counted around beforehand or it is not, and taken by its remainder again or not. -/
inductive CodedShape where
  | turning
  | prepending (around : Bool)
  | nesting (around : Bool)
  | pushing
  | exchanging (again : Bool)
  | exchangingAround
  | removing
  | dropping
  deriving DecidableEq, Repr

namespace CodedShape

def all : List CodedShape :=
  [turning, prepending true, prepending false, nesting true, nesting false, pushing, exchanging true,
    exchanging false, exchangingAround, removing, dropping]

theorem mem_all (w : CodedShape) : w ∈ all := by
  cases w with
  | prepending b | nesting b | exchanging b => cases b <;> simp [all]
  | _ => simp [all]

/-- `c`, with `e=(e%d.length+d.length)%d.length` in front if this is asked for. -/
def countedAround (around : Bool) (c : Code) : Code := if around then .set .around c else c

/-- `var f=d[0];d[0]=d[i];d[j]=f` -/
def exchange (i j : Index) : Code :=
  .declare (.at .zero) (.next (.assign .zero (.at i)) (.last (.assign j .element)))

def code : CodedShape → Code
  | turning => .countdown .around (.unshift .popped)
  | prepending b => countedAround b (.last (.refill (.unshift .element)))
  | nesting b => countedAround b (.last (.replace .zero (.taken .number (.at .zero))))
  | pushing => .last (.push .number)
  | exchanging b => exchange .remainder (if b then .remainder else .number)
  | exchangingAround => countedAround true (exchange .number .number)
  | removing => countedAround true (.last (.remove .number))
  | dropping => .last .dropFront

def operation : CodedShape → Operation
  | turning => .unshift
  | prepending _ => .prepend
  | nesting _ => .nestedSplice
  | pushing => .push
  | exchanging _ | exchangingAround => .swap
  | removing | dropping => .splice

/-- Every variant of a shape that takes an integer is part of a function literal. -/
theorem exists_of_mem_catalogue : ∀ s ∈ Operation.catalogue, s.operation ≠ .reverse →
    s.operation ≠ .cipherDispatch → ∀ v ∈ s.variants, ∃ w ∈ all,
      w.operation = s.operation ∧ v <:+: w.code.template := by
  decide +kernel

theorem settles_template : ∀ w ∈ all,
    Operation.settles w.operation w.code.template Operation.catalogue = true := by
  decide +kernel

/-- The forms of an operation that takes an integer are those of its shapes. -/
theorem forms_perm {op : Operation} (hreverse : op ≠ .reverse) (hdispatch : op ≠ .cipherDispatch) :
    ((Operation.forms op).map (·.text)).Perm
      ((all.filter (·.operation = op)).map (·.code.form)) := by
  cases op with
  | reverse => exact absurd rfl hreverse
  | cipherDispatch => exact absurd rfl hdispatch
  | _ => decide +kernel

/-- With a plain space behind keywords the function literal is one of its operation. -/
theorem isLiteral_literal (w : CodedShape) {n : Names} (hgap : n.gap = ' ') :
    Operation.IsLiteral w.operation (w.code.literal n) := by
  have hw : w ∈ all.filter (·.operation = w.operation) :=
    List.mem_filter.2 ⟨w.mem_all, decide_eq_true rfl⟩
  have hforms := @forms_perm w.operation (by cases w <;> nofun) (by cases w <;> nofun)
  obtain ⟨f, hf, htext⟩ := List.mem_map.1 (hforms.mem_iff.2 (List.mem_map_of_mem hw))
  exact ⟨f, hf, htext ▸ w.code.fits_literal hgap⟩

theorem operandOf_literal (w : CodedShape) (n : Names) :
    ThrottlingProgram.operandOf (w.code.literal n) = .operation w.operation :=
  ThrottlingProgram.operandOf_function
    (Operation.classify?_of_signed (w.code.signed_literal n) (settles_template w w.mem_all))

section
variable {e : Int} {xs : List Value} {f : Option Value}

theorem eval_index (h0 : 0 ≤ e) (hl : e < xs.length) {i : Index} (hi : i ≠ .zero) :
    (i.eval e).run xs = some (e, xs) := by
  have hne : xs ≠ [] := List.ne_nil_of_length_pos (by omega)
  cases i with
  | zero => exact absurd rfl hi
  | number => rfl
  | remainder => rw [Index.eval_remainder, Body.remainder_run e hne, Int.tmod_eq_of_lt h0 hl]
  | around => rw [Index.eval_around, Body.wrapped_run e hne, Int.emod_eq_of_lt h0 hl]

theorem wrapped_of_lt (h0 : 0 ≤ e) (hl : e < xs.length) : (Body.wrapped e).run xs = some (e, xs) :=
  eval_index h0 hl (i := .around) (by decide)

theorem eval_countedAround (h0 : 0 ≤ e) (hl : e < xs.length) (b : Bool) (c : Code) :
    ((countedAround b c).eval e f).run xs = (c.eval e f).run xs := by
  cases b with
  | false => rfl
  | true => simp [countedAround, wrapped_of_lt h0 hl]

theorem counted_const (body : Body Value Unit) (n : Nat) :
    Body.counted (fun _ => body) n = Body.rounds body n := by
  induction n with
  | zero => rfl
  | succ n ih => rw [Body.counted, Body.rounds, ih]

theorem eval_turning (h0 : 0 ≤ e) (hl : e < xs.length) :
    (turning.code.eval e f).run xs = (Body.turning e).run xs := by
  have hn : ¬e < 0 := by omega
  simp [code, Body.turning, Body.turn, wrapped_of_lt h0 hl, hn, counted_const]

theorem eval_prepending (h0 : 0 ≤ e) (hl : e < xs.length) (b : Bool) :
    ((prepending b).code.eval e f).run xs = (Body.prepending e).run xs := by
  rw [code, eval_countedAround h0 hl]
  simp [Body.prepending, wrapped_of_lt h0 hl]

theorem eval_nesting (h0 : 0 ≤ e) (hl : e < xs.length) (b : Bool) :
    ((nesting b).code.eval e f).run xs = (Body.nesting e).run xs := by
  rw [code, eval_countedAround h0 hl]
  simp [Body.nesting, wrapped_of_lt h0 hl]

theorem eval_exchange (h0 : 0 ≤ e) (hl : e < xs.length) {i j : Index} (hi : i ≠ .zero)
    (hj : j ≠ .zero) : ((exchange i j).eval e f).run xs =
      (do Body.exchanging (pure (← Body.wrapped e)) : Body Value Unit).run xs := by
  have hwrapped := wrapped_of_lt h0 hl
  have hindex (k : Index) (hk : k ≠ .zero) (ys : List Value) (hy : ys.length = xs.length) :
      (k.eval e).run ys = some (e, ys) := eval_index h0 (by omega) hk
  obtain ⟨n, rfl⟩ := Int.eq_ofNat_of_zero_le h0
  have hn : n < xs.length := by omega
  have hpos : 0 < xs.length := by omega
  have hfirst : (Body.item 0).run xs = some (xs[0], xs) := Body.item_run hpos
  have hassign : (Body.assign 0 xs[n]).run xs = some ((), xs.set 0 xs[n]) :=
    Body.assign_run xs[n] hpos
  simp [exchange, Body.exchanging, hwrapped, hfirst, hindex i hi xs rfl, Body.item_run hn, hassign,
    hindex j hj (xs.set 0 xs[n]) (by simp)]

theorem eval_removing (h0 : 0 ≤ e) (hl : e < xs.length) :
    (removing.code.eval e f).run xs = (Body.removing e).run xs := by
  rw [code, eval_countedAround h0 hl]
  simp [Body.removing, wrapped_of_lt h0 hl]

theorem eval_dropping (n : Nat) : (dropping.code.eval n f).run xs = some ((), xs.drop n) := by
  simp [code, Body.splice_front]

/-- Where the index is inside the list, the code does what one of the bodies of its operation does. -/
theorem exists_hasBody (h0 : 0 ≤ e) (hl : e < xs.length) {w : CodedShape} (hw : w ≠ .dropping) :
    ∃ body, Operation.HasBody w.operation (some (.integer e)) body ∧
      (w.code.eval e f).run xs = body.run xs := by
  cases w with
  | turning => exact ⟨_, .unshift e, eval_turning h0 hl⟩
  | prepending b => exact ⟨_, .prepend e, eval_prepending h0 hl b⟩
  | nesting b => exact ⟨_, .nestedSplice e, eval_nesting h0 hl b⟩
  | pushing => exact ⟨_, .push (.integer e), rfl⟩
  | exchanging b => exact ⟨_, .swap e, eval_exchange h0 hl (by decide) (by cases b <;> decide)⟩
  | exchangingAround =>
    refine ⟨_, .swap e, ?_⟩
    rw [code, eval_countedAround h0 hl]
    exact eval_exchange h0 hl (by decide) (by decide)
  | removing => exact ⟨_, .splice e, eval_removing h0 hl⟩
  | dropping => exact absurd rfl hw

end

theorem drop_eq_eraseIdx_iff {α : Type} {xs : List α} {n : Nat} (hn : n < xs.length) :
    xs.drop n = xs.eraseIdx n ↔ n = 1 ∧ xs[0]? = xs[1]? := by
  match n, xs with
  | 0, x :: xs => simp
  | 1, x :: y :: xs => simp [eq_comm]
  | n + 2, xs =>
    -- more than one element is dropped
    refine ⟨fun h => ?_, fun h => absurd h.1 (by omega)⟩
    have hlength := congrArg List.length h
    rw [List.length_drop, List.length_eraseIdx_of_lt hn] at hlength
    omega

theorem apply_splice {xs : List Value} {n : Nat} (hn : n < xs.length) :
    ThrottlingProgram.apply id .splice (some (.integer n)) xs = .ok (xs.eraseIdx n) := by
  have hw := Sequence.wrap?_natCast n (Nat.zero_lt_of_lt hn)
  rw [Nat.mod_eq_of_lt hn] at hw
  simp only [ThrottlingProgram.apply, ThrottlingProgram.wrappedIndex_of_wrap hw, Outcome.ok_bind,
    Sequence.removeAt?, if_pos hn, defined]

open ThrottlingProgram in
theorem runStep_literal {w : CodedShape} {n : Names} {a : Arena Value} {s : Step} {slot : Slot}
    {e : Int} {ys : List Value}
    (ho : a.operand s.operation = .ok (operandOf (w.code.literal n)).value)
    (hf : a.operand s.first = .ok (.sequence slot))
    (hs : s.second.mapM a.operand = .ok (some (.integer e)))
    (h : apply id w.operation (some (.integer e)) (a.sequence slot) = .ok ys) :
    runStep id a s = .ok (a.replace slot ys) := by
  rw [operandOf_literal] at ho
  simp only [runStep, ho, hf, hs, Outcome.ok_bind, Operand.value]
  exact applyAt_of_apply h

open ThrottlingProgram in
/-- A function literal for a shape that takes a list and an integer does to a list what its body does, if
the integer is an index of the list; but one that drops elements from the front removes the element at
the index. -/
theorem runs_as_written :
    (∀ s ∈ Operation.catalogue, s.operation ≠ .reverse → s.operation ≠ .cipherDispatch →
      ∀ v ∈ s.variants, ∃ w ∈ all, w.operation = s.operation ∧ v <:+: w.code.template) ∧
    ∀ (w : CodedShape) (n : Names) (a : Arena Value) (s : Step) (slot : Slot) (e : Int),
      a.operand s.operation = .ok (operandOf (w.code.literal n)).value →
      a.operand s.first = .ok (.sequence slot) → s.second.mapM a.operand = .ok (some (.integer e)) →
      0 ≤ e → e < (a.sequence slot).length →
      ∃ ys zs, (w.code.eval e none).run (a.sequence slot) = some ((), ys) ∧
        runStep id a s = .ok (a.replace slot zs) ∧
        (w ≠ .dropping → zs = ys) ∧
        (w = .dropping → zs = (a.sequence slot).eraseIdx e.toNat ∧
          (zs = ys ↔ e = 1 ∧ (a.sequence slot)[0]? = (a.sequence slot)[1]?)) := by
  refine ⟨exists_of_mem_catalogue, fun w n a s slot e ho hf hs h0 hl => ?_⟩
  -- the operation has a body for every shape but one
  by_cases hw : w = .dropping
  · subst hw
    obtain ⟨m, rfl⟩ := Int.eq_ofNat_of_zero_le h0
    have hm : m < (a.sequence slot).length := by omega
    have hsame : (a.sequence slot).eraseIdx m = (a.sequence slot).drop m ↔
        (m : Int) = 1 ∧ (a.sequence slot)[0]? = (a.sequence slot)[1]? := by
      rw [eq_comm, drop_eq_eraseIdx_iff hm]
      exact and_congr_left fun _ => by omega
    exact ⟨_, _, eval_dropping m, runStep_literal ho hf hs (apply_splice hm),
      fun h => absurd rfl h, fun _ => ⟨rfl, hsame⟩⟩
  · obtain ⟨body, hb, hbody⟩ := exists_hasBody (f := none) h0 hl hw
    have hne : a.sequence slot ≠ [] := List.ne_nil_of_length_pos (by omega)
    obtain ⟨ys, hr, ha⟩ := apply_of_hasBody hb fun h => absurd h hne
    exact ⟨ys, ys, hbody.trans hr, runStep_literal ho hf hs ha, fun _ => rfl, fun h => absurd h hw⟩

def sampleNames : Names where
  list := 'd'
  number := 'e'
  element := 'f'
  gap := ' '
  isWord_list := by decide +kernel
  isWord_number := by decide +kernel
  isWord_element := by decide +kernel
  isBlank_gap := by decide +kernel
  nodup := by decide

def letters (s : String) : List Value := s.toList.map fun c => .text [c]

def sampleArena (w : CodedShape) : Arena Value :=
  ⟨[(ThrottlingProgram.operandOf (w.code.literal sampleNames)).value, .sequence .input, .integer 2],
    letters "abc"⟩

open ThrottlingProgram in
theorem runs_as_written_turning : ∃ ys, (turning.code.eval 2 none).run (letters "abc") = some ((), ys) ∧
    runStep id (sampleArena turning) ⟨0, 1, some 2⟩ =
      .ok ((sampleArena turning).replace .input ys) := by
  obtain ⟨ys, zs, hcode, hstep, hsame, -⟩ := runs_as_written.2 turning sampleNames
    (sampleArena turning) ⟨0, 1, some 2⟩ .input 2 rfl rfl rfl (by decide) (by decide)
  exact ⟨ys, hcode, hsame (by decide) ▸ hstep⟩

def droppingScript : Text :=
  "N=function(a)\x7bvar b=a.split(\"\"),c=[".toList ++ (dropping.code.literal sampleNames ++
    (",b,2];try\x7bc[0](c[1],c[2])\x7dcatch(f)\x7b\x7dreturn b.join(\"\")\x7d;".toList ++
      "a.D&&(b=a.get(\"n\"))&&(b=N(b))".toList))

def droppingProgram : ThrottlingProgram :=
  ⟨[⟨0, 1, some 2⟩], [.operation .splice, .text "b".toList, .integer 2]⟩

/-- The code leaves `c` of `abc`, and the program leaves `ab`. -/
theorem dropping_runs_as_removing :
    dropping.code.literal sampleNames = "function(d,e)\x7bd.splice(0,e)\x7d".toList ∧
      (dropping.code.eval 2 none).run (letters "abc") = some ((), letters "c") ∧
      ThrottlingProgram.runStep id (sampleArena dropping) ⟨0, 1, some 2⟩ =
        .ok ((sampleArena dropping).replace .input (letters "ab")) ∧
      ThrottlingProgram.ofScript droppingScript = .ok droppingProgram ∧
      droppingProgram.run "abc".toList = .ok "ab".toList := by
  refine ⟨?_, ?_, ?_, ?_, ?_⟩
  all_goals decide +kernel

end CodedShape
end Unscramble
