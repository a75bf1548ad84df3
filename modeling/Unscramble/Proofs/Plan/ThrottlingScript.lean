import Unscramble.Proofs.Pattern.Throttling
import Unscramble.Proofs.Plan.Operands
import Unscramble.Proofs.Plan.Steps
import Unscramble.Proofs.Script.Binding
import Unscramble.Proofs.Script.Definition

/-! Throttling programs are read back from the scripts that they are written into. -/
namespace Unscramble.ThrottlingProgram
open Regex Catalogue Literal

/-- How the entry function is called: by its name, or as an element of an array of names. -/
inductive Access where
  | direct (name : Text)
  | indirect (array : Text) (before : List Text) (name : Text) (after : List Text)

namespace Access

def name : Access → Text
  | direct name | indirect _ _ name _ => name

/-- No element begins with the keyword of functions, and its index is a word. -/
def IsSound : Access → Prop
  | direct name => IsName name
  | indirect array before name after => IsName array ∧ before.length ≤ Number.maxWord ∧
    ∀ x ∈ before ++ name :: after, IsName x ∧ ¬Elements.keyword <+: x

def front : Access → Text
  | direct _ => []
  | indirect array before name after =>
    binding array (Context.bracket.enclose ([','].intercalate (before ++ name :: after))) ++ ";".toList

def callee : Access → Text
  | direct name => name
  | indirect array before _ _ => elementAt array before.length

def lookedUp : Access → List (Kind × Text)
  | direct name => [(.function, name)]
  | indirect array _ name _ => [(.array, array), (.function, name)]

end Access

/-- What a script that calls a throttling function is written from. -/
structure Source where
  program : ThrottlingProgram
  literal : Operation → Text
  access : Access
  isLiteral : ∀ op, Operation.IsLiteral op (literal op)
  isWritable : ∀ o ∈ program.operands, o.IsWritable
  plan_ne_nil : program.plan ≠ []
  isWithin : ∀ s ∈ program.plan, s.IsWithin program.operands.length
  isSound : access.IsSound

def splitting : Text := "var b=a.split(\"\")".toList

def joining : Text := "catch(f)\x7breturn a\x7d".toList ++ "return b.join(\"\")".toList

namespace Source

def operandTexts (s : Source) : List Text := s.program.operands.map (Operand.written s.literal)

def elements (s : Source) : Text := [','].intercalate s.operandTexts

def steps (s : Source) : Text := [','].intercalate (s.program.plan.map Step.text)

def rest (s : Source) : Text :=
  ";try".toList ++ (Context.brace.enclose s.steps ++ joining)

def body (s : Source) : Text :=
  splitting ++ (",c=".toList ++ (Context.bracket.enclose s.elements ++ s.rest))

def definition (s : Source) : Text :=
  Definition.header s.access.name "a".toList (Context.brace.enclose s.body)

def front (s : Source) : Text :=
  s.access.front ++ (s.definition ++ (";g.W=function(a)\x7b".toList ++ "a.D&&(b=a".toList))

def script (s : Source) (tail : Text) : Text :=
  s.front ++ (lookUp ++ guardedCall s.access.callee tail)

end Source

theorem Access.isName (a : Access) (h : a.IsSound) : IsName a.name := by
  cases a with
  | direct name => exact h
  | indirect array before name after => exact (h.2.2 name (by simp)).1

namespace Source
variable (s : Source)

theorem forall_operands {P : Text → Prop} (h : ∀ o : Operand, o.IsWritable → P (o.written s.literal)) :
    ∀ x ∈ s.operandTexts, P x := by
  intro x hx
  obtain ⟨o, ho, rfl⟩ := List.mem_map.1 hx
  exact h o (s.isWritable o ho)

theorem forall_steps {P : Text → Prop} (h : ∀ s : Step, P s.text) :
    ∀ x ∈ s.program.plan.map Step.text, P x := by
  intro x hx
  obtain ⟨st, -, rfl⟩ := List.mem_map.1 hx
  exact h st

theorem closed_elements : Closed s.elements :=
  Text.intercalate_induction closed_nil (fun _ _ => Closed.append) (by decide)
    (s.forall_operands fun _ => closed_written s.isLiteral)

theorem closed_steps : Closed s.steps :=
  Text.intercalate_induction closed_nil (fun _ _ => Closed.append) (by decide)
    (s.forall_steps closed_text)

theorem closed_body : Closed s.body := by
  have hsplit : Closed splitting := by decide
  have hc : Closed ",c=".toList := by decide
  have htry : Closed ";try".toList := by decide
  have hjoin : Closed joining := by decide
  exact hsplit.append <| hc.append <| (s.closed_elements.enclose (.inr rfl)).append <|
    htry.append <| (s.closed_steps.enclose (.inl rfl)).append hjoin

theorem operandsOf_elements :
    (Elements.ofLiteral (Context.bracket.enclose s.elements)).map (·.map operandOf) =
      .ok s.program.operands := by
  have hread := Elements.ofLiteral_enclose
    (s.forall_operands fun _ => isElement_written s.isLiteral)
  have hmap : s.operandTexts.map operandOf = s.program.operands := by
    rw [operandTexts, List.map_map]
    refine (List.map_congr_left fun o ho => ?_).trans (List.map_id _)
    exact operandOf_written s.isLiteral (s.isWritable o ho)
  rw [elements, hread, Outcome.map_ok, hmap]

theorem not_mem_definition {c : Char} (hc : c = '\n' ∨ c = '\r') : c ∉ s.definition := by
  have hno (t : String) (h : '\n' ∉ t.toList ∧ '\r' ∉ t.toList) : c ∉ t.toList := by
    obtain rfl | rfl := hc
    · exact h.1
    · exact h.2
  have hchar : nameChar.contains c = false ∧ c ∉ "[](),".toList := by
    obtain rfl | rfl := hc <;> decide
  have hname := (s.access.isName s.isSound).not_mem hchar.1
  have helements : c ∉ s.elements := by
    refine Text.not_mem_intercalate (by obtain rfl | rfl := hc <;> decide)
      (s.forall_operands fun _ ho => ?_)
    have h := not_mem_written s.isLiteral ho
    obtain rfl | rfl := hc
    · exact h.1
    · exact h.2
  have hsteps : c ∉ s.steps := Text.not_mem_intercalate (by obtain rfl | rfl := hc <;> decide)
    (s.forall_steps (not_mem_text hchar.1 hchar.2))
  have hlevel {k : Context} (hk : k.IsLevel) : c ≠ k.opener ∧ c ≠ k.closer := by
    obtain rfl | rfl := hk <;> obtain rfl | rfl := hc <;> decide
  have hrest : c ∉ s.rest := List.not_mem_append (hno _ (by decide)) <| List.not_mem_append
    (Context.not_mem_enclose (hlevel (.inl rfl)).1 (hlevel (.inl rfl)).2 hsteps)
    (List.not_mem_append (hno _ (by decide)) (hno _ (by decide)))
  have hbody : c ∉ s.body := List.not_mem_append (hno _ (by decide)) <|
    List.not_mem_append (hno _ (by decide)) <| List.not_mem_append
      (Context.not_mem_enclose (hlevel (.inr rfl)).1 (hlevel (.inr rfl)).2 helements) hrest
  exact List.not_mem_append hname <| List.not_mem_append (hno _ (by decide)) <|
    List.not_mem_append (hno _ (by decide)) <| List.not_mem_append (hno _ (by decide)) <|
    List.not_mem_append (hno _ (by decide)) <| List.not_mem_append (hno _ (by decide)) <|
    Context.not_mem_enclose (hlevel (.inl rfl)).1 (hlevel (.inl rfl)).2 hbody

theorem withoutLineBreaks_definition : withoutLineBreaks s.definition = s.definition := by
  refine List.filter_eq_self.2 fun c hc => ?_
  have hn : c ≠ '\n' := fun h => s.not_mem_definition (.inl h) hc
  have hr : c ≠ '\r' := fun h => s.not_mem_definition (.inr h) hc
  simp [hn, hr]

theorem avoids_joined {ks : List CharClass} {xs : List Text} {d : Char} (hd : Avoids ks [d])
    (h : ∀ x ∈ xs, ∀ e ∈ [',', d], Avoids ks (x ++ [e])) : Avoids ks ([','].intercalate xs ++ [d]) := by
  induction xs with
  | nil => exact hd
  | cons x xs ih =>
    cases xs with
    | nil =>
      rw [List.intercalate_singleton]
      exact h x (.head _) d (by simp)
    | cons y ys =>
      rw [List.intercalate_cons_cons, List.append_assoc]
      exact (h x (.head _) ',' (by simp)).append (ih fun z hz => h z (.tail x hz))

theorem avoids_body : Avoids (classesOf lookUp) s.body := by
  have hno {t : Text} (h : '.' ∉ t) : Avoids (classesOf lookUp) t := avoids_lookUp_of_not_mem h
  have helements : Avoids (classesOf lookUp) (Context.bracket.enclose s.elements) := by
    refine Avoids.append (x := ['[']) (hno (by decide)) (avoids_joined (hno (by decide)) ?_)
    refine s.forall_operands fun o ho e he => ?_
    have he' : e ≠ 'n' ∧ e ≠ '.' := by
      obtain rfl | he := List.mem_cons.1 he
      · decide
      · rw [List.mem_singleton.1 he]
        decide
    exact avoids_lookUp_written s.isLiteral ho he'.1 he'.2
  have hsteps : '.' ∉ s.steps := Text.not_mem_intercalate (by decide)
    (s.forall_steps (not_mem_text (by decide) (by decide)))
  have hsplit : Avoids (classesOf lookUp) splitting := by decide
  have hjoin : Avoids (classesOf lookUp) joining := by decide
  exact hsplit.append <| (hno (by decide)).append <| helements.append <| (hno (by decide)).append <|
    (hno (Context.not_mem_enclose (by decide) (by decide) hsteps)).append hjoin

theorem avoids_front : Avoids (classesOf lookUp) s.front := by
  have hno {t : Text} (h : '.' ∉ t) : Avoids (classesOf lookUp) t := avoids_lookUp_of_not_mem h
  have haccess : '.' ∉ s.access.front := by
    have hs := s.isSound
    cases ha : s.access with
    | direct name => exact List.not_mem_nil
    | indirect array before name after =>
      rw [ha] at hs
      have hnames : '.' ∉ [','].intercalate (before ++ name :: after) :=
        Text.not_mem_intercalate (by decide) fun x hx => (hs.2.2 x hx).1.not_mem (by decide)
      have harray := hs.1.not_mem (c := '.') (by decide)
      simp [Access.front, binding, Context.enclose, Context.opener, Context.closer, hnames, harray]
  have hname := (s.access.isName s.isSound).not_mem (c := '.') (by decide)
  have hbody : Avoids (classesOf lookUp) (Context.brace.enclose s.body) :=
    Avoids.append (x := ['\x7b']) (hno (by decide)) (s.avoids_body.append (hno (by decide)))
  have hdefinition : Avoids (classesOf lookUp) s.definition :=
    (hno hname).append <| (hno (by decide)).append <| (hno (by decide)).append <|
      (hno (by decide)).append <| (hno (by decide)).append <| (hno (by decide)).append hbody
  have hset : Avoids (classesOf lookUp) ";g.W=function(a)\x7b".toList := by decide
  have hguard : Avoids (classesOf lookUp) "a.D&&(b=a".toList := by decide
  exact (hno haccess).append (hdefinition.append (hset.append hguard))

theorem exists_script (tail : Text) : ∃ v, s.script tail = s.access.front ++ (s.definition ++ v) :=
  ⟨_, by rw [script, front, List.append_assoc, List.append_assoc]⟩

theorem find_script
    (hr : finder .function s.access.name = .ok (functionDefinition s.access.name)) (tail : Text) :
    ∃ u, Definition.find (s.script tail) s.access.name =
      .ok (Definition.defined u s.access.name "a".toList s.body) := by
  have hname := s.access.isName s.isSound
  have hparameter : IsName "a".toList := by decide
  have hs := s.isSound
  obtain ⟨v, hv⟩ := s.exists_script tail
  rw [hv]
  cases ha : s.access with
  | direct name =>
    rw [ha] at hname hr
    refine ⟨[], ?_⟩
    have h := Definition.find_at_start hr hname hparameter s.closed_body v
    rwa [definition, ha]
  | indirect array before name after =>
    rw [ha] at hname hs hr
    have hnames : '=' ∉ [','].intercalate (before ++ name :: after) :=
      Text.not_mem_intercalate (by decide) fun x hx => (hs.2.2 x hx).1.not_mem (by decide)
    have hf : Avoids functionAssigned (binding array (Context.bracket.enclose
        ([','].intercalate (before ++ name :: after)))) :=
      avoids_binding hs.1 (by decide) (by decide) (avoids_of_not_mem hnames)
    have hsp : Avoids spacedAssignment (binding array (Context.bracket.enclose
        ([','].intercalate (before ++ name :: after)))) :=
      avoids_binding hs.1 (by decide) (by decide) (avoids_of_not_mem hnames)
    have h := Definition.find_behind hr hname hparameter (by simp [binding]) hf hsp s.closed_body v
    refine ⟨_, Eq.trans ?_ h⟩
    rw [definition, ha, Access.front, List.append_assoc]
    rfl

theorem isPresent_of_find {script name : Text} {d : Definition}
    (h : Definition.find script name = .ok d) : Definition.isPresent script name = .ok true := by
  obtain ⟨hr, hfound⟩ := bind_finder_eq_ok.1 h
  obtain ⟨m, hm, -⟩ := Outcome.bind_eq_ok.1 hfound
  rw [Definition.isPresent, hr, Outcome.ok_bind, hm]
  rfl

theorem array_script {array name : Text} {before after : List Text}
    (ha : s.access = .indirect array before name after) (tail : Text) : ∃ m l,
      (arrayLiteral array).firstMatch (s.script tail) = .ok m ∧
        Literal.at? (s.script tail) m.span.start = .ok l ∧
          Elements.ofLiteral l.text = .ok (before ++ name :: after) := by
  have hs := s.isSound
  rw [ha] at hs
  obtain ⟨harray, -, hnames⟩ := hs
  have hblank (x : Text) (hx : x ∈ before ++ name :: after) : ∀ d ∈ x, Text.isBlank d = false :=
    fun d hd => not_blank_of_nameChar ((hnames x hx).1.2 d hd)
  have hclosed : Closed ([','].intercalate (before ++ name :: after)) :=
    Text.intercalate_induction closed_nil (fun _ _ => Closed.append) (by decide)
      fun x hx => (hnames x hx).1.closed
  have helement (x : Text) (hx : x ∈ before ++ name :: after) : Elements.IsElement x :=
    Elements.isElement_of_whole (hnames x hx).1.1 (hnames x hx).2 (hnames x hx).1.whole
      (Text.any_head? (hblank x hx)) (Text.any_getLast? (hblank x hx))
  have hread := Elements.ofLiteral_enclose helement
  obtain ⟨v, hv⟩ := s.exists_script tail
  rw [ha, Access.front, List.append_assoc, ← binding_append] at hv
  obtain ⟨m, l, hm, hl, hliteral⟩ :=
    exists_literal (.inr rfl) (arrayLiteral_firstMatch harray) hclosed
      (";".toList ++ (s.definition ++ v))
  rw [← hv] at hm hl
  exact ⟨m, l, hm, hl, hliteral ▸ hread⟩

theorem nameFromArray_script {tail : Text} (ht : ¬Guarded tail) {array name : Text}
    {before after : List Text} (ha : s.access = .indirect array before name after) :
    nameFromArray (s.script tail) = (finder .array array).map fun _ => name := by
  have hs := s.isSound
  rw [ha] at hs
  obtain ⟨m, v, hm, htext, hdrop⟩ :=
    throttlingArray_firstMatch s.avoids_front hs.1 ht before.length
  have hscript : s.front ++ (lookUp ++ guardedCall (elementAt array before.length) tail) =
      s.script tail := by
    rw [script, ha, Access.callee]
  rw [hscript] at hm hdrop
  obtain ⟨h, i, hsearch, hgroup, hi⟩ := indexSuffix_search? before.length v
  have hread : Number.read Number.maxWord i.text = .ok before.length := by
    rw [hi, Number.read_render hs.2.1]
  obtain ⟨o, l, ho, hl, helements⟩ := s.array_script ha tail
  have hget : (before ++ name :: after)[before.length]? = some name := by simp
  simp only [nameFromArray, hm, Outcome.ok_bind, hdrop, hsearch, hgroup, Option.bind_eq_bind,
    Option.bind_some, hread, Except.toOption, htext]
  obtain hr | hr := finder_cases .array array
  · simp only [hr, Outcome.ok_bind, Outcome.map_ok, Kind.set, ho, hl, helements, hget, Outcome.pure_eq]
  · rw [hr, Outcome.error_bind, Outcome.map_error]

theorem isPresent_script (tail : Text) : Definition.isPresent (s.script tail) s.access.name =
    (finder .function s.access.name).map fun _ => true := by
  obtain hr | hr := finder_cases .function s.access.name
  · obtain ⟨u, hu⟩ := s.find_script hr tail
    rw [isPresent_of_find hu, hr, Outcome.map_ok]
  · rw [Definition.isPresent, hr, Outcome.error_bind, Outcome.map_error]

theorem functionName_direct {tail name : Text} (ht : ¬Guarded tail) (ha : s.access = .direct name) :
    functionName (s.script tail) = (finder .function name).map fun _ => name := by
  have hpresent := s.isPresent_script tail
  have hs := s.isSound
  rw [ha] at hs hpresent
  rw [Access.name] at hpresent
  obtain ⟨m, hm, htext⟩ := throttlingFunction_direct s.avoids_front hs ht
  have hscript : s.script tail = s.front ++ (lookUp ++ guardedCall name tail) := by
    rw [script, ha, Access.callee]
  rw [functionName, hscript, hm, ← hscript]
  simp only [htext, hpresent]
  obtain hr | hr := finder_cases .function name
  · simp only [hr, Outcome.map_ok, Outcome.ok_bind, if_true, Outcome.pure_eq]
  · simp only [hr, Outcome.map_error, Outcome.error_bind]

theorem functionName_indirect {tail array name : Text} {before after : List Text} (ht : ¬Guarded tail)
    (ha : s.access = .indirect array before name after) :
    functionName (s.script tail) = (finder .array array).map fun _ => name := by
  have harray := s.nameFromArray_script ht ha
  have hs := s.isSound
  rw [ha] at hs
  have hnone := throttlingFunction_indirect s.avoids_front hs.1 ht before.length
  have hscript : s.script tail =
      s.front ++ (lookUp ++ guardedCall (elementAt array before.length) tail) := by
    rw [script, ha, Access.callee]
  rw [functionName, hscript, hnone, ← hscript]
  exact harray

def opening (s : Source) : Text := Definition.header s.access.name "a".toList ('\x7b' :: splitting)

theorem definition_eq : s.definition =
    s.opening ++ (",c=".toList ++ (Context.bracket.enclose s.elements ++ (s.rest ++ ['\x7d']))) := by
  have hbody : s.body ++ ['\x7d'] = splitting ++
      (",c=".toList ++ (Context.bracket.enclose s.elements ++ (s.rest ++ ['\x7d']))) := by
    simp only [body, List.append_assoc]
  have henclose : Context.brace.enclose s.body = '\x7b' :: (s.body ++ ['\x7d']) := rfl
  rw [definition, henclose, hbody, ← List.cons_append, Definition.header_append, opening]

theorem offsetOf?_definition :
    Text.offsetOf? arrayMarker s.definition = some s.opening.byteLength := by
  have hname := (s.access.isName s.isSound).not_mem (c := ',') (by decide)
  have hopening : ',' ∉ s.opening :=
    List.not_mem_append hname <| List.not_mem_append (by decide) <| List.not_mem_append (by decide) <|
      List.not_mem_append (by decide) <| List.not_mem_append (by decide) <|
      List.not_mem_append (by decide) (by decide)
  have hmarker (t : Text) : ",c=".toList ++ '[' :: t = arrayMarker ++ t := rfl
  rw [definition_eq, Context.enclose_append, Context.opener, hmarker]
  refine Text.offsetOf?_append fun y z hx hz hp => ?_
  cases z with
  | nil => exact hz rfl
  | cons d z =>
    obtain ⟨w, hw⟩ := hp
    have hd : ',' = d := (List.cons.inj hw).1
    exact hopening (hx ▸ List.mem_append_right y (hd ▸ .head z))

theorem array_definition : ∃ m, Literal.at? s.definition (s.opening.byteLength + 3) = .ok m ∧
    m.text = Context.bracket.enclose s.elements ∧
      s.definition.dropBytes? m.span.stop = some (s.rest ++ ['\x7d']) := by
  have hparts : s.definition = s.opening ++ ",c=".toList ++
      (Context.bracket.enclose s.elements ++ (s.rest ++ ['\x7d'])) := by
    rw [definition_eq, List.append_assoc]
  have hlen : Text.byteLength (s.opening ++ ",c=".toList) = s.opening.byteLength + 3 :=
    Text.byteLength_append ..
  have hat := at?_enclose (k := .bracket) (.inr rfl) (s.opening ++ ",c=".toList) s.closed_elements
    (s.rest ++ ['\x7d'])
  have hdrop := Text.dropBytes?_append
    (s.opening ++ ",c=".toList ++ Context.bracket.enclose s.elements) (s.rest ++ ['\x7d'])
  rw [← hparts, hlen] at hat
  rw [List.append_assoc (s.opening ++ ",c=".toList), ← hparts] at hdrop
  exact ⟨_, hat, rfl, hdrop⟩

theorem block_rest : ∃ m l, tryBlock.firstMatch (s.rest ++ ['\x7d']) = .ok m ∧
    Literal.at? (s.rest ++ ['\x7d']) m.span.start = .ok l ∧ l.text = Context.brace.enclose s.steps := by
  have hrest : s.rest ++ ['\x7d'] =
      ";try".toList ++ (Context.brace.enclose s.steps ++ (joining ++ ['\x7d'])) := by
    simp only [rest, List.append_assoc]
  obtain ⟨m, hm, hstart⟩ := tryBlock_firstMatch (s.steps ++ '\x7d' :: (joining ++ ['\x7d']))
  have hl := at?_enclose (k := .brace) (.inl rfl) ";try".toList s.closed_steps (joining ++ ['\x7d'])
  rw [← hrest, ← hstart] at hl
  refine ⟨m, _, ?_, hl, rfl⟩
  rw [hrest, Context.enclose_append]
  exact hm

end Source

def sampleProgram : ThrottlingProgram where
  plan := [⟨1, 0, none⟩, ⟨5, 0, some 3⟩]
  operands := [.text "b".toList, .operation .reverse, .text "],c=[try\x7b,".toList, .integer (-3),
    .itself, .operation .push]

theorem isWritable_sampleProgram : ∀ o ∈ sampleProgram.operands, o.IsWritable := by
  simp [sampleProgram, Operand.IsWritable, IsQuotable, Number.IsSigned, Number.maxSigned]

theorem isWithin_sampleProgram :
    ∀ s ∈ sampleProgram.plan, s.IsWithin sampleProgram.operands.length := by
  simp [sampleProgram, Step.IsWithin, Step.indices, Number.maxWord]

def sampleAccess : Access := .indirect "B$".toList ["x".toList] "iha".toList []

theorem isSound_sampleAccess : sampleAccess.IsSound := by
  have hnames : ∀ x ∈ ["x".toList, "iha".toList], IsName x ∧ ¬Elements.keyword <+: x := by decide
  exact ⟨by decide, by simp [Number.maxWord], hnames⟩

def sample : Source where
  program := sampleProgram
  literal := Operation.minified
  access := sampleAccess
  isLiteral := Operation.isLiteral_minified
  isWritable := isWritable_sampleProgram
  plan_ne_nil := List.cons_ne_nil _ _
  isWithin := isWithin_sampleProgram
  isSound := isSound_sampleAccess

def withLongName : Source where
  program := sampleProgram
  literal := Operation.minified
  access := .direct longIdentifier
  isLiteral := Operation.isLiteral_minified
  isWritable := isWritable_sampleProgram
  plan_ne_nil := List.cons_ne_nil _ _
  isWithin := isWithin_sampleProgram
  isSound := isName_longIdentifier

def sampleTail : Text := "g.Z=function(a)\x7b".toList ++ "return a||b\x7d;".toList

/-- Once the name is known, all that can be missing is the room to look for the function again. -/
theorem Source.ofScript_of_functionName (s : Source) {tail : Text}
    (hname : functionName (s.script tail) = .ok s.access.name) :
    ofScript (s.script tail) = (finder .function s.access.name).map fun _ => s.program := by
  rw [ofScript, hname, Outcome.ok_bind]
  obtain hr | hr := finder_cases .function s.access.name
  swap
  · rw [Definition.find, hr, Outcome.error_bind, Outcome.error_bind, Outcome.map_error]
  obtain ⟨u, hfind⟩ := s.find_script hr tail
  obtain ⟨m, hm, harray, hdrop⟩ := s.array_definition
  obtain ⟨o, l, ho, hl, hblock⟩ := s.block_rest
  have hwhole : (Definition.defined u s.access.name "a".toList s.body).whole.text = s.definition := rfl
  have hmap := s.operandsOf_elements
  obtain ⟨elements, helements⟩ : ∃ xs, Elements.ofLiteral m.text = .ok xs :=
    ⟨_, harray ▸ Elements.ofLiteral_enclose (s.forall_operands fun _ => isElement_written s.isLiteral)⟩
  rw [← harray, helements, Outcome.map_ok] at hmap
  have hoperands : elements.map operandOf = s.program.operands := Except.ok.inj hmap
  rw [hr, Outcome.map_ok, hfind, Outcome.ok_bind, hwhole, s.withoutLineBreaks_definition]
  simp only [s.offsetOf?_definition, hm, Outcome.ok_bind, helements, hoperands, hdrop, ho, hl,
    hblock, Source.steps, stepsOf_enclose s.plan_ne_nil s.isWithin, Outcome.pure_eq]

theorem Source.ofScript_script (s : Source) {tail : Text} (ht : ¬Guarded tail) :
    ofScript (s.script tail) = (finders s.access.lookedUp).map fun _ => s.program := by
  cases ha : s.access with
  | direct name =>
    have hname := s.functionName_direct ht ha
    rw [Access.lookedUp, finders, List.mapM_cons]
    obtain hr | hr := finder_cases .function name
    · rw [hr, Outcome.map_ok] at hname
      rw [s.ofScript_of_functionName (ha ▸ hname), ha, Access.name, hr]
      rfl
    · rw [ofScript, hname, hr]
      rfl
  | indirect array before name after =>
    have hname := s.functionName_indirect ht ha
    rw [Access.lookedUp, finders, List.mapM_cons]
    obtain hr | hr := finder_cases .array array
    · rw [hr, Outcome.map_ok] at hname
      rw [s.ofScript_of_functionName (ha ▸ hname), ha, Access.name, hr, Outcome.ok_bind,
        List.mapM_cons]
      obtain hf | hf := finder_cases .function name
      · rw [hf]
        rfl
      · rw [hf]
        rfl
    · rw [ofScript, hname, hr]
      rfl

/-- What a script is written from is read back from it, if the text behind it looks up nothing and there
is room for the names that the script is searched for: for every name of up to 326,900 octets, and for
none above 327,680. -/
theorem ofScript_throttlingScript (s : Source) {tail : Text} (ht : ¬Guarded tail) :
    ((∀ x ∈ s.access.lookedUp, x.2.byteLength ≤ 326900) →
      ofScript (s.script tail) = .ok s.program) ∧
    ((∃ x ∈ s.access.lookedUp, 327680 < x.2.byteLength) →
      ofScript (s.script tail) = .error .badPattern) ∧
    ofScript (s.script tail) =
      if haveFinders s.access.lookedUp then .ok s.program else .error .badPattern :=
  outcome_of_finders (s.ofScript_script ht)

theorem ofScript_sample :
    (¬Guarded sampleTail ∧ ofScript (sample.script sampleTail) = .ok sample.program) ∧
    ¬Guarded [] ∧ ofScript (withLongName.script []) = .error .badPattern := by
  have hno : ¬lookUp <:+: sampleTail := fun h =>
    absurd (h.subset (show '"' ∈ lookUp by decide)) (by decide)
  have hnames : ∀ x ∈ sample.access.lookedUp, x.2.byteLength ≤ 326900 := by decide
  have hlong : ∃ x ∈ withLongName.access.lookedUp, 327680 < x.2.byteLength :=
    ⟨(.function, longIdentifier), .head _, lt_longIdentifier⟩
  exact ⟨⟨not_guarded hno, (ofScript_throttlingScript sample (not_guarded hno)).1 hnames⟩,
    not_guarded_nil, (ofScript_throttlingScript withLongName not_guarded_nil).2.1 hlong⟩

/-- There is no room to look for the function, so the program is not read back. -/
theorem withLongName_unread : ¬Guarded [] ∧ ofScript (withLongName.script []) = .error .badPattern ∧
    ofScript (withLongName.script []) ≠ .ok withLongName.program := by
  have hlong : ∃ x ∈ withLongName.access.lookedUp, 327680 < x.2.byteLength :=
    ⟨(.function, longIdentifier), .head _, lt_longIdentifier⟩
  have hscript := (outcome_of_finders (withLongName.ofScript_script not_guarded_nil)).2.1 hlong
  exact ⟨not_guarded_nil, hscript, fun h => by cases hscript.symm.trans h⟩

end Unscramble.ThrottlingProgram
