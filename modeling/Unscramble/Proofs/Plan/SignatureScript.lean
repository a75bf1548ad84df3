import Unscramble.Plan.SignatureScript
import Unscramble.Proofs.Operation.Forms
import Unscramble.Proofs.Operation.Table
import Unscramble.Proofs.Pattern.Signature
import Unscramble.Proofs.Script.Binding
import Unscramble.Proofs.Script.Definition

/-! Signature plans are read back from the scripts that they are written into. -/
namespace Unscramble.SignaturePlan
open Regex Catalogue Literal

/-- The function literal that an object has under a name. -/
structure Entry where
  name : Text
  isName : IsName name
  quoted : Bool
  operation : Operation
  literal : Text
  isLiteral : operation.IsLiteral literal

def Entry.key (e : Entry) : Text :=
  if e.quoted then Context.quote.enclose e.name else e.name

def Entry.text (e : Entry) : Text := e.key ++ (":".toList ++ e.literal)

/-- A call of the function that an object has under a name. -/
structure Call where
  name : Text
  isName : IsName name
  quoted : Bool
  argument : Option Nat

def Call.member (c : Call) : Text :=
  if c.quoted then Context.bracket.enclose (Context.quote.enclose c.name) else ".".toList ++ c.name

def Call.arguments (c : Call) : Text :=
  match c.argument with
  | none => "a".toList
  | some n => "a,".toList ++ Number.render n

def Call.text (object : Text) (c : Call) : Text :=
  object ++ (c.member ++ ("(".toList ++ (c.arguments ++ ")".toList)))

/-- What a script that makes calls on a signature is written from. -/
structure Source where
  object : Text
  isObject : IsName object
  name : Text
  isPlainName : IsPlainName name
  calls : List Call
  calls_ne_nil : calls ≠ []
  entries : List Entry
  entries_ne_nil : entries ≠ []
  nodup : (entries.map (·.name)).Nodup

namespace Source

def callTexts (s : Source) : List Text := s.calls.map (Call.text s.object)

def lines (s : Source) : List Text :=
  "a=a.split(\"\")".toList :: (s.callTexts ++ ["return a.join(\"\")".toList])

def body (s : Source) : Text := [';'].intercalate s.lines

def table (s : Source) : Text := [','].intercalate (s.entries.map Entry.text)

def definitions (s : Source) : Text :=
  binding s.object (Context.brace.enclose s.table) ++ ';' ::
    (Definition.header s.name "a".toList (Context.brace.enclose s.body) ++ ";".toList)

def lookedUp (s : Source) : List (Kind × Text) := [(.function, s.name), (.object, s.object)]

def script (s : Source) (tail : Text) : Text :=
  s.definitions ++
    ("c&&a.set(b,".toList ++ ("encodeURIComponent(".toList ++ (s.name ++ ("(c)));".toList ++ tail))))

end Source

theorem Entry.not_mem_key (e : Entry) {c : Char} (hc : nameChar.contains c = false) (hq : c ≠ '"') :
    c ∉ e.key := by
  have hn := e.isName.not_mem hc
  unfold Entry.key
  split
  · simp [Context.enclose, Context.opener, Context.closer, hn, hq]
  · exact hn

theorem Entry.not_mem_text (e : Entry) {c : Char} (hc : nameChar.contains c = false) (hq : c ≠ '"')
    (hl : c ∉ e.literal) (hcolon : c ≠ ':') : c ∉ e.text := by
  simp [Entry.text, e.not_mem_key hc hq, hl, hcolon]

theorem Entry.closed (e : Entry) : Closed e.text := by
  have hk : Closed e.key := by
    unfold Entry.key
    split
    · exact closed_quoted e.isName.no_quote
    · exact e.isName.closed
  have hcolon : Closed ":".toList := by decide
  exact hk.append (hcolon.append e.isLiteral.closed)

theorem Entry.whole (e : Entry) : Commas.Whole e.text := by
  have hk : Commas.Whole e.key := by
    unfold Entry.key
    split
    · exact Commas.whole_quoted e.isName.no_quote
    · exact e.isName.whole
  have hcolon : Commas.Whole ":".toList := by decide
  exact hk.append (hcolon.append e.isLiteral.whole)

theorem Entry.avoids (e : Entry) {ks : List CharClass} (hl : Avoids (.single '=' :: ks) e.literal) :
    Avoids (.single '=' :: ks) e.text := by
  have hcolon : '=' ∉ ":".toList := by decide
  exact (avoids_of_not_mem (e.not_mem_key (by decide) (by decide))).append
    ((avoids_of_not_mem hcolon).append hl)

namespace Call
variable {object : Text}

theorem not_mem_member (c : Call) {d : Char} (hd : nameChar.contains d = false)
    (hm : d ∉ "[].\"".toList) : d ∉ c.member := by
  have hn := c.isName.not_mem hd
  have hm' : d ≠ '[' ∧ d ≠ ']' ∧ d ≠ '.' ∧ d ≠ '"' := by simpa using hm
  unfold member
  split <;> simp [Context.enclose, Context.opener, Context.closer, hn, hm']

theorem not_mem_arguments (c : Call) {d : Char} (hd : nameChar.contains d = false)
    (hm : d ≠ ',') : d ∉ c.arguments := by
  have ha : d ≠ 'a' := fun h => by rw [h] at hd; exact absurd hd (by decide)
  unfold arguments
  split
  · simp [ha]
  · simp [ha, hm, (isName_render _).not_mem hd]

theorem not_mem_text (c : Call) (ho : IsName object) {d : Char} (hd : nameChar.contains d = false)
    (hm : d ∉ "[].\",()".toList) : d ∉ c.text object := by
  have hm' : d ≠ '[' ∧ d ≠ ']' ∧ d ≠ '.' ∧ d ≠ '"' ∧ d ≠ ',' ∧ d ≠ '(' ∧ d ≠ ')' := by simpa using hm
  have hmember := c.not_mem_member hd (by simp [hm'])
  have hargs := c.not_mem_arguments hd hm'.2.2.2.2.1
  simp [text, ho.not_mem hd, hmember, hargs, hm']

theorem closed (c : Call) (ho : IsName object) : Closed (c.text object) := by
  have hquoted : Closed (Context.quote.enclose c.name) := closed_quoted c.isName.no_quote
  have hdot : Closed ".".toList := by decide
  have hmember : Closed c.member := by
    unfold member
    split
    · exact hquoted.enclose (.inr rfl)
    · exact hdot.append c.isName.closed
  have hone : Closed "a".toList := by decide
  have htwo : Closed "a,".toList := by decide
  have hargs : Closed c.arguments := by
    unfold arguments
    split
    · exact hone
    · exact htwo.append (isName_render _).closed
  have hopen : Closed "(".toList := by decide
  have hclose : Closed ")".toList := by decide
  exact ho.closed.append (hmember.append (hopen.append (hargs.append hclose)))

theorem trim_text (c : Call) (ho : IsName object) : Text.trim (c.text object) = c.text object := by
  have hend : c.text object = object ++ (c.member ++ ("(".toList ++ c.arguments)) ++ [')'] := by
    simp [text]
  refine Text.trimBy_eq_self ho.head_not_blank ?_
  rw [hend]
  exact Text.any_getLast?_concat ..

end Call

theorem Entry.trim_key (e : Entry) : Text.trim e.key = e.key := by
  unfold Entry.key
  split
  · exact Text.trimBy_concat (x := '"' :: e.name) rfl rfl
  · exact Text.trimBy_plain fun d hd => not_blank_of_nameChar (e.isName.2 d hd)

theorem Entry.entryName_key (e : Entry) : entryName e.key = e.name := by
  have hquote : ∀ d ∈ e.name, (d == '"' || d == '\'') = false := by
    intro d hd
    have h1 := ne_of_nameChar (c := '"') (e.isName.2 d hd) (by decide)
    have h2 := ne_of_nameChar (c := '\'') (e.isName.2 d hd) (by decide)
    simp [h1, h2]
  rw [entryName, e.trim_key, Entry.key]
  split
  · exact Text.trimBy_enclosed rfl rfl hquote
  · exact Text.trimBy_plain hquote

theorem Entry.read_text (e : Entry) : entry? e.text = some (e.name, e.operation) := by
  have hsplit := Text.splitOnce?_append (e.not_mem_key (c := ':') (by decide) (by decide)) e.literal
  have htext : e.text = e.key ++ ':' :: e.literal := rfl
  simp [ entry?, htext, hsplit, Operation.classify?_of_isLiteral e.isLiteral, e.entryName_key]

theorem Entry.trim_text (e : Entry) : Text.trim e.text = e.text := by
  have hhead : e.text.head?.any CharClass.blank.contains = false := by
    unfold Entry.text Entry.key
    split
    · rfl
    · exact e.isName.head_not_blank
  refine Text.trimBy_eq_self hhead ?_
  obtain ⟨ps, body, hl, -⟩ := e.isLiteral.exists_parts
  rw [Entry.text, hl, List.getLast?_append, List.getLast?_append, Elements.getLast?_function]
  rfl

namespace Source
variable (s : Source)

theorem forall_lines {P : Text → Prop} (hfirst : P "a=a.split(\"\")".toList)
    (hcall : ∀ c : Call, P (c.text s.object)) (hlast : P "return a.join(\"\")".toList) :
    ∀ x ∈ s.lines, P x := by
  intro x hx
  obtain rfl | hx := List.mem_cons.1 hx
  · exact hfirst
  · cases List.mem_append.1 hx with
    | inl hx =>
      obtain ⟨c, -, rfl⟩ := List.mem_map.1 hx
      exact hcall c
    | inr hx => exact List.mem_singleton.1 hx ▸ hlast

theorem closed_body : Closed s.body :=
  Text.intercalate_induction closed_nil (fun _ _ => Closed.append) (by decide)
    (s.forall_lines (by decide) (fun c => c.closed s.isObject) (by decide))

theorem statementsOf_body : statementsOf s.body = s.lines := by
  have hno : ∀ x ∈ s.lines, ';' ∉ x := s.forall_lines (by decide)
    (fun c => c.not_mem_text s.isObject (by decide) (by decide)) (by decide)
  have htrim : ∀ x ∈ s.lines, Text.trim x = x := s.forall_lines (by decide)
    (fun c => c.trim_text s.isObject) (by decide)
  have hne : ∀ x ∈ s.lines, (!x.isEmpty) = true := s.forall_lines rfl
    (fun c => by simp [Call.text]) rfl
  have hpieces : Text.pieces ';' s.body = s.lines := by
    rw [Text.pieces_eq_splitOn]
    exact List.splitOn_intercalate ';' hno (List.cons_ne_nil _ _)
  have hmap : s.lines.map Text.trim = s.lines := (List.map_congr_left htrim).trans (List.map_id _)
  rw [statementsOf, hpieces, hmap, List.filter_eq_self.2 hne]

theorem three_le_length_lines : 3 ≤ s.lines.length := by
  have hcalls := List.length_pos_iff.2 s.calls_ne_nil
  simp only [lines, callTexts, List.length_cons, List.length_append, List.length_map,
    List.length_nil]
  omega

theorem dropLast_drop_lines : (s.lines.drop 1).dropLast = s.callTexts := by
  rw [lines, List.drop_one, List.tail_cons, List.dropLast_concat]

theorem and_not_mem_body : '&' ∉ s.body :=
  Text.not_mem_intercalate (by decide) (s.forall_lines (by decide)
    (fun c => c.not_mem_text s.isObject (by decide) (by decide)) (by decide))

theorem forall_entries {P : Text → Prop} (h : ∀ e : Entry, P e.text) :
    ∀ x ∈ s.entries.map Entry.text, P x := by
  intro x hx
  obtain ⟨e, -, rfl⟩ := List.mem_map.1 hx
  exact h e

theorem closed_table : Closed s.table :=
  Text.intercalate_induction closed_nil (fun _ _ => Closed.append) (by decide)
    (s.forall_entries Entry.closed)

theorem not_mem_table {d : Char} (hd : nameChar.contains d = false) (hm : d ∉ "\":,".toList)
    (hl : ∀ e : Entry, d ∉ e.literal) : d ∉ s.table := by
  have hm' : d ≠ '"' ∧ d ≠ ':' ∧ d ≠ ',' := by simpa using hm
  exact Text.not_mem_intercalate (by simp [hm']) (s.forall_entries fun e =>
    e.not_mem_text hd hm'.1 (hl e) hm'.2.1)

theorem oneLine_table : oneLine s.table = s.table := by
  have hn : '\n' ∉ s.table := s.not_mem_table (by decide) (by decide) fun e => e.isLiteral.free.2.1
  have hr : '\r' ∉ s.table := s.not_mem_table (by decide) (by decide) fun e => e.isLiteral.free.2.2
  refine (List.map_congr_left fun c hc => ?_).trans (List.map_id _)
  have hcn : c ≠ '\n' := fun h => hn (h ▸ hc)
  have hcr : c ≠ '\r' := fun h => hr (h ▸ hc)
  rw [if_neg (by simp [hcn, hcr]), id]

theorem pieces_table : Commas.pieces s.table = s.entries.map Entry.text := by
  have hne : s.entries.map Entry.text ≠ [] := by simpa using s.entries_ne_nil
  exact Commas.pieces_intercalate hne (s.forall_entries fun e => by simp [Entry.text])
    (s.forall_entries Entry.trim_text) (s.forall_entries Entry.whole)

def operations : List (Text × Operation) := s.entries.map fun e => (e.name, e.operation)

theorem operationsOf_table : operationsOf s.table = .ok (.ofList s.operations) := by
  have hfilter : (s.entries.map Entry.text).filterMap entry? = s.operations := by
    rw [List.filterMap_map, operations, ← List.filterMap_eq_map]
    exact List.filterMap_congr fun e _ => e.read_text
  rw [operationsOf, oneLine_table, pieces_table, hfilter]
  cases ho : s.operations with
  | nil => exact absurd (List.map_eq_nil_iff.1 ho) s.entries_ne_nil
  | cons => rfl

theorem avoids_object (ks : List CharClass) (hl : ∀ e : Entry, Avoids (.single '=' :: ks) e.literal)
    (hstart : Avoids (.single '=' :: ks) ['=', '\x7b']) :
    Avoids (.single '=' :: ks) (binding s.object (Context.brace.enclose s.table)) := by
  have hcomma : '=' ∉ [','] := by decide
  exact avoids_binding s.isObject hstart (by decide) (Text.intercalate_induction rfl
    (fun _ _ => Avoids.append) (avoids_of_not_mem hcomma) (s.forall_entries fun e => e.avoids (hl e)))

theorem and_not_mem_definitions : '&' ∉ s.definitions := by
  have ho := s.isObject.not_mem (c := '&') (by decide)
  have hn := s.isPlainName.isName.not_mem (c := '&') (by decide)
  have ht : '&' ∉ s.table := s.not_mem_table (by decide) (by decide) fun e => e.isLiteral.free.1
  simp [definitions, binding, Definition.header, Context.enclose, Context.opener, Context.closer,
    ho, hn, ht, s.and_not_mem_body]

theorem signatureFunction_script (tail : Text) :
    ∃ m, signatureFunction.firstMatch (s.script tail) = .ok m ∧ m.text = s.name := by
  refine signatureFunction_firstMatch s.isPlainName s.and_not_mem_definitions ?_ ("c)));".toList ++ tail)
  have hend : s.definitions = binding s.object (Context.brace.enclose s.table) ++ ';' ::
      Definition.header s.name "a".toList (Context.brace.enclose s.body) ++ [';'] := by
    simp [definitions]
  rw [hend]
  exact Text.any_getLast?_concat ..

theorem find_script (hr : finder .function s.name = .ok (functionDefinition s.name)) (tail : Text) :
    Definition.find (s.script tail) s.name =
      .ok (Definition.defined (binding s.object (Context.brace.enclose s.table) ++ [';']) s.name
        "a".toList s.body) := by
  have hparameter : IsName "a".toList := by decide
  have hf : Avoids functionAssigned (binding s.object (Context.brace.enclose s.table)) :=
    s.avoids_object (classesOf "fu".toList) (fun e => e.isLiteral.avoids_functionAssigned) (by decide)
  have hs : Avoids spacedAssignment (binding s.object (Context.brace.enclose s.table)) :=
    s.avoids_object [.blank] (fun e => e.isLiteral.avoids_spacedAssignment) (by decide)
  have h := Definition.find_behind hr s.isPlainName.isName hparameter (by simp [binding]) hf hs
    s.closed_body (";".toList ++ entryCall s.name ("c)));".toList ++ tail))
  have he : s.script tail = binding s.object (Context.brace.enclose s.table) ++ ';' ::
      (Definition.header s.name "a".toList (Context.brace.enclose s.body) ++
        (";".toList ++ entryCall s.name ("c)));".toList ++ tail))) := by
    simp only [script, definitions, List.append_assoc, List.cons_append]
    rfl
  rw [he, h]

theorem transformObject_text (c : Call) :
    transformObject.firstMatch (c.text s.object) = .ok (objectMatch s.object) := by
  unfold Call.text Call.member
  split
  · rw [Context.enclose_append]
    exact transformObject_indexed s.isObject _
  · rw [List.append_assoc]
    exact transformObject_member s.isObject c.isName _

theorem exists_objectLiteral (tail : Text) : ∃ m l,
    (objectLiteral s.object).firstMatch (s.script tail) = .ok m ∧
      Literal.at? (s.script tail) m.span.start = .ok l ∧ l.text = Context.brace.enclose s.table := by
  have hscript : s.script tail = binding s.object (Context.brace.enclose s.table ++ _) :=
    (List.append_assoc ..).trans (binding_append ..).symm
  rw [hscript]
  exact exists_literal (.inl rfl) (objectLiteral_firstMatch s.isObject) s.closed_table _

end Source

def sampleCalls : List Call :=
  [⟨"yL".toList, by decide, false, some 3⟩, ⟨"$".toList, by decide, true, none⟩,
    ⟨"yL".toList, by decide, true, some 40⟩]

def sampleEntries : List Entry :=
  [⟨"$".toList, by decide, true, .reverse, _, Operation.isLiteral_minified .reverse⟩,
    ⟨"yL".toList, by decide, false, .swap, _, Operation.isLiteral_minified .swap⟩]

def sample : Source where
  object := "B_".toList
  isObject := by decide
  name := "fC$".toList
  isPlainName := by decide
  calls := sampleCalls
  calls_ne_nil := List.cons_ne_nil _ _
  entries := sampleEntries
  entries_ne_nil := List.cons_ne_nil _ _
  nodup := by decide

theorem isPlainName_longIdentifier : IsPlainName longIdentifier :=
  ⟨isName_longIdentifier.1, fun _ hc => (List.mem_replicate.1 hc).2 ▸ rfl⟩

def withLongFunction : Source where
  object := "B_".toList
  isObject := by decide
  name := longIdentifier
  isPlainName := isPlainName_longIdentifier
  calls := [⟨"yL".toList, by decide, false, some 3⟩]
  calls_ne_nil := List.cons_ne_nil _ _
  entries := sampleEntries
  entries_ne_nil := List.cons_ne_nil _ _
  nodup := by decide

theorem Source.ofScript_script (s : Source) (tail : Text) : ofScript (s.script tail) =
    (finders s.lookedUp).map fun _ => ⟨s.callTexts, .ofList s.operations⟩ := by
  obtain ⟨f, hf, hname⟩ := s.signatureFunction_script tail
  obtain ⟨m, l, hm, hl, htext⟩ := s.exists_objectLiteral tail
  have hdefined : (Definition.defined (binding s.object (Context.brace.enclose s.table) ++ [';'])
      s.name "a".toList s.body).body.text = Context.brace.enclose s.body := rfl
  have hlength := s.three_le_length_lines
  rw [ofScript, hf, Outcome.ok_bind, hname, Source.lookedUp, finders, List.mapM_cons]
  obtain hr | hr := finder_cases .function s.name
  swap
  · rw [Definition.find, hr]
    rfl
  rw [s.find_script hr, hr, Outcome.ok_bind, Outcome.ok_bind, hdefined, inside_enclose (.inl rfl),
    Outcome.ok_bind, s.statementsOf_body, List.mapM_cons]
  simp only [if_neg (Nat.not_lt.2 hlength), s.dropLast_drop_lines, Source.callTexts]
  cases hcalls : s.calls with
  | nil => exact absurd hcalls s.calls_ne_nil
  | cons c cs =>
    simp only [List.map_cons, s.transformObject_text c, Outcome.ok_bind, objectMatch]
    obtain ho | ho := finder_cases .object s.object
    · simp only [ho, Outcome.ok_bind, Kind.set, hm, hl, htext, inside_enclose (k := .brace) (.inl rfl),
        s.operationsOf_table, Outcome.pure_eq]
      rfl
    · rw [ho]
      rfl

/-- What a script is written from is read back from it, if there is room for the names that the script is
searched for: for every name of up to 326,900 octets, and for none above 327,680. -/
theorem ofScript_signatureScript (s : Source) (tail : Text) :
    ∃ table, table.entries = s.operations ∧
      ((∀ x ∈ s.lookedUp, x.2.byteLength ≤ 326900) →
        ofScript (s.script tail) = .ok ⟨s.callTexts, table⟩) ∧
      ((∃ x ∈ s.lookedUp, 327680 < x.2.byteLength) →
        ofScript (s.script tail) = .error .badPattern) ∧
      ofScript (s.script tail) =
        if haveFinders s.lookedUp then .ok ⟨s.callTexts, table⟩ else .error .badPattern := by
  have hnodup : (s.operations.map (·.1)).Nodup := by
    rw [Source.operations, List.map_map]
    exact s.nodup
  exact ⟨_, OperationTable.entries_ofList hnodup, outcome_of_finders (s.ofScript_script tail)⟩

theorem ofScript_sampleCalls :
    (∃ table, ofScript (sample.script []) =
      .ok ⟨["B_.yL(a,3)".toList, "B_[\"$\"](a)".toList, "B_[\"yL\"](a,40)".toList], table⟩ ∧
        table.entries = [("$".toList, .reverse), ("yL".toList, .swap)]) ∧
    ofScript (withLongFunction.script []) = .error .badPattern := by
  have hnames : ∀ x ∈ sample.lookedUp, x.2.byteLength ≤ 326900 := by decide
  have hlong : ∃ x ∈ withLongFunction.lookedUp, 327680 < x.2.byteLength :=
    ⟨(.function, longIdentifier), .head _, lt_longIdentifier⟩
  obtain ⟨table, hentries, hread, -⟩ := ofScript_signatureScript sample []
  obtain ⟨-, -, -, hunread, -⟩ := ofScript_signatureScript withLongFunction []
  exact ⟨⟨table, hread hnames, hentries⟩, hunread hlong⟩

/-- There is no room to look for the function, so the plan is not read back. -/
theorem withLongFunction_unread : ofScript (withLongFunction.script []) = .error .badPattern ∧
    ∀ table, ofScript (withLongFunction.script []) ≠ .ok ⟨withLongFunction.callTexts, table⟩ := by
  have hlong : ∃ x ∈ withLongFunction.lookedUp, 327680 < x.2.byteLength :=
    ⟨(.function, longIdentifier), .head _, lt_longIdentifier⟩
  have hscript := (outcome_of_finders (withLongFunction.ofScript_script [])).2.1 hlong
  exact ⟨hscript, fun table h => by cases hscript.symm.trans h⟩

end Unscramble.SignaturePlan
