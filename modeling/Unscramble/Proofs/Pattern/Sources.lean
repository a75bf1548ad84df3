import Unscramble.Proofs.Pattern.Written

/-! The expressions that no name is put into, as they are written. All of them can be read, and each
set has its group. -/
namespace Unscramble.Written
open Regex Catalogue

def ofStrings (target : Target) (group : Text) (sources : List String) : Written :=
  ⟨target, group, sources.map String.toList⟩

/-- The characters of a written text are found by unification, which is faster than decoding it. -/
theorem exists_compilesTo {target : Target} {group : Text} {sources : List String} (ts : List Text)
    (hs : sources = ts.map String.ofList) (h : (compile ⟨target, group, ts⟩).isOk = true) :
    ∃ s, (ofStrings target group sources).CompilesTo s := by
  have hlists : sources.map String.toList = ts := by
    rw [hs, List.map_map]
    exact (List.map_congr_left fun t _ => String.toList_ofList).trans (List.map_id ts)
  rw [ofStrings, hlists]
  cases hc : compile ⟨target, group, ts⟩ with
  | error f =>
    rw [hc] at h
    cases h
  | ok s => exact ⟨s, compilesTo hc⟩

def signatureFunction : Written := ofStrings .signatureFunction nameGroup
  ["\\b[cs]\\s*&&\\s*[adf]\\.set\\([^,]+\\s*,\\s*encodeURIComponent\\s*\\(\\s*(?P<name>[a-zA-Z0-9$]+)\\(",
   "\\b[a-zA-Z0-9]+\\s*&&\\s*[a-zA-Z0-9]+\\.set\\([^,]+\\s*,\\s*encodeURIComponent\\s*\\(\\s*(?P<name>[a-zA-Z0-9$]+)\\(",
   "(?:\\b|[^a-zA-Z0-9$])(?P<name>[a-zA-Z0-9$]\x7b2\x7d)\\s*=\\s*function\\(\\s*a\\s*\\)\\s*\\\x7b\\s*a\\s*=\\s*a\\.split\\(\\s*\"\"\\s*\\)",
   "(?P<name>[a-zA-Z0-9$]+)\\s*=\\s*function\\(\\s*a\\s*\\)\\s*\\\x7b\\s*a\\s*=\\s*a\\.split\\(\\s*\"\"\\s*\\)",
   "(?:\"signature\"|'signature')\\s*,\\s*(?P<name>[a-zA-Z0-9$]+)\\(",
   "\\.sig\\|\\|(?P<name>[a-zA-Z0-9$]+)\\(",
   "yt\\.akamaized\\.net/\\)\\s*\\|\\|\\s*.*?\\s*[cs]\\s*&&\\s*[adf]\\.set\\([^,]+\\s*,\\s*(?:encodeURIComponent\\s*\\()?\\s*(?P<name>[a-zA-Z0-9$]+)\\(",
   "\\b[cs]\\s*&&\\s*[adf]\\.set\\([^,]+\\s*,\\s*(?P<name>[a-zA-Z0-9$]+)\\(",
   "\\b[a-zA-Z0-9]+\\s*&&\\s*[a-zA-Z0-9]+\\.set\\([^,]+\\s*,\\s*(?P<name>[a-zA-Z0-9$]+)\\(",
   "\\bc\\s*&&\\s*a\\.set\\([^,]+\\s*,\\s*\\([^)]*\\)\\s*\\(\\s*(?P<name>[a-zA-Z0-9$]+)\\(",
   "\\bc\\s*&&\\s*[a-zA-Z0-9]+\\.set\\([^,]+\\s*,\\s*\\([^)]*\\)\\s*\\(\\s*(?P<name>[a-zA-Z0-9$]+)\\("]

def transformObject : Written := ofStrings .transformObject objectGroup
  ["^\\s*(?P<object>[a-zA-Z0-9$_]+)\\.[a-zA-Z0-9$_]+\\(",
   "^\\s*(?P<object>[a-zA-Z0-9$_]+)\\[\""]

def throttlingFunction : Written := ofStrings .throttlingFunction nameGroup
  ["a\\.[a-zA-Z]\\s*&&\\s*\\([a-z]\\s*=\\s*a\\.get\\(\"n\"\\)\\)\\s*&&[^;\x7d]*?\\|\\|\\s*(?P<name>[a-zA-Z0-9$_]+)",
   "\\.get\\(\"n\"\\)\\)&&\\([a-zA-Z0-9$_]=(?P<name>[a-zA-Z0-9$_]+)\\([a-zA-Z0-9$_]\\)"]

def throttlingArray : Written := ofStrings .throttlingArray arrayGroup
  ["\\.get\\(\"n\"\\)\\)&&\\([a-zA-Z0-9$_]=(?P<array>[a-zA-Z0-9$_]+)\\[\\d+\\]\\([a-zA-Z0-9$_]\\)",
   "\\([a-z]\\s*=\\s*(?P<array>[a-zA-Z0-9$]+)\\[\\d+\\]\\([a-z]\\)"]

def tryBlock : Written := ofStrings .tryBlock openGroup
  [";\\s*try\\s*(?P<open>\\\x7b)", "\\btry\\s*(?P<open>\\\x7b)"]

def transformCall : Written := ofStrings .transformCall nameGroup
  ["^[a-zA-Z0-9$_]+\\.(?P<name>[a-zA-Z0-9$_]+)\\([a-zA-Z0-9$_]+,\\s*(?P<arg>\\d+)\\)$",
   "^[a-zA-Z0-9$_]+\\[[\"'](?P<name>[a-zA-Z0-9$_]+)[\"']\\]\\([a-zA-Z0-9$_]+,\\s*(?P<arg>\\d+)\\)$",
   "^[a-zA-Z0-9$_]+\\.(?P<name>[a-zA-Z0-9$_]+)\\([a-zA-Z0-9$_]+\\)$",
   "^[a-zA-Z0-9$_]+\\[[\"'](?P<name>[a-zA-Z0-9$_]+)[\"']\\]\\([a-zA-Z0-9$_]+\\)$"]

def sets : List Written :=
  [signatureFunction, transformObject, throttlingFunction, throttlingArray, tryBlock, transformCall]

def expressions : List String :=
  ["c\\[(?P<op>\\d+)\\]\\(c\\[(?P<first>\\d+)\\](?:,c\\[(?P<second>\\d+)\\])?\\)",
   "^\\[(?P<index>\\d+)\\]",
   "case\\s\\d+",
   "\\\x7bfor\\(\\w=\\(\\w%\\w\\.length\\+\\w\\.length\\)%\\w\\.length;\\w--;\\)\\w\\.unshift\\(\\w\\.pop\\(\\)\\)\\\x7d",
   "\\w\\.splice\\(-\\w\\)\\.reverse\\(\\)\\.forEach\\(function\\(\\w\\)\\\x7b\\w\\.unshift\\(\\w\\)\\\x7d\\)",
   "\\w\\.splice\\(0,1,\\w\\.splice\\(\\w,1,\\w\\[0\\]\\)\\[0\\]\\)",
   "\\\x7b\\w\\.reverse\\(\\)\\\x7d",
   "for\\(var \\w=\\w\\.length;\\w;\\)\\w\\.push\\(\\w\\.splice\\(--\\w,1\\)\\[0\\]\\)\\\x7d",
   "\\\x7b\\w\\.push\\(\\w\\)\\\x7d",
   "\\\x7bvar\\s\\w=\\w\\[0\\];\\w\\[0\\]=\\w\\[\\w%\\w\\.length\\];\\w\\[\\w(?:%\\w\\.length)?\\]=\\w\\\x7d",
   ";var\\s\\w=\\w\\[0\\];\\w\\[0\\]=\\w\\[\\w\\];\\w\\[\\w\\]=\\w\\\x7d",
   "\\\x7b\\w\\.splice\\(0,\\w\\)\\\x7d",
   ";\\w\\.splice\\(\\w,1\\)\\\x7d"]

set_option maxRecDepth 4000 in
theorem exists_compilesTo_sets : ∀ w ∈ sets, ∃ s, w.CompilesTo s := by
  simp only [sets, List.forall_mem_cons, List.not_mem_nil, false_imp_iff, implies_true, and_true]
  refine ⟨?signatureFunction, ?transformObject, ?throttlingFunction, ?throttlingArray, ?tryBlock,
    ?transformCall⟩
  case signatureFunction =>
    exact exists_compilesTo [_, _, _, _, _, _, _, _, _, _, _] rfl (by decide +kernel)
  case transformObject => exact exists_compilesTo [_, _] rfl (by decide +kernel)
  case throttlingFunction => exact exists_compilesTo [_, _] rfl (by decide +kernel)
  case throttlingArray => exact exists_compilesTo [_, _] rfl (by decide +kernel)
  case tryBlock => exact exists_compilesTo [_, _] rfl (by decide +kernel)
  case transformCall => exact exists_compilesTo [_, _, _, _] rfl (by decide +kernel)

/-- With any room the text is read as the expression `r`, and so it is where there is room for `r`. -/
def IsReadAsExpression (t : Text) (r : Regex) : Prop :=
  expression? t = some r ∧ (r.fits = true → read? t = some r)

theorem exists_isReadAsExpression {ss : List String} (ts : List Text) (hs : ss = ts.map String.ofList)
    (h : ∀ t ∈ ts, (expression? t).isSome = true) : ∀ s ∈ ss, ∃ r, IsReadAsExpression s.toList r := by
  rw [hs]
  refine List.forall_mem_map.2 fun t ht => ?_
  obtain ⟨r, hr⟩ := Option.isSome_iff_exists.1 (h t ht)
  rw [String.toList_ofList]
  exact ⟨r, hr, fun hfits => by rw [read?_eq_filter, hr, Option.filter_some, if_pos hfits]⟩

set_option maxRecDepth 4000 in
theorem exists_isReadAsExpression_expressions :
    ∀ source ∈ expressions, ∃ r, IsReadAsExpression source.toList r :=
  exists_isReadAsExpression [_, _, _, _, _, _, _, _, _, _, _, _, _] rfl (by decide +kernel)

end Unscramble.Written
