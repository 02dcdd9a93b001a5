import SearchLink.Http.Service
import SearchLink.Proofs.Http.Query
import SearchLink.Proofs.Template.PlanStep

/-!
# `SearchLink.Proofs.Template.Unrolling`: one variable, one token at a time

The value of a single variable is filled in by the plan for any number of variables, with its
rounds and its names that may be given up. For one name this amounts to a recursion on what
stands behind the first token. `Unrolls` says it in the byte offsets of an occurrence:

* Where nothing is located, the template is copied, malformed tokens and all.
* Otherwise the text in front of the occurrence is copied, the occurrence is rendered, and what
  stands behind it is filled in as a template of its own.

`substitute_unrolls` says it of `substitute`, and of the two fields that the service answers an
expansion with.
-/

set_option autoImplicit false

namespace SearchLink.Template

/-- What filling in a template with the value of one variable gives, in terms of the first
occurrence of the variable. -/
def Unrolls (registry : Registry) (template name value : Text) (encode : Bool) :
    (first : Option Occurrence) → (url : Text) → Prop
  | none, url => url = template
  | some k, url =>
    ∃ front rest, template.takeBytes? k.span.start = some front ∧
      template.dropBytes? k.span.stop = some rest ∧
      url = front ++ render registry encode k.chain (Text.trimSelection value) ++
        substitute registry rest name value encode

/-! ### In texts -/

section
variable (registry : Registry) {template name : Text} (value : Text) (encode : Bool)

/-- Without a first token a template is copied. -/
theorem substitute_of_firstToken?_eq_none (h : firstToken? name template = none) :
    substitute registry template name value encode = template := by
  have hbest : nearestToken? template (allActive [name]) = none := by
    rw [allActive, List.zipIdx_singleton, List.map_singleton, nearestToken?_singleton]
    simp only [h, Option.map_none]
  simp only [substitute, substituteAll, List.map_cons, List.map_nil, plan,
    planFrom_of_nearestToken?_eq_none hbest, List.flatMap_singleton, fillPiece]

/-- With a first token, what stands in front of it is copied, and what stands behind it is
filled in. -/
theorem substitute_of_firstToken? {k : Token} (h : firstToken? name template = some k) :
    substitute registry template name value encode
      = k.before ++ render registry encode k.chain (Text.trimSelection value) ++
          substitute registry k.rest name value encode := by
  have hplan : plan template [name]
      = .literal k.before :: .value 0 k.chain :: plan k.rest [name] :=
    planFrom_singleton (a := ⟨0, name⟩) h
  simp only [substitute, substituteAll, List.map_cons, List.map_nil, hplan, List.flatMap_cons,
    fillPiece, List.append_assoc]
  rfl

end

/-! ### In byte offsets -/

/-- From the start of a template on, the first token is located. -/
theorem locate?_start {template name token : Text} {k : Token}
    (h : firstToken? name template = some k) (hsplit : template = k.before ++ token ++ k.rest) :
    locate? template name 0
      = some ⟨⟨k.before.utf8Size, (k.before ++ token).utf8Size⟩, k.chain⟩ := by
  have hstart : template.dropBytes? 0 = some template := Text.dropBytes?_append [] template
  have hstop : template.utf8Size - k.rest.utf8Size = (k.before ++ token).utf8Size := by
    rw [hsplit, Text.utf8Size_append _ k.rest, Nat.add_sub_cancel]
  simp only [locate?, hstart, h, Option.bind_eq_bind, Option.bind_some, Nat.zero_add, hstop]

/-- Without a first token nothing is located from the start of a template on. -/
theorem locate?_start_eq_none {template name : Text} (h : firstToken? name template = none) :
    locate? template name 0 = none := by
  have hstart : template.dropBytes? 0 = some template := Text.dropBytes?_append [] template
  simp only [locate?, hstart, h, Option.bind_eq_bind, Option.bind_some, Option.bind_none]

/-- What is filled in goes together with the occurrence that is located. -/
theorem unrolls_locate? (registry : Registry) (template name value : Text) (encode : Bool) :
    Unrolls registry template name value encode (locate? template name 0)
      (substitute registry template name value encode) := by
  cases htoken : firstToken? name template with
  | none =>
    rw [locate?_start_eq_none htoken]
    exact substitute_of_firstToken?_eq_none registry value encode htoken
  | some k =>
    obtain ⟨token, hsplit, -, -⟩ := firstToken?_split htoken
    rw [locate?_start htoken hsplit]
    refine ⟨k.before, k.rest, ?_, ?_, substitute_of_firstToken? registry value encode htoken⟩
    · rw [hsplit, List.append_assoc]
      exact Text.takeBytes?_append _ _
    · rw [hsplit]
      exact Text.dropBytes?_append _ _

/-- **The value of one variable is filled in along the occurrences that are located**, one after
the other, whatever functions there are. For all values of its four parameters an expansion can
be asked for, and its answer shows a first occurrence and a URL that go together in this way. -/
theorem substitute_unrolls (template name value : Text) (encode : Bool) :
    (∀ registry, Unrolls registry template name value encode (locate? template name 0)
      (substitute registry template name value encode)) ∧
    (∃ query, Http.ExpandQuery.parse query = .ok ⟨template, value, name, encode⟩) ∧
    ∀ (c : Catalog) (r : Http.Request), r.method = "GET".toList →
      r.target.path = "/expand".toList →
      Http.ExpandQuery.parse r.target.query = .ok ⟨template, value, name, encode⟩ →
      ∃ url first, Http.Service.respond c r = .json (.object [
          ("url".toList, .text url),
          ("first_occurrence".toList, Http.Service.occurrenceJson first)]) ∧
        first = locate? template name 0 ∧
        Unrolls Registry.standard template name value encode first url := by
  refine ⟨fun registry => unrolls_locate? registry template name value encode,
    ⟨_, Http.ExpandQuery.parse_writeFields template value name encode⟩, ?_⟩
  rintro c ⟨method, path, query⟩ rfl rfl hparse
  have hanswer : Http.Service.respond c ⟨"GET".toList, "/expand".toList, query⟩
      = Http.Service.expand query := rfl
  refine ⟨substitute Registry.standard template name value encode, locate? template name 0, ?_,
    rfl, unrolls_locate? Registry.standard template name value encode⟩
  rw [hanswer, Http.Service.expand, hparse]
  rfl

/-- In `ä{X[0]}/{x}/{x[?]}/{x}` the variable `x` has two tokens and then a malformed one. The first
one takes up the bytes from 2 to 8, and behind it the template goes on as one of its own. -/
theorem substitute_unrolls_capital :
    let template : Text := "ä\x7bX[0]\x7d/\x7bx\x7d/\x7bx[?]\x7d/\x7bx\x7d".toList
    let query := Http.writeFields [("template".toList, template), ("text".toList, " bé ".toList),
      ("variable".toList, ['x']), ("encode".toList, "true".toList)]
    let r : Http.Request := ⟨"GET".toList, "/expand".toList, query⟩
    r.method = "GET".toList ∧ r.target.path = "/expand".toList ∧
      Http.ExpandQuery.parse r.target.query = .ok ⟨template, " bé ".toList, ['x'], true⟩ ∧
      ∃ url first, Http.Service.respond ⟨[]⟩ r = .json (.object [
          ("url".toList, .text url),
          ("first_occurrence".toList, Http.Service.occurrenceJson first)]) ∧
        first = some ⟨⟨2, 8⟩, [.slice (some 0) (some 1)]⟩ ∧
        url = "äb/b%C3%A9/\x7bx[?]\x7d/\x7bx\x7d".toList := by
  intro template query r
  have hparse : Http.ExpandQuery.parse r.target.query
      = .ok ⟨template, " bé ".toList, ['x'], true⟩ :=
    Http.ExpandQuery.parse_writeFields template " bé ".toList ['x'] true
  obtain ⟨-, -, hanswer⟩ := substitute_unrolls template ['x'] " bé ".toList true
  obtain ⟨url, first, hrespond, hfirst, hurl⟩ := hanswer ⟨[]⟩ r rfl rfl hparse
  have hlocate : locate? template ['x'] 0 = some ⟨⟨2, 8⟩, [.slice (some 0) (some 1)]⟩ := by
    decide +kernel
  rw [hlocate] at hfirst
  subst hfirst
  obtain ⟨front, rest, hfront, hrest, rfl⟩ := hurl
  have hfront' : template.takeBytes? 2 = some ['ä'] := by decide +kernel
  have hrest' : template.dropBytes? 8 = some "/\x7bx\x7d/\x7bx[?]\x7d/\x7bx\x7d".toList := by
    decide +kernel
  obtain rfl := Option.some.inj (hfront.symm.trans hfront')
  obtain rfl := Option.some.inj (hrest.symm.trans hrest')
  exact ⟨rfl, rfl, hparse, _, _, hrespond, rfl, by decide +kernel⟩

end SearchLink.Template
