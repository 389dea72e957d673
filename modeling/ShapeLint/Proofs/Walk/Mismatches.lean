import ShapeLint.Proofs.Leaf.Repetition
import ShapeLint.Proofs.Walk.Consistency

/-!
Violations of type in a walk: where they come from, and when one of them names the same type twice.
Leaves and walks agree on what is an array or an object but for tuples, which a walk takes for
neither. Main statement: `mismatch_namesTwice_iff`.
-/
namespace ShapeLint

/-- A fixed sequence. -/
def Value.IsTuple (v : Value) : Prop := ∃ xs, v = .tuple xs

/-- A value is of the type that it is said to have. -/
theorem matchesType_typeName (v : Value) : matchesType v.typeName v := by
  cases v with
  | scalar s => cases s <;> rfl
  | _ => rfl

/-- The types that values are said to have. -/
def typeNames : List String :=
  ["null", "boolean", "integer", "number", "string", "date", "array", "object"]

theorem typeName_mem (v : Value) : v.typeName ∈ typeNames := by
  cases v with
  | scalar s => cases s <;> simp [Value.typeName, Scalar.typeName, typeNames]
  | _ => simp [Value.typeName, typeNames]

/-- A violation tells of a value at a node or inside it that its type is not the expected one. -/
structure Mismatch (node : Value) (inner : Path) (expected : String) (w : Value) (x : Violation) :
    Prop where
  leads : node.Leads inner w
  reported : ∃ place, x = typeMismatch expected w x.typeName (place ++ inner)

namespace Leaf

variable {v : Value} {path : Path} {typeName : String} {x : Violation}

theorem code_ne_of_checkFacets {facets : Facets} {found : List Violation}
    (h : checkFacets facets v path typeName = .ok found) : ∀ x ∈ found, x.code ≠ .typeMismatch := by
  obtain ⟨_, _, _, hchoices, hpattern, hcardinality, rfl⟩ := checkFacets_eq_ok.mp h
  simp only [List.forall_mem_append]
  exact ⟨⟨⟨(own_checkChoices hchoices).code_ne (by decide),
    (own_checkBounds facets v path typeName).code_ne (by decide)⟩,
    (own_checkPattern hpattern).code_ne (by decide)⟩,
    (own_checkCardinality hcardinality).code_ne (by decide)⟩

/-- Where a leaf finds a value of the wrong type, the value does not match what is expected. -/
theorem mismatch_of_check {leaf : Leaf} {found : List Violation}
    (h : leaf.check v path typeName = .ok found) (hx : x ∈ found) (code : x.code = .typeMismatch) :
    ∃ inner w expected, v.Leads inner w ∧ x = typeMismatch expected w typeName (path ++ inner) ∧
      matchesType expected w = false := by
  induction leaf using nested_induction generalizing v path found with
  | leaf facets items entries hitems hentries =>
    cases verdict_of_check h with
    | verbatim => contradiction
    | @misfit expected _ misfit =>
      obtain rfl := List.mem_singleton.mp hx
      exact ⟨[], v, expected, .here v, by rw [List.append_nil], misfit⟩
    | sample => contradiction
    | looked _ hown hinside =>
      rcases List.mem_append.mp hx with hx | hx
      · exact absurd code (code_ne_of_checkFacets hown x hx)
      · obtain ⟨l, step, u, found, hl, hu, hfound, hx⟩ := exists_member_of_checkInner hinside hx
        obtain ⟨inner, w, expected, leads, rfl, hmismatch⟩ :=
          hl.elim (fun h => hitems l h hfound hx) fun h => hentries l h hfound hx
        exact ⟨step :: inner, w, expected, .step hu leads, by simp, hmismatch⟩

end Leaf

namespace Walk

/-- A visit looks into a value just when the value is of the type that the descriptor expects, and
no tuple. -/
theorem members?_isSome_iff {d : Descriptor} {v : Value} :
    (members? d v).isSome ↔ matchesType (expectedType d) v ∧ ¬ v.IsTuple := by
  cases hsequence : d.isSequence <;> cases v <;>
    simp [members?, expectedType, hsequence, matchesType, Value.IsTuple]

/-- A value visited as a type that expects a sequence, though it is none but a tuple. -/
def TupleAsSequence (r : Registry) (v : Value) (type : String) : Prop :=
  v.IsTuple ∧ ∃ d, r.lookup type = .ok d ∧ d.isSequence

variable {r : Registry} {node : Value} {type : String} {path : Path} {found : List Violation}
  {x : Violation}

/-- What is not looked into matches what is expected, and is of that very type, just when it is a
tuple for a sequence. -/
theorem matches_iff_of_misfit {d : Descriptor} (defined : r.lookup type = .ok d)
    (misfit : members? d node = none) :
    (expectedType d = node.typeName ↔ TupleAsSequence r node type) ∧
      (matchesType (expectedType d) node ↔ TupleAsSequence r node type) := by
  have hmembers : ¬ (members? d node).isSome := by simp [misfit]
  rw [members?_isSome_iff] at hmembers
  have ofTuple (h : TupleAsSequence r node type) : expectedType d = node.typeName := by
    obtain ⟨⟨xs, rfl⟩, d', defined', hsequence⟩ := h
    obtain rfl := Except.ok.inj (defined.symm.trans defined')
    simp [expectedType, hsequence, Value.typeName]
  have ofMatch (h : matchesType (expectedType d) node) : TupleAsSequence r node type := by
    obtain ⟨xs, rfl⟩ : node.IsTuple := by tauto
    refine ⟨⟨xs, rfl⟩, d, defined, ?_⟩
    by_contra hsequence
    simp [expectedType, hsequence, matchesType] at h
  refine ⟨⟨fun h => ofMatch ?_, ofTuple⟩, ⟨ofMatch, fun h => ?_⟩⟩
  · exact h ▸ matchesType_typeName node
  · exact ofTuple h ▸ matchesType_typeName node

theorem mismatch_of_cause (cause : Cause r node type path found) (hx : x ∈ found)
    (code : x.code = .typeMismatch) : ∃ inner w expected, Mismatch node inner expected w x ∧
      (expected = w.typeName ↔ inner = [] ∧ TupleAsSequence r w type) ∧
      (matchesType expected w ↔ inner = [] ∧ TupleAsSequence r w type) := by
  cases cause with
  | @shape d own defined misfit =>
    obtain rfl := List.mem_singleton.mp hx
    refine ⟨[], node, expectedType d, ⟨.here node, path, by simp [typeMismatch]⟩, ?_⟩
    simpa using matches_iff_of_misfit defined misfit
  | keys own defined checked =>
    obtain ⟨identity, entries, rfl, finding⟩ := Descriptor.keyFinding_of_checkNode checked hx
    cases finding with
    | missing missing => cases code.symm.trans missing
    | missingOneOf missing => cases code.symm.trans missing
    | disallowed _ _ eq =>
      subst eq
      contradiction
  | rejected child ruled =>
    obtain rfl := List.mem_singleton.mp hx
    contradiction
  | leaf child ruled checked =>
    obtain ⟨inner, w, expected, leads, rfl, hmismatch⟩ := Leaf.mismatch_of_check checked hx code
    have hother : expected ≠ w.typeName := by
      rintro rfl
      simp [matchesType_typeName] at hmismatch
    refine ⟨_ :: inner, w, expected, ⟨.step child.member leads, path, by simp [typeMismatch]⟩, ?_⟩
    simp [hmismatch, hother]

/-- A walk looks into what leaves take for an array or an object, tuples apart. Each violation of
type that it reports tells of a value at or inside a node that it has entered. It names one type
twice, for a value that matches what is expected, just when a tuple is visited as a sequence. -/
theorem mismatch_namesTwice_iff (s : Surroundings) (depth : Nat) (node : Value) (type : String)
    (path : Path) (t : Traversal) :
    (∀ d v, (members? d v).isSome ↔ matchesType (expectedType d) v ∧ ¬ v.IsTuple) ∧
    ∀ x ∈ (left (visit s depth node type path) t).violations, x.code = .typeMismatch →
      x ∈ t.violations ∨ ∃ e ∈ nodesEntered s depth node type path t, ∃ inner w expected,
        Mismatch e.1 inner expected w x ∧
        (expected = w.typeName ↔ inner = [] ∧ TupleAsSequence s.registry w e.2) ∧
        (matchesType expected w ↔ inner = [] ∧ TupleAsSequence s.registry w e.2) := by
  refine ⟨fun _ _ => members?_isSome_iff, fun x hx code => ?_⟩
  rcases exists_report_of_mem hx (by simp [code]) with hold | ⟨e, he, place, found, hfound, hx⟩
  · exact .inl hold
  · cases does_of_mem hfound with
    | report cause => exact .inr ⟨e, he, mismatch_of_cause cause hx code⟩

/-- A registry whose root is a list of items. -/
def itemLists : Registry where
  dialect := "custom"
  definitions := [⟨"Root", { Descriptor.listOf "Item" with name := "Root" }, "Root"⟩]

theorem mismatch_namesTwice_iff_itemLists :
    ∃ x ∈ (left (visit { registry := itemLists } 1 (.tuple []) "Root" []) {}).violations,
      ∃ e ∈ nodesEntered { registry := itemLists } 1 (.tuple []) "Root" [] {},
        ∃ inner w expected, Mismatch e.1 inner expected w x ∧
          (expected = w.typeName ↔ inner = [] ∧ TupleAsSequence itemLists w e.2) := by
  have hx : typeMismatch "array" (.tuple []) "Root" [] ∈
      (left (visit { registry := itemLists } 1 (.tuple []) "Root" []) {}).violations :=
    List.mem_singleton.mpr rfl
  obtain ⟨e, he, inner, w, expected, mismatch, hnames, -⟩ :=
    ((mismatch_namesTwice_iff _ _ _ _ _ _).2 _ hx rfl).resolve_left (by simp)
  exact ⟨_, hx, e, he, inner, w, expected, mismatch, hnames⟩

/-- Each violation of type in a walk names two types, the one expected and that of a value. -/
def TellsTypesApart (s : Surroundings) (depth : Nat) (node : Value) (type : String) : Prop :=
  ∀ x ∈ (left (visit s depth node type []) {}).violations, x.code = .typeMismatch →
    ∃ expected w, expected ≠ w.typeName ∧ x = typeMismatch expected w x.typeName x.path

/-- A message that tells an array from an array has no other reading. -/
theorem eq_array_of_message {expected : String} {w : Value}
    (h : (typeMismatch "array" (.tuple []) "Root" []).message =
      (typeMismatch expected w "Root" []).message) : expected = "array" ∧ w.typeName = "array" := by
  let told : List Char :=
    ("Expected type `" ++ "array").toList ++ ("` but got `" ++ "array" ++ "`.").toList
  have hchars : told =
      ("Expected type `" ++ expected).toList ++ ("` but got `" ++ w.typeName ++ "`.").toList := by
    simpa [typeMismatch, Value.typeName, told] using congrArg String.toList h
  -- Of the names of types only one stands at the end of the message.
  have hname : w.typeName = "array" := by
    have hends : ("` but got `" ++ w.typeName ++ "`.").toList <:+ told :=
      hchars ▸ List.suffix_append _ _
    have hnames : ∀ name ∈ typeNames, ("` but got `" ++ name ++ "`.").toList <:+ told →
        name = "array" := by decide
    exact hnames _ (typeName_mem w) hends
  refine ⟨?_, hname⟩
  rw [hname, List.append_cancel_right_eq, String.toList_inj, String.append_right_inj] at hchars
  exact hchars.symm

/-- An array was expected but an array was got. -/
theorem not_tellsTypesApart_tuple :
    ¬ TellsTypesApart { registry := itemLists } 1 (.tuple []) "Root" := by
  intro h
  obtain ⟨expected, w, hne, hx⟩ := h (typeMismatch "array" (.tuple []) "Root" [])
    (List.mem_singleton.mpr rfl) rfl
  obtain ⟨rfl, hname⟩ := eq_array_of_message (congrArg Violation.message hx)
  exact hne hname.symm

end Walk

end ShapeLint
