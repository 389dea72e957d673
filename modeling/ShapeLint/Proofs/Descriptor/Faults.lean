import ShapeLint.Descriptor.Child
import ShapeLint.Proofs.Descriptor.KeyFindings
import ShapeLint.Proofs.Leaf.Places

/-! Which faults can end the checks of a node and of its children. Only a pattern that cannot be
read or a number that cannot be written makes the check of a leaf fail, and a function that names an
undefined type is degraded. -/
namespace ShapeLint

/-- The fault of looking up a name that no type has. -/
def Fault.isUndefinedType : Fault → Bool
  | undefinedType .. => true
  | _ => false

theorem Fault.isUndefinedType_of_not_degrades {fault : Fault} (h : fault.degrades = false) :
    fault.isUndefinedType = false := by
  cases fault <;> simp_all [degrades, isUndefinedType]

/-- Whether the values that messages about the facets name can be written. -/
def Facets.isWritable (facets : Facets) : Bool :=
  (facets.choices.getD []).all Value.isWritable
    && (facets.minItems.toList ++ facets.maxItems.toList).all fun n => (Value.int n).isWritable

namespace Leaf

variable {path : Path} {typeName : String} {fault : Fault}

/-- The patterns of a leaf and of the leaves inside it. -/
def patterns : Leaf → List TextPattern
  | ⟨facets, items, entries⟩ =>
    facets.pattern.toList
      ++ (match items with
        | some leaf => patterns leaf
        | none => [])
      ++ (match entries with
        | some leaf => patterns leaf
        | none => [])

/-- Whether the values that messages of a leaf and of the leaves inside it name can be written. -/
def isWritable : Leaf → Bool
  | ⟨facets, items, entries⟩ =>
    facets.isWritable
      && (match items with
        | some leaf => isWritable leaf
        | none => true)
      && (match entries with
        | some leaf => isWritable leaf
        | none => true)

theorem mem_patterns {leaf : Leaf} {pattern : TextPattern} :
    pattern ∈ leaf.patterns ↔ leaf.pattern = some pattern ∨
      (∃ l ∈ leaf.items, pattern ∈ l.patterns) ∨ ∃ l ∈ leaf.entries, pattern ∈ l.patterns := by
  obtain ⟨facets, items, entries⟩ := leaf
  cases items <;> cases entries <;> simp [patterns]

theorem isWritable_iff {leaf : Leaf} : leaf.isWritable ↔
    leaf.toFacets.isWritable ∧ (∀ l ∈ leaf.items, l.isWritable) ∧
      ∀ l ∈ leaf.entries, l.isWritable := by
  obtain ⟨facets, items, entries⟩ := leaf
  cases items <;> cases entries <;> simp [isWritable, and_assoc]

theorem patterns_of_inner {leaf l : Leaf} {v : Value} {members : List (Step × Value)}
    (h : leaf.inner? v = some (l, members)) {pattern : TextPattern}
    (hpattern : pattern ∈ l.patterns) :
    pattern ∈ leaf.patterns :=
  mem_patterns.mpr <| .inr <| (inner?_mem h).imp (fun h => ⟨l, h, hpattern⟩)
    fun h => ⟨l, h, hpattern⟩

theorem isWritable_of_inner {leaf l : Leaf} {v : Value} {members : List (Step × Value)}
    (h : leaf.inner? v = some (l, members)) (writable : leaf.isWritable) : l.isWritable :=
  (inner?_mem h).elim ((isWritable_iff.mp writable).2.1 l) ((isWritable_iff.mp writable).2.2 l)

/-- Why the check of a leaf can fail. -/
inductive CheckFault (leaf : Leaf) (v : Value) : Fault → Prop where
  | unreadable {pattern : TextPattern} (member : pattern ∈ leaf.patterns)
      (unreadable : pattern.search? = none) : CheckFault leaf v (.invalidPattern pattern.written)
  | unwritable (long : ¬ (leaf.isWritable ∧ v.isWritable)) : CheckFault leaf v .unwritable

theorem CheckFault.of_inner {leaf l : Leaf} {v : Value} {members : List (Step × Value)}
    (h : leaf.inner? v = some (l, members)) {m : Step × Value} (hm : m ∈ members)
    (hfault : l.CheckFault m.2 fault) : leaf.CheckFault v fault := by
  cases hfault with
  | unreadable member unreadable => exact .unreadable (patterns_of_inner h member) unreadable
  | unwritable long =>
    obtain rfl := inner?_members h
    exact .unwritable (mt (And.imp (isWritable_of_inner h) fun writable =>
      (Value.isWritable_of_member writable hm).2) long)

theorem checkPattern_error {facets : Facets} {v : Value}
    (h : checkPattern facets v path typeName = .error fault) :
    ∃ pattern ∈ facets.pattern, pattern.search? = none ∧
      fault = .invalidPattern pattern.written := by
  unfold checkPattern at h
  split at h
  · rename_i pattern s hpattern
    split at h
    · rename_i hsearch
      exact ⟨pattern, hpattern, hsearch, (Except.error.inj h).symm⟩
    · split at h <;> contradiction
  · contradiction

theorem mem_of_exceeded {facets : Facets} {count : Nat} {bound : String × Int}
    (h : bound ∈ exceeded facets count) :
    bound.2 ∈ facets.minItems ∨ bound.2 ∈ facets.maxItems := by
  simp only [exceeded, List.mem_append, List.mem_map, Option.mem_toList,
    Option.filter_eq_some_iff] at h
  rcases h with ⟨n, ⟨hn, -⟩, rfl⟩ | ⟨n, ⟨hn, -⟩, rfl⟩
  · exact .inl hn
  · exact .inr hn

theorem checkCardinality_error {facets : Facets} {v : Value}
    (h : checkCardinality facets v path typeName = .error fault) :
    ∃ count, (¬ ∀ bound ∈ exceeded facets count, (Value.int bound.2).isWritable) ∧
      fault = .unwritable := by
  unfold checkCardinality at h
  split at h
  · obtain ⟨long, rfl⟩ := writing_eq_error.mp h
    exact ⟨_, by simpa using long, rfl⟩
  · obtain ⟨long, rfl⟩ := writing_eq_error.mp h
    exact ⟨_, by simpa using long, rfl⟩
  · contradiction

theorem checkFacets_error {leaf : Leaf} {v : Value}
    (h : checkFacets leaf.toFacets v path typeName = .error fault) : leaf.CheckFault v fault := by
  have hwritable (writable : leaf.isWritable) :
      (∀ choices ∈ leaf.choices, ∀ c ∈ choices, c.isWritable) ∧
        ∀ n, n ∈ leaf.minItems ∨ n ∈ leaf.maxItems → (Value.int n).isWritable := by
    have := (isWritable_iff.mp writable).1
    simp only [Facets.isWritable, Bool.and_eq_true, List.all_eq_true, List.mem_append,
      Option.mem_toList] at this
    refine ⟨fun choices hchoices => ?_, this.2⟩
    rw [Option.mem_def.mp hchoices] at this
    exact this.1
  rcases bind_eq_error.mp h with h | ⟨choices, -, h⟩
  · obtain ⟨⟨choices, hchoices, -, long⟩, rfl⟩ := checkChoices_eq_error.mp h
    refine .unwritable fun ⟨hleaf, hv⟩ => long ?_
    exact List.forall_mem_cons.mpr ⟨hv, (hwritable hleaf).1 choices hchoices⟩
  · rcases bind_eq_error.mp h with h | ⟨found, -, h⟩
    · obtain ⟨pattern, hpattern, hsearch, rfl⟩ := checkPattern_error h
      exact .unreadable (mem_patterns.mpr (.inl hpattern)) hsearch
    · rcases bind_eq_error.mp h with h | ⟨counted, -, h⟩
      · obtain ⟨count, long, rfl⟩ := checkCardinality_error h
        refine .unwritable fun ⟨hleaf, hv⟩ => long fun bound hbound => ?_
        exact (hwritable hleaf).2 bound.2 (mem_of_exceeded hbound)
      · contradiction

theorem take_error {step : Step} (h : step.take = .error fault) : fault = .unwritable := by
  cases step <;> first | contradiction | exact (Except.error.inj h).symm

theorem checkMembers_error {check : Value → Path → Except Fault (List Violation)}
    {members : List (Step × Value)} (h : checkMembers check members path = .error fault) :
    ∃ m ∈ members, m.1.take = .error fault ∨ ∃ path, check m.2 path = .error fault := by
  induction members with
  | nil => contradiction
  | cons member members ih =>
    obtain ⟨step, x⟩ := member
    rw [checkMembers_cons] at h
    rcases bind_eq_error.mp h with h | ⟨_, -, h⟩
    · exact ⟨(step, x), List.mem_cons_self, .inl h⟩
    · rcases bind_eq_error.mp h with h | ⟨found, -, h⟩
      · exact ⟨(step, x), List.mem_cons_self, .inr ⟨_, h⟩⟩
      · rcases bind_eq_error.mp h with h | ⟨rest, -, h⟩
        · obtain ⟨m, hm, hfault⟩ := ih h
          exact ⟨m, List.mem_cons_of_mem _ hm, hfault⟩
        · contradiction

/-- The check of a leaf fails only on a pattern that cannot be read or on a number that cannot be
written. -/
theorem check_error {leaf : Leaf} {v : Value} (h : leaf.check v path typeName = .error fault) :
    leaf.CheckFault v fault := by
  induction leaf using nested_induction generalizing v path with
  | leaf facets items entries hitems hentries =>
    rw [check_eq] at h
    split at h
    · contradiction
    · split at h
      · contradiction
      · split at h
        · contradiction
        · rcases bind_eq_error.mp h with h | ⟨own, -, h⟩
          · exact checkFacets_error h
          · rcases bind_eq_error.mp h with h | ⟨inner, -, h⟩
            · unfold checkInner at h
              split at h
              · rename_i l members hl
                obtain ⟨m, hm, htake | ⟨path, h⟩⟩ := checkMembers_error h
                · obtain rfl := take_error htake
                  refine .unwritable fun ⟨_, hv⟩ => ?_
                  obtain rfl := inner?_members hl
                  simp [(Value.isWritable_of_member hv hm).1] at htake
                · exact .of_inner hl hm
                    ((inner?_mem hl).elim (fun hl => hitems l hl h) fun hl => hentries l hl h)
              · contradiction
            · contradiction

/-- Whether a leaf checks no pattern and names in its messages only what can be written. -/
def isPlain (leaf : Leaf) : Bool := leaf.patterns.isEmpty && leaf.isWritable

/-- The check of such a leaf fails only on a number of the document that cannot be written. -/
theorem check_error_of_isPlain {leaf : Leaf} {v : Value} (plain : leaf.isPlain)
    (h : leaf.check v path typeName = .error fault) : fault = .unwritable ∧ ¬ v.isWritable := by
  obtain ⟨hpatterns, writable⟩ := Bool.and_eq_true_iff.mp plain
  cases check_error h with
  | unreadable member _ => simp [List.isEmpty_iff.mp hpatterns] at member
  | unwritable long => exact ⟨rfl, fun hv => long ⟨writable, hv⟩⟩

end Leaf

namespace Descriptor

variable {d : Descriptor} {path : Path} {fault : Fault}

theorem keys_error {v : Value} (h : v.keys = .error fault) : ∃ kind, fault = .notIterable kind := by
  unfold Value.keys at h
  split at h
  · contradiction
  · split at h <;> first | contradiction | exact ⟨_, (Except.error.inj h).symm⟩

theorem requiredKeys_error {node : Value} (h : (d.requiredKeys node).outcome = .error fault) :
    fault.isUndefinedType = false := by
  unfold requiredKeys at h
  split at h
  · obtain ⟨kind, rfl⟩ := keys_error h
    rfl
  · split at h
    · obtain ⟨kind, rfl⟩ := keys_error h
      rfl
    · rename_i fault' hkeys
      split at h
      · contradiction
      · obtain rfl : fault' = fault := Except.error.inj h
        exact Fault.isUndefinedType_of_not_degrades (by simp_all)

theorem missing_error {key : Value} (h : d.missing path key = .error fault) :
    fault = .unwritable ∨ fault = .invalidField "key" := by
  unfold missing at h
  split at h
  · contradiction
  · contradiction
  · rcases bind_eq_error.mp h with h | ⟨_, -, h⟩
    · exact .inl (writing_eq_error.mp h).2
    · exact .inr (Except.error.inj h).symm

theorem isKeyOf_error {entries : List (Scalar × Value)} {key : Value}
    (h : key.isKeyOf entries = .error fault) : ∃ kind, fault = .unhashable kind := by
  unfold Value.isKeyOf at h
  split at h <;> first | contradiction | exact ⟨_, (Except.error.inj h).symm⟩

theorem missingKeys_error {entries : List (Scalar × Value)} {keys : List Value}
    (h : d.missingKeys entries path keys = .error fault) :
    (∃ kind, fault = .unhashable kind) ∨ fault = .unwritable ∨ fault = .invalidField "key" := by
  induction keys with
  | nil => contradiction
  | cons key keys ih =>
    rcases bind_eq_error.mp h with h | ⟨present, -, h⟩
    · exact .inl (isKeyOf_error h)
    · split at h
      · exact ih h
      · rcases bind_eq_error.mp h with h | ⟨violation, -, h⟩
        · exact .inr (missing_error h)
        · rcases bind_eq_error.mp h with h | ⟨found, -, h⟩
          · exact ih h
          · contradiction

theorem checkRequired_error {node : Value}
    (h : (d.checkRequired node path).outcome = .error fault) : fault.isUndefinedType = false := by
  unfold checkRequired at h
  split at h
  · rw [Journaled.outcome_bind] at h
    rcases bind_eq_error.mp h with h | ⟨keys, -, h⟩
    · exact requiredKeys_error h
    · rcases missingKeys_error h with ⟨kind, rfl⟩ | rfl | rfl <;> rfl
  · contradiction

theorem checkAllowed_error {node : Value} (h : (d.checkAllowed node path).outcome = .error fault) :
    fault = .unwritable ∨ fault.degrades = false := by
  unfold checkAllowed at h
  split at h
  · split at h
    · exact .inl (writing_eq_error.mp h).2
    · split at h
      · contradiction
      · obtain rfl := Except.error.inj h
        exact .inr (by simp_all)
  · contradiction

/-- The checks of a node's keys look up no type. -/
theorem checkNode_error {node : Value} (h : (d.checkNode node path).outcome = .error fault) :
    fault.isUndefinedType = false := by
  rcases checkNode_eq_error.mp h with h | ⟨-, h⟩
  · exact checkRequired_error h
  · rcases checkAllowed_error h with rfl | h
    · rfl
    · exact Fault.isUndefinedType_of_not_degrades h

end Descriptor

end ShapeLint
