import ShapeLint.Proofs.Descriptor.Frozen
import ShapeLint.Proofs.Registry.Extensions
import ShapeLint.Proofs.Walk.Visits

/-!
What an extension changes and what it leaves as it is. It changes the rulings on children of the
extended type under the new keys, and with them the walks of documents in which a node of that type
has such a key; all else is as before. Main statement: `extend_conservative`.
-/
namespace ShapeLint

/-- None of these texts is a key of the value. -/
def Value.Lacks (v : Value) (keys : List String) : Prop :=
  ∀ names ∈ v.keyNames?, ∀ name ∈ names, name.plain ∉ keys

namespace Ruling

/-- Rulings are the same when they are of one kind and equal as names or leaves. Why a child is not
looked into makes no difference. -/
def same : Ruling → Ruling → Bool
  | reference s, reference t => s == t
  | leaf a, leaf b => a.same b
  | unvalidated _, unvalidated _ => true
  | extension, extension => true
  | rejected, rejected => true
  | _, _ => false

/-- Two rules say the same about a child. -/
def Agree (x y : Except Fault Ruling) : Prop :=
  x = y ∨ ∃ a b, x = .ok a ∧ y = .ok b ∧ a.same b

/-- Rules that are the same say the same about every child, if what a function picks is told by
which function it is. -/
theorem agree_of_same {a b : Rule} (h : a.same b)
    (told : ∀ f g, a = .computed f → b = .computed g → f.id = g.id → f.pick = g.pick)
    (key v : Value) : Agree (ofRule a key v) (ofRule b key v) := by
  cases a with
  | anything =>
    cases b with
    | anything => exact .inl rfl
    | _ => cases h
  | fixed a =>
    cases b with
    | fixed b =>
      refine .inr ⟨ofFixed a, ofFixed b, rfl, rfl, ?_⟩
      cases a <;> cases b <;> first | exact h | rfl
    | _ => cases h
  | computed f =>
    cases b with
    | computed g => exact .inl (by simp only [ofRule, told f g rfl rfl (eq_of_beq h)])
    | _ => cases h

end Ruling

namespace Descriptor

variable {d : Descriptor} {entries : List (String × Rule)} {key v node : Value} {path : Path}

/-- A child whose ruling an extension can change. -/
def Concerns (d : Descriptor) (entries : List (String × Rule)) (key : Value) : Prop :=
  d.isSequence = false ∧ ∃ name ∈ entries.map Prod.fst, key = .text name

theorem lookup_extended_of_notMem {name : String} (h : name ∉ entries.map Prod.fst) :
    (d.extended entries).properties.lookup name = d.properties.lookup name := by
  rw [lookup_extended, List.lookup_append, lookup_eq_none.mpr h, Option.or_none]

theorem ruling_extended (h : ¬ d.Concerns entries key) :
    (d.extended entries).ruling key v = d.ruling key v := by
  unfold ruling
  have hitems : (d.extended entries).items = d.items := rfl
  rw [hitems]
  cases hd : d.items with
  | some rule => rfl
  | none =>
    dsimp only
    split
    · rename_i name
      rw [lookup_extended_of_notMem fun hmem => h ⟨by simp [isSequence, hd], name, hmem, rfl⟩]
      rfl
    · rfl

theorem resolveChild_extended (h : ¬ d.Concerns entries key) :
    (d.extended entries).resolveChild key v = d.resolveChild key v := by
  unfold resolveChild
  rw [ruling_extended h]
  rfl

theorem ruling_of_lookup {name : String} {rule : Rule} (hd : d.isSequence = false)
    (h : d.properties.lookup name = some rule) :
    d.ruling (.text name) v = Ruling.ofRule rule (.text name) v := by
  have hitems : d.items = none := by simpa [isSequence] using hd
  simp only [ruling, hitems, h]

theorem checkNode_extended : (d.extended entries).checkNode node path = d.checkNode node path := by
  have hrequired : (d.extended entries).checkRequired node path = d.checkRequired node path :=
    checkRequired_of_same (d.extended entries) d rfl (fun _ => rfl) node path
  rw [checkNode, hrequired]
  rfl

theorem references_owner {owner : String} :
    ∀ reference ∈ d.references owner, reference.owner = owner := by
  unfold references
  cases d.additional <;> cases d.items <;> grind

end Descriptor

namespace Walk

variable {d : Descriptor} {entries : List (String × Rule)} {node : Value} {path : Path}

theorem childActions_extended {step : Step} {v : Value} (h : ¬ d.Concerns entries (stepKey step)) :
    childActions (d.extended entries) path step v = childActions d path step v := by
  have hruling : rulingAt (d.extended entries) step v = rulingAt d step v := by
    simp only [rulingAt, Descriptor.ruling_extended h]
  unfold childActions
  rw [hruling]
  rfl

/-- No child of a node without the new keys is concerned. -/
theorem not_concerns_of_lacks (h : node.Lacks (entries.map Prod.fst))
    {members : List (Step × Value)} (hmembers : members? d node = some members) :
    ∀ member ∈ members, ¬ d.Concerns entries (stepKey member.1) := by
  rintro ⟨step, v⟩ hmember ⟨hd, name, hname, hkey⟩
  cases node with
  | mapping identity names =>
    obtain rfl : Leaf.keyed names = members := by simpa [members?, hd] using hmembers
    obtain ⟨⟨key, x⟩, hentry, heq⟩ := List.mem_map.mp hmember
    obtain ⟨rfl, -⟩ := Prod.mk.inj heq
    have hstep : key.step = .key name := by
      cases hstep : key.step <;> simp_all [stepKey]
    obtain ⟨-, rfl⟩ := Scalar.step_eq_key_iff.mp hstep
    exact h _ rfl key (List.mem_map_of_mem hentry) hname
  | list identity xs => simp [members?, hd] at hmembers
  | _ => cases hmembers

theorem shapeActions_extended (h : node.Lacks (entries.map Prod.fst)) :
    shapeActions (d.extended entries) node path = shapeActions d node path := by
  have hsame : members? (d.extended entries) node = members? d node := rfl
  unfold shapeActions
  rw [hsame, Descriptor.checkNode_extended]
  cases hmembers : members? d node with
  | none => rfl
  | some members =>
    have hconcerns := not_concerns_of_lacks h hmembers
    exact congrArg (checkActions (d.checkNode node path) ++ ·) <|
      List.flatMap_congr fun member hmember => childActions_extended (hconcerns member hmember)

theorem nodeActions_appendTo {r : Registry} {name type : String} (hd : r.lookup name = .ok d)
    (h : type = name → node.Lacks (entries.map Prod.fst)) :
    nodeActions (r.appendTo name (d.added entries)) node type path =
      nodeActions r node type path := by
  unfold nodeActions
  cases pointerOf? node with
  | some pointer => rfl
  | none =>
    rw [Registry.appendTo, Registry.lookup_modify]
    by_cases htype : type = name
    · subst htype
      rw [if_pos rfl, hd]
      exact shapeActions_extended (h rfl)
    · rw [if_neg htype]

end Walk

namespace Registry

/-- A registry before and after an extension of one type by some entries. -/
structure ExtendsBy (r r' : Registry) (name : String) (entries : List (String × Rule)) : Prop where
  /-- Rulings on other children. -/
  resolveChild (type : String) (key v : Value)
    (h : ∀ d, r.lookup type = .ok d → type = name → ¬ d.Concerns entries key) :
    (r'.lookup type).map (fun d => d.resolveChild key v) =
      (r.lookup type).map fun d => d.resolveChild key v
  /-- Rulings on children under the keys of the entries, whatever they were before. A rule that was
  there already is the same as the new one, and says the same. -/
  resolveChild_entry (key : String) (rule : Rule) (v : Value) (h : (key, rule) ∈ entries)
    (d : Descriptor) (hd : r.lookup name = .ok d) (hsequence : d.isSequence = false) :
    ∃ standing : Rule,
      (standing = rule ∨ key ∈ d.properties.map Prod.fst ∧ standing.same rule) ∧
      (r'.lookup name).map (fun d => (d.resolveChild (.text key) v).outcome) =
        .ok ((Ruling.ofRule standing (.text key) v).map fun ruling => ⟨.key key, ruling⟩) ∧
      ((∀ f g, standing = .computed f → rule = .computed g → f.id = g.id → f.pick = g.pick) →
        Ruling.Agree (Ruling.ofRule standing (.text key) v) (Ruling.ofRule rule (.text key) v))
  requiredKeys (type : String) (node : Value) :
    (r'.lookup type).map (fun d => d.requiredKeys node) =
      (r.lookup type).map fun d => d.requiredKeys node
  checkNode (type : String) (node : Value) (path : Path) :
    (r'.lookup type).map (fun d => d.checkNode node path) =
      (r.lookup type).map fun d => d.checkNode node path
  references : r'.references.filter (fun reference => reference.owner != name) =
    r.references.filter fun reference => reference.owner != name
  /-- Walks in which no node that is visited as the type has one of the keys, be it before or
  after the extension. -/
  visit (answers : Option PointerAnswers) (depth : Nat) (node : Value) (type : String) (path : Path)
    (t : Traversal)
    (h : (∀ e ∈ Walk.nodesEntered { registry := r, answers } depth node type path t,
        e.2 = name → e.1.Lacks (entries.map Prod.fst)) ∨
      ∀ e ∈ Walk.nodesEntered { registry := r', answers } depth node type path t,
        e.2 = name → e.1.Lacks (entries.map Prod.fst)) :
    (Walk.visit { registry := r', answers } depth node type path).run t =
      (Walk.visit { registry := r, answers } depth node type path).run t

variable {r : Registry} {name : String} {d : Descriptor} {entries : List (String × Rule)}

theorem lookup_appendTo_added (hd : r.lookup name = .ok d) (type : String) :
    (r.appendTo name (d.added entries)).lookup type =
      if type = name then .ok (d.extended entries) else r.lookup type := by
  rw [appendTo, lookup_modify]
  by_cases h : type = name
  · rw [if_pos h, if_pos h, h, hd]
    rfl
  · rw [if_neg h, if_neg h]

/-- An answer that does not depend on the properties of the type. -/
theorem map_lookup_appendTo {α : Type} {answer : Descriptor → α} (hd : r.lookup name = .ok d)
    {type : String} (h : type = name → answer (d.extended entries) = answer d) :
    ((r.appendTo name (d.added entries)).lookup type).map answer = (r.lookup type).map answer := by
  rw [lookup_appendTo_added hd]
  by_cases htype : type = name
  · rw [if_pos htype, htype, hd]
    exact congrArg Except.ok (h htype)
  · rw [if_neg htype]

theorem references_appendTo (properties : List (String × Rule)) :
    (r.appendTo name properties).references.filter (fun reference => reference.owner != name) =
      r.references.filter fun reference => reference.owner != name := by
  have hnone (d : Descriptor) :
      (d.references name).filter (fun reference => reference.owner != name) = [] := by
    rw [List.filter_eq_nil_iff]
    intro reference h
    simp [d.references_owner reference h]
  simp only [references, appendTo, modify, List.flatMap_map, List.filter_flatMap]
  refine List.flatMap_congr fun definition _ => ?_
  by_cases h : definition.name = name
  · simp [h, hnone]
  · simp [h]

/-- Entries without a conflict with the type. -/
theorem extendsBy_appendTo (hd : r.lookup name = .ok d) (hkeys : (entries.map Prod.fst).Nodup)
    (hclashes : ∀ entry ∈ entries, d.clashes entry = false) :
    r.ExtendsBy (r.appendTo name (d.added entries)) name entries where
  resolveChild type key v h :=
    map_lookup_appendTo hd fun htype => Descriptor.resolveChild_extended (h d (htype ▸ hd) htype)
  resolveChild_entry key rule v h d' hd' hsequence := by
    obtain rfl : d = d' := Except.ok.inj (hd.symm.trans hd')
    have hsequence' : (d.extended entries).isSequence = false := hsequence
    rw [lookup_appendTo_added hd, if_pos rfl, Except.map, Descriptor.outcome_resolveChild_text]
    rcases Descriptor.exists_lookup_extended hkeys hclashes h with
      ⟨current, hcurrent, hsame, hstanding⟩ | ⟨-, hstanding⟩
    · have hmem := List.mem_map_of_mem (f := Prod.fst) (mem_of_lookup_eq_some hcurrent)
      exact ⟨current, .inr ⟨hmem, hsame⟩,
        by rw [Descriptor.ruling_of_lookup hsequence' hstanding],
        fun told => Ruling.agree_of_same hsame told _ _⟩
    · exact ⟨rule, .inl rfl, by rw [Descriptor.ruling_of_lookup hsequence' hstanding],
        fun _ => .inl rfl⟩
  requiredKeys _ _ := map_lookup_appendTo hd fun _ => rfl
  checkNode _ _ _ := map_lookup_appendTo hd fun _ => Descriptor.checkNode_extended
  references := references_appendTo _
  visit answers depth node type path t h := by
    rcases h with h | h
    · exact Walk.run_visit_congr fun e he path => Walk.nodeActions_appendTo hd (h e he)
    · exact (Walk.run_visit_congr fun e he path =>
        (Walk.nodeActions_appendTo hd (h e he)).symm).symm

end Registry

namespace Assembly

/-- An extension that succeeds decides the rulings on children of the type under its keys, and
leaves everything else as it was. -/
theorem extend_conservative {w w' : Workbench} {name : String} {d' : Descriptor}
    {properties : List (String × Rule)} (h : (extend name properties).run w = .ok d' w') :
    w.registry.ExtendsBy w'.registry name (entriesOf properties) := by
  obtain ⟨d, hd, hclashes, -, hregistry⟩ := extend_eq_ok h
  rw [hregistry]
  exact Registry.extendsBy_appendTo hd (nodup_keys_entriesOf properties) hclashes

/-- A type that admits other keys in two ways. -/
def catalogueRoot : Descriptor where
  name := "Root"
  table := .growing [("info", .reference "Info")]
  additional := some (.leaf { type := some "string" })
  extensions := some "x-"

def catalogue : Workbench where
  registry :=
    { dialect := "test"
      definitions := [⟨"Root", catalogueRoot, "Root"⟩, ⟨"Info", { name := "Info" }, "Info"⟩] }

/-- A key of the type, an extension key and a key that was any other. -/
def catalogueKeys : List (String × Rule) :=
  [("info", .reference "Info"), ("x-kind", .reference "Info"), ("size", .anything)]

theorem ruling_catalogueRoot (v : Value) :
    catalogueRoot.ruling (.text "x-kind") v = .ok .extension := by
  have hextension : catalogueRoot.isExtension "x-kind" = true := by decide +kernel
  exact if_pos hextension

theorem extend_conservative_catalogue : ∃ d' w',
    (extend "Root" catalogueKeys).run catalogue = .ok d' w' ∧
    catalogue.registry.ExtendsBy w'.registry "Root" (entriesOf catalogueKeys) ∧
    ∀ v, catalogueRoot.ruling (.text "x-kind") v = .ok .extension ∧
      d'.ruling (.text "x-kind") v = .ok (.reference "Info") :=
  ⟨_, _, rfl, extend_conservative (show (extend "Root" catalogueKeys).run catalogue = _ from rfl),
    fun v => ⟨ruling_catalogueRoot v, rfl⟩⟩

end Assembly

end ShapeLint
