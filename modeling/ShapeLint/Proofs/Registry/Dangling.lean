import ShapeLint.Proofs.Leaf.Recursion
import ShapeLint.Proofs.Registry.Assembly

/-!
What dangles in a registry, site by site. A definition, a rule of its descriptor and a way into the
leaf of the rule lead to a site where a type may be named; and the self-check lists just the sites
whose types are not defined, each of them once and in order. Main statement:
`validate_lists_dangling`.
-/
namespace ShapeLint

/-- A turn from a leaf to one inside it. -/
inductive Leaf.Turn where
  | items
  | entries

/-- Where a rule stands in a descriptor. -/
inductive Descriptor.Slot where
  | property (position : Nat)
  | additional
  | items

/-- Where a descriptor may name a type: in the rule of a slot, or some turns into the leaf of that
rule. -/
abbrev Descriptor.Place := Slot × List Leaf.Turn

/-- A place in the descriptor of one of the definitions, which are counted in their order. -/
abbrev Registry.Site := Nat × Descriptor.Place

namespace Leaf

/-- The leaf for items comes before that for entries. -/
inductive Turn.Before : Turn → Turn → Prop where
  | items_entries : Before items entries

/-- The leaf that some turns lead to. -/
def inside? : List Turn → Leaf → Option Leaf
  | [], leaf => some leaf
  | .items :: turns, leaf => leaf.items.bind (inside? turns)
  | .entries :: turns, leaf => leaf.entries.bind (inside? turns)

/-- The type that pointers are read as by the leaf that some turns lead to. -/
def targetAt? (leaf : Leaf) (turns : List Turn) : Option String :=
  (leaf.inside? turns).bind fun inner => nonempty? inner.resolveAs

end Leaf

/-- The type that a rule names: itself, or by a leaf. -/
def Rule.targetAt? : Rule → List Leaf.Turn → Option String
  | fixed (.reference type), [] => some type
  | fixed (.leaf l), turns => l.targetAt? turns
  | _, _ => none

namespace Descriptor

/-- Properties come first, in their order, then the rule of additional children, then that of
members. -/
inductive Slot.Before : Slot → Slot → Prop where
  | properties {i j : Nat} (h : i < j) : Before (property i) (property j)
  | property_additional (i : Nat) : Before (property i) additional
  | property_items (i : Nat) : Before (property i) items
  | additional_items : Before additional items

/-- The order of slots, and a leaf before the leaves inside it. -/
def Place.Before : Place → Place → Prop := Prod.Lex Slot.Before (List.Lex Leaf.Turn.Before)

/-- The rule in a slot, with the key that it goes by in references. -/
def ruleAt? (d : Descriptor) : Slot → Option (String × Rule)
  | .property position => d.properties[position]?
  | .additional => d.additional.map fun rule => ("<additional_properties>", rule)
  | .items => d.items.map fun rule => ("<items>", rule)

/-- The reference of an owner at a place, if a type is named there. -/
def referenceAt? (d : Descriptor) (owner : String) : Place → Option Reference
  | (slot, turns) => (d.ruleAt? slot).bind fun (key, rule) =>
    (rule.targetAt? turns).map fun target => ⟨owner, key, target⟩

end Descriptor

namespace Registry

/-- The order of definitions, and that of places in each of them. -/
def Site.Before : Site → Site → Prop := Prod.Lex (· < ·) Descriptor.Place.Before

/-- The reference at a site, if a type is named there. -/
def referenceAt? (r : Registry) : Site → Option Reference
  | (position, place) => r.definitions[position]?.bind fun definition =>
    definition.descriptor.referenceAt? definition.name place

/-- There is a reference at the site, and its target is not defined. -/
def Dangles (r : Registry) (site : Site) (reference : Reference) : Prop :=
  r.referenceAt? site = some reference ∧ reference.target ∉ r.definedNames

end Registry

/-- The elements of a list with their positions. -/
def counted {α : Type} (xs : List α) : List (Nat × α) := xs.zipIdx.map Prod.swap

/-- A list of all that a look-up finds, in the order of the places where it is found. -/
structure Listing {ι α : Type} (before : ι → ι → Prop) (at? : ι → Option α)
    (entries : List (ι × α)) : Prop where
  ordered : entries.Pairwise fun a b => before a.1 b.1
  mem_iff : ∀ i a, (i, a) ∈ entries ↔ at? i = some a

section Counted

variable {α : Type} (xs : List α)

theorem listing_counted : Listing (· < ·) (xs[·]?) (counted xs) where
  ordered := by
    have hpositions : (xs.zipIdx.map Prod.snd).Pairwise (· < ·) := by
      rw [List.zipIdx_map_snd]
      exact List.pairwise_lt_range'
    exact List.pairwise_map.mpr (List.pairwise_map.mp hpositions)
  mem_iff i a := by
    simp only [counted, List.mem_map, Prod.exists, Prod.swap_prod_mk, Prod.mk.injEq,
      List.mem_zipIdx_iff_getElem?]
    grind

theorem map_snd_counted : (counted xs).map Prod.snd = xs := by
  rw [counted, List.map_map]
  exact List.zipIdx_map_fst 0 xs

end Counted

namespace Listing

variable {ι κ α β : Type} {before : ι → ι → Prop} {at? : ι → Option α} {entries : List (ι × α)}

theorem map (h : Listing before at? entries) (f : α → β) :
    Listing before (fun i => (at? i).map f) (entries.map fun (i, a) => (i, f a)) where
  ordered := List.pairwise_map.mpr h.ordered
  mem_iff i b := by
    simp only [List.mem_map, Prod.exists, Prod.mk.injEq, Option.map_eq_some_iff, ← h.mem_iff]
    grind

theorem filter (h : Listing before at? entries) (p : α → Bool) :
    Listing before (fun i => (at? i).filter p) (entries.filter fun entry => p entry.2) where
  ordered := h.ordered.filter _
  mem_iff i a := by simp only [List.mem_filter, h.mem_iff, Option.filter_eq_some_iff]

/-- The listings for the entries of a listing, one behind the other. -/
theorem flatMap (h : Listing before at? entries) {before' : κ → κ → Prop}
    {at'? : α → κ → Option β} {inner : α → List (κ × β)}
    (hinner : ∀ a, Listing before' (at'? a) (inner a)) :
    Listing (Prod.Lex before before') (fun (i, k) => (at? i).bind fun a => at'? a k)
      (entries.flatMap fun (i, a) => (inner a).map fun (k, b) => ((i, k), b)) where
  ordered := by
    rw [List.pairwise_flatMap]
    constructor
    · rintro ⟨i, a⟩ -
      exact List.pairwise_map.mpr ((hinner a).ordered.imp fun hk => .right i hk)
    · refine h.ordered.imp ?_
      rintro ⟨i, a⟩ ⟨j, b⟩ hij x hx y hy
      obtain ⟨_, -, rfl⟩ := List.mem_map.mp hx
      obtain ⟨_, -, rfl⟩ := List.mem_map.mp hy
      exact .left _ _ hij
  mem_iff := by
    rintro ⟨i, k⟩ b
    simp only [List.mem_flatMap, List.mem_map, Prod.exists, Prod.mk.injEq,
      Option.bind_eq_some_iff, ← h.mem_iff, ← (hinner _).mem_iff]
    grind

theorem map_snd_flatMap (entries : List (ι × α)) (inner : α → List (κ × β)) :
    (entries.flatMap fun (i, a) => (inner a).map fun (k, b) => ((i, k), b)).map Prod.snd =
      (entries.map Prod.snd).flatMap fun a => (inner a).map Prod.snd := by
  simp only [List.map_flatMap, List.map_map, List.flatMap_map, Function.comp_def]

end Listing

/-! The types that are named, with the places where they are. -/

namespace Leaf

def marks : Leaf → List (List Turn × String)
  | ⟨facets, items, entries⟩ =>
    (nonempty? facets.resolveAs).toList.map (fun type => ([], type))
      ++ (match items with
        | some leaf => leaf.marks.map fun (turns, type) => (.items :: turns, type)
        | none => [])
      ++ (match entries with
        | some leaf => leaf.marks.map fun (turns, type) => (.entries :: turns, type)
        | none => [])

theorem marks_eq (leaf : Leaf) : leaf.marks =
    (nonempty? leaf.resolveAs).toList.map (fun type => ([], type))
      ++ (leaf.items.toList.flatMap marks).map (fun (turns, type) => (.items :: turns, type))
      ++ (leaf.entries.toList.flatMap marks).map
        fun (turns, type) => (.entries :: turns, type) := by
  obtain ⟨facets, items, entries⟩ := leaf
  cases items <;> cases entries <;> simp [marks]

theorem map_snd_marks (leaf : Leaf) : leaf.marks.map Prod.snd = leaf.targets := by
  induction leaf using nested_induction with
  | leaf facets items entries hitems hentries =>
    cases items <;> cases entries <;> simp_all [marks, targets, Function.comp_def]

theorem targetAt?_items (leaf : Leaf) (turns : List Turn) :
    leaf.targetAt? (.items :: turns) = leaf.items.bind fun l => l.targetAt? turns :=
  Option.bind_assoc ..

theorem targetAt?_entries (leaf : Leaf) (turns : List Turn) :
    leaf.targetAt? (.entries :: turns) = leaf.entries.bind fun l => l.targetAt? turns :=
  Option.bind_assoc ..

theorem listing_inner {inner : Option Leaf}
    (h : ∀ l ∈ inner, Listing (List.Lex Turn.Before) l.targetAt? l.marks) :
    Listing (List.Lex Turn.Before) (fun turns => inner.bind fun l => l.targetAt? turns)
      (inner.toList.flatMap marks) := by
  cases inner with
  | none => exact ⟨.nil, by simp⟩
  | some l => simpa using h l rfl

theorem listing_marks (leaf : Leaf) :
    Listing (List.Lex Turn.Before) leaf.targetAt? leaf.marks := by
  induction leaf using nested_induction with
  | leaf facets items entries hitems hentries =>
    have ofItems := listing_inner hitems
    have ofEntries := listing_inner hentries
    rw [marks_eq]
    constructor
    · rw [List.pairwise_append, List.pairwise_append, List.pairwise_map, List.pairwise_map,
        List.pairwise_map]
      refine ⟨⟨?_, ofItems.ordered.imp .cons, ?_⟩, ofEntries.ordered.imp .cons, ?_⟩
      · cases nonempty? facets.resolveAs <;> simp
      · intro own hown mark hmark
        obtain ⟨_, -, rfl⟩ := List.mem_map.mp hown
        obtain ⟨_, -, rfl⟩ := List.mem_map.mp hmark
        exact .nil
      · intro earlier hearlier mark hmark
        obtain ⟨_, -, rfl⟩ := List.mem_map.mp hmark
        rcases List.mem_append.mp hearlier with hown | hitem
        · obtain ⟨_, -, rfl⟩ := List.mem_map.mp hown
          exact .nil
        · obtain ⟨_, -, rfl⟩ := List.mem_map.mp hitem
          exact .rel .items_entries
    · rintro (_ | ⟨_ | _, turns⟩) type
      · simp [targetAt?, inside?]
      · rw [targetAt?_items, ← ofItems.mem_iff]
        simp
      · rw [targetAt?_entries, ← ofEntries.mem_iff]
        simp

end Leaf

namespace Rule

def marks : Rule → List (List Leaf.Turn × String)
  | fixed (.reference type) => [([], type)]
  | fixed (.leaf l) => l.marks
  | _ => []

theorem map_snd_marks (rule : Rule) : rule.marks.map Prod.snd = rule.targets := by
  cases rule with
  | fixed rule =>
    cases rule with
    | leaf l => exact l.map_snd_marks
    | _ => rfl
  | _ => rfl

theorem listing_marks (rule : Rule) :
    Listing (List.Lex Leaf.Turn.Before) rule.targetAt? rule.marks := by
  cases rule with
  | fixed rule =>
    cases rule with
    | reference type =>
      refine ⟨List.pairwise_singleton _ _, ?_⟩
      rintro (_ | ⟨turn, turns⟩) type' <;> simp [marks, targetAt?, eq_comm]
    | leaf l => exact l.listing_marks
    | unsupported v => exact ⟨.nil, by simp [marks, targetAt?]⟩
  | _ => exact ⟨.nil, by simp [marks, targetAt?]⟩

end Rule

namespace Descriptor

/-- The rules of a descriptor, with their slots and keys. -/
def slots (d : Descriptor) : List (Slot × String × Rule) :=
  (counted d.properties).map (fun (position, entry) => (.property position, entry))
    ++ d.additional.toList.map (fun rule => (.additional, "<additional_properties>", rule))
    ++ d.items.toList.map (fun rule => (.items, "<items>", rule))

def marks (d : Descriptor) (owner : String) : List (Place × Reference) :=
  d.slots.flatMap fun (slot, key, rule) =>
    (rule.marks.map fun (turns, target) => (turns, Reference.mk owner key target)).map
      fun (turns, reference) => ((slot, turns), reference)

theorem listing_slots (d : Descriptor) : Listing Slot.Before d.ruleAt? d.slots := by
  have ofProperties := listing_counted d.properties
  constructor
  · unfold slots
    rw [List.pairwise_append, List.pairwise_append, List.pairwise_map, List.pairwise_map,
      List.pairwise_map]
    refine ⟨⟨ofProperties.ordered.imp .properties, ?_, ?_⟩, ?_, ?_⟩
    · cases d.additional <;> simp
    · intro property hproperty rule hrule
      obtain ⟨_, -, rfl⟩ := List.mem_map.mp hproperty
      obtain ⟨_, -, rfl⟩ := List.mem_map.mp hrule
      exact .property_additional _
    · cases d.items <;> simp
    · intro earlier hearlier rule hrule
      obtain ⟨_, -, rfl⟩ := List.mem_map.mp hrule
      rcases List.mem_append.mp hearlier with hproperty | hadditional
      · obtain ⟨_, -, rfl⟩ := List.mem_map.mp hproperty
        exact .property_items _
      · obtain ⟨_, -, rfl⟩ := List.mem_map.mp hadditional
        exact .additional_items
  · rintro (position | _ | _) entry
    · rw [ruleAt?, ← ofProperties.mem_iff]
      simp [slots]
    · simp [slots, ruleAt?]
    · simp [slots, ruleAt?]

theorem listing_marks (d : Descriptor) (owner : String) :
    Listing Place.Before (d.referenceAt? owner) (d.marks owner) := by
  have ofRule (entry : String × Rule) := entry.2.listing_marks.map (Reference.mk owner entry.1)
  exact d.listing_slots.flatMap ofRule

theorem map_snd_slots (d : Descriptor) : d.slots.map Prod.snd = d.properties
    ++ d.additional.toList.map (fun rule => ("<additional_properties>", rule))
    ++ d.items.toList.map fun rule => ("<items>", rule) := by
  simp only [slots, List.map_append, List.map_map, Function.comp_def]
  exact congrArg (· ++ _ ++ _) (map_snd_counted d.properties)

theorem map_snd_marks (d : Descriptor) (owner : String) :
    (d.marks owner).map Prod.snd = d.references owner := by
  have hmarks (entry : String × Rule) :
      (entry.2.marks.map fun mark => (mark.1, Reference.mk owner entry.1 mark.2)).map Prod.snd =
        entry.2.targets.map (Reference.mk owner entry.1) := by
    rw [← entry.2.map_snd_marks, List.map_map, List.map_map]
    rfl
  have hflat := Listing.map_snd_flatMap d.slots fun entry : String × Rule =>
    entry.2.marks.map fun mark => (mark.1, Reference.mk owner entry.1 mark.2)
  refine hflat.trans ?_
  simp only [hmarks, map_snd_slots, references]
  cases d.additional <;> cases d.items <;> simp

end Descriptor

namespace Registry

def marks (r : Registry) : List (Site × Reference) :=
  (counted r.definitions).flatMap fun (position, definition) =>
    (definition.descriptor.marks definition.name).map
      fun (place, reference) => ((position, place), reference)

theorem listing_marks (r : Registry) : Listing Site.Before r.referenceAt? r.marks :=
  (listing_counted r.definitions).flatMap fun definition =>
    definition.descriptor.listing_marks definition.name

theorem map_snd_marks (r : Registry) : r.marks.map Prod.snd = r.references := by
  have hflat := Listing.map_snd_flatMap (counted r.definitions) fun definition =>
    definition.descriptor.marks definition.name
  refine hflat.trans ?_
  simp only [map_snd_counted, Descriptor.map_snd_marks]
  rfl

theorem contains_iff {r : Registry} {name : String} :
    r.contains name ↔ name ∈ r.definedNames := by
  simp [contains, find?, definedNames]

theorem Site.not_before_self (site : Site) : ¬ Site.Before site site := by
  obtain ⟨position, slot, turns⟩ := site
  intro h
  rcases Prod.lex_def.mp h with h | ⟨-, h⟩
  · exact Nat.lt_irrefl _ h
  · rcases Prod.lex_def.mp h with h | ⟨-, h⟩
    · cases h with
      | properties h => exact Nat.lt_irrefl _ h
    · refine List.lex_irrefl (fun turn h => ?_) turns h
      cases turn <;> cases h

/-- Sites in order come once each. -/
theorem nodup_of_ordered {occurrences : List (Site × Reference)}
    (h : occurrences.Pairwise fun a b => Site.Before a.1 b.1) :
    (occurrences.map Prod.fst).Nodup := by
  refine List.pairwise_map.mpr (h.imp ?_)
  rintro ⟨site, a⟩ ⟨_, b⟩ hbefore rfl
  exact Site.not_before_self site hbefore

theorem listing_dangling (r : Registry) : ∃ occurrences : List (Site × Reference),
    (occurrences.Pairwise fun a b => Site.Before a.1 b.1) ∧
      (∀ site reference, (site, reference) ∈ occurrences ↔ r.Dangles site reference) ∧
      occurrences.map Prod.snd = r.dangling := by
  have hlisting := r.listing_marks.filter fun reference => !r.contains reference.target
  refine ⟨_, hlisting.ordered, fun site reference => ?_, ?_⟩
  · rw [hlisting.mem_iff, Option.filter_eq_some_iff, Dangles, ← contains_iff]
    simp
  · rw [dangling, ← map_snd_marks, List.filter_map]
    rfl

end Registry

namespace Assembly

/-- The self-check fails if and only if some site names a type that is not defined. It lists the
references at just these sites, each site once and in order, and leaves the registry as it is. -/
theorem validate_lists_dangling (w : Workbench) :
    ((∃ dangling, validate.run w = .error (.danglingReferences w.registry.dialect dangling) w) ↔
      ∃ site reference, w.registry.Dangles site reference) ∧
    ∃ occurrences : List (Registry.Site × Reference),
      (occurrences.Pairwise fun a b => Registry.Site.Before a.1 b.1) ∧
      (occurrences.map Prod.fst).Nodup ∧
      (∀ site reference, (site, reference) ∈ occurrences ↔ w.registry.Dangles site reference) ∧
      validate.run w =
        if occurrences.isEmpty then .ok () w
        else .error (.danglingReferences w.registry.dialect (occurrences.map Prod.snd)) w := by
  obtain ⟨occurrences, ordered, complete, hdangling⟩ := w.registry.listing_dangling
  have hrun : validate.run w =
      if occurrences.isEmpty then .ok () w
      else .error (.danglingReferences w.registry.dialect (occurrences.map Prod.snd)) w := by
    rw [run_validate, Registry.validate, ← hdangling]
    cases occurrences <;> rfl
  refine ⟨?_, occurrences, ordered, Registry.nodup_of_ordered ordered, complete, hrun⟩
  rw [hrun]
  cases occurrences with
  | nil => simp [← complete]
  | cons occurrence rest =>
    have hdangles := (complete occurrence.1 occurrence.2).mp List.mem_cons_self
    exact iff_of_true ⟨_, rfl⟩ ⟨_, _, hdangles⟩

/-- A leaf that names a defined type, with leaves inside it that name others, one of them twice. -/
example : Registry.dangling
    { dialect := "test"
      definitions :=
        [⟨"Root",
          { additional := some (.reference "Lost")
            table := .growing [("root", .reference "Root"),
              ("links", .leaf
                { resolveAs := some "Root"
                  items := some
                    { resolveAs := some "Gone", entries := some { resolveAs := some "Lost" } }
                  entries := some { resolveAs := some "Gone" } })] }, "Root"⟩] } =
    [⟨"Root", "links", "Gone"⟩, ⟨"Root", "links", "Lost"⟩, ⟨"Root", "links", "Gone"⟩,
      ⟨"Root", "<additional_properties>", "Lost"⟩] := by decide

end Assembly

end ShapeLint
