import ShapeLint.Proofs.Registry.Growth

/-!
Operations on a batch of entries. They take the entries in order, judge each one by the registry as
it was before the call, since the keys of a batch are distinct, and stop at the first conflict. The
entries in front of it stay added. Main statement: `batches_stop_at_first_conflict`.
-/
namespace ShapeLint

section Entries

variable {α : Type}

theorem keys_setEntry (key : String) (value : α) (entries : List (String × α)) :
    (setEntry key value entries).map Prod.fst =
      if key ∈ entries.map Prod.fst then entries.map Prod.fst
      else entries.map Prod.fst ++ [key] := by
  induction entries with
  | nil => rfl
  | cons entry rest ih => unfold setEntry; grind

/-- A mapping has each key once. -/
theorem nodup_keys_entriesOf (pairs : List (String × α)) :
    ((entriesOf pairs).map Prod.fst).Nodup := by
  suffices loop : ∀ entries : List (String × α), (entries.map Prod.fst).Nodup →
      ((pairs.foldl (fun entries (key, value) => setEntry key value entries) entries).map
        Prod.fst).Nodup from loop [] List.nodup_nil
  induction pairs with
  | nil => exact fun _ h => h
  | cons pair rest ih =>
    intro entries h
    refine ih _ ?_
    rw [keys_setEntry]
    grind

/-- In front of an entry its key does not occur. -/
theorem key_notMem_of_nodup {before after : List (String × α)} {entry : String × α}
    (h : ((before ++ entry :: after).map Prod.fst).Nodup) : entry.1 ∉ before.map Prod.fst := by
  rw [List.map_append, List.map_cons] at h
  grind

end Entries

namespace Descriptor

/-- The descriptor has another rule under the key of the entry. -/
def clashes (d : Descriptor) (entry : String × Rule) : Bool :=
  match d.properties.lookup entry.1 with
  | some current => !current.same entry.2
  | none => false

/-- The descriptor does not take the entry: it has another rule under its key, or none and its rules
are a view. -/
def refuses (d : Descriptor) (entry : String × Rule) : Bool :=
  d.clashes entry || (d.table.isView && (d.properties.lookup entry.1).isNone)

/-- Why an entry is not taken. -/
def refusal (d : Descriptor) (name dialect : String) (entry : String × Rule) : Fault :=
  if d.clashes entry then .extensionConflict name entry.1 dialect else .fixedProperties name

/-- The entries of a batch whose keys the descriptor does not have. -/
def added (d : Descriptor) (entries : List (String × Rule)) : List (String × Rule) :=
  entries.filter fun entry => (d.properties.lookup entry.1).isNone

variable {d : Descriptor} {before : List (String × Rule)} {entry : String × Rule}

@[simp] theorem append_nil : d.append [] = d := by
  obtain ⟨name, table⟩ := d
  cases table <;> simp [append, RuleTable.append]

theorem append_append (first second : List (String × Rule)) :
    (d.append first).append second = d.append (first ++ second) := by
  obtain ⟨name, table⟩ := d
  cases table <;> simp [append, RuleTable.append]

@[simp] theorem isView_append (added : List (String × Rule)) :
    (d.append added).table.isView = d.table.isView := by
  obtain ⟨name, table⟩ := d
  cases table <;> rfl

theorem clashes_of_not_refuses (h : d.refuses entry = false) : d.clashes entry = false :=
  (Bool.or_eq_false_iff.mp h).1

theorem clashes_of_refusal {name dialect type key dialect' : String}
    (h : d.refusal name dialect entry = .extensionConflict type key dialect') :
    d.clashes entry = true ∧
      Fault.extensionConflict name entry.1 dialect = .extensionConflict type key dialect' := by
  unfold refusal at h
  split at h
  · exact ⟨‹_›, h⟩
  · contradiction

theorem lookup_append_added (h : entry.1 ∉ before.map Prod.fst) :
    (d.properties ++ d.added before).lookup entry.1 = d.properties.lookup entry.1 := by
  have hadded : (d.added before).lookup entry.1 = none := by
    rw [List.lookup_eq_none_iff]
    grind [Descriptor.added]
  rw [List.lookup_append, hadded, Option.or_none]

/-- An entry is judged alike after entries of other keys have been added. -/
theorem clashes_append (h : entry.1 ∉ before.map Prod.fst) :
    (d.append (d.added before)).clashes entry = d.clashes entry := by
  simp only [clashes, properties_append, lookup_append_added h]

theorem refuses_append (h : entry.1 ∉ before.map Prod.fst) :
    (d.append (d.added before)).refuses entry = d.refuses entry := by
  simp only [refuses, clashes_append h, isView_append, properties_append, lookup_append_added h]

theorem refusal_append (h : entry.1 ∉ before.map Prod.fst) (name dialect : String) :
    (d.append (d.added before)).refusal name dialect entry = d.refusal name dialect entry := by
  simp only [refusal, clashes_append h]

theorem added_append (h : entry.1 ∉ before.map Prod.fst) :
    (d.append (d.added before)).added [entry] = d.added [entry] :=
  List.filter_congr fun e he => by
    rw [List.mem_singleton.mp he, properties_append]
    exact congrArg Option.isNone (lookup_append_added h)

end Descriptor

namespace Registry

/-- The registry has another descriptor under the name of the entry. -/
def clashes (r : Registry) (entry : String × Descriptor) : Bool :=
  match r.find? entry.1 with
  | some existing => !existing.descriptor.same (entry.2.copied entry.1)
  | none => false

/-- The definitions that a batch brings to the registry: those of new names. -/
def added (r : Registry) (entries : List (String × Descriptor)) : List Definition :=
  (entries.filter fun entry => !r.contains entry.1).map fun entry =>
    ⟨entry.1, entry.2.copied entry.1, entry.1⟩

theorem added_append (r : Registry) (first second : List (String × Descriptor)) :
    r.added (first ++ second) = r.added first ++ r.added second := by
  simp [added]

theorem find?_append_added {r : Registry} {before : List (String × Descriptor)} {name : String}
    (h : name ∉ before.map Prod.fst) :
    find? { r with definitions := r.definitions ++ r.added before } name = r.find? name := by
  have hadded : ((r.added before).find? fun d => d.name == name) = none := by
    rw [List.find?_eq_none]
    grind [added]
  unfold find?
  rw [List.find?_append, hadded, Option.or_none]

/-- Further properties for the type of a name. -/
def appendTo (r : Registry) (name : String) (properties : List (String × Rule)) : Registry :=
  r.modify name fun d => d.append properties

variable {r : Registry} {name : String}

@[simp] theorem appendTo_nil : r.appendTo name [] = r := by
  simp [appendTo, modify]

theorem appendTo_appendTo (first second : List (String × Rule)) :
    (r.appendTo name first).appendTo name second = r.appendTo name (first ++ second) := by
  simp only [appendTo, modify, List.map_map, Registry.mk.injEq, true_and, and_true]
  refine List.map_congr_left fun definition _ => ?_
  by_cases h : definition.name = name <;> simp [h, Descriptor.append_append]

theorem lookup_eq_error {fault : Fault} (h : r.lookup name = .error fault) :
    fault = .undefinedType name r.dialect := by
  unfold lookup at h
  split at h
  · contradiction
  · exact (Except.error.inj h).symm

theorem lookup_appendTo (properties : List (String × Rule)) :
    (r.appendTo name properties).lookup name =
      (r.lookup name).map fun d => d.append properties := by
  rw [appendTo, lookup_modify, if_pos rfl]

/-- A batch leaves a type as it is if and only if it brings no new key. -/
theorem appendTo_added_eq_self {d : Descriptor} (hd : r.lookup name = .ok d)
    {entries : List (String × Rule)} : r.appendTo name (d.added entries) = r ↔
      ∀ entry ∈ entries, (d.properties.lookup entry.1).isSome := by
  have hadded : d.added entries = [] ↔
      ∀ entry ∈ entries, (d.properties.lookup entry.1).isSome := by
    simp [Descriptor.added, List.filter_eq_nil_iff, Option.isSome_iff_ne_none]
  rw [← hadded]
  constructor
  · intro h
    have hlookup := @lookup_appendTo r name (d.added entries)
    rw [h, hd] at hlookup
    replace hlookup : d = d.append (d.added entries) := Except.ok.inj hlookup
    simpa using congrArg Descriptor.properties hlookup
  · intro h
    rw [h, appendTo_nil]

/-- A batch leaves a registry as it is if and only if it brings no new name. -/
theorem append_added_eq_self {entries : List (String × Descriptor)} :
    { r with definitions := r.definitions ++ r.added entries } = r ↔
      ∀ entry ∈ entries, r.contains entry.1 := by
  have hadded : r.added entries = [] ↔ ∀ entry ∈ entries, r.contains entry.1 := by
    simp [added]
  rw [← hadded]
  constructor
  · intro h
    simpa using congrArg definitions h
  · intro h
    rw [h, List.append_nil]

end Registry

/-- The workbench with the new types of a batch defined. -/
def Workbench.define (w : Workbench) (entries : List (String × Descriptor)) : Workbench where
  registry := { w.registry with
    definitions := w.registry.definitions ++ w.registry.added entries }
  records := w.records ++ (w.registry.added entries).map fun definition =>
    ⟨.debug, .registry, "Defined " ++ w.registry.dialect ++ " type " ++ definition.name⟩

namespace Assembly

variable {w w' : Workbench} {name : String}

/-- How a loop over a batch ends, where `taken` is the state after some entries: all entries are
taken, or the loop stops at the first one that is refused. -/
inductive BatchEnds {α : Type} (entries : List α) (refuses : α → Bool) (fault : α → Fault)
    (taken : List α → Workbench) : EStateM.Result Fault Workbench Unit → Prop where
  | completed (hnone : ∀ entry ∈ entries, refuses entry = false) :
    BatchEnds entries refuses fault taken (.ok () (taken entries))
  | stopped {before : List α} {entry : α} {after : List α}
      (hentries : entries = before ++ entry :: after)
      (hbefore : ∀ earlier ∈ before, refuses earlier = false) (hentry : refuses entry = true) :
    BatchEnds entries refuses fault taken (.error (fault entry) (taken before))

/-- An entry is refused or not whatever was taken in front of it. -/
theorem batchEnds_forM {α : Type} {entries : List α} {f : α → Assembly Unit} {refuses : α → Bool}
    {fault : α → Fault} {taken : List α → Workbench}
    (step : ∀ before entry after, entries = before ++ entry :: after →
      (f entry).run (taken before) =
        if refuses entry then .error (fault entry) (taken before)
        else .ok () (taken (before ++ [entry]))) :
    BatchEnds entries refuses fault taken ((entries.forM f).run (taken [])) := by
  suffices loop : ∀ rest before, entries = before ++ rest →
      (∀ entry ∈ before, refuses entry = false) →
      BatchEnds entries refuses fault taken ((rest.forM f).run (taken before)) from
    loop entries [] rfl (by simp)
  intro rest
  induction rest with
  | nil =>
    rintro before rfl hbefore
    rw [List.append_nil] at *
    exact .completed hbefore
  | cons entry rest ih =>
    intro before hentries hbefore
    show BatchEnds entries refuses fault taken
      ((f entry >>= fun _ => rest.forM f).run (taken before))
    rw [EStateM.run_bind, step before entry rest hentries]
    cases hentry : refuses entry with
    | true => exact .stopped hentries hbefore hentry
    | false => exact ih (before ++ [entry]) (by simp [hentries]) (by grind)

theorem run_extendBy_of_lookup {d : Descriptor} (hd : w.registry.lookup name = .ok d)
    (entry : String × Rule) :
    (extendBy name entry.1 entry.2).run w =
      if d.refuses entry then .error (d.refusal name w.registry.dialect entry) w
      else .ok () { w with registry := w.registry.appendTo name (d.added [entry]) } := by
  rw [run_extendBy, hd]
  unfold Descriptor.refuses Descriptor.refusal Descriptor.clashes Descriptor.added
  cases hcurrent : d.properties.lookup entry.1 with
  | none => cases hview : d.table.isView <;> simp [hcurrent, hview, Registry.appendTo]
  | some current => cases hsame : current.same entry.2 <;> simp [hcurrent, hsame]

/-- Properties are added one by one, and each is judged by the descriptor as it was at first. -/
theorem batchEnds_extendBy {d : Descriptor} (hd : w.registry.lookup name = .ok d)
    {entries : List (String × Rule)} (hkeys : (entries.map Prod.fst).Nodup) :
    BatchEnds entries d.refuses (d.refusal name w.registry.dialect)
      (fun taken => { w with registry := w.registry.appendTo name (d.added taken) })
      ((entries.forM fun entry => extendBy name entry.1 entry.2).run w) := by
  have hstart : { w with registry := w.registry.appendTo name (d.added []) } = w := by
    simp [Descriptor.added]
  rw [← congrArg (EStateM.run _) hstart]
  refine batchEnds_forM fun before entry after hentries => ?_
  have hkey : entry.1 ∉ before.map Prod.fst := key_notMem_of_nodup (hentries ▸ hkeys)
  rw [run_extendBy_of_lookup (by rw [Registry.lookup_appendTo, hd]; rfl),
    Descriptor.refuses_append hkey, Descriptor.refusal_append hkey, Descriptor.added_append hkey,
    Registry.appendTo_appendTo, Descriptor.added, Descriptor.added, ← List.filter_append]
  rfl

/-- Types are defined one by one, and each is judged by the registry as it was at first. -/
theorem batchEnds_define (hopen : w.registry.frozen = false) {entries : List (String × Descriptor)}
    (hkeys : (entries.map Prod.fst).Nodup) :
    BatchEnds entries w.registry.clashes
      (fun entry => .duplicateType entry.1 w.registry.dialect) w.define
      ((defineAll entries).run w) := by
  have hstart : w.define [] = w := by simp [Workbench.define, Registry.added]
  rw [← congrArg (EStateM.run _) hstart]
  refine batchEnds_forM fun before entry after hentries => ?_
  have hkey : entry.1 ∉ before.map Prod.fst := key_notMem_of_nodup (hentries ▸ hkeys)
  have hfind : (w.define before).registry.find? entry.1 = w.registry.find? entry.1 :=
    Registry.find?_append_added hkey
  have hopen' : (w.define before).registry.frozen = false := hopen
  rw [run_discard, Assembly.define, run_defineSharing, hfind, hopen']
  unfold Registry.clashes
  cases hexisting : w.registry.find? entry.1 with
  | none =>
    have hadded : w.registry.added [entry] =
        [⟨entry.1, entry.2.copied entry.1, entry.1⟩] := by
      simp [Registry.added, Registry.contains, hexisting]
    simp [Workbench.define, Registry.added_append, hadded]
  | some existing =>
    have hadded : w.registry.added [entry] = [] := by
      simp [Registry.added, Registry.contains, hexisting]
    have hsame : w.define (before ++ [entry]) = w.define before := by
      simp [Workbench.define, Registry.added_append, hadded]
    rw [hsame]
    cases hclash : existing.descriptor.same (entry.2.copied entry.1) <;> simp [hclash]
    all_goals rfl

/-- What an extension of a defined type comes to. -/
theorem run_extend {d : Descriptor} (hopen : w.registry.frozen = false)
    (hd : w.registry.lookup name = .ok d) (properties : List (String × Rule)) :
    (extend name properties).run w =
      match ((entriesOf properties).forM fun entry => extendBy name entry.1 entry.2).run w with
      | .ok _ w' =>
        (lookup name).run { w' with
          records := w'.records ++ [⟨.debug, .registry, "Extended " ++ w'.registry.dialect
            ++ " type " ++ name ++ " with "
            ++ ", ".intercalate ((entriesOf properties).map Prod.fst)⟩] }
      | .error fault w' => .error fault w' := by
  simp only [extend, EStateM.run_bind, run_ensureMutable, hopen, run_discard, run_lookup, hd,
    run_registry, run_log, Bool.false_eq_true, if_false]
  cases ((entriesOf properties).forM fun entry => extendBy name entry.1 entry.2).run w <;> rfl

theorem extend_conflict {properties : List (String × Rule)} {type key dialect : String}
    (h : (extend name properties).run w = .error (.extensionConflict type key dialect) w') :
    ∃ d before entry after, w.registry.lookup name = .ok d ∧
      entriesOf properties = before ++ entry :: after ∧
      (∀ earlier ∈ before, d.clashes earlier = false) ∧ d.clashes entry = true ∧
      Fault.extensionConflict type key dialect =
        .extensionConflict name entry.1 w.registry.dialect ∧
      w' = { w with registry := w.registry.appendTo name (d.added before) } := by
  cases hopen : w.registry.frozen with
  | true =>
    rw [run_extend_of_frozen hopen] at h
    cases h
  | false =>
    cases hd : w.registry.lookup name with
    | error fault =>
      obtain rfl := Registry.lookup_eq_error hd
      simp only [extend, EStateM.run_bind, run_ensureMutable, hopen, run_discard, run_lookup, hd,
        Bool.false_eq_true, if_false] at h
      cases h
    | ok d =>
      have hends := batchEnds_extendBy hd (nodup_keys_entriesOf properties)
      rw [run_extend hopen hd] at h
      generalize ((entriesOf properties).forM fun entry =>
        extendBy name entry.1 entry.2).run w = result at h hends
      cases hends with
      | completed =>
        simp only [run_lookup, Registry.lookup_appendTo, hd, Except.map] at h
        cases h
      | stopped hentries hbefore hentry =>
        obtain ⟨hfault, hw'⟩ := EStateM.Result.error.inj h
        obtain ⟨hclash, hconflict⟩ := Descriptor.clashes_of_refusal hfault
        exact ⟨d, _, _, _, rfl, hentries,
          fun earlier hearlier => Descriptor.clashes_of_not_refuses (hbefore earlier hearlier),
          hclash, hconflict.symm, hw'.symm⟩

theorem defineAll_conflict {types : List (String × Descriptor)} {type dialect : String}
    (hkeys : (types.map Prod.fst).Nodup)
    (h : (defineAll types).run w = .error (.duplicateType type dialect) w') :
    ∃ before entry after, types = before ++ entry :: after ∧
      (∀ earlier ∈ before, w.registry.clashes earlier = false) ∧
      w.registry.clashes entry = true ∧
      Fault.duplicateType type dialect = .duplicateType entry.1 w.registry.dialect ∧
      w' = w.define before := by
  cases hopen : w.registry.frozen with
  | true =>
    cases types with
    | nil => cases h
    | cons entry rest =>
      have hfirst : (defineAll (entry :: rest)).run w =
          .error (.registryFrozen w.registry.dialect) w := by
        show (discard (Assembly.define entry.1 entry.2) >>= fun _ => defineAll rest).run w = _
        rw [EStateM.run_bind, run_discard, run_define_of_frozen hopen]
      rw [hfirst] at h
      cases h
  | false =>
    have hends := batchEnds_define hopen hkeys
    rw [h] at hends
    generalize hresult : EStateM.Result.error (Fault.duplicateType type dialect) w' = result
      at hends
    cases hends with
    | completed => cases hresult
    | stopped hentries hbefore hentry =>
      obtain ⟨hfault, hw'⟩ := EStateM.Result.error.inj hresult
      exact ⟨_, _, _, hentries, hbefore, hentry, hfault, hw'⟩

/-- A batch that meets a conflict stops there. The conflict is with what stood in the registry
before the call, and the entries in front of it stay: their new keys are behind the other
properties of the type, their new names behind the other definitions, and nothing else about the
registry has changed. So it is as before the call if and only if those entries were all there
already. -/
theorem batches_stop_at_first_conflict (w w' : Workbench) :
    (∀ name properties type key dialect,
      (extend name properties).run w = .error (.extensionConflict type key dialect) w' →
        ∃ d before rule after, w.registry.lookup name = .ok d ∧
          entriesOf properties = before ++ (key, rule) :: after ∧
          d.clashes (key, rule) = true ∧ (∀ earlier ∈ before, d.clashes earlier = false) ∧
          w'.registry = w.registry.appendTo name (d.added before) ∧
          (w'.registry = w.registry ↔
            ∀ earlier ∈ before, (d.properties.lookup earlier.1).isSome)) ∧
      ∀ types type dialect,
        (defineAll (entriesOf types)).run w = .error (.duplicateType type dialect) w' →
          ∃ before d after, entriesOf types = before ++ (type, d) :: after ∧
            w.registry.clashes (type, d) = true ∧
            (∀ earlier ∈ before, w.registry.clashes earlier = false) ∧
            w'.registry = { w.registry with
              definitions := w.registry.definitions ++ w.registry.added before } ∧
            (w'.registry = w.registry ↔ ∀ earlier ∈ before, w.registry.contains earlier.1) := by
  constructor
  · intro name properties type key dialect h
    obtain ⟨d, before, ⟨key', rule⟩, after, hd, hentries, hbefore, hentry, hfault, rfl⟩ :=
      extend_conflict h
    cases hfault
    exact ⟨d, before, rule, after, hd, hentries, hentry, hbefore, rfl,
      Registry.appendTo_added_eq_self hd⟩
  · intro types type dialect h
    obtain ⟨before, ⟨type', d⟩, after, hentries, hbefore, hentry, hfault, rfl⟩ :=
      defineAll_conflict (nodup_keys_entriesOf types) h
    cases hfault
    exact ⟨before, d, after, hentries, hentry, hbefore, rfl, Registry.append_added_eq_self⟩

/-- One type with one property. -/
def bindings : Workbench where
  registry :=
    { dialect := "test"
      definitions := [⟨"Bindings",
        { name := "Bindings", table := .growing [("kafka", .reference "KafkaBinding")] },
        "Bindings"⟩] }

/-- A new key in front of a key that has another rule. -/
def mixedProperties : List (String × Rule) :=
  [("http", .reference "HttpBinding"), ("kafka", .reference "OtherBinding")]

/-- The bindings as an extension by these properties leaves them. -/
def halfExtended : Workbench :=
  { bindings with
    registry := bindings.registry.appendTo "Bindings" [("http", .reference "HttpBinding")] }

theorem extend_bindings : (extend "Bindings" mixedProperties).run bindings =
    .error (.extensionConflict "Bindings" "kafka" "test") halfExtended := rfl

/-- A new type in front of one that is defined otherwise. -/
def mixedTypes : List (String × Descriptor) := [("Info", {}), ("Bindings", {})]

/-- The bindings as a definition of these types leaves them. -/
def halfDefined : Workbench := bindings.define [("Info", {})]

theorem defineAll_bindings : (defineAll (entriesOf mixedTypes)).run bindings =
    .error (.duplicateType "Bindings" "test") halfDefined := rfl

theorem batches_stop_at_first_conflict_bindings :
    (∃ d before rule after, bindings.registry.lookup "Bindings" = .ok d ∧
      entriesOf mixedProperties = before ++ ("kafka", rule) :: after ∧
      d.clashes ("kafka", rule) = true ∧ (∀ earlier ∈ before, d.clashes earlier = false) ∧
      halfExtended.registry = bindings.registry.appendTo "Bindings" (d.added before) ∧
      (halfExtended.registry = bindings.registry ↔
        ∀ earlier ∈ before, (d.properties.lookup earlier.1).isSome)) ∧
    ∃ before d after, entriesOf mixedTypes = before ++ ("Bindings", d) :: after ∧
      bindings.registry.clashes ("Bindings", d) = true ∧
      (∀ earlier ∈ before, bindings.registry.clashes earlier = false) ∧
      halfDefined.registry = { bindings.registry with
        definitions := bindings.registry.definitions ++ bindings.registry.added before } ∧
      (halfDefined.registry = bindings.registry ↔
        ∀ earlier ∈ before, bindings.registry.contains earlier.1) :=
  ⟨(batches_stop_at_first_conflict bindings halfExtended).1 _ _ _ _ _ extend_bindings,
    (batches_stop_at_first_conflict bindings halfDefined).2 _ _ _ defineAll_bindings⟩

/-- A batch that fails has not always left the registry as it was. -/
theorem not_batches_all_or_nothing :
    ¬ (∀ (w w' : Workbench) (name : String) (properties : List (String × Rule))
      (type key dialect : String), w.registry.frozen = false →
        (extend name properties).run w = .error (.extensionConflict type key dialect) w' →
          w'.registry = w.registry) ∧
    ¬ ∀ (w w' : Workbench) (types : List (String × Descriptor)) (type dialect : String),
      w.registry.frozen = false →
        (defineAll (entriesOf types)).run w = .error (.duplicateType type dialect) w' →
          w'.registry = w.registry := by
  constructor
  · intro h
    have hsame := h bindings halfExtended _ _ _ _ _ rfl extend_bindings
    have hsize := congrArg (fun r : Registry =>
      r.definitions.map fun definition => definition.descriptor.properties.length) hsame
    exact absurd hsize (by decide)
  · intro h
    have hsame := h bindings halfDefined _ _ _ rfl defineAll_bindings
    exact absurd (congrArg Registry.size hsame) (by decide)

end Assembly

end ShapeLint
