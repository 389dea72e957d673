import ShapeLint.Proofs.Leaf.Sameness
import ShapeLint.Proofs.Registry.Batches

/-!
Several extensions of one type. The first entry under a key is the one that stays, and every later
one has to be the same; so all extensions succeed if and only if the entries agree with the type and
with each other, which is a matter of which entries come and not of when they come. Main statement:
`extendAll_of_sameEntries`.
-/
namespace ShapeLint

theorem mem_keys_entriesOf {α : Type} {key : String} {pairs : List (String × α)} :
    key ∈ (entriesOf pairs).map Prod.fst ↔ key ∈ pairs.map Prod.fst := by
  suffices loop : ∀ entries : List (String × α),
      (key ∈ (pairs.foldl (fun entries (key, value) => setEntry key value entries) entries).map
        Prod.fst ↔ key ∈ entries.map Prod.fst ∨ key ∈ pairs.map Prod.fst) by
    exact (loop []).trans (by simp)
  induction pairs with
  | nil => simp
  | cons pair rest ih =>
    intro entries
    rw [List.foldl_cons, ih, keys_setEntry, List.map_cons]
    grind

theorem lookup_eq_some_of_mem {α : Type} {entries : List (String × α)} {entry : String × α}
    (hkeys : (entries.map Prod.fst).Nodup) (h : entry ∈ entries) :
    entries.lookup entry.1 = some entry.2 := by
  refine Value.lookup_of_mem (hkeys.imp fun hne => ?_) h BEq.rfl
  simpa using hne

theorem mem_of_lookup_eq_some {α : Type} {entries : List (String × α)} {key : String} {value : α}
    (h : entries.lookup key = some value) : (key, value) ∈ entries := by
  obtain ⟨name, hmem, hname⟩ := Value.mem_of_lookup h
  rwa [eq_of_beq hname]

theorem isSome_lookup {α : Type} {entries : List (String × α)} {key : String} :
    (entries.lookup key).isSome ↔ key ∈ entries.map Prod.fst := by
  rw [List.lookup_isSome_iff, List.mem_map]
  simp only [beq_iff_eq, @eq_comm _ key]

theorem lookup_eq_none {α : Type} {entries : List (String × α)} {key : String} :
    entries.lookup key = none ↔ key ∉ entries.map Prod.fst := by
  rw [← isSome_lookup, Option.not_isSome_iff_eq_none]

namespace Descriptor

/-- A descriptor with the entries whose keys it does not have behind its own. -/
def extended (d : Descriptor) (entries : List (String × Rule)) : Descriptor :=
  d.append (d.added entries)

/-- Each entry is the same as the first one under its key, and a view has all the keys already. -/
structure Admits (d : Descriptor) (entries : List (String × Rule)) : Prop where
  agree : ∀ entry ∈ entries, ∃ rule ∈ (d.properties ++ entries).lookup entry.1, rule.same entry.2
  held : d.table.isView → ∀ entry ∈ entries, (d.properties.lookup entry.1).isSome

variable {d : Descriptor} {first second entries entries' : List (String × Rule)}

/-- Entries whose keys are there already make no difference to look-ups. -/
theorem lookup_extended (key : String) :
    (d.extended entries).properties.lookup key = (d.properties ++ entries).lookup key := by
  rw [extended, properties_append, List.lookup_append, List.lookup_append]
  cases hkey : d.properties.lookup key with
  | some rule => rfl
  | none =>
    rw [Option.none_or, Option.none_or]
    induction entries with
    | nil => rfl
    | cons entry rest ih =>
      obtain ⟨name, rule⟩ := entry
      unfold added at ih ⊢
      rw [List.lookup_cons]
      cases hname : key == name with
      | true =>
        obtain rfl : key = name := eq_of_beq hname
        rw [List.filter_cons_of_pos (by simp [hkey]), List.lookup_cons, hname]
      | false =>
        rw [List.filter_cons, ← ih]
        split
        · rw [List.lookup_cons, hname]
        · rfl

/-- The rule under a key of the entries is the same as that of the entry, and is the entry's own if
the type did not have the key. -/
theorem exists_lookup_extended (hkeys : (entries.map Prod.fst).Nodup)
    (hclashes : ∀ entry ∈ entries, d.clashes entry = false) {key : String} {rule : Rule}
    (h : (key, rule) ∈ entries) :
    (∃ current ∈ d.properties.lookup key, current.same rule ∧
      (d.extended entries).properties.lookup key = some current) ∨
    d.properties.lookup key = none ∧ (d.extended entries).properties.lookup key = some rule := by
  rw [lookup_extended, List.lookup_append, lookup_eq_some_of_mem hkeys h]
  have hclash := hclashes _ h
  unfold clashes at hclash
  cases hcurrent : d.properties.lookup key with
  | none => exact .inr ⟨rfl, rfl⟩
  | some current => exact .inl ⟨current, rfl, by simpa [hcurrent] using hclash, rfl⟩

theorem lookup_extended_append (key : String) :
    ((d.extended first).properties ++ second).lookup key =
      (d.properties ++ (first ++ second)).lookup key := by
  rw [List.lookup_append, lookup_extended, ← List.lookup_append, List.append_assoc]

theorem not_admits_of_refuses {entry : String × Rule} (hmem : entry ∈ entries)
    (h : d.refuses entry = true) : ¬ d.Admits entries := by
  intro hadmits
  rcases Bool.or_eq_true_iff.mp h with hclash | hview
  · obtain ⟨rule, hrule, hsame⟩ := hadmits.agree entry hmem
    unfold clashes at hclash
    cases hcurrent : d.properties.lookup entry.1 with
    | none => simp [hcurrent] at hclash
    | some current =>
      obtain rfl : current = rule := by simpa [List.lookup_append, hcurrent] using hrule
      simp [hcurrent, hsame] at hclash
  · obtain ⟨hview, hnone⟩ := Bool.and_eq_true_iff.mp hview
    have hheld := hadmits.held hview entry hmem
    simp [Option.isNone_iff_eq_none.mp hnone] at hheld

/-- A view takes only entries whose keys it has. -/
theorem isSome_of_not_refuses {entry : String × Rule} (h : d.refuses entry = false)
    (hview : d.table.isView) : (d.properties.lookup entry.1).isSome := by
  have hnone := (Bool.or_eq_false_iff.mp h).2
  rw [hview, Bool.true_and] at hnone
  rw [← Option.not_isNone, hnone]
  rfl

/-- Entries that are not refused, each under a key of its own, can be left out of account once they
have been added. -/
theorem admits_append (hkeys : (first.map Prod.fst).Nodup)
    (hsame : ∀ entry ∈ first, entry.2.same entry.2)
    (hfirst : ∀ entry ∈ first, d.refuses entry = false) :
    d.Admits (first ++ second) ↔ (d.extended first).Admits second := by
  have hstands : ∀ entry ∈ first,
      ∃ rule ∈ (d.properties ++ (first ++ second)).lookup entry.1, rule.same entry.2 := by
    intro entry hentry
    rw [List.lookup_append, List.lookup_append, lookup_eq_some_of_mem hkeys hentry]
    have hclash := clashes_of_not_refuses (hfirst entry hentry)
    unfold clashes at hclash
    cases hcurrent : d.properties.lookup entry.1 with
    | none => exact ⟨entry.2, rfl, hsame entry hentry⟩
    | some current => exact ⟨current, rfl, by simpa [hcurrent] using hclash⟩
  have hlookup : d.table.isView → ∀ key,
      (d.extended first).properties.lookup key = d.properties.lookup key := by
    intro hview key
    have hadded : d.added first = [] := by
      rw [added, List.filter_eq_nil_iff]
      intro entry hentry
      rw [Option.isNone_iff_eq_none]
      exact Option.isSome_iff_ne_none.mp (isSome_of_not_refuses (hfirst entry hentry) hview)
    rw [extended, hadded, append_nil]
  constructor
  · intro h
    refine ⟨fun entry hentry => ?_, fun hview entry hentry => ?_⟩
    · rw [lookup_extended_append]
      exact h.agree entry (List.mem_append_right _ hentry)
    · rw [extended, isView_append] at hview
      rw [hlookup hview]
      exact h.held hview entry (List.mem_append_right _ hentry)
  · intro h
    refine ⟨List.forall_mem_append.mpr ⟨hstands, fun entry hentry => ?_⟩, fun hview =>
      List.forall_mem_append.mpr ⟨fun entry hentry => isSome_of_not_refuses (hfirst entry hentry)
        hview, fun entry hentry => ?_⟩⟩
    · rw [← lookup_extended_append]
      exact h.agree entry hentry
    · rw [← hlookup hview]
      exact h.held (by rwa [extended, isView_append]) entry hentry

/-- What two entries under one key that are both admitted have in common. -/
theorem Admits.same_of_mem (h : d.Admits entries)
    (once : ∀ entry ∈ d.properties ++ entries, entry.2.KeysOnce) {key : String} {rule rule' : Rule}
    (hrule : (key, rule) ∈ entries) (hrule' : (key, rule') ∈ entries) : rule.same rule' := by
  obtain ⟨standing, hstanding, hsame⟩ := h.agree _ hrule
  obtain ⟨standing', hstanding', hsame'⟩ := h.agree _ hrule'
  obtain rfl : standing = standing' := Option.some.inj (hstanding.symm.trans hstanding')
  have honce := once _ (mem_of_lookup_eq_some hstanding)
  have honce' := once _ (List.mem_append_right _ hrule)
  exact Rule.same_trans (Rule.same_symm honce honce' hsame) hsame'

/-- What stands under a key does not depend on the order of the entries, up to sameness. -/
theorem Admits.sameOptional_lookup (h : d.Admits entries)
    (once : ∀ entry ∈ d.properties ++ entries, entry.2.KeysOnce)
    (hentries : ∀ entry, entry ∈ entries ↔ entry ∈ entries') (key : String) :
    sameOptional Rule.same ((d.properties ++ entries).lookup key)
      ((d.properties ++ entries').lookup key) := by
  rw [List.lookup_append, List.lookup_append]
  cases hcurrent : d.properties.lookup key with
  | some current =>
    exact Rule.same_refl (once _ (List.mem_append_left _ (mem_of_lookup_eq_some hcurrent)))
  | none =>
    rw [Option.none_or, Option.none_or]
    cases hrule : entries.lookup key with
    | none =>
      have hnone : entries'.lookup key = none := by
        rw [List.lookup_eq_none_iff] at hrule ⊢
        exact fun entry hentry => hrule entry ((hentries entry).mpr hentry)
      rw [hnone]
      rfl
    | some rule =>
      have hmem := mem_of_lookup_eq_some hrule
      cases hrule' : entries'.lookup key with
      | none =>
        rw [List.lookup_eq_none_iff] at hrule'
        simpa using hrule' _ ((hentries _).mp hmem)
      | some rule' =>
        exact h.same_of_mem once hmem ((hentries _).mpr (mem_of_lookup_eq_some hrule'))

theorem Admits.of_mem_iff (h : d.Admits entries)
    (once : ∀ entry ∈ d.properties ++ entries, entry.2.KeysOnce)
    (hentries : ∀ entry, entry ∈ entries ↔ entry ∈ entries') : d.Admits entries' := by
  refine ⟨fun entry hentry => ?_,
    fun hview entry hentry => h.held hview entry ((hentries entry).mpr hentry)⟩
  obtain ⟨standing, hstanding, hsame⟩ := h.agree entry ((hentries entry).mpr hentry)
  have hlookup := h.sameOptional_lookup once hentries entry.1
  rw [Option.mem_def.mp hstanding] at hlookup
  cases hrule : (d.properties ++ entries').lookup entry.1 with
  | none => simp [hrule, sameOptional] at hlookup
  | some rule =>
    rw [hrule] at hlookup
    have honce := once _ (mem_of_lookup_eq_some hstanding)
    have hmem : (entry.1, rule) ∈ d.properties ++ entries := by
      rw [List.mem_append, hentries]
      exact List.mem_append.mp (mem_of_lookup_eq_some hrule)
    have honce' : rule.KeysOnce := once _ hmem
    exact ⟨rule, rfl, Rule.same_trans (Rule.same_symm honce honce' hlookup) hsame⟩

end Descriptor

namespace Assembly

variable {w : Workbench} {name : String} {d : Descriptor}

/-- An extension of an open registry adds the new entries, or meets one that is refused and
fails. -/
theorem extend_ends (hopen : w.registry.frozen = false) (hd : w.registry.lookup name = .ok d)
    (properties : List (String × Rule)) :
    ((∀ entry ∈ entriesOf properties, d.refuses entry = false) ∧
      ∃ w', (extend name properties).run w = .ok (d.extended (entriesOf properties)) w' ∧
        w'.registry = w.registry.appendTo name (d.added (entriesOf properties))) ∨
    (∃ entry ∈ entriesOf properties, d.refuses entry = true) ∧
      ∃ fault w', (extend name properties).run w = .error fault w' := by
  have hends := batchEnds_extendBy hd (nodup_keys_entriesOf properties)
  rw [run_extend hopen hd]
  generalize ((entriesOf properties).forM fun entry =>
    extendBy name entry.1 entry.2).run w = result at hends
  cases hends with
  | completed hnone =>
    refine .inl ⟨hnone, ?_⟩
    simp only [run_lookup, Registry.lookup_appendTo, hd, Except.map]
    exact ⟨_, rfl, rfl⟩
  | stopped hentries hbefore hentry =>
    exact .inr ⟨⟨_, by simp [hentries], hentry⟩, _, _, rfl⟩

theorem extend_eq_ok {properties : List (String × Rule)} {d' : Descriptor} {w' : Workbench}
    (h : (extend name properties).run w = .ok d' w') :
    ∃ d, w.registry.lookup name = .ok d ∧
      (∀ entry ∈ entriesOf properties, d.clashes entry = false) ∧
      d' = d.extended (entriesOf properties) ∧
      w'.registry = w.registry.appendTo name (d.added (entriesOf properties)) := by
  cases hopen : w.registry.frozen with
  | true =>
    rw [run_extend_of_frozen hopen] at h
    cases h
  | false =>
    cases hd : w.registry.lookup name with
    | error fault =>
      simp only [extend, EStateM.run_bind, run_ensureMutable, hopen, run_discard, run_lookup, hd,
        Bool.false_eq_true, if_false] at h
      cases h
    | ok d =>
      rcases extend_ends hopen hd properties with
        ⟨hnone, w₁, hw₁, hregistry⟩ | ⟨-, fault, w₁, hw₁⟩
      · rw [hw₁] at h
        obtain ⟨rfl, rfl⟩ := EStateM.Result.ok.inj h
        exact ⟨d, rfl, fun entry hentry => Descriptor.clashes_of_not_refuses (hnone entry hentry),
          rfl, hregistry⟩
      · rw [hw₁] at h
        cases h

/-- Extends a type by batch after batch, up to the first that fails. -/
def extendAll (name : String) (batches : List (List (String × Rule))) : Assembly Unit :=
  batches.forM fun properties => discard (extend name properties)

/-- Extensions by several batches succeed if and only if the type admits the entries. Its look-ups
are then those in its own properties and the entries behind them. -/
theorem extendAll_ends (hopen : w.registry.frozen = false) (hd : w.registry.lookup name = .ok d)
    (batches : List (List (String × Rule)))
    (hsame : ∀ entry ∈ batches.flatMap entriesOf, entry.2.same entry.2) :
    (d.Admits (batches.flatMap entriesOf) ∧
      ∃ w' d', (extendAll name batches).run w = .ok () w' ∧ w'.registry.lookup name = .ok d' ∧
        ∀ key, d'.properties.lookup key =
          (d.properties ++ batches.flatMap entriesOf).lookup key) ∨
    ¬ d.Admits (batches.flatMap entriesOf) ∧
      ∃ fault w', (extendAll name batches).run w = .error fault w' := by
  induction batches generalizing w d with
  | nil => exact .inl ⟨⟨by simp, by simp⟩, w, d, rfl, hd, by simp⟩
  | cons properties rest ih =>
    have hrun : (extendAll name (properties :: rest)).run w =
        (discard (extend name properties) >>= fun _ => extendAll name rest).run w := rfl
    rw [hrun, EStateM.run_bind, run_discard, List.flatMap_cons]
    rw [List.flatMap_cons, List.forall_mem_append] at hsame
    rcases extend_ends hopen hd properties with
      ⟨hfirst, w', hw', hregistry⟩ | ⟨⟨entry, hentry, hclash⟩, fault, w', hw'⟩
    · have hd' := @Registry.lookup_appendTo w.registry name (d.added (entriesOf properties))
      rw [← hregistry, hd] at hd'
      have hopen' : w'.registry.frozen = false := by rw [hregistry, ← hopen]; rfl
      rw [hw', Descriptor.admits_append (nodup_keys_entriesOf properties) hsame.1 hfirst]
      simp only [← Descriptor.lookup_extended_append]
      exact ih hopen' hd' hsame.2
    · rw [hw']
      exact .inr ⟨Descriptor.not_admits_of_refuses (List.mem_append_left _ hentry) hclash,
        fault, w', rfl⟩

/-- The same entries come in both lists of batches, in whatever order they come, however they are
divided into batches and however often they are repeated. -/
def SameEntries (batches batches' : List (List (String × Rule))) : Prop :=
  ∀ entry, entry ∈ batches.flatMap entriesOf ↔ entry ∈ batches'.flatMap entriesOf

section SameEntries

variable {batches batches' batches'' : List (List (String × Rule))}

theorem SameEntries.trans (h : SameEntries batches batches') (h' : SameEntries batches' batches'') :
    SameEntries batches batches'' := fun entry => (h entry).trans (h' entry)

theorem sameEntries_of_perm (h : batches.Perm batches') : SameEntries batches batches' :=
  fun _ => (h.flatMap_right entriesOf).mem_iff

/-- A batch in two parts. -/
theorem sameEntries_split {batch first second : List (String × Rule)}
    (h : (entriesOf batch).Perm (entriesOf first ++ entriesOf second)) :
    SameEntries (batch :: batches) (first :: second :: batches) := by
  intro entry
  rw [List.flatMap_cons, List.flatMap_cons, List.flatMap_cons, ← List.append_assoc]
  exact (h.append_right _).mem_iff

theorem sameEntries_repeat {batch : List (String × Rule)} (h : batch ∈ batches) :
    SameEntries batches (batch :: batches) := by
  intro entry
  rw [List.flatMap_cons, List.mem_append]
  exact (or_iff_right_of_imp fun hentry => List.mem_flatMap.mpr ⟨batch, h, hentry⟩).symm

end SameEntries

/-- Whether extensions of a type succeed depends on the entries that come and not on their order,
on how they are divided into batches or on repetitions. Nor does the outcome, up to sameness of
rules: the type has the keys that it had and those of the batches. -/
theorem extendAll_of_sameEntries {batches batches' : List (List (String × Rule))}
    (hopen : w.registry.frozen = false) (hd : w.registry.lookup name = .ok d)
    (once : ∀ entry ∈ d.properties ++ batches.flatMap entriesOf, entry.2.KeysOnce)
    (h : SameEntries batches batches') :
    ((∃ w', (extendAll name batches).run w = .ok () w') ↔
      ∃ w', (extendAll name batches').run w = .ok () w') ∧
    ∀ w₁ w₂, (extendAll name batches).run w = .ok () w₁ →
      (extendAll name batches').run w = .ok () w₂ →
      ∃ d₁ d₂, w₁.registry.lookup name = .ok d₁ ∧ w₂.registry.lookup name = .ok d₂ ∧
        (∀ key, Descriptor.sameOptional Rule.same (d₁.properties.lookup key)
          (d₂.properties.lookup key)) ∧
        ∀ key, key ∈ d₁.properties.map Prod.fst ↔
          key ∈ d.properties.map Prod.fst ∨ ∃ batch ∈ batches, key ∈ batch.map Prod.fst := by
  have once' : ∀ entry ∈ d.properties ++ batches'.flatMap entriesOf, entry.2.KeysOnce := by
    simpa only [List.mem_append, h _] using once
  have hsame : ∀ entry ∈ batches.flatMap entriesOf, entry.2.same entry.2 :=
    fun entry hentry => Rule.same_refl (once entry (List.mem_append_right _ hentry))
  have hsame' : ∀ entry ∈ batches'.flatMap entriesOf, entry.2.same entry.2 :=
    fun entry hentry => hsame entry ((h entry).mpr hentry)
  rcases extendAll_ends hopen hd batches hsame with
    ⟨hadmits, w₁, d₁, hw₁, hd₁, hlookup₁⟩ | ⟨hrefused, fault, w₁, hw₁⟩ <;>
  rcases extendAll_ends hopen hd batches' hsame' with
    ⟨hadmits', w₂, d₂, hw₂, hd₂, hlookup₂⟩ | ⟨hrefused', fault', w₂, hw₂⟩
  · refine ⟨iff_of_true ⟨w₁, hw₁⟩ ⟨w₂, hw₂⟩, ?_⟩
    rw [hw₁, hw₂]
    rintro _ _ ⟨⟩ ⟨⟩
    refine ⟨d₁, d₂, hd₁, hd₂, fun key => ?_, fun key => ?_⟩
    · rw [hlookup₁, hlookup₂]
      exact hadmits.sameOptional_lookup once h key
    · rw [← isSome_lookup, hlookup₁, isSome_lookup, List.map_append, List.mem_append,
        List.map_flatMap, List.mem_flatMap]
      simp only [mem_keys_entriesOf]
  · exact absurd (hadmits.of_mem_iff once h) hrefused'
  · exact absurd (hadmits'.of_mem_iff once' fun entry => (h entry).symm) hrefused
  · rw [hw₁, hw₂]
    exact ⟨by simp, by rintro _ _ ⟨⟩⟩

/-- A rule that admits one value. -/
def only (v : Value) : Rule := .leaf { choices := some [v] }

theorem keysOnce_only (s : Scalar) : (only (.scalar s)).KeysOnce := by
  refine Leaf.keysOnce_iff.mpr ⟨?_, by simp, by simp⟩
  rintro _ ⟨⟩ v hv
  rw [List.mem_singleton.mp hv]
  exact .of_no_members rfl rfl

/-- Two batches with a rule for one key each: not equal rules, but the same. -/
def levels : List (List (String × Rule)) :=
  [[("level", only (.int 1)), ("http", .reference "HttpBinding")], [("level", only (.bool true))]]

/-- The second batch first, then the other one in two parts, of which one is repeated. -/
def scatteredLevels : List (List (String × Rule)) :=
  [[("level", only (.bool true))], [("http", .reference "HttpBinding")], [("level", only (.int 1))],
    [("http", .reference "HttpBinding")]]

theorem sameEntries_levels : SameEntries levels scatteredLevels := by
  let parts : List (List (String × Rule)) :=
    [[("level", only (.int 1))], [("http", .reference "HttpBinding")]]
  let second : List (String × Rule) := [("level", only (.bool true))]
  have hsplit : SameEntries levels (parts ++ [second]) := sameEntries_split (.refl _)
  have hrepeat : SameEntries (parts ++ [second])
      ([("http", .reference "HttpBinding")] :: (parts ++ [second])) :=
    sameEntries_repeat (by simp [parts])
  have hperm : ([("http", .reference "HttpBinding")] :: (parts ++ [second])).Perm
      scatteredLevels :=
    @List.perm_append_comm _ ([("http", Rule.reference "HttpBinding")] :: parts) [second]
  exact (hsplit.trans hrepeat).trans (sameEntries_of_perm hperm)

theorem extendAll_of_sameEntries_levels :
    (∃ w', (extendAll "Bindings" levels).run bindings = .ok () w') ∧
    (∃ w', (extendAll "Bindings" scatteredLevels).run bindings = .ok () w') ∧
    ∀ w₁ w₂, (extendAll "Bindings" levels).run bindings = .ok () w₁ →
      (extendAll "Bindings" scatteredLevels).run bindings = .ok () w₂ →
      ∃ d₁ d₂, w₁.registry.lookup "Bindings" = .ok d₁ ∧ w₂.registry.lookup "Bindings" = .ok d₂ ∧
        (∀ key, Descriptor.sameOptional Rule.same (d₁.properties.lookup key)
          (d₂.properties.lookup key)) ∧
        ∀ key, key ∈ d₁.properties.map Prod.fst ↔
          key ∈ ["kafka"] ∨ ∃ batch ∈ levels, key ∈ batch.map Prod.fst := by
  have hd : bindings.registry.lookup "Bindings" =
      .ok { name := "Bindings", table := .growing [("kafka", .reference "KafkaBinding")] } := rfl
  have hentries : levels.flatMap entriesOf = [("level", only (.int 1)),
      ("http", .reference "HttpBinding"), ("level", only (.bool true))] := rfl
  have once : ∀ entry ∈ [("kafka", Rule.reference "KafkaBinding")] ++ levels.flatMap entriesOf,
      entry.2.KeysOnce := by
    rw [hentries]
    simp [keysOnce_only]
  have h := extendAll_of_sameEntries rfl hd once sameEntries_levels
  have hlevels : ∃ w', (extendAll "Bindings" levels).run bindings = .ok () w' := ⟨_, rfl⟩
  exact ⟨hlevels, h.1.mp hlevels, h.2⟩

end Assembly

end ShapeLint
