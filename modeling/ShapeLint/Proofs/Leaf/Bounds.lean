import Mathlib.Order.WithBot
import ShapeLint.Leaf.Fields
import ShapeLint.Proofs.Document.Holes
import ShapeLint.Proofs.Leaf.Repetition
import ShapeLint.Proofs.Number.Rounding
import ShapeLint.Shapes.Leaves

/-!
Bounds of numbers. A leaf keeps a bound as a number of the binary64 format, which an integer is
rounded to, and compares values with what it keeps, exactly. Main statement: `reports_bound_iff`.
-/
namespace ShapeLint

namespace Quantity

/-- The point of the extended line at which a quantity lies, if it is defined. -/
def point? : Quantity → Option (WithBot (WithTop ℚ))
  | negativeInfinity => some ⊥
  | exactly q => some ((q : WithTop ℚ) : WithBot (WithTop ℚ))
  | positiveInfinity => some ((⊤ : WithTop ℚ) : WithBot (WithTop ℚ))
  | undefined _ => none

theorem below_iff {p q : Quantity} :
    p.below q ↔ ∃ a b, p.point? = some a ∧ q.point? = some b ∧ a < b := by
  have htop : ∀ value : ℚ, ((value : WithTop ℚ) : WithBot (WithTop ℚ)) < ⊤ :=
    fun value => WithBot.coe_lt_coe.mpr (WithTop.coe_lt_top value)
  cases p <;> cases q <;> simp [below, point?, htop]

end Quantity

/-- The two bounds that a leaf may have. -/
inductive Bound where
  | minimum
  | maximum

namespace Bound

def field : Bound → String
  | minimum => "minimum"
  | maximum => "maximum"

/-- The bound as the leaf keeps it. -/
def of (b : Bound) (facets : Facets) : Option Binary64 :=
  match b with
  | minimum => facets.minimum
  | maximum => facets.maximum

/-- The points on the right side of a limit, itself included. -/
def Admits : Bound → WithBot (WithTop ℚ) → WithBot (WithTop ℚ) → Prop
  | minimum, limit, p => limit ≤ p
  | maximum, limit, p => p ≤ limit

def start : Bound → String
  | minimum => "Value must be greater than or equal to "
  | maximum => "Value must be less than or equal to "

/-- The violation of a bound, which tells the number that was compared with. -/
def finding (b : Bound) (kept : Binary64) (path : Path) (typeName : String) : Violation :=
  Leaf.violation .outOfRange typeName path (b.start ++ kept.text ++ ".")

/-- How a number given as a bound is kept: a floating number as it is, an integer as the nearest
one. -/
inductive Keeps : Scalar → Binary64 → Prop where
  | float {x : Binary64} {q : WithBot (WithTop ℚ)}
      (defined : (Quantity.ofBinary64 x).point? = some q) : Keeps (.float x) x
  | int {i : Int} {x : Binary64} (nearest : x.Nearest i) : Keeps (.int i) x

end Bound

namespace Leaf

variable {leaf leaf' : Leaf} {token : Nat} {key : Scalar} {v : Value}
  {entries : List (Scalar × Value)}

/-- Reading a field sets the bound of its name and leaves the other bounds as they are. -/
theorem of_setFacet {facets facets' : Facets} {field : String}
    (h : setFacet token facets field v = .ok facets') (b : Bound) :
    if field = b.field then
      Field.optional b.field (Field.number? token) v = .ok (b.of facets')
    else b.of facets' = b.of facets := by
  unfold setFacet at h
  split at h
  case h_3 | h_4 =>
    obtain ⟨bound, hbound, h⟩ := bind_eq_ok.mp h
    obtain rfl := Except.ok.inj h
    cases b <;> simp [Bound.field, Bound.of, hbound]
  case h_13 =>
    obtain rfl := Except.ok.inj h
    cases b <;> simp_all [Bound.field]
  all_goals
    obtain ⟨_, -, h⟩ := bind_eq_ok.mp h
    obtain rfl := Except.ok.inj h
    cases b <;> simp [Bound.field, Bound.of]

/-- Reading an entry of a leaf's fields sets the bound whose name is the key. -/
theorem ofEntries_cons_eq_ok (h : ofEntries token leaf ((key, v) :: entries) = .ok leaf')
    (b : Bound) : ∃ next, ofEntries token next entries = .ok leaf' ∧
      (key = .text b.field →
        Field.optional b.field (Field.number? token) v = .ok (b.of next.toFacets)) ∧
      (key ≠ .text b.field → b.of next.toFacets = b.of leaf.toFacets) := by
  have hinner : ∀ name ∈ ["items", "additional_properties"],
      Scalar.text name ≠ .text b.field := by
    cases b <;> simp [Bound.field]
  rw [ofEntries.eq_def] at h
  split at h
  case h_1 => contradiction
  case h_2 | h_3 =>
    rename_i heq
    cases heq
    split at h
    · exact ⟨_, h, fun hkey => absurd hkey (hinner _ (by simp)), fun _ => by cases b <;> rfl⟩
    · obtain ⟨inner, -, h⟩ := bind_eq_ok.mp h
      exact ⟨_, h, fun hkey => absurd hkey (hinner _ (by simp)), fun _ => by cases b <;> rfl⟩
  case h_4 =>
    rename_i heq
    cases heq
    obtain ⟨facets, hfacets, h⟩ := bind_eq_ok.mp h
    have hset := of_setFacet hfacets b
    refine ⟨_, h, fun hkey => ?_, fun hkey => ?_⟩
    · obtain rfl := Scalar.text.inj hkey
      rwa [if_pos rfl] at hset
    · rwa [if_neg fun hname => hkey (congrArg Scalar.text hname)] at hset
  case h_5 =>
    rename_i hother heq
    cases heq
    exact ⟨_, h, fun hkey => (hother b.field v (hkey ▸ rfl)).elim, fun _ => rfl⟩

/-- A leaf that is read has the bound that the field of its name gives, and otherwise what it had
before. -/
theorem of_ofEntries (h : ofEntries token leaf entries = .ok leaf')
    (once : (entries.map Prod.fst).Nodup) (b : Bound) :
    match entries.lookup (.text b.field) with
    | some v => Field.optional b.field (Field.number? token) v = .ok (b.of leaf'.toFacets)
    | none => b.of leaf'.toFacets = b.of leaf.toFacets := by
  induction entries generalizing leaf with
  | nil =>
    obtain rfl : leaf = leaf' := by simpa [ofEntries] using h
    rfl
  | cons entry rest ih =>
    obtain ⟨key, v⟩ := entry
    obtain ⟨next, hnext, hnamed, hother⟩ := ofEntries_cons_eq_ok h b
    obtain ⟨hnew, hrest⟩ := List.nodup_cons.mp once
    have hread := ih hnext hrest
    rw [List.lookup_cons]
    cases hbeq : Scalar.text b.field == key with
    | true =>
      obtain rfl := Scalar.eq_text_of_beq hbeq
      have habsent : rest.lookup (.text b.field) = none := by
        refine List.lookup_eq_none_iff.mpr fun entry hentry => ?_
        rw [bne, Bool.not_eq_true']
        refine Bool.eq_false_iff.mpr fun h => hnew ?_
        exact List.mem_map.mpr ⟨entry, hentry, Scalar.eq_text_of_beq h⟩
      rw [habsent] at hread
      rw [hread]
      exact hnamed rfl
    | false =>
      have hkey : key ≠ .text b.field := by
        rintro rfl
        simp at hbeq
      rw [← hother hkey]
      exact hread

theorem optional_eq_ok {α : Type} {field : String} {read? : Value → Option α} {bound : Option α}
    (notNull : v ≠ .null) (h : Field.optional field read? v = .ok bound) :
    ∃ x, read? v = some x ∧ bound = some x := by
  unfold Field.optional at h
  split at h
  · contradiction
  · unfold Field.expect at h
    cases hread : read? v with
    | none =>
      rw [hread] at h
      contradiction
    | some x =>
      rw [hread] at h
      exact ⟨x, rfl, (Except.ok.inj h).symm⟩

/-- The point of the extended line that a number is. -/
def point? (v : Value) : Option (WithBot (WithTop ℚ)) :=
  (boundedQuantity? v).bind Quantity.point?

theorem point?_int (i : Int) :
    point? (.int i) = some (((i : ℚ) : WithTop ℚ) : WithBot (WithTop ℚ)) := rfl

theorem int_le_int_iff {i j : Int} :
    (∃ limit p, point? (.int i) = some limit ∧ point? (.int j) = some p ∧ limit ≤ p) ↔ i ≤ j := by
  simp [point?_int]

/-- A number that is given as a bound and read is kept. -/
theorem keeps_of_optional {given : Scalar} {field : String} {bound : Option Binary64}
    {limit : WithBot (WithTop ℚ)} (number : point? (.scalar given) = some limit)
    (h : Field.optional field (Field.number? token) (.scalar given) = .ok bound) :
    ∃ kept, bound = some kept ∧ Bound.Keeps given kept := by
  have notNull : Value.scalar given ≠ .null := by
    rintro heq
    rw [heq] at number
    contradiction
  obtain ⟨kept, hkept, rfl⟩ := optional_eq_ok notNull h
  refine ⟨kept, rfl, ?_⟩
  cases given with
  | int i =>
    simp only [Field.number?, Option.ite_none_right_eq_some, Option.some.injEq] at hkept
    obtain ⟨isFinite, rfl⟩ := hkept
    exact .int (Binary64.nearest_ofInt isFinite)
  | float x =>
    obtain rfl := Option.some.inj hkept
    exact .float number
  | null | bool b | text s | date d => simp [point?, boundedQuantity?] at number

/-- What is kept is a point of the extended line. -/
theorem exists_point_of_keeps {given : Scalar} {kept : Binary64} (h : Bound.Keeps given kept) :
    ∃ limit, (Quantity.ofBinary64 kept).point? = some limit := by
  cases h with
  | float defined => exact ⟨_, defined⟩
  | int nearest =>
    obtain ⟨q, hq, -⟩ := nearest.nearest
    cases kept with
    | finite negative significand exponent =>
      exact ⟨_, by simp [Quantity.ofBinary64, hq, Quantity.point?]; rfl⟩
    | infinite negative => contradiction
    | nan token => contradiction

/-- A leaf that looks at the facets of a value of this kind: one that is resolvable, is no example
and does not expect another type. -/
structure Compares (leaf : Leaf) (v : Value) : Prop where
  resolvable : leaf.resolvable
  checked : leaf.isExample = false
  typed : ∀ expected, nonempty? leaf.type = some expected → matchesType expected v

/-- A leaf whose choices refuse the value, though the message can name the value or a choice only
with a number that cannot be written. -/
structure Unspeakable (leaf : Leaf) (v : Value) : Prop where
  compares : leaf.Compares v
  refused : ∃ choices ∈ leaf.choices, ¬ choices.any (v.same ·) ∧ ¬ ∀ x ∈ v :: choices, x.isWritable

/-- A number has no text to match and no members, so its facets are its choices and its bounds. -/
theorem checkFacets_number (leaf : Leaf) {q : Quantity} (number : boundedQuantity? v = some q)
    (path : Path) (typeName : String) :
    checkFacets leaf.toFacets v path typeName =
      (checkChoices leaf.toFacets v path typeName).map
        (· ++ checkBounds leaf.toFacets v path typeName) ∧
    leaf.checkInner v path typeName = .ok [] := by
  cases v with
  | scalar s =>
    refine ⟨?_, rfl⟩
    have hpattern : checkPattern leaf.toFacets (.scalar s) path typeName = .ok [] := by
      unfold checkPattern
      split
      · rename_i heq
        cases heq
        contradiction
      · rfl
    have hcardinality : checkCardinality leaf.toFacets (.scalar s) path typeName = .ok [] := rfl
    unfold checkFacets
    rw [hpattern, hcardinality]
    cases checkChoices leaf.toFacets (.scalar s) path typeName with
    | error fault => rfl
    | ok found =>
      show Except.ok (_ ++ _ ++ [] ++ []) = Except.ok _
      rw [List.append_nil, List.append_nil]
  | _ => contradiction

/-- The checks of a number against a leaf: one that cannot be told fails, and any other finds
numbers out of range by the bounds only. -/
theorem check_number (leaf : Leaf) {q : Quantity} (number : boundedQuantity? v = some q)
    (path : Path) (typeName : String) :
    leaf.Unspeakable v ∧ leaf.check v path typeName = .error .unwritable ∨
    ¬ leaf.Unspeakable v ∧ ∃ found, leaf.check v path typeName = .ok found ∧
      ∀ x : Violation, x.code = .outOfRange →
        (x ∈ found ↔ leaf.Compares v ∧ x ∈ checkBounds leaf.toFacets v path typeName) := by
  obtain ⟨hfacets, hinner⟩ := checkFacets_number leaf number path typeName
  -- A leaf that does not compare the value finds nothing out of range.
  have overlooks {found : List Violation} (apart : ¬ leaf.Compares v)
      (hcheck : leaf.check v path typeName = .ok found)
      (hcode : ∀ x ∈ found, x.code ≠ .outOfRange) :
      ¬ leaf.Unspeakable v ∧ ∃ found, leaf.check v path typeName = .ok found ∧
        ∀ x : Violation, x.code = .outOfRange →
          (x ∈ found ↔ leaf.Compares v ∧ x ∈ checkBounds leaf.toFacets v path typeName) :=
    ⟨fun h => apart h.compares, found, hcheck,
      fun x hx => iff_of_false (fun h => hcode x h hx) fun h => apart h.1⟩
  cases hresolvable : leaf.resolvable with
  | false =>
    refine .inr (overlooks (fun h => ?_) (by rw [check_eq, hresolvable]; rfl) (by simp))
    exact absurd h.resolvable (by simp [hresolvable])
  | true =>
    cases htype : (nonempty? leaf.type).filter (!matchesType · v) with
    | some expected =>
      refine .inr (overlooks (fun h => ?_) (by rw [check_eq, hresolvable, htype]; rfl)
        (by simp [typeMismatch]))
      obtain ⟨hexpected, hmismatch⟩ := Option.filter_eq_some_iff.mp htype
      simp [h.typed expected hexpected] at hmismatch
    | none =>
      have typed : ∀ expected, nonempty? leaf.type = some expected → matchesType expected v := by
        intro expected hexpected
        simpa [hexpected] using htype
      cases hexample : leaf.isExample with
      | true =>
        refine .inr (overlooks (fun h => ?_)
          (by rw [check_eq, hresolvable, htype, hexample]; rfl) (by simp))
        exact absurd h.checked (by simp [hexample])
      | false =>
        have compares : leaf.Compares v := ⟨hresolvable, hexample, typed⟩
        rw [check_eq, hresolvable, htype, hexample, hfacets, hinner]
        cases hchoices : checkChoices leaf.toFacets v path typeName with
        | error fault =>
          obtain ⟨refused, rfl⟩ := checkChoices_eq_error.mp hchoices
          exact .inl ⟨⟨compares, refused⟩, rfl⟩
        | ok found =>
          refine .inr ⟨fun h => ?_, _, rfl, fun x hx => ?_⟩
          · have hfault := hchoices.symm.trans (checkChoices_eq_error.mpr ⟨h.refused, rfl⟩)
            contradiction
          · have hnot : x ∉ found := by
              intro hmem
              rw [(own_checkChoices hchoices).code x hmem] at hx
              contradiction
            rw [List.append_nil, List.mem_append, or_iff_right hnot]
            exact (and_iff_right compares).symm

end Leaf

namespace Bound

variable {b : Bound} {q : Quantity} {kept : Binary64} {limit : WithBot (WithTop ℚ)}
  {facets : Facets} {path : Path} {typeName : String}

/-- Whether a quantity is on the wrong side of a bound. -/
def breaks (b : Bound) (q : Quantity) (kept : Binary64) : Bool :=
  match b with
  | minimum => q.below (.ofBinary64 kept)
  | maximum => (Quantity.ofBinary64 kept).below q

/-- What is found about one bound. -/
def found (b : Bound) (facets : Facets) (q : Quantity) (path : Path) (typeName : String) :
    List Violation :=
  match b.of facets with
  | some kept => if b.breaks q kept then [b.finding kept path typeName] else []
  | none => []

theorem checkBounds_eq {v : Value} (number : Leaf.boundedQuantity? v = some q) :
    Leaf.checkBounds facets v path typeName =
      minimum.found facets q path typeName ++ maximum.found facets q path typeName := by
  unfold Leaf.checkBounds
  rw [number]
  rfl

/-- What is not defined is on no side of a bound. -/
theorem breaks_iff (h : (Quantity.ofBinary64 kept).point? = some limit) :
    b.breaks q kept ↔ ∃ p, q.point? = some p ∧ ¬ b.Admits limit p := by
  cases b with
  | minimum => simp [breaks, Quantity.below_iff, h, Admits]
  | maximum => simp [breaks, Quantity.below_iff, h, Admits]

/-- The findings of the two bounds are told apart by their messages. -/
theorem finding_ne {b' : Bound} {kept' : Binary64} (h : b ≠ b') :
    b.finding kept path typeName ≠ b'.finding kept' path typeName := by
  intro heq
  have hmessage : b.start ++ (kept.text ++ ".") = b'.start ++ (kept'.text ++ ".") := by
    simpa [finding, Leaf.violation, String.append_assoc] using heq
  refine append_ne_append ?_ ?_ _ _ hmessage
  · cases b <;> cases b' <;> first | contradiction | decide
  · cases b <;> cases b' <;> first | contradiction | decide

theorem mem_found {b' : Bound} (hkept : b.of facets = some kept) :
    b.finding kept path typeName ∈ b'.found facets q path typeName ↔
      b' = b ∧ b.breaks q kept := by
  by_cases h : b' = b
  · subst h
    unfold found
    rw [hkept]
    by_cases hbreaks : b'.breaks q kept <;> simp [hbreaks]
  · refine iff_of_false (fun hmem => ?_) fun hboth => h hboth.1
    unfold found at hmem
    split at hmem
    · split at hmem
      · exact finding_ne (Ne.symm h) (List.mem_singleton.mp hmem)
      · contradiction
    · contradiction

/-- A bound that is kept is reported for the quantities on its wrong side. -/
theorem mem_checkBounds {v : Value} (number : Leaf.boundedQuantity? v = some q)
    (hkept : b.of facets = some kept) (h : (Quantity.ofBinary64 kept).point? = some limit) :
    b.finding kept path typeName ∈ Leaf.checkBounds facets v path typeName ↔
      ∃ p, q.point? = some p ∧ ¬ b.Admits limit p := by
  rw [← breaks_iff h, checkBounds_eq number, List.mem_append, mem_found hkept, mem_found hkept]
  cases b <;> simp

end Bound

/-- A number is reported for a bound that its leaf was given if and only if the leaf looks at the
number and the number is not on the right side of what the leaf keeps of the bound. A NaN is on no
side. The check fails only where the choices refuse a number and cannot tell. -/
theorem reports_bound_iff {token identity : Nat} {fields : List (Scalar × Value)} {leaf : Leaf}
    (read : Leaf.ofValue token (.mapping identity fields) = .ok leaf)
    (once : (fields.map Prod.fst).Nodup) {b : Bound} {given : Scalar}
    (declared : fields.lookup (.text b.field) = some (.scalar given))
    (defined : (Leaf.point? (.scalar given)).isSome) {v : Value}
    (number : (Leaf.boundedQuantity? v).isSome) (path : Path) (typeName : String) :
    ∃ kept limit, b.of leaf.toFacets = some kept ∧ Bound.Keeps given kept ∧
      (Quantity.ofBinary64 kept).point? = some limit ∧
      (leaf.Unspeakable v ∧ leaf.check v path typeName = .error .unwritable ∨
       ¬ leaf.Unspeakable v ∧ ∃ found, leaf.check v path typeName = .ok found ∧
        (b.finding kept path typeName ∈ found ↔
          leaf.Compares v ∧ ∃ p, Leaf.point? v = some p ∧ ¬ b.Admits limit p)) := by
  obtain ⟨q, hq⟩ := Option.isSome_iff_exists.mp number
  obtain ⟨point, hpoint⟩ := Option.isSome_iff_exists.mp defined
  have hread := Leaf.of_ofEntries read once b
  rw [declared] at hread
  obtain ⟨kept, hkept, keeps⟩ := Leaf.keeps_of_optional hpoint hread
  obtain ⟨limit, hlimit⟩ := Leaf.exists_point_of_keeps keeps
  refine ⟨kept, limit, hkept, keeps, hlimit, ?_⟩
  refine (Leaf.check_number leaf hq path typeName).imp_right (And.imp_right ?_)
  rintro ⟨found, hfound, hreports⟩
  refine ⟨found, hfound, ?_⟩
  have hvalue : Leaf.point? v = q.point? := by rw [Leaf.point?, hq]; rfl
  rw [hreports _ rfl, Bound.mem_checkBounds hq hkept hlimit, hvalue]

/-- The fields of a leaf for natural numbers. -/
def naturalFields : List (Scalar × Value) :=
  [(.text "type", .text "integer"), (.text "minimum", .int 0)]

/-- A negative number is reported by a leaf for natural numbers. -/
theorem reports_bound_iff_natural :
    Leaf.ofValue 0 (.mapping 0 naturalFields) = .ok Leaf.natural ∧
      ∃ found, Leaf.natural.check (.int (-5)) [] "" = .ok found ∧
        Bound.minimum.finding Leaf.zero [] "" ∈ found := by
  refine ⟨rfl, ?_⟩
  obtain ⟨kept, limit, hkept, -, hlimit, hchecked⟩ :=
    @reports_bound_iff 0 0 naturalFields Leaf.natural rfl (by simp [naturalFields])
      .minimum (.int 0) rfl rfl (.int (-5)) rfl [] ""
  obtain ⟨-, found, hfound, hiff⟩ := hchecked.resolve_left fun h => by
    obtain ⟨choices, hchoices, -⟩ := h.1.refused
    cases hchoices
  obtain rfl : Leaf.zero = kept := Option.some.inj hkept
  have hpoint : (Quantity.ofBinary64 (.finite false 0 Binary64.minExponent)).point? =
      some (((0 : ℚ) : WithTop ℚ) : WithBot (WithTop ℚ)) := by
    simp [Quantity.ofBinary64, Binary64.toRat?, Quantity.point?]
  obtain rfl := Option.some.inj (hlimit.symm.trans hpoint)
  refine ⟨found, hfound, hiff.mpr ⟨⟨rfl, rfl, ?_⟩, _, rfl, ?_⟩⟩
  · rintro expected hexpected
    obtain rfl := Option.some.inj hexpected
    rfl
  · have hbelow : ((-5 : ℚ) : WithTop ℚ) < ((0 : ℚ) : WithTop ℚ) :=
      WithTop.coe_lt_coe.mpr (by norm_num)
    exact (WithBot.coe_lt_coe.mpr hbelow).not_ge

/-! What bounds do not do. -/

/-- A leaf with a minimum reports the number if and only if the minimum, as it was given, is not at
most the number. -/
def ReportsAsGiven (given : Scalar) (rest : List (Scalar × Value)) (v : Value) : Prop :=
  ∃ leaf found,
    Leaf.ofValue 0 (.mapping 0 ((.text "minimum", .scalar given) :: rest)) = .ok leaf ∧
    leaf.check v [] "" = .ok found ∧
    ((∃ x ∈ found, x.code = .outOfRange) ↔
      ¬ ∃ limit p, Leaf.point? (.scalar given) = some limit ∧ Leaf.point? v = some p ∧ limit ≤ p)

theorem not_reportsAsGiven {given : Scalar} {rest : List (Scalar × Value)} {v : Value}
    {q : Quantity} (leaf : Leaf)
    (read : Leaf.ofValue 0 (.mapping 0 ((.text "minimum", .scalar given) :: rest)) = .ok leaf)
    (number : Leaf.boundedQuantity? v = some q)
    (silent : leaf.Compares v → Leaf.checkBounds leaf.toFacets v [] "" = [])
    (short : ¬ ∃ limit p,
      Leaf.point? (.scalar given) = some limit ∧ Leaf.point? v = some p ∧ limit ≤ p) :
    ¬ ReportsAsGiven given rest v := by
  rintro ⟨leaf', found, hread, hfound, hiff⟩
  obtain rfl := Except.ok.inj (read.symm.trans hread)
  obtain ⟨-, found', hfound', hreports⟩ :=
    (Leaf.check_number leaf number [] "").resolve_left fun h => by simp [h.2] at hfound
  obtain rfl := Except.ok.inj (hfound.symm.trans hfound')
  obtain ⟨x, hx, hcode⟩ := hiff.mpr short
  obtain ⟨compares, hmem⟩ := (hreports x hcode).mp hx
  rw [silent compares] at hmem
  exact List.not_mem_nil hmem

/-- An integer is not compared with as it was given, a NaN is not reported, and neither is what a
leaf takes as it stands. -/
theorem not_reportsAsGiven_always :
    ¬ ReportsAsGiven (.int (2 ^ 53 + 1)) [] (.int (2 ^ 53)) ∧
      ¬ ReportsAsGiven (.int 0) [] (.scalar (.float (.nan 0))) ∧
      ¬ ReportsAsGiven (.int 0) [(.text "resolvable", .scalar (.bool false))] (.int (-5)) := by
  refine ⟨?_, ?_, ?_⟩
  · have hrounded : Binary64.ofInt (2 ^ 53 + 1) = .finite false (2 ^ 52) 1 := rfl
    refine not_reportsAsGiven { minimum := some (.ofInt (2 ^ 53 + 1)) } rfl rfl (fun _ => ?_) ?_
    · rw [Bound.checkBounds_eq rfl, hrounded]
      norm_num [Bound.found, Bound.of, Bound.breaks, Quantity.below, Quantity.ofInt,
        Quantity.ofBinary64, Binary64.toRat?]
    · exact fun h => absurd (Leaf.int_le_int_iff.mp h) (by decide)
  · refine not_reportsAsGiven { minimum := some Leaf.zero } rfl rfl (fun _ => rfl) ?_
    rintro ⟨limit, p, -, hp, -⟩
    contradiction
  · refine not_reportsAsGiven { minimum := some Leaf.zero, resolvable := false } rfl rfl
      (fun h => ?_) ?_
    · exact absurd h.resolvable (by decide)
    · exact fun h => absurd (Leaf.int_le_int_iff.mp h) (by decide)

end ShapeLint
