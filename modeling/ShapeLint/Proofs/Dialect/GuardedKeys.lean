import ShapeLint.Proofs.Dialect.Definitions
import ShapeLint.Proofs.Pattern.Spelling
import ShapeLint.Proofs.Registry.Extensions

/-!
Maps whose keys follow a grammar: the response codes of both OpenAPI dialects and the server names
of AsyncAPI. They are recognised as by the searches for their patterns, which overlook a line feed
that ends a key. Main statement: `guards_upToFinalBreak`.
-/
namespace ShapeLint

namespace Shapes

def IsAsciiDigit (c : Char) : Prop := '0' ≤ c ∧ c ≤ '9'

def IsAsciiLetter (c : Char) : Prop := ('A' ≤ c ∧ c ≤ 'Z') ∨ ('a' ≤ c ∧ c ≤ 'z')

instance (c : Char) : Decidable (IsAsciiDigit c) := inferInstanceAs (Decidable (_ ∧ _))

instance (c : Char) : Decidable (IsAsciiLetter c) := inferInstanceAs (Decidable (_ ∨ _))

/-- A digit and two characters that are digits or letters X. -/
def IsResponseCode (cs : List Char) : Prop :=
  ∃ a b c, cs = [a, b, c] ∧ IsAsciiDigit a ∧ ∀ x ∈ [b, c], IsAsciiDigit x ∨ x = 'X' ∨ x = 'x'

/-- Letters, digits, underscores and hyphens, at least one of them. -/
def IsServerName (cs : List Char) : Prop :=
  cs ≠ [] ∧ ∀ c ∈ cs, IsAsciiLetter c ∨ IsAsciiDigit c ∨ c = '_' ∨ c = '-'

/-- A word of the grammar, which a line feed may follow. -/
def UpToFinalBreak (Grammar : List Char → Prop) (cs : List Char) : Prop :=
  ∃ word, Grammar word ∧ (cs = word ∨ cs = word ++ ['\n'])

theorem isDigit_iff {c : Char} : c.isDigit ↔ IsAsciiDigit c := by
  simp [Char.isDigit, IsAsciiDigit, Char.le_def]

theorem isAlpha_iff {c : Char} : c.isAlpha ↔ IsAsciiLetter c := by
  have hupper : c.isUpper ↔ 'A' ≤ c ∧ c ≤ 'Z' := decide_eq_true_iff
  have hlower : c.isLower ↔ 'a' ≤ c ∧ c ≤ 'z' := by
    exact Bool.and_eq_true_iff.trans (and_congr decide_eq_true_iff decide_eq_true_iff)
  have hletter : c.isAlpha ↔ c.isUpper ∨ c.isLower := Bool.or_eq_true_iff
  rw [hletter, hupper, hlower, IsAsciiLetter]

/-- A word that has no line feed is found in a text by dropping a final one. -/
theorem upToFinalBreak_iff {Grammar : List Char → Prop}
    (unbroken : ∀ word, Grammar word → '\n' ∉ word) {cs : List Char} :
    UpToFinalBreak Grammar cs ↔ Grammar (withoutFinalBreak cs) := by
  unfold withoutFinalBreak
  constructor
  · rintro ⟨word, hword, rfl | rfl⟩
    · have hlast : cs.getLast? ≠ some '\n' :=
        fun h => unbroken cs hword (List.mem_of_getLast? h)
      rwa [if_neg hlast]
    · rwa [if_pos (List.getLast?_concat), List.dropLast_concat]
  · intro h
    split at h
    · rename_i hlast
      have hsplit : cs.dropLast ++ ['\n'] = cs := List.dropLast_append_getLast? '\n' hlast
      exact ⟨cs.dropLast, h, .inr hsplit.symm⟩
    · exact ⟨cs, h, .inl rfl⟩

theorem IsResponseCode.unbroken {cs : List Char} (h : IsResponseCode cs) : '\n' ∉ cs := by
  obtain ⟨a, b, c, rfl, ha, hrest⟩ := h
  intro hmem
  rcases List.mem_cons.mp hmem with rfl | hmem
  · exact absurd ha (by decide)
  · exact absurd (hrest _ hmem) (by decide)

theorem IsServerName.unbroken {cs : List Char} (h : IsServerName cs) : '\n' ∉ cs := by
  intro hmem
  exact absurd (h.2 _ hmem) (by decide)

theorem isResponseCode_iff {key : String} :
    isResponseCode key ↔ UpToFinalBreak IsResponseCode key.toList := by
  rw [upToFinalBreak_iff fun _ => IsResponseCode.unbroken]
  unfold isResponseCode IsResponseCode
  split
  · rename_i a b c hname
    simp [hname, isDigit_iff, or_assoc]
  · rename_i hname
    exact iff_of_false (by simp) fun ⟨a, b, c, h, _⟩ => hname a b c h

theorem isServerName_iff {key : String} :
    isServerName key ↔ UpToFinalBreak IsServerName key.toList := by
  rw [upToFinalBreak_iff fun _ => IsServerName.unbroken]
  simp [isServerName, IsServerName, Char.isAlphanum, isDigit_iff, isAlpha_iff, or_assoc]

section Patterns

open Pattern

theorem admits_digit {c : Char} : Admits false [.between '0' '9'] c ↔ IsAsciiDigit c := by
  simp [Admits, CharClass.holds, IsAsciiDigit]

theorem holds_single {a c : Char} : (CharClass.single a).holds c = true ↔ c = a := by
  simp only [CharClass.single, CharClass.holds, Bool.and_eq_true, decide_eq_true_iff]
  constructor
  · exact fun h => Char.le_antisymm h.2 h.1
  · rintro rfl
    exact ⟨Char.le_refl _, Char.le_refl _⟩

theorem admits_digitOrX {c : Char} :
    Admits false [.between '0' '9', .single 'X', .single 'x'] c ↔
      IsAsciiDigit c ∨ c = 'X' ∨ c = 'x' := by
  simp [Admits, holds_single, CharClass.holds, IsAsciiDigit]

theorem admits_serverName {c : Char} :
    Admits false [.between 'A' 'Z', .between 'a' 'z', .between '0' '9', .single '_', .single '-']
      c ↔ IsAsciiLetter c ∨ IsAsciiDigit c ∨ c = '_' ∨ c = '-' := by
  simp [Admits, holds_single, CharClass.holds, IsAsciiDigit, IsAsciiLetter, or_assoc]

theorem isResponseCode_iff_mem {word : List Char} : IsResponseCode word ↔
    word ∈ (char false [.between '0' '9']).language *
      (repeated (char false [.between '0' '9', .single 'X', .single 'x']) 2 (some 2)).language := by
  rw [Language.mem_mul]
  constructor
  · rintro ⟨a, b, c, rfl, ha, hrest⟩
    refine ⟨[a], ⟨a, rfl, admits_digit.mpr ha⟩, [b, c], ?_, rfl⟩
    refine mem_language_repeated_char.mpr ⟨by simp, by simp, fun x hx => ?_⟩
    exact admits_digitOrX.mpr (hrest x hx)
  · rintro ⟨_, ⟨a, rfl, ha⟩, rest, hrest, rfl⟩
    obtain ⟨hleast, hmost, hall⟩ := mem_language_repeated_char.mp hrest
    obtain ⟨b, c, rfl⟩ := List.length_eq_two.mp (le_antisymm (hmost 2 rfl) hleast)
    exact ⟨a, b, c, rfl, admits_digit.mp ha, fun x hx => admits_digitOrX.mp (hall x hx)⟩

/-- Response codes are recognised by the search for their pattern. -/
theorem search?_responseCode :
    (TextPattern.ofText "^[0-9][0-9Xx]{2}$").search? = some isResponseCode := by
  have hread : Pattern.ofText? "^[0-9][0-9Xx]{2}$" = some (.sequence .start
      (.sequence (.char false [.between '0' '9']) (.sequence
        (.repeated (.char false [.between '0' '9', .single 'X', .single 'x']) 2 (some 2))
        .finish))) := rfl
  rw [TextPattern.ofText, hread, Option.map_some, Option.some.injEq]
  funext key
  rw [Bool.eq_iff_iff, occursIn_anchored_sequence rfl rfl, isResponseCode_iff]
  simp only [UpToFinalBreak, isResponseCode_iff_mem]

/-- Server names are recognised by the search for their pattern. -/
theorem search?_serverName :
    (TextPattern.ofText "^[A-Za-z0-9_\\-]+$").search? = some isServerName := by
  have hread : Pattern.ofText? "^[A-Za-z0-9_\\-]+$" = some (.sequence .start (.sequence
      (.repeated (.char false
        [.between 'A' 'Z', .between 'a' 'z', .between '0' '9', .single '_', .single '-']) 1 none)
      .finish)) := rfl
  rw [TextPattern.ofText, hread, Option.map_some, Option.some.injEq]
  funext key
  rw [Bool.eq_iff_iff, occursIn_anchored rfl, isServerName_iff]
  simp only [UpToFinalBreak, IsServerName, mem_language_repeated_char, admits_serverName]
  simp [Nat.one_le_iff_ne_zero]

end Patterns

end Shapes

/-- The texts that a descriptor takes for keys of children of one type, of whatever value. It
rejects the others. -/
def Descriptor.Guards (d : Descriptor) (target : String) (Admits : String → Prop) : Prop :=
  ∀ (key : String) (v : Value),
    (Admits key → (d.resolveChild (.text key) v).outcome = .ok ⟨.key key, .reference target⟩) ∧
    (¬ Admits key → (d.resolveChild (.text key) v).outcome = .ok ⟨.key key, .rejected⟩)

namespace Descriptor

variable {d : Descriptor} {target : String} {Admits Admits' : String → Prop}

theorem Guards.congr (h : d.Guards target Admits) (hiff : ∀ key, Admits key ↔ Admits' key) :
    d.Guards target Admits' := by
  intro key v
  rw [← hiff key]
  exact h key v

/-- A copy under another name takes the same keys. -/
theorem Guards.copied (h : d.Guards target Admits) (name : String) :
    (d.copied name).Guards target Admits := by
  intro key v
  rw [outcome_resolveChild_text]
  have hkey := h key v
  rw [outcome_resolveChild_text] at hkey
  exact hkey

theorem Guards.freeze (h : d.Guards target Admits) : d.freeze.Guards target Admits := by
  intro key v
  rw [resolveChild_freeze]
  exact h key v

/-- The keys that a descriptor takes can be told from its outcomes. -/
theorem Guards.unique (h : d.Guards target Admits) (h' : d.Guards target Admits') (key : String) :
    Admits key → Admits' key := by
  intro hkey
  by_contra hnot
  have haccepted := (h key .null).1 hkey
  have hrejected := (h' key .null).2 hnot
  rw [haccepted] at hrejected
  cases hrejected

/-- Named children of one type beside a function that picks this type or none. -/
theorem guards_of_pick {f : Resolver} (admits : String → Bool) (hitems : d.items = none)
    (hextensions : d.extensions = none) (hadditional : d.additional = some (.computed f))
    (hproperties : ∀ entry ∈ d.properties, entry.2 = .reference target)
    (hpick : ∀ key v, f.pick v (.text key) =
      .ok (if admits key then some (.reference target) else none)) :
    d.Guards target fun key => key ∈ d.properties.map Prod.fst ∨ admits key := by
  intro key v
  have hruling : d.ruling (.text key) v = .ok
      (if key ∈ d.properties.map Prod.fst ∨ admits key then .reference target else .rejected) := by
    unfold ruling
    rw [hitems]
    dsimp only
    cases hlookup : d.properties.lookup key with
    | some rule =>
      have hmem := mem_of_lookup_eq_some hlookup
      obtain rfl : rule = .reference target := hproperties _ hmem
      have hkey : key ∈ d.properties.map Prod.fst := List.mem_map_of_mem hmem
      rw [if_pos (Or.inl hkey)]
      rfl
    | none =>
      have hnot : key ∉ d.properties.map Prod.fst := lookup_eq_none.mp hlookup
      have hothers : d.rulingOnOthers (.text key) v =
          .ok (if admits key then .reference target else .rejected) := by
        unfold rulingOnOthers Ruling.ofRule
        rw [hadditional]
        dsimp only
        rw [hpick]
        cases admits key <;> rfl
      simp [isExtension, hextensions, nonempty?, hnot, hothers]
  rw [outcome_resolveChild_text, hruling]
  constructor
  · intro h
    rw [if_pos h]
    rfl
  · intro h
    rw [if_neg h]
    rfl

end Descriptor

namespace Dialect

open Shapes

/-- The built registry of a dialect has a type that guards its keys. -/
def Guards (d : Dialect) (settings : Settings) (type target : String)
    (Admits : String → Prop) : Prop :=
  ∃ r descriptor, (d.build settings).outcome = .ok r ∧ r.lookup type = .ok descriptor ∧
    descriptor.Guards target Admits

theorem Guards.unique {d : Dialect} {settings : Settings} {type target : String}
    {Admits Admits' : String → Prop} (h : d.Guards settings type target Admits)
    (h' : d.Guards settings type target Admits') (key : String) : Admits key → Admits' key := by
  obtain ⟨r, descriptor, built, found, hguards⟩ := h
  obtain ⟨r', descriptor', built', found', hguards'⟩ := h'
  obtain rfl := Except.ok.inj (built.symm.trans built')
  obtain rfl := Except.ok.inj (found.symm.trans found')
  exact hguards.unique hguards' key

variable (settings : Settings)

/-- The keys of a type of the dialect's list that guards them are those of the built registry. -/
theorem guards_of_mem {d : Dialect} (entry : String × Descriptor) {target : String}
    {Admits : String → Prop} (listed : entry ∈ d.types)
    (unextended : entry.1 ∉ extendedTypes)
    (h : entry.2.Guards target Admits) : d.Guards settings entry.1 target Admits := by
  have built := d.outcome_build settings
  refine ⟨_, _, built, lookup_build_of_mem settings built listed unextended, ?_⟩
  split
  · exact (h.copied entry.1).freeze
  · exact h.copied entry.1

theorem guards_responses {d : Dialect} (openApi : d = openApi3 ∨ d = openApi2) :
    d.Guards settings "Responses" "Response" fun key =>
      key = "default" ∨ UpToFinalBreak IsResponseCode key.toList := by
  have hunextended : "Responses" ∉ extendedTypes := by decide
  have hkeys : ∀ key, (key ∈ ["default"] ∨ isResponseCode key) ↔
      (key = "default" ∨ UpToFinalBreak IsResponseCode key.toList) := by
    intro key
    rw [isResponseCode_iff, List.mem_singleton]
  have hpick : ∀ key, pickResponse key =
      if isResponseCode key then some (.reference "Response") else none := fun _ => rfl
  rcases openApi with rfl | rfl
  · refine guards_of_mem settings ("Responses", OpenApi3.responses) ?_ hunextended
      ((Descriptor.guards_of_pick isResponseCode rfl rfl rfl ?_ fun key v => ?_).congr hkeys)
    · simp [types, OpenApi3.types]
    · intro entry hentry
      obtain rfl := List.mem_singleton.mp hentry
      rfl
    · exact congrArg Except.ok (hpick key)
  · refine guards_of_mem settings ("Responses", OpenApi2.responses) ?_ hunextended
      ((Descriptor.guards_of_pick isResponseCode rfl rfl rfl ?_ fun key v => ?_).congr hkeys)
    · simp [types, OpenApi2.types]
    · intro entry hentry
      obtain rfl := List.mem_singleton.mp hentry
      rfl
    · exact congrArg Except.ok (hpick key)

theorem guards_serverMap :
    asyncApi2.Guards settings "ServerMap" "Server" fun key =>
      UpToFinalBreak IsServerName key.toList := by
  refine guards_of_mem settings ("ServerMap", AsyncApi2.serverMap) ?_ ?_
    ((Descriptor.guards_of_pick isServerName rfl rfl rfl ?_ fun key v => rfl).congr
      fun key => ?_)
  · simp [types, AsyncApi2.types]
  · decide
  · intro entry hentry
    exact absurd hentry List.not_mem_nil
  · rw [isServerName_iff]
    exact or_iff_right List.not_mem_nil

/-- Keys of responses are `default` and codes, keys of servers are names. The built registries
take just these, and what such a code or name becomes when a line feed is put behind it. -/
theorem guards_upToFinalBreak :
    (∀ d ∈ [openApi3, openApi2], d.Guards settings "Responses" "Response" fun key =>
      key = "default" ∨ UpToFinalBreak IsResponseCode key.toList) ∧
    asyncApi2.Guards settings "ServerMap" "Server" fun key =>
      UpToFinalBreak IsServerName key.toList := by
  refine ⟨fun d hd => guards_responses settings ?_, guards_serverMap settings⟩
  simpa using hd

/-- The codes and names themselves are not all that is taken: a line feed may follow them. -/
theorem not_guards_exactly :
    (∀ d ∈ [openApi3, openApi2], ¬ d.Guards {} "Responses" "Response" fun key =>
      key = "default" ∨ IsResponseCode key.toList) ∧
    ¬ asyncApi2.Guards {} "ServerMap" "Server" fun key => IsServerName key.toList := by
  have hcode : IsResponseCode "200".toList :=
    ⟨'2', '0', '0', rfl, by decide, by simp [IsAsciiDigit]⟩
  have hname : IsServerName "prod".toList := ⟨by decide, by simp [IsAsciiLetter]⟩
  constructor
  · intro d hd h
    have hbroken : UpToFinalBreak IsResponseCode "200\n".toList := ⟨_, hcode, .inr rfl⟩
    rcases (guards_responses {} (by simpa using hd)).unique h "200\n" (.inr hbroken) with h | h
    · exact absurd h (by decide)
    · exact h.unbroken (by decide)
  · intro h
    have hbroken : UpToFinalBreak IsServerName "prod\n".toList := ⟨_, hname, .inr rfl⟩
    have hexact := (guards_serverMap {}).unique h "prod\n" hbroken
    exact hexact.unbroken (by decide)

end Dialect

end ShapeLint
