import Mathlib.Computability.Language
import ShapeLint.Proofs.Pattern.Occurrence

/-!
Patterns without anchors spell the words of a language, wherever these stand. Between two anchors
they admit its words alone, but for a line feed that ends the text. Main statement:
`Pattern.occursIn_anchored`.
-/
namespace ShapeLint

namespace Pattern

/-- Whether a pattern goes by the characters that it matches and by nothing around them. -/
def isPlain : Pattern → Bool
  | empty | char _ _ => true
  | start | finish => false
  | sequence first second | either first second => first.isPlain && second.isPlain
  | repeated body _ _ => body.isPlain

/-- A character that a set admits. -/
def Admits (negated : Bool) (classes : List CharClass) (c : Char) : Prop :=
  (classes.any (CharClass.holds c) != negated) = true

/-- The words that a pattern without anchors matches. -/
def language : Pattern → Language Char
  | empty => 1
  | char negated classes => {word | ∃ c, word = [c] ∧ Admits negated classes c}
  | start | finish => 0
  | sequence first second => first.language * second.language
  | either first second => first.language + second.language
  | repeated body least most =>
    {word | ∃ n, least ≤ n ∧ (∀ m, most = some m → n ≤ max least m) ∧ word ∈ body.language ^ n}

variable {p : Pattern}

/-- From the end of one part of a text on, words of a language are passed. -/
def Spells (R : List Char → Nat → Nat → Prop) (words : Language Char) : Prop :=
  ∀ (before rest : List Char) (j : Nat), R (before ++ rest) before.length j ↔
    ∃ word ∈ words, ∃ after, rest = word ++ after ∧ j = before.length + word.length

namespace Spells

variable {R S : List Char → Nat → Nat → Prop} {words others : Language Char}

theorem one : Spells (fun _ i j => i = j) 1 := by
  intro before rest j
  simp [Language.mem_one, eq_comm]

theorem mul (h : Spells R words) (h' : Spells S others) :
    Spells (fun text i j => ∃ m, R text i m ∧ S text m j) (words * others) := by
  intro before rest j
  constructor
  · rintro ⟨m, hfirst, hsecond⟩
    obtain ⟨u, hu, rest, rfl, rfl⟩ := (h before rest m).mp hfirst
    rw [← List.append_assoc, ← List.length_append] at hsecond
    obtain ⟨v, hv, after, rfl, rfl⟩ := (h' (before ++ u) rest j).mp hsecond
    exact ⟨u ++ v, Language.append_mem_mul hu hv, after, (List.append_assoc ..).symm,
      by simp; omega⟩
  · rintro ⟨_, hword, after, rfl, rfl⟩
    obtain ⟨u, hu, v, hv, rfl⟩ := Language.mem_mul.mp hword
    refine ⟨before.length + u.length, (h _ _ _).mpr ⟨u, hu, v ++ after, by simp, rfl⟩, ?_⟩
    rw [List.append_assoc, ← List.append_assoc, ← List.length_append]
    exact (h' _ _ _).mpr ⟨v, hv, after, rfl, by simp; omega⟩

theorem pow (h : Spells R words) (n : Nat) : Spells (fun text => Moves (R text) n) (words ^ n) := by
  induction n with
  | zero => exact one
  | succ n ih =>
    rw [pow_succ']
    exact h.mul ih

theorem add (h : Spells R words) (h' : Spells S others) :
    Spells (fun text i j => R text i j ∨ S text i j) (words + others) := by
  intro before rest j
  have hfirst := h before rest j
  have hsecond := h' before rest j
  simp only [hfirst, hsecond, Language.mem_add]
  grind

end Spells

theorem spells_language (plain : p.isPlain) : Spells (fun text => p.Matches text) p.language := by
  induction p with
  | empty => exact .one
  | char negated classes =>
    intro before rest j
    have hnext : (before ++ rest)[before.length]? = rest.head? := by
      rw [List.getElem?_append_right (Nat.le_refl _), Nat.sub_self, List.head?_eq_getElem?]
    simp only [Matches, hnext, List.head?_eq_some_iff]
    constructor
    · rintro ⟨rfl, c, ⟨after, rfl⟩, hc⟩
      exact ⟨[c], ⟨c, rfl, hc⟩, after, rfl, rfl⟩
    · rintro ⟨_, ⟨c, rfl, hc⟩, after, rfl, rfl⟩
      exact ⟨rfl, c, ⟨after, rfl⟩, hc⟩
  | start => contradiction
  | finish => contradiction
  | sequence first second ih ih' =>
    rw [isPlain, Bool.and_eq_true] at plain
    exact (ih plain.1).mul (ih' plain.2)
  | either first second ih ih' =>
    rw [isPlain, Bool.and_eq_true] at plain
    exact (ih plain.1).add (ih' plain.2)
  | repeated body least most ih =>
    intro before rest j
    have hpow := fun n => (ih plain).pow n before rest j
    simp only [Matches, hpow]
    constructor
    · rintro ⟨n, hleast, hmost, word, hword, after⟩
      exact ⟨word, ⟨n, hleast, hmost, hword⟩, after⟩
    · rintro ⟨word, ⟨n, hleast, hmost, hword⟩, after⟩
      exact ⟨n, hleast, hmost, word, hword, after⟩

theorem matches_finish_iff {word rest : List Char} {j : Nat} :
    finish.Matches (word ++ rest) word.length j ↔
      word.length = j ∧ (rest = [] ∨ rest = ['\n']) := by
  refine and_congr_right fun _ => ?_
  rw [List.length_append]
  constructor
  · rintro (hlength | ⟨hlength, hlast⟩)
    · exact .inl (List.length_eq_zero_iff.mp (by omega))
    · obtain ⟨c, rfl⟩ := List.length_eq_one_iff.mp (show rest.length = 1 by omega)
      rw [List.getLast?_concat, Option.some.injEq] at hlast
      exact .inr (hlast ▸ rfl)
  · rintro (rfl | rfl)
    · exact .inl rfl
    · exact .inr ⟨rfl, List.getLast?_concat⟩

/-- Between the anchors a plain pattern admits the words of its language, with or without a final
line feed. -/
theorem occursIn_anchored (plain : p.isPlain) {s : String} :
    (sequence start (sequence p finish)).occursIn s = true ↔
      ∃ word ∈ p.language, s.toList = word ∨ s.toList = word ++ ['\n'] := by
  rw [occursIn_iff]
  constructor
  · rintro ⟨_, j, -, _, ⟨rfl, rfl⟩, m, hbody, hfinish⟩
    obtain ⟨word, hword, after, htext, rfl⟩ := (spells_language plain [] s.toList m).mp hbody
    rw [htext, List.length_nil, Nat.zero_add] at hfinish
    obtain ⟨-, rfl | rfl⟩ := matches_finish_iff.mp hfinish
    · exact ⟨word, hword, .inl (by simpa using htext)⟩
    · exact ⟨word, hword, .inr htext⟩
  · rintro ⟨word, hword, htext⟩
    obtain ⟨after, hafter, htext⟩ : ∃ after, (after = [] ∨ after = ['\n']) ∧
        s.toList = word ++ after := by
      rcases htext with htext | htext
      · exact ⟨[], .inl rfl, by simpa using htext⟩
      · exact ⟨['\n'], .inr rfl, htext⟩
    have hbody := (spells_language plain [] s.toList _).mpr ⟨word, hword, after, htext, rfl⟩
    rw [List.length_nil, Nat.zero_add] at hbody
    refine ⟨0, word.length, Nat.zero_le _, 0, ⟨rfl, rfl⟩, word.length, hbody, ?_⟩
    rw [htext]
    exact matches_finish_iff.mpr ⟨rfl, hafter⟩

/-- How the parts of a sequence are grouped makes no difference. -/
theorem matches_sequence_assoc {first second third : Pattern} {text : List Char} {i j : Nat} :
    (sequence (sequence first second) third).Matches text i j ↔
      (sequence first (sequence second third)).Matches text i j := by
  simp only [Matches]
  grind

theorem occursIn_anchored_sequence {first second : Pattern} (plain : first.isPlain)
    (plain' : second.isPlain) {s : String} :
    (sequence start (sequence first (sequence second finish))).occursIn s = true ↔
      ∃ word ∈ first.language * second.language,
        s.toList = word ∨ s.toList = word ++ ['\n'] := by
  have hplain : (sequence first second).isPlain := Bool.and_eq_true_iff.mpr ⟨plain, plain'⟩
  rw [← language, ← occursIn_anchored hplain, occursIn_iff, occursIn_iff]
  refine exists_congr fun i => exists_congr fun j => and_congr_right fun _ => ?_
  exact exists_congr fun m => and_congr_right fun _ => matches_sequence_assoc.symm

/-- Repetitions of one set spell the words of their number of characters from it. -/
theorem mem_language_char_pow {negated : Bool} {classes : List CharClass} {n : Nat}
    {word : List Char} : word ∈ (char negated classes).language ^ n ↔
      word.length = n ∧ ∀ c ∈ word, Admits negated classes c := by
  induction n generalizing word with
  | zero => simp +contextual [Language.mem_one]
  | succ n ih =>
    rw [pow_succ', Language.mem_mul]
    constructor
    · rintro ⟨_, ⟨c, rfl, hc⟩, rest, hrest, rfl⟩
      obtain ⟨rfl, hall⟩ := ih.mp hrest
      exact ⟨rfl, List.forall_mem_cons.mpr ⟨hc, hall⟩⟩
    · rintro ⟨hlength, hall⟩
      cases word with
      | nil => contradiction
      | cons c rest =>
        obtain ⟨hc, hrest⟩ := List.forall_mem_cons.mp hall
        exact ⟨[c], ⟨c, rfl, hc⟩, rest, ih.mpr ⟨Nat.succ.inj hlength, hrest⟩, rfl⟩

theorem mem_language_repeated_char {negated : Bool} {classes : List CharClass} {least : Nat}
    {most : Option Nat} {word : List Char} :
    word ∈ (repeated (char negated classes) least most).language ↔ least ≤ word.length ∧
      (∀ m, most = some m → word.length ≤ max least m) ∧
      ∀ c ∈ word, Admits negated classes c := by
  constructor
  · rintro ⟨n, hleast, hmost, hword⟩
    obtain ⟨rfl, hall⟩ := mem_language_char_pow.mp hword
    exact ⟨hleast, hmost, hall⟩
  · rintro ⟨hleast, hmost, hall⟩
    exact ⟨word.length, hleast, hmost, mem_language_char_pow.mpr ⟨rfl, hall⟩⟩

end Pattern

end ShapeLint
