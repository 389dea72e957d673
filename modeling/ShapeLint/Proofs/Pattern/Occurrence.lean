import ShapeLint.Pattern.Matching

/-!
Where patterns occur. A pattern matches parts of a text, each between two places, and the sets of
places that it is laid onto lead to the ends of these parts. Main statement:
`Pattern.occursIn_iff`.
-/
namespace ShapeLint

/-- So many moves, one after another. -/
def Moves (R : Nat → Nat → Prop) : Nat → Nat → Nat → Prop
  | 0, i, j => i = j
  | n + 1, i, j => ∃ m, R i m ∧ Moves R n m j

/-- Moves stay where they are or go on, but not beyond the end of the text. -/
def Onwards (R : Nat → Nat → Prop) (count : Nat) : Prop :=
  ∀ ⦃i j⦄, R i j → i = j ∨ i < j ∧ j ≤ count

section Moves

variable {R : Nat → Nat → Prop} {count i j m n k : Nat}

theorem moves_add : Moves R (n + k) i j ↔ ∃ m, Moves R n i m ∧ Moves R k m j := by
  induction n generalizing i with
  | zero => simp [Moves]
  | succ n ih =>
    rw [Nat.add_right_comm]
    simp only [Moves, ih]
    grind

theorem moves_loop (h : R m m) (n : Nat) : Moves R n m m := by
  induction n with
  | zero => rfl
  | succ n ih => exact ⟨m, h, ih⟩

/-- Moves that stay nowhere go on by one place at least. -/
theorem Moves.loop_or_le (onwards : Onwards R count) (h : Moves R n i j) :
    (∃ m a b, n = a + 1 + b ∧ Moves R a i m ∧ R m m ∧ Moves R b m j) ∨
      i + n ≤ j ∧ (n = 0 ∨ j ≤ count) := by
  induction n generalizing i with
  | zero => exact .inr ⟨Nat.le_of_eq h, .inl rfl⟩
  | succ n ih =>
    obtain ⟨next, hfirst, hrest⟩ := h
    rcases onwards hfirst with rfl | ⟨hlt, hcount⟩
    · exact .inl ⟨i, 0, n, by omega, rfl, hfirst, hrest⟩
    · rcases ih hrest with ⟨m, a, b, rfl, ha, hloop, hb⟩ | ⟨hle, hend⟩
      · exact .inl ⟨m, a + 1, b, by omega, ⟨next, hfirst, ha⟩, hloop, hb⟩
      · refine .inr ⟨by omega, .inr ?_⟩
        rcases hend with rfl | hend
        · obtain rfl : next = j := hrest
          exact hcount
        · exact hend

/-- Of as many moves as there are places one stays where it is, so there may as well be any other
number of moves, down to one less. -/
theorem Moves.of_many (onwards : Onwards R count) (h : Moves R n i j) (many : count < n)
    (hk : n ≤ k + 1) : Moves R k i j := by
  rcases h.loop_or_le onwards with ⟨m, a, b, rfl, ha, hloop, hb⟩ | ⟨hle, hend⟩
  · obtain ⟨l, rfl⟩ := Nat.exists_eq_add_of_le (show a + b ≤ k by omega)
    rw [show a + b + l = a + (l + b) by omega]
    exact moves_add.mpr ⟨m, ha, moves_add.mpr ⟨m, moves_loop hloop l, hb⟩⟩
  · omega

theorem moves_iff_of_many (onwards : Onwards R count) (hn : count < n) (hk : count < k) :
    Moves R n i j ↔ Moves R k i j := by
  -- Down to as many moves as there are places, and up again.
  have down : ∀ {n}, count < n → Moves R n i j → Moves R (count + 1) i j := by
    intro n hn h
    induction n with
    | zero => omega
    | succ n ih =>
      by_cases hlast : count < n
      · exact ih hlast (h.of_many onwards hn (Nat.le_refl _))
      · rwa [show count + 1 = n + 1 by omega]
  have up : ∀ {n}, count < n → Moves R (count + 1) i j → Moves R n i j := fun hn h =>
    h.of_many onwards (Nat.lt_succ_self _) (by omega)
  exact ⟨fun h => up hk (down hn h), fun h => up hn (down hk h)⟩

theorem onwards_moves (h : Onwards R count) (n : Nat) : Onwards (Moves R n) count := by
  induction n with
  | zero => exact fun _ _ h => .inl h
  | succ n ih =>
    rintro i j ⟨m, hfirst, hrest⟩
    have := h hfirst
    have := ih hrest
    omega

/-- A repetition is followed so often only as there are places, and yet to every end of it. -/
theorem exists_moves_iff (onwards : Onwards R count) (least : Nat) (most : Option Nat) :
    (∃ k, k ≤ (match most with
        | some most => min (most - least) (count + 1)
        | none => count + 1) ∧ Moves R (min least (count + 1) + k) i j) ↔
      ∃ n, least ≤ n ∧ (∀ m, most = some m → n ≤ max least m) ∧ Moves R n i j := by
  have same : ∀ {n k}, n = k ∨ count < n ∧ count < k → (Moves R n i j ↔ Moves R k i j) := by
    rintro n k (rfl | ⟨hn, hk⟩)
    · rfl
    · exact moves_iff_of_many onwards hn hk
  constructor
  · rintro ⟨k, hk, hmoves⟩
    refine ⟨least + k, Nat.le_add_right _ _, ?_, (same (by omega)).mp hmoves⟩
    rintro m rfl
    simp only at hk
    omega
  · rintro ⟨n, hleast, hmost, hmoves⟩
    obtain ⟨k, rfl⟩ := Nat.exists_eq_add_of_le hleast
    refine ⟨min k (count + 1), ?_, (same (by omega)).mp hmoves⟩
    cases most with
    | none => exact Nat.min_le_right _ _
    | some m =>
      have := hmost m rfl
      simp only
      omega

end Moves

namespace Places

variable {places others : Places} {text : List Char} {i : Nat}

theorem testBit_without : (places.without others).testBit i = true ↔
    places.testBit i = true ∧ others.testBit i = false := by
  simp only [without, Nat.testBit_xor, Nat.testBit_or]
  cases Nat.testBit places i <;> cases Nat.testBit others i <;> simp

theorem testBit_or_without : (places ||| others.without places).testBit i = true ↔
    places.testBit i = true ∨ others.testBit i = true := by
  rw [Nat.testBit_or, Bool.or_eq_true, testBit_without]
  cases Nat.testBit places i <;> simp

theorem testBit_all {count : Nat} : (all count).testBit i = true ↔ i ≤ count := by
  have h : (all count).testBit i = decide (i < count + 1) := Nat.testBit_two_pow_sub_one _ _
  rw [h, decide_eq_true_iff, Nat.lt_succ_iff]

theorem testBit_before {holds : Char → Bool} :
    (before holds text).testBit i = true ↔ ∃ c, text[i]? = some c ∧ holds c = true := by
  induction text generalizing i with
  | nil => simp [before]
  | cons c text ih =>
    have hcons : before holds (c :: text) = 2 * before holds text + (holds c).toNat := rfl
    have hbit : (holds c).toNat < 2 := by cases holds c <;> decide
    have hhalf : ∀ n : Nat, (2 * n + (holds c).toNat) / 2 = n := by omega
    cases i with
    | zero =>
      rw [hcons, Nat.testBit_zero]
      cases hc : holds c <;> simp [hc]
    | succ i =>
      rw [hcons, Nat.testBit_succ, hhalf]
      exact ih

end Places

namespace Route

/-- A step from sets of places to sets of places goes along a relation between places. -/
def Goes (step : Places → Places) (R : Nat → Nat → Prop) : Prop :=
  ∀ places j, (step places).testBit j = true ↔ ∃ i, places.testBit i = true ∧ R i j

variable {step : Places → Places} {R : Nat → Nat → Prop} {n j : Nat}

theorem Goes.times (h : Goes step R) (n : Nat) : Goes (times step n) (Moves R n) := by
  induction n with
  | zero => intro places j; simp [Route.times, Moves]
  | succ n ih =>
    intro places j
    unfold Route.times
    split
    · simp_all
    · rw [ih]
      simp only [h _ _, Moves]
      grind

/-- Places that lead nowhere else are all there is to reach. -/
theorem testBit_of_moves {reached : Places}
    (closed : ∀ i j, reached.testBit i = true → R i j → reached.testBit j = true) {i : Nat}
    (hi : reached.testBit i = true) (h : Moves R n i j) : reached.testBit j = true := by
  induction n generalizing i with
  | zero =>
    obtain rfl : i = j := h
    exact hi
  | succ n ih =>
    obtain ⟨m, hfirst, hrest⟩ := h
    exact ih (closed i m hi hfirst) hrest

/-- The newest places are the only ones that may lead to places not yet reached. -/
structure Front (R : Nat → Nat → Prop) (reached newest : Places) : Prop where
  among : ∀ i, newest.testBit i = true → reached.testBit i = true
  closed : ∀ i j, reached.testBit i = true → newest.testBit i = false → R i j →
    reached.testBit j = true

theorem Front.next (h : Goes step R) {reached newest : Places} (front : Front R reached newest) :
    Front R (reached ||| (step newest).without reached) ((step newest).without reached) := by
  constructor
  · intro i hi
    exact Places.testBit_or_without.mpr (.inr (Places.testBit_without.mp hi).1)
  · intro i j hi hnew hij
    rw [Nat.testBit_or, hnew, Bool.or_false] at hi
    rw [Places.testBit_or_without]
    cases hfront : newest.testBit i with
    | false => exact .inl (front.closed i j hi hfront hij)
    | true => exact .inr ((h newest j).mpr ⟨i, hfront, hij⟩)

theorem testBit_spread (h : Goes step R) {reached newest : Places}
    (front : Front R reached newest) :
    (spread step n reached newest).testBit j = true ↔
      ∃ k i, k ≤ n ∧ reached.testBit i = true ∧ Moves R k i j := by
  induction n generalizing reached newest with
  | zero => simp [spread, Moves]
  | succ n ih =>
    have hnext := front.next h
    simp only [spread]
    split
    · -- Nothing is new, so no number of moves leads further.
      rename_i hnone
      have closed : ∀ i j, reached.testBit i = true → R i j → reached.testBit j = true := by
        intro i j hi hij
        have hclosed := hnext.closed i j
        simp only [hnone, Nat.or_zero, Nat.zero_testBit] at hclosed
        exact hclosed hi trivial hij
      constructor
      · intro hj
        exact ⟨0, j, Nat.zero_le _, hj, rfl⟩
      · rintro ⟨k, i, -, hi, hmoves⟩
        exact testBit_of_moves closed hi hmoves
    · rw [ih hnext]
      simp only [Places.testBit_or_without]
      constructor
      · rintro ⟨k, i, hk, hi | hi, hmoves⟩
        · exact ⟨k, i, Nat.le_succ_of_le hk, hi, hmoves⟩
        · obtain ⟨i₀, hi₀, hstep⟩ := (h newest i).mp hi
          exact ⟨k + 1, i₀, Nat.succ_le_succ hk, front.among i₀ hi₀, i, hstep, hmoves⟩
      · rintro ⟨_ | k, i, hk, hi, hmoves⟩
        · exact ⟨0, i, Nat.zero_le _, .inl hi, hmoves⟩
        · obtain ⟨m, hstep, hrest⟩ := hmoves
          refine ⟨k, m, Nat.le_of_succ_le_succ hk, ?_, hrest⟩
          cases hfront : newest.testBit i with
          | false => exact .inl (front.closed i m hi hfront hstep)
          | true => exact .inr ((h newest m).mpr ⟨i, hfront, hstep⟩)

end Route

namespace Pattern

/-- A pattern matches the part of a text between two places. Bounds of repetitions are in order
wherever they are read. -/
def Matches (text : List Char) : Pattern → Nat → Nat → Prop
  | empty, i, j => i = j
  | char negated classes, i, j =>
    j = i + 1 ∧ ∃ c, text[i]? = some c ∧ (classes.any (CharClass.holds c) != negated) = true
  | start, i, j => i = 0 ∧ j = 0
  | finish, i, j =>
    i = j ∧ (i = text.length ∨ i + 1 = text.length ∧ text.getLast? = some '\n')
  | sequence first second, i, j => ∃ m, first.Matches text i m ∧ second.Matches text m j
  | either first second, i, j => first.Matches text i j ∨ second.Matches text i j
  | repeated body least most, i, j =>
    ∃ n, least ≤ n ∧ (∀ m, most = some m → n ≤ max least m) ∧ Moves (body.Matches text) n i j

variable {text : List Char} {p : Pattern} {i j : Nat}

theorem onwards_matches (text : List Char) (p : Pattern) :
    Onwards (p.Matches text) text.length := by
  induction p with
  | empty => exact fun _ _ h => .inl h
  | char negated classes =>
    rintro i j ⟨rfl, c, hc, -⟩
    obtain ⟨hlt, -⟩ := List.getElem?_eq_some_iff.mp hc
    omega
  | start => rintro i j ⟨rfl, rfl⟩; exact .inl rfl
  | finish => exact fun _ _ h => .inl h.1
  | sequence first second ih ih' =>
    rintro i j ⟨m, hfirst, hsecond⟩
    have := ih hfirst
    have := ih' hsecond
    omega
  | either first second ih ih' => exact fun _ _ h => h.elim (ih ·) (ih' ·)
  | repeated body least most ih =>
    rintro i j ⟨n, -, -, hmoves⟩
    exact onwards_moves ih n hmoves

/-- The places that a pattern leads to are the ends of the parts that it matches. -/
theorem goes_ends (text : List Char) (p : Pattern) :
    Route.Goes ((p.route text).ends text.length) (p.Matches text) := by
  induction p with
  | empty => intro places j; simp [route, Route.ends, Matches]
  | char negated classes =>
    intro places j
    simp only [route, Route.ends, Matches, Nat.testBit_shiftLeft, Nat.testBit_and,
      Bool.and_eq_true, decide_eq_true_iff, Places.testBit_before]
    constructor
    · rintro ⟨hj, hplace, hchar⟩
      exact ⟨j - 1, hplace, by omega, hchar⟩
    · rintro ⟨i, hplace, rfl, hchar⟩
      exact ⟨by omega, hplace, hchar⟩
  | start =>
    intro places j
    simp only [route, Route.ends, Matches, Nat.testBit_and, Bool.and_eq_true]
    rw [Nat.testBit_one_eq_true_iff_self_eq_zero]
    grind
  | finish =>
    intro places j
    have hlast : (Pattern.finish.route text).ends text.length places = places &&&
        if text.getLast? = some '\n' then 2 ^ text.length ||| 2 ^ (text.length - 1)
        else 2 ^ text.length := rfl
    have hpos : text.getLast? = some '\n' → 0 < text.length := by
      rintro h
      exact List.length_pos_of_mem (List.mem_of_getLast? h)
    rw [hlast, Nat.testBit_and, Bool.and_eq_true]
    split <;> simp only [Matches, Nat.testBit_or, Nat.testBit_two_pow, Bool.or_eq_true,
      decide_eq_true_iff] <;> grind
  | sequence first second ih ih' =>
    intro places j
    simp only [route, Route.ends, Matches, ih' _ _, ih _ _]
    grind
  | either first second ih ih' =>
    intro places j
    simp only [route, Route.ends, Matches, Nat.testBit_or, Bool.or_eq_true, ih' _ _, ih _ _]
    grind
  | repeated body least most ih =>
    intro places j
    have front : ∀ reached : Places, Route.Front (body.Matches text) reached reached := fun _ =>
      ⟨fun _ h => h, fun _ _ h h' => by simp [h] at h'⟩
    simp only [route, Route.ends, Matches, Route.testBit_spread ih (front _), ih.times _ _ _]
    simp only [← exists_moves_iff (onwards_matches text body) least most, moves_add]
    grind

/-- A pattern occurs in a text exactly if it matches a part of it. -/
theorem occursIn_iff {s : String} :
    p.occursIn s = true ↔ ∃ i j, i ≤ s.toList.length ∧ p.Matches s.toList i j := by
  have hne : p.occursIn s = true ↔
      (p.route s.toList).ends s.toList.length (Places.all s.toList.length) ≠ 0 := bne_iff_ne
  rw [hne]
  constructor
  · intro h
    obtain ⟨j, hj⟩ := Nat.exists_testBit_of_ne_zero h
    obtain ⟨i, hi, hmatches⟩ := (goes_ends s.toList p _ j).mp hj
    exact ⟨i, j, Places.testBit_all.mp hi, hmatches⟩
  · rintro ⟨i, j, hi, hmatches⟩ hzero
    have hj := (goes_ends s.toList p _ j).mpr ⟨i, Places.testBit_all.mpr hi, hmatches⟩
    simp [hzero] at hj

end Pattern

end ShapeLint
