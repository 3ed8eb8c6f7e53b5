import Mathlib.Data.Set.Image
import Mathlib.Order.Monotone.Basic
import NamePattern.Proofs.Generator.Locality

/-!
# Words without those of forced picks

A pick among one option is *forced*: it reads a word, and the word decides nothing. `placesLeft`
numbers anew the places that are left when some are taken away (`strictMono_placesLeft`,
`range_placesLeft`). If these are the places of the words of forced picks, then what the other picks
of the row read stands, without a gap, where the first pick of the row was made
(`Chained.standsAt_free`).
-/

namespace NamePattern

/-! ## Forced picks -/

/-- Whether a pick is made among one option only. -/
def Draw.isForced (draw : Draw) : Bool := decide (draw.bound = 1)

theorem Draw.next_of_isForced {draw : Draw} (forced : draw.isForced = true) (words : Words) :
    draw.next words = draw.position + 1 := by
  have alone : draw.bound = 1 := of_decide_eq_true forced
  rw [Draw.next, alone, pick_one]

/-! ## Places that are left -/

/-- The places without one of them, numbered anew. -/
def skip (gone place : Nat) : Nat := if place < gone then place else place + 1

theorem strictMono_skip (gone : Nat) : StrictMono (skip gone) := by
  intro place later before
  unfold skip
  split <;> split <;> omega

theorem mem_range_skip {gone place : Nat} : place ∈ Set.range (skip gone) ↔ place ≠ gone := by
  constructor
  · rintro ⟨number, rfl⟩
    unfold skip
    split <;> omega
  · intro differ
    by_cases before : place < gone
    · exact ⟨place, by simp [skip, before]⟩
    · refine ⟨place - 1, ?_⟩
      have behind : ¬ place - 1 < gone := by omega
      rw [skip, if_neg behind]
      omega

/-- The places without some that go up, numbered anew: the last of these is left out first, so that
those before it are still where they were. -/
def placesLeft : List Nat → Nat → Nat
  | [], place => place
  | gone :: later, place => placesLeft later (skip gone place)

theorem strictMono_placesLeft (gone : List Nat) : StrictMono (placesLeft gone) := by
  induction gone with
  | nil => exact strictMono_id
  | cons first later ih => exact ih.comp (strictMono_skip first)

theorem placesLeft_of_lt {gone : List Nat} {place : Nat} (before : ∀ other ∈ gone, place < other) :
    placesLeft gone place = place := by
  induction gone with
  | nil => rfl
  | cons first later ih =>
    rw [List.forall_mem_cons] at before
    rw [placesLeft, skip, if_pos before.1, ih before.2]

theorem range_placesLeft {gone : List Nat} (ordered : gone.Pairwise (· < ·)) :
    Set.range (placesLeft gone) = {place | place ∉ gone} := by
  induction gone with
  | nil =>
    ext place
    simp [placesLeft]
  | cons first later ih =>
    rw [List.pairwise_cons] at ordered
    obtain ⟨below, ordered⟩ := ordered
    have fixed : placesLeft later first = first := placesLeft_of_lt below
    have left : Set.range (placesLeft (first :: later)) =
        placesLeft later '' {place | place ≠ first} := by
      have skipped : Set.range (skip first) = {place | place ≠ first} :=
        Set.ext fun _ => mem_range_skip
      rw [← skipped, ← Set.range_comp]
      rfl
    ext place
    rw [left]
    constructor
    · rintro ⟨before, differ, rfl⟩
      have among : placesLeft later before ∈ Set.range (placesLeft later) := ⟨before, rfl⟩
      rw [ih ordered] at among
      intro member
      rcases List.mem_cons.mp member with same | member
      · exact differ ((strictMono_placesLeft later).injective (same.trans fixed.symm))
      · exact among member
    · intro absent
      have among : place ∈ Set.range (placesLeft later) := by
        rw [ih ordered]
        exact fun member => absent (List.mem_cons_of_mem first member)
      obtain ⟨before, rfl⟩ := among
      refine ⟨before, ?_, rfl⟩
      rintro rfl
      exact absent (by simp [fixed])

namespace Generator

/-! ## Words without those of forced picks -/

/-- Where the words of the forced picks of a row stand. -/
def forcedPlaces (row : List Draw) : List Nat := (row.filter Draw.isForced).map Draw.position

/-- The picks of a row that decide something. -/
def free (row : List Draw) : List Draw := row.filter fun draw => !draw.isForced

theorem mem_forcedPlaces_iff (words : Words) {row : List Draw} {place : Nat} :
    place ∈ forcedPlaces row ↔
      ∃ draw ∈ row, draw.bound = 1 ∧ draw.position ≤ place ∧ place < draw.next words := by
  simp only [forcedPlaces, List.mem_map, List.mem_filter]
  constructor
  · rintro ⟨draw, ⟨among, forced⟩, rfl⟩
    refine ⟨draw, among, of_decide_eq_true forced, Nat.le_refl _, ?_⟩
    rw [Draw.next_of_isForced forced]
    exact Nat.lt_succ_self _
  · rintro ⟨draw, among, alone, reached, before⟩
    have forced : draw.isForced = true := decide_eq_true alone
    rw [Draw.next_of_isForced forced] at before
    exact ⟨draw, ⟨among, forced⟩, by omega⟩

section Chained

variable {words : Words} {start finish : Nat} {row : List Draw}

theorem Chained.le_position (chained : Chained words start row finish) :
    ∀ draw ∈ row, start ≤ draw.position := by
  induction row generalizing start with
  | nil => simp
  | cons draw rest ih =>
    obtain ⟨rfl, later⟩ := chained
    have ends := draw.next_eq_or words
    rw [List.forall_mem_cons]
    refine ⟨Nat.le_refl _, fun other among => ?_⟩
    have behind := ih later other among
    omega

theorem Chained.le_of_mem_forcedPlaces (chained : Chained words start row finish) {place : Nat}
    (member : place ∈ forcedPlaces row) : start ≤ place := by
  obtain ⟨draw, among, rfl⟩ := List.mem_map.mp member
  exact chained.le_position draw ((List.mem_filter.mp among).1)

theorem Chained.pairwise_forcedPlaces (chained : Chained words start row finish) :
    (forcedPlaces row).Pairwise (· < ·) := by
  induction row generalizing start with
  | nil => exact .nil
  | cons draw rest ih =>
    obtain ⟨rfl, later⟩ := chained
    cases forced : draw.isForced with
    | false => simpa [forcedPlaces, forced] using ih later
    | true =>
      have behind : ∀ place ∈ forcedPlaces rest, draw.position < place := by
        intro place member
        have := later.le_of_mem_forcedPlaces member
        rw [Draw.next_of_isForced forced] at this
        omega
      have row : forcedPlaces (draw :: rest) = draw.position :: forcedPlaces rest := by
        simp [forcedPlaces, forced]
      rw [row]
      exact .cons behind (ih later)

/-- Without the words of the forced picks, those of the other picks stand where the first of all
picks was made. -/
theorem Chained.standsAt_free (chained : Chained words start row finish) :
    StandsAt (fun place => words (placesLeft (forcedPlaces row) place)) start
      (reads words (free row)) := by
  induction row generalizing start with
  | nil =>
    intro offset word there
    simp [free] at there
  | cons draw rest ih =>
    obtain ⟨rfl, later⟩ := chained
    have behind := ih later
    cases forced : draw.isForced with
    | true =>
      -- the word of this pick is gone, and what stood behind it has moved up by one
      have row : forcedPlaces (draw :: rest) = draw.position :: forcedPlaces rest := by
        simp [forcedPlaces, forced]
      have same : free (draw :: rest) = free rest := by simp [free, forced]
      rw [row, same]
      refine behind.of_agree ?_
      intro offset _
      have moved : skip draw.position (draw.position + offset) = draw.next words + offset := by
        rw [Draw.next_of_isForced forced, skip, if_neg (by omega)]
        omega
      show words (placesLeft _ (skip _ _)) = words (placesLeft _ _)
      rw [moved]
    | false =>
      -- nothing that is gone stands before the next pick
      have same : forcedPlaces (draw :: rest) = forcedPlaces rest := by simp [forcedPlaces, forced]
      have row : free (draw :: rest) = draw :: free rest := by simp [free, forced]
      rw [same, row, reads_cons, standsAt_append, draw.position_add_length_block]
      refine ⟨(draw.standsAt_block words).of_agree ?_, behind⟩
      intro offset inside
      have before : draw.position + offset < draw.next words := by
        rw [← draw.position_add_length_block words]
        omega
      rw [placesLeft_of_lt fun place member =>
        Nat.lt_of_lt_of_le before (later.le_of_mem_forcedPlaces member)]

end Chained

theorem length_reads_free (words : Words) (row : List Draw) :
    (reads words (free row)).length + (row.filter Draw.isForced).length =
      (reads words row).length := by
  induction row with
  | nil => rfl
  | cons draw rest ih =>
    cases forced : draw.isForced with
    | true =>
      have one : (draw.block words).length = 1 := by
        rw [draw.length_block, Draw.next_of_isForced forced]
        omega
      simp only [free, List.filter_cons, forced, Bool.not_true, reads_cons, List.length_append, one,
        Bool.false_eq_true, if_false, if_true, List.length_cons] at ih ⊢
      omega
    | false =>
      simp only [free, List.filter_cons, forced, Bool.not_false, reads_cons, List.length_append,
        Bool.false_eq_true, if_false, if_true] at ih ⊢
      omega

end Generator

end NamePattern
