import NamePattern.Proofs.Pattern.Dependence
import Mathlib.Data.List.Forall2

/-!
# Two compilations of a pattern

A pattern is compiled under two symbol tables, and the candidates of its symbols are related in some
way. If building keeps the relation (`KeptByBuilding`), then so does reading: each character takes
two related readings to related readings (`Reading.Related.step`), and at the end of the pattern the
two generators are related (`compileBody_related`). The readings have the same groups open at the
same places, while the generators that they hold may be of quite different shapes.
-/

namespace NamePattern

open Generator (oneOf join)

/-- A relation between generators that holds of what is built if it holds of the children. -/
structure KeptByBuilding (related : Generator → Generator → Prop) : Prop where
  oneOf {options others : List Generator} : List.Forall₂ related options others →
    related (oneOf options) (oneOf others)
  join {parts others : List Generator} : List.Forall₂ related parts others →
    related (join parts) (join others)

/-! ## Drafts -/

/-- Two drafts hold related generators, place by place. -/
structure Draft.Related (related : Generator → Generator → Prop) (draft other : Draft) : Prop where
  alternatives : List.Forall₂ related draft.alternatives other.alternatives
  pieces : List.Forall₂ related draft.pieces other.pieces

namespace Draft.Related

variable {related : Generator → Generator → Prop} {draft other : Draft}

theorem blank : Draft.Related related {} {} := ⟨.nil, .nil⟩

theorem push (both : Draft.Related related draft other) {piece piece' : Generator}
    (one : related piece piece') : Draft.Related related (draft.push piece) (other.push piece') :=
  ⟨both.alternatives, .cons one both.pieces⟩

theorem endAlternative (kept : KeptByBuilding related) (both : Draft.Related related draft other) :
    Draft.Related related draft.endAlternative other.endAlternative := by
  have ended := kept.join (List.forall₂_reverse_iff.mpr both.pieces)
  exact ⟨.cons ended both.alternatives, .nil⟩

theorem generator (kept : KeptByBuilding related) (both : Draft.Related related draft other) :
    related draft.generator other.generator :=
  kept.oneOf (List.forall₂_reverse_iff.mpr (both.endAlternative kept).alternatives)

end Draft.Related

/-! ## Readings -/

/-- Two open groups of the same kind were opened at the same place, and their drafts are related. -/
structure OpenGroup.Related (related : Generator → Generator → Prop) (group other : OpenGroup) :
    Prop where
  kind : group.kind = other.kind
  position : group.position = other.position
  draft : Draft.Related related group.draft other.draft

/-- Two readings have the same groups open, and their drafts are related. -/
structure Reading.Related (related : Generator → Generator → Prop) (reading other : Reading) :
    Prop where
  root : Draft.Related related reading.root other.root
  opened : List.Forall₂ (OpenGroup.Related related) reading.opened other.opened

namespace Reading

theorem step_closer_of_opened (table : SymbolTable) {reading : Reading} (position : Nat)
    {innermost : OpenGroup} {around : List OpenGroup}
    (open_groups : reading.opened = innermost :: around) :
    reading.step table position innermost.kind.closer =
      .ok (modifyTop (·.push innermost.draft.generator) { reading with opened := around }) := by
  simp [step_closer, closeGroup, open_groups]

namespace Related

variable {related : Generator → Generator → Prop} {reading other : Reading}

theorem start : Reading.Related related start start := ⟨.blank, .nil⟩

theorem kind_eq (both : Reading.Related related reading other) : reading.kind = other.kind := by
  obtain ⟨root, opened⟩ := reading
  obtain ⟨root', opened'⟩ := other
  cases both.opened with
  | nil => rfl
  | cons innermost _ => exact innermost.kind

theorem modifyTop (both : Reading.Related related reading other) {change change' : Draft → Draft}
    (changed : ∀ draft draft', Draft.Related related draft draft' →
      Draft.Related related (change draft) (change' draft')) :
    Reading.Related related (reading.modifyTop change) (other.modifyTop change') := by
  obtain ⟨root, opened⟩ := reading
  obtain ⟨root', opened'⟩ := other
  obtain ⟨roots, groups⟩ := both
  cases groups with
  | nil => exact ⟨changed _ _ roots, .nil⟩
  | cons innermost around =>
    exact ⟨roots, .cons ⟨innermost.kind, innermost.position, changed _ _ innermost.draft⟩ around⟩

variable {table table' : SymbolTable} {next : Reading} {position : Nat}

/-- A character that fits in one of two related readings fits in the other one, and the readings
after it are related, if its piece is. -/
theorem step (kept : KeptByBuilding related) (both : Reading.Related related reading other)
    {c : Char} (piece : isReserved c = false →
      related (charPiece table reading.kind c) (charPiece table' reading.kind c))
    (stepped : reading.step table position c = .ok next) :
    ∃ next', other.step table' position c = .ok next' ∧ Reading.Related related next next' := by
  rcases step_ok_cases stepped with ⟨kind, rfl, rfl⟩ | ⟨innermost, around, rfl, open_groups, rfl⟩ |
    ⟨rfl, rfl⟩ | ⟨ordinary, rfl⟩
  · exact ⟨_, step_opener table' other position kind,
      both.root, .cons ⟨rfl, rfl, .blank⟩ both.opened⟩
  · -- the other reading has a group of the same kind to close
    have groups := both.opened
    rw [open_groups] at groups
    cases other_groups : other.opened with
    | nil =>
      rw [other_groups] at groups
      cases groups
    | cons innermost' around' =>
      rw [other_groups] at groups
      obtain ⟨closed, behind⟩ := List.forall₂_cons.mp groups
      have rests : Reading.Related related { reading with opened := around }
          { other with opened := around' } := ⟨both.root, behind⟩
      rw [closed.kind]
      refine ⟨_, step_closer_of_opened table' position other_groups, rests.modifyTop ?_⟩
      intro draft draft' drafts
      exact drafts.push (closed.draft.generator kept)
  · exact ⟨_, rfl, both.modifyTop fun _ _ drafts => drafts.endAlternative kept⟩
  · rw [both.kind_eq] at piece
    rw [both.kind_eq, step_ordinary table' other position ordinary]
    refine ⟨_, rfl, both.modifyTop ?_⟩
    intro draft draft' drafts
    exact drafts.push (piece ordinary)

/-- What can be read in one of two related readings can be read in the other one, and the readings
after it are related, if the pieces of its symbols are. -/
theorem read (kept : KeptByBuilding related)
    (literals : ∀ text, related (.literal text) (.literal text))
    (both : Reading.Related related reading other) {chars : List Char}
    (symbols : ∀ symbol ∈ symbolsIn reading.kinds chars,
      related (charPiece table .symbol symbol) (charPiece table' .symbol symbol))
    (finished : reading.read table position chars = .ok next) :
    ∃ next', other.read table' position chars = .ok next' ∧ Reading.Related related next next' := by
  induction chars generalizing reading other position with
  | nil =>
    cases finished
    exact ⟨other, rfl, both⟩
  | cons c rest ih =>
    obtain ⟨middle, stepped, finished⟩ := read_cons_eq_ok_iff.mp finished
    have piece (ordinary : isReserved c = false) :
        related (charPiece table reading.kind c) (charPiece table' reading.kind c) := by
      cases kind : reading.kind with
      | literal => exact literals (String.singleton c)
      | symbol => exact symbols c (mem_symbolsIn_self kind ordinary)
    obtain ⟨middle', stepped', both'⟩ := both.step kept piece stepped
    obtain ⟨next', finished', both''⟩ := ih both'
      (fun symbol member => symbols symbol (mem_symbolsIn_of_step stepped member)) finished
    exact ⟨next', read_cons_eq_ok_iff.mpr ⟨middle', stepped', finished'⟩, both''⟩

end Related

end Reading

/-- A pattern that compiles under one table compiles under another one to a generator that is
related, if the pieces of its symbols are. -/
theorem compileBody_related {related : Generator → Generator → Prop} (kept : KeptByBuilding related)
    (literals : ∀ text, related (.literal text) (.literal text)) {table table' : SymbolTable}
    {pattern : String} (symbols : ∀ symbol ∈ symbolsOf pattern,
      related (charPiece table .symbol symbol) (charPiece table' .symbol symbol))
    {g : Generator} (compiled : compileBody table pattern = .ok g) :
    ∃ h, compileBody table' pattern = .ok h ∧ related g h := by
  obtain ⟨root, finished, rfl⟩ := exists_read_of_compileBody compiled
  obtain ⟨⟨root', opened⟩, finished', both⟩ :=
    Reading.Related.start.read kept literals symbols finished
  cases both.opened
  refine ⟨root'.generator, ?_, both.root.generator kept⟩
  rw [compileBody_eq, finished']
  rfl

end NamePattern
