import NamePattern.Json

/-!
# The JSON values that are forms of generators

A JSON value is read as a generator exactly when it is the form of this generator
(`Generator.ofJson?_eq_some_iff`). Whether a value is a form at all shows at the places in it where a
form is due (`Generator.FormDue`): the value there has to have the shape of a node, and a single one
that has not, however deep, makes the whole value no form (`Generator.ofJson?_eq_none_iff`).
`Generator.json_forms` puts this together.
-/

namespace NamePattern.Generator

/-! ## What is written is read -/

theorem ofJsonAll?_map_toJson {gs : List Generator}
    (each : ∀ g ∈ gs, ofJson? g.toJson = some g) : ofJsonAll? (gs.map toJson) = some gs := by
  induction gs with
  | nil => simp [ofJsonAll?]
  | cons g gs ih =>
    have rest := ih fun other member => each other (List.mem_cons_of_mem g member)
    simp [ofJsonAll?, each g List.mem_cons_self, rest]

theorem ofJson?_toJson (g : Generator) : ofJson? g.toJson = some g := by
  induction g with
  | literal text => simp [ofJson?]
  | choice options ih => simp [ofJson?, ofJsonAll?_map_toJson ih]
  | concatenation parts ih => simp [ofJson?, ofJsonAll?_map_toJson ih]
  | capitalize inner ih => simp [ofJson?, ih]

theorem toJson_injective {g h : Generator} (same : g.toJson = h.toJson) : g = h := by
  have read : some g = some h := by
    rw [← ofJson?_toJson g, ← ofJson?_toJson h, same]
  exact Option.some.inj read

/-! ## What is read was written -/

mutual
theorem eq_toJson_of_ofJson? {form : Json} {g : Generator} (read : ofJson? form = some g) :
    form = g.toJson := by
  unfold ofJson? at read
  split at read
  · next text =>
    cases read
    rw [toJson_literal]
  · next options =>
    obtain ⟨children, each, rfl⟩ := Option.map_eq_some_iff.mp read
    rw [toJson_choice, ← eq_map_toJson_of_ofJsonAll? each]
  · next parts =>
    obtain ⟨children, each, rfl⟩ := Option.map_eq_some_iff.mp read
    rw [toJson_concatenation, ← eq_map_toJson_of_ofJsonAll? each]
  · next inner =>
    obtain ⟨child, within, rfl⟩ := Option.map_eq_some_iff.mp read
    rw [toJson_capitalize, ← eq_toJson_of_ofJson? within]
  · cases read
theorem eq_map_toJson_of_ofJsonAll? {forms : List Json} {gs : List Generator}
    (read : ofJsonAll? forms = some gs) : forms = gs.map toJson := by
  cases forms with
  | nil =>
    simp only [ofJsonAll?] at read
    cases read
    rfl
  | cons form forms =>
    simp only [ofJsonAll?] at read
    split at read
    · next first rest readFirst readRest =>
      cases read
      rw [List.map_cons, ← eq_toJson_of_ofJson? readFirst, ← eq_map_toJson_of_ofJsonAll? readRest]
    · cases read
end

/-- A value is read as a generator exactly when it is the form of that generator. -/
theorem ofJson?_eq_some_iff {form : Json} {g : Generator} :
    ofJson? form = some g ↔ form = g.toJson :=
  ⟨eq_toJson_of_ofJson?, fun written => written ▸ ofJson?_toJson g⟩

/-! ## Values that are no form -/

/-- The values inside a node that are to be forms in turn. There are none for a value that has not
the shape of a node: an object with one field, whose name says which kind of value it holds. -/
def nodeChildren? : Json → Option (List Json)
  | .object [("Literal", .string _)] => some []
  | .object [("Choice", .array options)] => some options
  | .object [("Concatenation", .array parts)] => some parts
  | .object [("Capitalize", inner)] => some [inner]
  | _ => none

/-- A value somewhere in a JSON value, which may be the whole, that is to be a form if the whole is to
be one. -/
inductive FormDue (form : Json) : Json → Prop where
  | whole : FormDue form form
  | inside {place child : Json} {children : List Json} : FormDue form place →
      nodeChildren? place = some children → child ∈ children → FormDue form child

theorem FormDue.trans {form child place : Json} (outer : FormDue form child)
    (inner : FormDue child place) : FormDue form place := by
  induction inner with
  | whole => exact outer
  | inside _ node member ih => exact .inside ih node member

theorem sizeOf_lt_of_nodeChildren? {place child : Json} {children : List Json}
    (node : nodeChildren? place = some children) (member : child ∈ children) :
    sizeOf child < sizeOf place := by
  unfold nodeChildren? at node
  split at node
  · cases node
    cases member
  · cases node
    have smaller := List.sizeOf_lt_of_mem member
    simp
    omega
  · cases node
    have smaller := List.sizeOf_lt_of_mem member
    simp
    omega
  · cases node
    rw [List.mem_singleton] at member
    subst member
    simp
    omega
  · cases node

theorem nodeChildren?_toJson (g : Generator) :
    ∃ gs : List Generator, nodeChildren? g.toJson = some (gs.map toJson) := by
  cases g with
  | literal text => exact ⟨[], by rw [toJson_literal]; rfl⟩
  | choice options => exact ⟨options, by rw [toJson_choice]; rfl⟩
  | concatenation parts => exact ⟨parts, by rw [toJson_concatenation]; rfl⟩
  | capitalize inner => exact ⟨[inner], by rw [toJson_capitalize]; rfl⟩

/-- In the form of a generator each value that is to be a form is one. -/
theorem exists_of_formDue {g : Generator} {place : Json} (due : FormDue g.toJson place) :
    ∃ h : Generator, place = h.toJson := by
  induction due with
  | whole => exact ⟨g, rfl⟩
  | inside _ node member ih =>
    obtain ⟨h, rfl⟩ := ih
    obtain ⟨hs, written⟩ := nodeChildren?_toJson h
    rw [written] at node
    cases node
    obtain ⟨child, -, rfl⟩ := List.mem_map.mp member
    exact ⟨child, rfl⟩

theorem exists_map_toJson {forms : List Json}
    (each : ∀ form ∈ forms, ∃ g : Generator, form = g.toJson) :
    ∃ gs : List Generator, forms = gs.map toJson := by
  induction forms with
  | nil => exact ⟨[], rfl⟩
  | cons form forms ih =>
    obtain ⟨g, first⟩ := each form List.mem_cons_self
    obtain ⟨gs, rest⟩ := ih fun other member => each other (List.mem_cons_of_mem form member)
    exact ⟨g :: gs, by rw [List.map_cons, first, rest]⟩

/-- A value is a form where its own shape is that of a node and the values inside it are forms. -/
theorem exists_of_nodeChildren? {form : Json} {children : List Json}
    (node : nodeChildren? form = some children)
    (each : ∀ child ∈ children, ∃ g : Generator, child = g.toJson) :
    ∃ g : Generator, form = g.toJson := by
  unfold nodeChildren? at node
  split at node
  · next text => exact ⟨literal text, (toJson_literal text).symm⟩
  · cases node
    obtain ⟨gs, rfl⟩ := exists_map_toJson each
    exact ⟨choice gs, (toJson_choice gs).symm⟩
  · cases node
    obtain ⟨gs, rfl⟩ := exists_map_toJson each
    exact ⟨concatenation gs, (toJson_concatenation gs).symm⟩
  · cases node
    obtain ⟨g, rfl⟩ := each _ List.mem_cons_self
    exact ⟨capitalize g, (toJson_capitalize g).symm⟩
  · cases node

/-- A value with a node wherever a form is due is the form of a generator. -/
theorem exists_of_nodes {form : Json}
    (nodes : ∀ place, FormDue form place → nodeChildren? place ≠ none) :
    ∃ g : Generator, form = g.toJson := by
  obtain ⟨children, node⟩ := Option.ne_none_iff_exists'.mp (nodes form .whole)
  apply exists_of_nodeChildren? node
  -- what is due in a child is due in the whole, and a child is smaller
  intro child member
  have smaller := sizeOf_lt_of_nodeChildren? node member
  have due : FormDue form child := .inside .whole node member
  exact exists_of_nodes fun place inner => nodes place (due.trans inner)
termination_by sizeOf form

/-- A value is refused exactly when something in it, at whatever depth, has not the shape of a node
though a form is due there. -/
theorem ofJson?_eq_none_iff {form : Json} :
    ofJson? form = none ↔ ∃ place, FormDue form place ∧ nodeChildren? place = none := by
  constructor
  · intro refused
    apply Classical.byContradiction
    intro sound
    obtain ⟨g, rfl⟩ := exists_of_nodes fun place due broken => sound ⟨place, due, broken⟩
    rw [ofJson?_toJson] at refused
    cases refused
  · rintro ⟨place, due, broken⟩
    -- the form of a generator would have a node there
    cases read : ofJson? form with
    | none => rfl
    | some g =>
      rw [eq_toJson_of_ofJson? read] at due
      obtain ⟨h, rfl⟩ := exists_of_formDue due
      obtain ⟨hs, written⟩ := nodeChildren?_toJson h
      rw [written] at broken
      cases broken

/-! ## Reading and writing -/

/-- **The JSON forms of generators.** The form of a generator is an object with one field, named for
the kind of node, which holds the text, the row of the forms of the children, or the form of the
inner generator. A value is read as a generator exactly when it is the form of that very generator,
so that nothing is simplified on the way and different generators have different forms. A value that
is anything else at any place where a form is due is refused as a whole. -/
theorem json_forms :
    ((∀ text, (literal text).toJson = .object [("Literal", .string text)]) ∧
      (∀ options, (choice options).toJson =
        .object [("Choice", .array (options.map toJson))]) ∧
      (∀ parts, (concatenation parts).toJson =
        .object [("Concatenation", .array (parts.map toJson))]) ∧
      ∀ inner, (capitalize inner).toJson = .object [("Capitalize", inner.toJson)]) ∧
    (∀ form g, ofJson? form = some g ↔ form = g.toJson) ∧
    (∀ g h : Generator, g.toJson = h.toJson ↔ g = h) ∧
    ∀ form, ofJson? form = none ↔
      ∃ place, FormDue form place ∧ nodeChildren? place = none := by
  refine ⟨⟨toJson_literal, toJson_choice, toJson_concatenation, toJson_capitalize⟩, ?_, ?_, ?_⟩
  · intro form g
    exact ofJson?_eq_some_iff
  · intro g h
    exact ⟨toJson_injective, congrArg toJson⟩
  · intro form
    exact ofJson?_eq_none_iff

/-- A literal with a second field, two levels below the top, makes the whole value no form. -/
example : ofJson? (.object [("Capitalize", .object [("Choice", .array [
    .object [("Literal", .string "ka")],
    .object [("Literal", .string "ka"), ("Choice", .array [])]])])]) = none := by
  decide

end NamePattern.Generator
