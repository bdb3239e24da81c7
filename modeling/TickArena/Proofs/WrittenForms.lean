import TickArena.Proofs.FiniteTrees
import TickArena.Proofs.Lists
import TickArena.Proofs.TableLookups
import TickArena.Sequence.Slot

/-!
# Written forms

What has been written is read back as it was, by the rules of every format: definitions with
finite numbers, and counts that keep to their words.  Nothing else can be read from a tree whose
doubles are finite.  So what was read from a tree, however it was written there, is read once
more from its own written form.
-/

namespace TickArena

/-! ## Scalars, options and lists -/

namespace Data

variable {α : Type} {encode : α → Data} {decode : Data → Option α}

theorem toNat?_ofNat {limit n : Nat} (h : n < limit) : toNat? limit (ofNat n) = some n := by
  simp [toNat?, ofNat, h]

theorem toFloat?_ofFloat {x : Float} (h : x.isFinite = true) : toFloat? (ofFloat x) = some x := by
  simp [toFloat?, ofFloat, h]

/-- An option is read back if null is not the written form of anything. -/
theorem toOption?_ofOption {value : Option α} (hnull : ∀ a, encode a ≠ .null)
    (h : ∀ a, value = some a → decode (encode a) = some a) :
    toOption? decode (ofOption encode value) = some value := by
  cases value with
  | none => rfl
  | some a =>
    have hsome : toOption? decode (encode a) = (decode (encode a)).map some := by
      have hne := hnull a
      unfold toOption?
      split
      · contradiction
      · rfl
    rw [ofOption, hsome, h a rfl, Option.map_some]

@[simp]
theorem toOption?_ofName {dialect : Dialect} [Vocabulary α] (value : Option α) :
    toOption? (Vocabulary.decode? dialect) (ofOption Vocabulary.encode value) = some value := by
  apply toOption?_ofOption
  · simp [Vocabulary.encode]
  · exact fun a _ => Vocabulary.decode?_encode dialect a

@[simp]
theorem toOption?_ofText (value : Option String) :
    toOption? toText? (ofOption .text value) = some value := by
  apply toOption?_ofOption
  · simp
  · exact fun _ _ => rfl

theorem toList?_ofList {items : List α} (h : ∀ a ∈ items, decode (encode a) = some a) :
    toList? decode (ofList encode items) = some items := by
  change (items.map encode).mapM decode = some items
  rw [List.mapM_map, mapM_eq_some_iff, List.forall₂_same]
  exact h

end Data

/-! ## Writing and reading -/

@[simp]
theorem Criteria.decode?_encode (dialect : Dialect) (criteria : Criteria) :
    decode? dialect criteria.encode = some criteria := by
  simp [decode?, encode, Data.toParts?, Data.optional, Data.withDefault, Data.findField]

/-- The counts of a requirement keep to their words. -/
def Requirement.InRange : Requirement → Prop
  | sequenceCount _ minimum | tagDiversity minimum => minimum < twoPow 64
  | evolutionStage minimum => minimum < twoPow 32
  | _ => True

theorem Requirement.decode?_encode {requirement : Requirement} (h : requirement.InRange) :
    decode? requirement.encode = some requirement := by
  cases requirement <;>
    simp_all [decode?, encode, parts, kind, ofKind?, InRange, Data.toParts?, Data.required,
      Data.findField, Data.toText?, Data.toWord?, Data.toHalfWord?, Data.toNat?_ofNat]

@[simp]
theorem Ability.decode?_encode (dialect : Dialect) (ability : Ability) :
    decode? dialect ability.encode = some ability := by
  cases ability <;> simp [decode?, encode]

@[simp]
theorem TagSet.decode?_encode (dialect : Dialect) (tags : TagSet) :
    decode? dialect tags.encode = some tags := by
  have hlist : Data.toList? (Vocabulary.decode? dialect) tags.encode = some tags.toList :=
    Data.toList?_ofList fun tag _ => Vocabulary.decode?_encode dialect tag
  rw [decode?, hlist, Option.map_some, ofList_toList]

theorem decodeStats?_encodeStats {stats : Table String Float}
    (h : ∀ row ∈ stats.rows, row.2.isFinite = true) :
    decodeStats? (encodeStats stats) = some stats := by
  have hrows : (stats.rows.map fun row => (row.1, Data.ofFloat row.2)).mapM
      (fun field => (Data.toFloat? field.2).map fun value => (field.1, value)) =
        some stats.rows := by
    rw [List.mapM_map, mapM_eq_some_iff, List.forall₂_same]
    intro row hrow
    simp [Data.toFloat?_ofFloat (h row hrow)]
  rw [encodeStats, decodeStats?, hrows, Option.map_some, Table.ofList_rows]

/-- A definition with finite numbers and counts that keep to their words. -/
structure Component.Writable (component : Component) : Prop where
  stats : ∀ row ∈ component.baseStats.rows, row.2.isFinite = true
  requirements : ∀ requirement ∈ component.requirements, requirement.InRange

theorem Component.decode?_encode (dialect : Dialect) {component : Component}
    (h : component.Writable) : decode? dialect component.encode = some component := by
  have hstats := decodeStats?_encodeStats h.stats
  have hrequirements : Data.toList? Requirement.decode?
      (.ofList Requirement.encode component.requirements) = some component.requirements :=
    Data.toList?_ofList fun requirement hmem =>
      Requirement.decode?_encode (h.requirements requirement hmem)
  simp [decode?, encode, Data.toParts?, Data.required, Data.withDefault, Data.findField,
    Data.toText?, hstats, hrequirements]

theorem Slot.decode?_encode (dialect : Dialect) {slot : Slot}
    (h : slot.evolutionLevel < twoPow 32) : decode? dialect slot.encode = some slot := by
  simp [decode?, encode, Data.toParts?, Data.required, Data.optional, Data.withDefault,
    Data.findField, Data.toText?, Data.toHalfWord?, Data.toNat?_ofNat h]

theorem Slots.decode?_encode (dialect : Dialect) {slots : Slots}
    (h : ∀ slot, some slot ∈ slots → slot.evolutionLevel < twoPow 32) :
    decode? dialect slots.encode = some slots := by
  refine Data.toList?_ofList fun slot? hmem => ?_
  apply Data.toOption?_ofOption
  · simp [Slot.encode]
  · rintro slot rfl
    exact Slot.decode?_encode dialect (h slot hmem)

/-! ## What can be read -/

namespace Data

variable {α : Type} {tree : Data} {fields : List (String × Data)} {name : String}
  {decode : Data → Option α}

theorem mem_of_findField (h : findField name fields = some tree) : (name, tree) ∈ fields := by
  induction fields with
  | nil => contradiction
  | cons field rest ih =>
    unfold findField at h
    split_ifs at h with hname
    · obtain rfl := Option.some_inj.mp h
      exact hname ▸ List.mem_cons_self
    · exact List.mem_cons_of_mem _ (ih h)

theorem eq_or_exists_of_withDefault {value a : α}
    (h : withDefault name value decode fields = some a) :
    a = value ∨ ∃ tree, (name, tree) ∈ fields ∧ decode tree = some a := by
  unfold withDefault at h
  split at h
  · exact .inl (Option.some_inj.mp h).symm
  · rename_i tree hfound
    exact .inr ⟨tree, mem_of_findField hfound, h⟩

theorem exists_of_mem_toList? {items : List α} {a : α} (h : tree.toList? decode = some items)
    (ha : a ∈ items) : ∃ item, decode item = some a := by
  unfold toList? at h
  split at h
  · obtain ⟨item, -, hread⟩ := exists_of_mem_mapM h ha
    exact ⟨item, hread⟩
  · contradiction

theorem lt_of_toNat? {limit n : Nat} (h : tree.toNat? limit = some n) : n < limit := by
  unfold toNat? at h
  split at h
  · split_ifs at h with hrange
    obtain rfl := Option.some_inj.mp h
    exact hrange.2
  · contradiction

theorem lt_of_required {limit n : Nat} (h : required name (toNat? limit) fields = some n) :
    n < limit := by
  obtain ⟨tree, -, hread⟩ := Option.bind_eq_some_iff.mp h
  exact lt_of_toNat? hread

end Data

theorem Requirement.inRange_of_ofKind? {kind : String} {tree : Data} {requirement : Requirement}
    (h : ofKind? kind tree = some requirement) : requirement.InRange := by
  unfold ofKind? at h
  split at h
  case h_10 => contradiction
  all_goals
    simp only [Option.bind_eq_bind, Option.pure_def, Option.bind_eq_some_iff, Option.some_inj] at h
  · obtain ⟨fields, -, rule, -, rfl⟩ := h
    trivial
  · obtain ⟨fields, -, tag, -, direction, -, rfl⟩ := h
    trivial
  · obtain ⟨fields, -, type, -, direction, -, rfl⟩ := h
    trivial
  · obtain ⟨fields, -, previous, -, next, -, rfl⟩ := h
    trivial
  · obtain ⟨fields, -, criteria, -, minimum, hminimum, rfl⟩ := h
    exact Data.lt_of_required hminimum
  · obtain ⟨fields, -, minimum, hminimum, rfl⟩ := h
    exact Data.lt_of_required hminimum
  · obtain ⟨fields, -, criteria, -, rfl⟩ := h
    trivial
  · obtain ⟨fields, -, minimum, hminimum, rfl⟩ := h
    exact Data.lt_of_required hminimum
  · obtain ⟨fields, -, condition, -, rfl⟩ := h
    trivial

theorem Requirement.inRange_of_decode? {tree : Data} {requirement : Requirement}
    (h : decode? tree = some requirement) : requirement.InRange := by
  unfold decode? at h
  split at h
  · obtain ⟨kind, -, hread⟩ := Option.bind_eq_some_iff.mp h
    exact inRange_of_ofKind? hread
  · exact inRange_of_ofKind? h
  · contradiction

theorem isFinite_of_decodeStats? {tree : Data} {stats : Table String Float} (h : tree.Finite)
    (hread : decodeStats? tree = some stats) : ∀ row ∈ stats.rows, row.2.isFinite = true := by
  intro row hrow
  unfold decodeStats? at hread
  split at hread
  · cases h with
    | record hfields =>
      obtain ⟨rows, hrows, rfl⟩ := Option.map_eq_some_iff.mp hread
      obtain ⟨field, hfield, hrow⟩ := exists_of_mem_mapM hrows (Table.mem_of_mem_ofList hrow)
      obtain ⟨value, hvalue, rfl⟩ := Option.map_eq_some_iff.mp hrow
      exact (hfields field hfield).isFinite hvalue
  · contradiction

theorem Component.writable_of_decode? {dialect : Dialect} {tree : Data} {component : Component}
    (h : tree.Finite) (hread : decode? dialect tree = some component) : component.Writable := by
  simp only [decode?, Option.bind_eq_bind, Option.pure_def, Option.bind_eq_some_iff,
    Option.some_inj] at hread
  obtain ⟨fields, hfields, id, -, label, -, description, -, type, -, rarity, -, stats, hstats,
    tags, -, requirements, hrequirements, ability, -, rfl⟩ := hread
  constructor
  · rcases Data.eq_or_exists_of_withDefault hstats with rfl | ⟨written, hwritten, hread⟩
    · exact fun row hrow => absurd hrow List.not_mem_nil
    · exact isFinite_of_decodeStats? (h.parts hfields _ hwritten) hread
  · intro requirement hmem
    rcases Data.eq_or_exists_of_withDefault hrequirements with rfl | ⟨written, -, hread⟩
    · exact absurd hmem List.not_mem_nil
    · obtain ⟨item, hitem⟩ := Data.exists_of_mem_toList? hread hmem
      exact Requirement.inRange_of_decode? hitem

theorem Slot.evolutionLevel_lt_of_decode? {dialect : Dialect} {tree : Data} {slot : Slot}
    (h : decode? dialect tree = some slot) : slot.evolutionLevel < twoPow 32 := by
  simp only [decode?, Option.bind_eq_bind, Option.pure_def, Option.bind_eq_some_iff,
    Option.some_inj] at h
  obtain ⟨fields, -, componentId, -, rarity, -, level, hlevel, rfl⟩ := h
  rcases Data.eq_or_exists_of_withDefault hlevel with rfl | ⟨written, -, hread⟩
  · exact twoPow_pos 32
  · exact Data.lt_of_toNat? hread

theorem Slots.evolutionLevel_lt_of_decode? {dialect : Dialect} {tree : Data} {slots : Slots}
    (h : decode? dialect tree = some slots) {slot : Slot} (hslot : some slot ∈ slots) :
    slot.evolutionLevel < twoPow 32 := by
  obtain ⟨item, hitem⟩ := Data.exists_of_mem_toList? h hslot
  unfold Data.toOption? at hitem
  split at hitem
  · simp at hitem
  · obtain ⟨_, hread, heq⟩ := Option.map_eq_some_iff.mp hitem
    obtain rfl := Option.some_inj.mp heq
    exact Slot.evolutionLevel_lt_of_decode? hread

/-! ## There and back -/

theorem bind_decode_encode {α : Type} {encode : α → Data} {decode : Data → Option α} {tree : Data}
    (h : ∀ a, decode tree = some a → decode (encode a) = some a) :
    (decode tree).bind (fun a => decode (encode a)) = decode tree := by
  cases hread : decode tree with
  | none => rfl
  | some a => exact h a hread

/-- Definitions, slots and sequences are read back from their written forms.  Whatever tree
they are read from, a second reading through the written form gives the same. -/
theorem written_forms_read_back (dialect : Dialect) :
    (∀ component : Component, component.Writable →
        Component.decode? dialect component.encode = some component) ∧
      (∀ slot : Slot, slot.evolutionLevel < twoPow 32 →
        Slot.decode? dialect slot.encode = some slot) ∧
      (∀ slots : Slots, (∀ slot, some slot ∈ slots → slot.evolutionLevel < twoPow 32) →
        Slots.decode? dialect slots.encode = some slots) ∧
      (∀ tree : Data, tree.Finite →
        (Component.decode? dialect tree).bind (fun component =>
          Component.decode? dialect component.encode) = Component.decode? dialect tree) ∧
      (∀ tree : Data, (Slot.decode? dialect tree).bind (fun slot =>
        Slot.decode? dialect slot.encode) = Slot.decode? dialect tree) ∧
      (∀ tree : Data, (Slots.decode? dialect tree).bind (fun slots =>
        Slots.decode? dialect slots.encode) = Slots.decode? dialect tree) ∧
      ∀ text tree, Json.read? text = some tree → tree.Finite := by
  refine ⟨fun _ => Component.decode?_encode dialect, fun _ => Slot.decode?_encode dialect,
    fun _ => Slots.decode?_encode dialect, ?_, ?_, ?_, fun _ _ => Json.finite_of_read?⟩
  · exact fun tree htree => bind_decode_encode fun component hread =>
      Component.decode?_encode dialect (Component.writable_of_decode? htree hread)
  · exact fun tree => bind_decode_encode fun slot hread =>
      Slot.decode?_encode dialect (Slot.evolutionLevel_lt_of_decode? hread)
  · exact fun tree => bind_decode_encode fun slots hread =>
      Slots.decode?_encode dialect fun _ => Slots.evolutionLevel_lt_of_decode? hread

/-- A definition with a requirement of every kind and with the greatest counts. -/
def Component.medley : Component where
  id := "medley_core"
  label := ""
  description := "every kind"
  type := .core
  rarity := .rare
  baseStats := .ofList [("power", 2.5), ("debt", -0.0)]
  tags := .ofList [.primal, .fire]
  requirements :=
    [.position .fourth, .adjacentTag .fire .either, .adjacentType .chain .previous,
      .sandwich (.ofTag .void) .unset, .sequenceCount (.ofType .modifier) 18446744073709551615,
      .tagDiversity 3, .globalPresence (.ofId "conduit"), .evolutionStage 4294967295,
      .custom "full_moon"]
  ability := .strike .voidShard

/-- The tree has a whole number for a double, and its parts stand in another order.  Some are
left out. -/
theorem medley_written_forms_read_back :
    let tree : Data := .record
      [("ability", .record [("execute", .text "ember")]), ("rarity", .text "common"),
        ("type", .text "core"), ("base_stats", .record [("power", .int 80)]),
        ("id", .text "ember_core")]
    Component.medley.Writable ∧
      Component.decode? .json Component.medley.encode = some .medley ∧
      tree.Finite ∧ (Component.decode? .json tree).isSome ∧
      (Component.decode? .json tree).bind (fun component =>
        Component.decode? .json component.encode) = Component.decode? .json tree := by
  intro tree
  have hwritable : Component.medley.Writable := by
    constructor
    · decide +kernel
    · simp [Component.medley, Requirement.InRange, twoPow]
  have hability : (Data.record [("execute", .text "ember")]).Finite :=
    .record (by simp [Data.Finite.text])
  have hstats : (Data.record [("power", .int 80)]).Finite := .record (by simp [Data.Finite.int])
  have hfinite : tree.Finite := .record (by simp [Data.Finite.text, hability, hstats])
  obtain ⟨hwritten, -, -, hagain, -⟩ := written_forms_read_back .json
  exact ⟨hwritable, hwritten _ hwritable, hfinite, by decide +kernel, hagain tree hfinite⟩

end TickArena
