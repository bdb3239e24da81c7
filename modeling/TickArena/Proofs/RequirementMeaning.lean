import TickArena.Catalog.Standard
import TickArena.Proofs.CompactedSequences
import TickArena.Proofs.Silhouettes

/-!
# What requirements mean

A requirement is checked by looking up neighbours, counting and filtering.  Its meaning is said
here by the entries and the positions they stand at, and the two are shown to agree.  So a list
of requirements means the conjunction of its members, whatever their order and however often
each is named, and the failure that is reported is that of the first one that does not hold.
-/

namespace TickArena

/-! ## Positions, neighbours and criteria -/

/-- The other position is the neighbour in the direction, or one of the two. -/
def Direction.Leads (position other : Nat) : Direction → Prop
  | previous => other + 1 = position
  | next => other = position + 1
  | either => other + 1 = position ∨ other = position + 1

def PositionRule.Holds (position length : Nat) : PositionRule → Prop
  | first => position = 1
  | second => position = 2
  | fourth => position + 1 = length
  | last => position = length
  | middle => 1 < position ∧ position < length
  | any => True

theorem PositionRule.admits_iff {rule : PositionRule} {position length : Nat}
    (hposition : 1 ≤ position ∧ position ≤ length) :
    rule.admits position length = true ↔ rule.Holds position length := by
  unfold admits
  rw [if_neg (by omega)]
  cases rule with
  | fourth =>
    simp only [Holds, Bool.and_eq_true, decide_eq_true_eq]
    omega
  | first => simp [Holds]
  | second => simp [Holds]
  | last => simp [Holds]
  | middle =>
    simp only [Holds, Bool.and_eq_true, decide_eq_true_eq]
    omega
  | any => simp [Holds]

/-- Every property that is set is one of the entry, at the rarity with which it stands there. -/
structure Criteria.Fits (criteria : Criteria) (entry : Entry) : Prop where
  type : ∀ type, criteria.type = some type → entry.component.type = type
  tag : ∀ tag, criteria.tag = some tag → entry.component.hasTag tag = true
  rarity : ∀ rarity, criteria.rarity = some rarity → entry.placement.rarity = rarity
  id : ∀ id, criteria.id = some id → entry.component.id = id

theorem Criteria.agrees_iff {α : Type} [DecidableEq α] {wanted : Option α} {value : α} :
    agrees wanted value = true ↔ ∀ a, wanted = some a → value = a := by
  cases wanted <;> simp [agrees, eq_comm]

theorem Entry.matchedBy_iff {entry : Entry} {criteria : Criteria} :
    entry.matchedBy criteria = true ↔ criteria.Fits entry := by
  have htag : criteria.tag.all entry.component.hasTag = true ↔
      ∀ tag, criteria.tag = some tag → entry.component.hasTag tag = true := by
    cases criteria.tag <;> simp
  unfold matchedBy Criteria.describes
  rw [Bool.and_eq_true, Bool.and_eq_true, Bool.and_eq_true, Criteria.agrees_iff,
    Criteria.agrees_iff, Criteria.agrees_iff, htag]
  constructor
  · rintro ⟨⟨⟨htype, htag⟩, hrarity⟩, hid⟩
    exact ⟨htype, htag, hrarity, hid⟩
  · rintro ⟨htype, htag, hrarity, hid⟩
    exact ⟨⟨⟨htype, htag⟩, hrarity⟩, hid⟩

theorem TagSet.size_eq_ncard (set : TagSet) : set.size = {tag | set.has tag = true}.ncard := by
  have hall : (Vocabulary.all : List Tag).Nodup := by decide
  have hnodup : set.toList.Nodup := hall.filter set.has
  have hset : {tag | set.has tag = true} = ↑set.toList.toFinset := by
    ext tag
    simp
  rw [hset, Set.ncard_coe_finset, List.toFinset_card_of_nodup hnodup, size]

namespace Context

variable {context : Context} {position : Nat}

theorem mem_neighbors_iff {direction : Direction} {neighbor : Entry} :
    neighbor ∈ context.neighbors position direction ↔
      ∃ place, direction.Leads position place ∧ context.entry? place = some neighbor := by
  have hprevious : neighbor ∈ (context.previous? position).toList ↔
      ∃ place, place + 1 = position ∧ context.entry? place = some neighbor := by
    rw [Option.mem_toList]
    cases position with
    | zero => simp [previous?, entry?]
    | succ place => simp [previous?]
  have hnext : neighbor ∈ (context.next? position).toList ↔
      ∃ place, place = position + 1 ∧ context.entry? place = some neighbor := by
    simp [next?]
  cases direction with
  | previous => exact hprevious
  | next => exact hnext
  | either =>
    have hboth : neighbor ∈ context.neighbors position .either ↔
        neighbor ∈ (context.previous? position).toList ∨
          neighbor ∈ (context.next? position).toList := List.mem_append
    rw [hboth, hprevious, hnext, ← exists_or]
    simp only [Direction.Leads, or_and_right]

theorem any_neighbors_iff {direction : Direction} {p : Entry → Bool} :
    (context.neighbors position direction).any p = true ↔
      ∃ place, direction.Leads position place ∧
        ∃ neighbor ∈ context.entry? place, p neighbor = true := by
  rw [List.any_eq_true]
  constructor
  · rintro ⟨neighbor, hneighbor, hp⟩
    obtain ⟨place, hplace, hentry⟩ := mem_neighbors_iff.mp hneighbor
    exact ⟨place, hplace, neighbor, hentry, hp⟩
  · rintro ⟨place, hplace, neighbor, hentry, hp⟩
    exact ⟨neighbor, mem_neighbors_iff.mpr ⟨place, hplace, hentry⟩, hp⟩

theorem Numbered.entry?_eq_some_iff (h : context.Numbered) {entry : Entry} :
    context.entry? position = some entry ↔ entry ∈ context.entries ∧ entry.position = position := by
  constructor
  · exact fun hentry => ⟨mem_of_entry?_eq_some hentry, h.position_eq hentry⟩
  · rintro ⟨hentry, rfl⟩
    exact h.entry?_position hentry

theorem Numbered.countP_eq_ncard (h : context.Numbered) (p : Entry → Bool) :
    context.entries.countP p =
      {place | ∃ entry ∈ context.entry? place, p entry = true}.ncard := by
  -- The positions of the counted entries differ, so there are as many of them.
  have hnodup : ((context.entries.filter p).map Entry.position).Nodup :=
    h.nodup.sublist (List.filter_sublist.map _)
  have hset : {place | ∃ entry ∈ context.entry? place, p entry = true} =
      ↑((context.entries.filter p).map Entry.position).toFinset := by
    ext place
    simp only [Set.mem_ofPred_eq, Option.mem_def, h.entry?_eq_some_iff, List.coe_toFinset,
      List.mem_map, List.mem_filter]
    exact exists_congr fun entry => by tauto
  rw [hset, Set.ncard_coe_finset, List.toFinset_card_of_nodup hnodup, List.length_map,
    List.countP_eq_length_filter]

end Context

/-! ## Requirements -/

namespace Requirement

/-- What a requirement of the entry at a position says of the sequence.  The position zero, which
lies before the first, and those past the end hold no entry. -/
def Holds (conditions : Conditions) (context : Context) (position : Nat) (entry : Entry) :
    Requirement → Prop
  | .position rule => rule.Holds position context.size
  | adjacentTag tag direction =>
    ∃ place, direction.Leads position place ∧
      ∃ neighbor ∈ context.entry? place, neighbor.component.hasTag tag = true
  | adjacentType type direction =>
    ∃ place, direction.Leads position place ∧
      ∃ neighbor ∈ context.entry? place, neighbor.component.type = type
  | sandwich previous next =>
    (∃ before ∈ context.entry? (position - 1), previous.Fits before) ∧
      ∃ after ∈ context.entry? (position + 1), next.Fits after
  | sequenceCount criteria minimum =>
    minimum ≤ {place | ∃ other ∈ context.entry? place, criteria.Fits other}.ncard
  | tagDiversity minimum =>
    minimum ≤ {tag | ∃ other ∈ context.entries, other.component.hasTag tag = true}.ncard
  | globalPresence criteria =>
    ∃ place ≠ position, ∃ other ∈ context.entry? place, criteria.Fits other
  | evolutionStage minimum => minimum ≤ entry.placement.evolutionLevel
  | custom name =>
    ∃ condition ∈ conditions.get? name, condition entry.placement context = .answer true

variable {conditions : Conditions} {context : Context} {position : Nat} {entry : Entry}
  {requirement : Requirement}

theorem checkCustom_eq_ok_iff {name : String} {placement : Placement} :
    checkCustom conditions name placement context = .ok true ↔
      ∃ condition ∈ conditions.get? name, condition placement context = .answer true := by
  unfold checkCustom broken
  cases conditions.get? name with
  | none => simp
  | some condition => cases hverdict : condition placement context <;> simp [hverdict]

/-- Only a custom condition can break. -/
theorem exists_check_eq_ok (hplain : ∀ name, requirement ≠ .custom name) (placement : Placement) :
    ∃ holds, requirement.check conditions placement context = .ok holds := by
  cases requirement with
  | custom name => exact absurd rfl (hplain name)
  | sandwich previous next => exact ⟨_, check_sandwich previous next⟩
  | position rule => exact ⟨_, rfl⟩
  | adjacentTag tag direction => exact ⟨_, rfl⟩
  | adjacentType type direction => exact ⟨_, rfl⟩
  | sequenceCount criteria minimum => exact ⟨_, rfl⟩
  | tagDiversity minimum => exact ⟨_, rfl⟩
  | globalPresence criteria => exact ⟨_, rfl⟩
  | evolutionStage minimum => exact ⟨_, rfl⟩

section Checks

variable (hnumbered : context.Numbered) (hentry : context.entry? position = some entry)

include hnumbered hentry

/-- A requirement passes its check if it holds. -/
theorem check_eq_ok_iff :
    requirement.check conditions entry.placement context = .ok true ↔
      requirement.Holds conditions context position entry := by
  have hposition : entry.placement.position = position := hnumbered.position_eq hentry
  cases requirement with
  | position rule =>
    have hbounds := hnumbered.position_bounds (Context.mem_of_entry?_eq_some hentry)
    rw [hnumbered.position_eq hentry] at hbounds
    rw [check, hposition, Except.ok.injEq]
    exact PositionRule.admits_iff hbounds
  | adjacentTag tag direction =>
    rw [check, hposition, Except.ok.injEq]
    exact Context.any_neighbors_iff
  | adjacentType type direction =>
    rw [check, hposition, Except.ok.injEq, Context.any_neighbors_iff]
    simp only [decide_eq_true_eq]
    rfl
  | sandwich previous next =>
    rw [check_sandwich, hposition, Except.ok.injEq, Bool.and_eq_true, Option.any_eq_true,
      Option.any_eq_true]
    simp only [Entry.matchedBy_iff]
    rfl
  | sequenceCount criteria minimum =>
    rw [check, Except.ok.injEq, decide_eq_true_eq, Context.countMatching,
      hnumbered.countP_eq_ncard]
    simp only [Entry.matchedBy_iff]
    rfl
  | tagDiversity minimum =>
    rw [check, Except.ok.injEq, decide_eq_true_eq, TagSet.size_eq_ncard, Context.distinctTags]
    simp only [List.any_eq_true]
    rfl
  | globalPresence criteria =>
    rw [check, hposition, Except.ok.injEq, Context.anyOtherMatching, List.any_eq_true]
    simp only [Holds, Option.mem_def, hnumbered.entry?_eq_some_iff, Bool.and_eq_true,
      decide_eq_true_eq, Entry.matchedBy_iff]
    constructor
    · rintro ⟨other, hother, hplace, hfits⟩
      exact ⟨other.position, hplace, other, ⟨hother, rfl⟩, hfits⟩
    · rintro ⟨_, hplace, other, ⟨hother, rfl⟩, hfits⟩
      exact ⟨other, hother, hplace, hfits⟩
  | evolutionStage minimum => rw [check, Except.ok.injEq, decide_eq_true_eq, Holds]
  | custom name => exact checkCustom_eq_ok_iff

theorem failure?_eq_none_iff :
    failure? conditions entry.placement context requirement = none ↔
      requirement.Holds conditions context position entry := by
  rw [← check_eq_ok_iff hnumbered hentry]
  unfold failure?
  split <;> simp_all

/-- A failed requirement that is no custom condition tells what it lacks. -/
theorem failure?_eq_some_iff (hplain : ∀ name, requirement ≠ .custom name) {reason : String} :
    failure? conditions entry.placement context requirement = some reason ↔
      ¬requirement.Holds conditions context position entry ∧ reason = requirement.lack := by
  rw [← check_eq_ok_iff hnumbered hentry]
  obtain ⟨holds, hcheck⟩ :=
    @exists_check_eq_ok conditions context requirement hplain entry.placement
  unfold failure?
  rw [hcheck]
  cases holds <;> simp [eq_comm]

theorem allMet_iff {requirements : List Requirement} :
    allMet conditions entry.placement context requirements = true ↔
      ∀ requirement ∈ requirements, requirement.Holds conditions context position entry := by
  unfold allMet firstFailure?
  rw [Option.isNone_iff_eq_none, List.findSome?_eq_none_iff]
  exact forall₂_congr fun _ _ => failure?_eq_none_iff hnumbered hentry

theorem firstFailure?_eq_some_iff {requirements : List Requirement}
    (hplain : ∀ name, .custom name ∉ requirements) {reason : String} :
    firstFailure? conditions entry.placement context requirements = some reason ↔
      ∃ met requirement later, requirements = met ++ requirement :: later ∧
        (∀ earlier ∈ met, earlier.Holds conditions context position entry) ∧
        ¬requirement.Holds conditions context position entry ∧ reason = requirement.lack := by
  unfold firstFailure?
  rw [List.findSome?_eq_some_iff]
  have hown : ∀ met requirement later, requirements = met ++ requirement :: later →
      ∀ name, requirement ≠ .custom name := by
    rintro met requirement later hsplit name rfl
    exact hplain name (by simp [hsplit])
  constructor
  · rintro ⟨met, requirement, later, hsplit, hfailure, hmet⟩
    rw [failure?_eq_some_iff hnumbered hentry (hown _ _ _ hsplit)] at hfailure
    exact ⟨met, requirement, later, hsplit,
      fun earlier hearlier => (failure?_eq_none_iff hnumbered hentry).mp (hmet earlier hearlier),
      hfailure⟩
  · rintro ⟨met, requirement, later, hsplit, hmet, hfailure⟩
    refine ⟨met, requirement, later, hsplit, ?_, ?_⟩
    · exact (failure?_eq_some_iff hnumbered hentry (hown _ _ _ hsplit)).mpr hfailure
    · exact fun earlier hearlier =>
        (failure?_eq_none_iff hnumbered hentry).mpr (hmet earlier hearlier)

end Checks

/-- In a sequence that was built, whatever has been written since, requirements are met if all of
them hold; only which ones are named counts, and the first that does not hold is reported. -/
theorem met_by_meaning {lookup : String → Option Component} {slots : Slots}
    (hbuilt : context.entries = (Context.build lookup slots).entries)
    (hentry : context.entry? position = some entry) {requirements : List Requirement}
    (hplain : ∀ name, .custom name ∉ requirements) :
    let met := allMet conditions entry.placement context
    let holds := Holds conditions context position entry
    (met requirements = true ↔ ∀ requirement ∈ requirements, holds requirement) ∧
      (∀ others : List Requirement,
        (∀ requirement, requirement ∈ others ↔ requirement ∈ requirements) →
          met others = met requirements) ∧
      ∀ reason, firstFailure? conditions entry.placement context requirements = some reason ↔
        ∃ earlier requirement later, requirements = earlier ++ requirement :: later ∧
          (∀ other ∈ earlier, holds other) ∧ ¬holds requirement ∧ reason = requirement.lack := by
  intro met holds
  have hnumbered : context.Numbered := (Context.numbered_build lookup slots).congr hbuilt
  refine ⟨allMet_iff hnumbered hentry, ?_,
    fun _ => firstFailure?_eq_some_iff hnumbered hentry hplain⟩
  intro others hothers
  rw [Bool.eq_iff_iff, allMet_iff hnumbered hentry, allMet_iff hnumbered hentry]
  exact forall_congr' fun requirement => imp_congr_left (hothers requirement)

end Requirement

/-- Two cores and a chain that binds them. -/
def Catalog.bridge : Catalog :=
  ⟨[Standard.emberCore, Standard.chainLink, Standard.frostCore], .standard⟩

/-- The chain stands between the cores, the first of them epic.  The second list of what it may
require fails at its second member, for want of another chain, and is not read further. -/
theorem Requirement.bridge_met_by_meaning :
    let slots : Slots := [some ⟨"ember_core", some .epic, 0⟩, none, some ⟨"chain_link", none, 2⟩,
      some (.plain "frost_core")]
    let context := Context.build Catalog.bridge.get? slots
    let link : Entry := ⟨⟨"chain_link", 3, 2, .common, 2⟩, Standard.chainLink⟩
    let epic : Criteria := { Criteria.ofType .core with rarity := some .epic }
    let met : List Requirement := [.position .middle, .sandwich epic (.ofTag .water),
      .sequenceCount (.ofType .core) 2, .globalPresence (.ofId "frost_core"), .evolutionStage 2]
    let unmet : List Requirement := [.position .fourth,
      .globalPresence (.ofId "chain_link"), .tagDiversity 9, .evolutionStage 3]
    context.entry? 2 = some link ∧
      (∀ requirement ∈ met, requirement.Holds .standard context 2 link) ∧
      allMet .standard link.placement context (met.reverse ++ met) = true ∧
      firstFailure? .standard link.placement context unmet =
        some "needs a matching component elsewhere" ∧
      ∃ earlier requirement later, unmet = earlier ++ requirement :: later ∧
        (∀ other ∈ earlier, other.Holds .standard context 2 link) ∧
        ¬requirement.Holds .standard context 2 link ∧
        "needs a matching component elsewhere" = requirement.lack := by
  intro slots context link epic met unmet
  have hlink : context.entry? 2 = some link := rfl
  obtain ⟨hmet, hothers, -⟩ := @met_by_meaning .standard context 2 link _ slots rfl hlink met
    (by simp [met])
  obtain ⟨-, -, hreported⟩ := @met_by_meaning .standard context 2 link _ slots rfl hlink unmet
    (by simp [unmet])
  have hall : allMet .standard link.placement context met = true := by decide +kernel
  have hfailure : firstFailure? .standard link.placement context unmet =
      some "needs a matching component elsewhere" := by decide +kernel
  refine ⟨hlink, hmet.mp hall, ?_, hfailure, (hreported _).mp hfailure⟩
  rw [hothers (met.reverse ++ met) (by simp), hall]

end TickArena
