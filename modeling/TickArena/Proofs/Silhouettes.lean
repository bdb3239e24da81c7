import TickArena.Ability.Action
import TickArena.Activation
import Mathlib

/-!
# Silhouettes

Components see little of each other: where another one stands, its id, type, effective
rarity and tags.  The slot it was submitted in, its numbers, its requirements and its
ability stay out of sight.  So what a requirement says and what an ability does depends
on the other entries through their silhouettes only.
-/

namespace TickArena

/-- A placement without the slot that it was submitted in. -/
def Placement.unslotted (placement : Placement) : Placement :=
  { placement with slot := 0 }

theorem Placement.unslotted_eq_iff {placement other : Placement} :
    placement.unslotted = other.unslotted ↔
      placement.componentId = other.componentId ∧ placement.position = other.position ∧
        placement.rarity = other.rarity ∧ placement.evolutionLevel = other.evolutionLevel := by
  simp [unslotted]

def Entry.unslotted (entry : Entry) : Entry :=
  { entry with placement := entry.placement.unslotted }

theorem Entry.unslotted_eq_iff {entry other : Entry} :
    entry.unslotted = other.unslotted ↔
      entry.placement.unslotted = other.placement.unslotted ∧
        entry.component = other.component := by
  simp [unslotted]

/-- What other components can see of a definition. -/
def Component.silhouette (component : Component) : Component :=
  { component with
    label := ""
    description := ""
    baseStats := ∅
    requirements := []
    ability := .weave .amplify }

def Entry.silhouette (entry : Entry) : Entry :=
  ⟨entry.placement.unslotted, entry.component.silhouette⟩

/-- Entries that other components cannot tell apart. -/
def Resemble (entries others : List Entry) : Prop :=
  entries.map Entry.silhouette = others.map Entry.silhouette

namespace Resemble

variable {entries others : List Entry}

/-- What shows at least the silhouettes of entries tells them apart if anything does. -/
theorem of_map_eq (f : Entry → Entry) (hf : Entry.silhouette ∘ f = Entry.silhouette)
    (h : entries.map f = others.map f) : Resemble entries others := by
  have hsilhouettes := congrArg (List.map Entry.silhouette) h
  rwa [List.map_map, List.map_map, hf] at hsilhouettes

theorem append {further more : List Entry} (h : Resemble entries others)
    (hfurther : Resemble further more) : Resemble (entries ++ further) (others ++ more) := by
  unfold Resemble at *
  rw [List.map_append, List.map_append, h, hfurther]

theorem length_eq (h : Resemble entries others) : entries.length = others.length := by
  simpa using congrArg List.length h

/-- What is computed from the silhouettes of entries is the same for both. -/
theorem map_eq {α : Type} {f : Entry → α} (hf : f ∘ Entry.silhouette = f)
    (h : Resemble entries others) : entries.map f = others.map f := by
  rw [← hf, ← List.map_map, ← List.map_map, h]

theorem filter {p : Entry → Bool} (hp : p ∘ Entry.silhouette = p)
    (h : Resemble entries others) : Resemble (entries.filter p) (others.filter p) := by
  have hfilter := congrArg (List.filter p) h
  rw [List.filter_map, List.filter_map, hp] at hfilter
  exact hfilter

theorem any_eq {p : Entry → Bool} (hp : p ∘ Entry.silhouette = p)
    (h : Resemble entries others) : entries.any p = others.any p := by
  have hany := congrArg (List.any · p) h
  simp only [List.any_map, hp] at hany
  exact hany

theorem countP_eq {p : Entry → Bool} (hp : p ∘ Entry.silhouette = p)
    (h : Resemble entries others) : entries.countP p = others.countP p := by
  rw [List.countP_eq_length_filter, List.countP_eq_length_filter]
  exact (h.filter hp).length_eq

section Contexts

variable {context other : Context}

theorem map_entry?_eq (h : Resemble context.entries other.entries) (position : Nat) :
    (context.entry? position).map Entry.silhouette =
      (other.entry? position).map Entry.silhouette := by
  cases position with
  | zero => rfl
  | succ index =>
    unfold Context.entry?
    rw [← List.getElem?_map, ← List.getElem?_map, h]

theorem toList_entry? (h : Resemble context.entries other.entries) (position : Nat) :
    Resemble (context.entry? position).toList (other.entry? position).toList := by
  unfold Resemble
  rw [← Option.toList_map, ← Option.toList_map, h.map_entry?_eq]

theorem neighbors (h : Resemble context.entries other.entries) (position : Nat)
    (direction : Direction) :
    Resemble (context.neighbors position direction) (other.neighbors position direction) := by
  cases direction with
  | previous => exact h.toList_entry? _
  | next => exact h.toList_entry? _
  | either => exact (h.toList_entry? _).append (h.toList_entry? _)

theorem distinctTags_eq (h : Resemble context.entries other.entries) :
    context.distinctTags = other.distinctTags := by
  unfold Context.distinctTags
  congr 1
  funext tag
  exact h.any_eq rfl

end Contexts

end Resemble

/-! ## Requirements -/

namespace Requirement

variable {conditions : Conditions} {placement placement' : Placement} {context other : Context}

theorem check_sandwich (previous next : Criteria) :
    (sandwich previous next).check conditions placement context =
      .ok ((context.previous? placement.position).any (·.matchedBy previous) &&
        (context.next? placement.position).any (·.matchedBy next)) := by
  unfold check
  cases context.previous? placement.position <;> cases context.next? placement.position <;>
    simp

theorem checkCustom_eq_of_verdicts {name : String}
    (hid : placement.componentId = placement'.componentId)
    (hverdicts : ∀ condition, conditions.get? name = some condition →
      condition placement context = condition placement' other) :
    checkCustom conditions name placement context =
      checkCustom conditions name placement' other := by
  unfold checkCustom broken
  rw [hid]
  cases hcondition : conditions.get? name with
  | none => rfl
  | some condition =>
    dsimp only
    rw [hverdicts condition hcondition]

/-- A requirement sees silhouettes, and does not see the slot of its own component. -/
theorem check_eq_of_resemble (hplacement : placement.unslotted = placement'.unslotted)
    (hentries : Resemble context.entries other.entries)
    (hverdicts : ∀ name condition, conditions.get? name = some condition →
      condition placement context = condition placement' other) (requirement : Requirement) :
    requirement.check conditions placement context =
      requirement.check conditions placement' other := by
  obtain ⟨hid, hposition, -, hlevel⟩ := Placement.unslotted_eq_iff.mp hplacement
  have hsize : context.size = other.size := hentries.length_eq
  have hany : ∀ (position : Nat) (criteria : Criteria),
      (context.entry? position).any (·.matchedBy criteria) =
        (other.entry? position).any (·.matchedBy criteria) := by
    intro position criteria
    have h := congrArg (Option.any (·.matchedBy criteria)) (hentries.map_entry?_eq position)
    rw [Option.any_map, Option.any_map] at h
    exact h
  cases requirement with
  | position rule => simp only [check, hposition, hsize]
  | adjacentTag tag direction =>
    simp only [check, hposition,
      (hentries.neighbors _ _).any_eq (p := (·.component.hasTag tag)) rfl]
  | adjacentType type direction =>
    simp only [check, hposition, (hentries.neighbors _ _).any_eq (p := (·.type = type)) rfl]
  | sandwich previous next =>
    rw [check_sandwich, check_sandwich, hposition]
    simp only [Context.previous?, Context.next?, hany]
  | sequenceCount criteria minimum =>
    have hcount : context.countMatching criteria = other.countMatching criteria :=
      hentries.countP_eq rfl
    simp only [check, hcount]
  | tagDiversity minimum => simp only [check, hentries.distinctTags_eq]
  | globalPresence criteria =>
    have hother : context.anyOtherMatching placement'.position criteria =
        other.anyOtherMatching placement'.position criteria := hentries.any_eq rfl
    simp only [check, hposition, hother]
  | evolutionStage minimum => simp only [check, hlevel]
  | custom name => exact checkCustom_eq_of_verdicts hid (hverdicts name)

theorem firstFailure?_eq_of_resemble (hplacement : placement.unslotted = placement'.unslotted)
    (hentries : Resemble context.entries other.entries)
    (hverdicts : ∀ name condition, conditions.get? name = some condition →
      condition placement context = condition placement' other)
    (requirements : List Requirement) :
    firstFailure? conditions placement context requirements =
      firstFailure? conditions placement' other requirements := by
  unfold firstFailure?
  congr 1
  funext requirement
  simp only [failure?, check_eq_of_resemble hplacement hentries hverdicts]

end Requirement

/-! ## Abilities -/

theorem Context.lastStrikeBefore?_congr {context other : Context}
    (hstrikes : context.strikes = other.strikes) (position : Nat) :
    context.lastStrikeBefore? position = other.lastStrikeBefore? position := by
  induction position with
  | zero => rfl
  | succ position ih => simp only [lastStrikeBefore?, strikeAt?, hstrikes, ih]

namespace Stance

variable {component : Component} {placement : Placement} {context other : Context}

/-- An ability does not see the slot of its own component. -/
theorem act_unslotted (draw : Float) :
    (Stance.mk component placement.unslotted context).act draw =
      (Stance.mk component placement context).act draw := by
  unfold act
  cases component.ability with
  | strike behavior => cases behavior <;> rfl
  | weave behavior => cases behavior <;> rfl

theorem draws_unslotted :
    (Stance.mk component placement.unslotted context).draws =
      (Stance.mk component placement context).draws := by
  unfold draws
  cases component.ability with
  | strike behavior => rfl
  | weave behavior => rfl

theorem onto_eq_of_resemble {entries others : List Entry} (hentries : Resemble entries others)
    (op : BonusOp) (kind : BonusKind) (value : Float) :
    (Stance.mk component placement context).onto entries op kind value =
      (Stance.mk component placement other).onto others op kind value :=
  hentries.map_eq rfl

theorem critChance?_eq_of_ledger (hledger : context.ledger = other.ledger)
    (behavior : StrikeBehavior) :
    (Stance.mk component placement context).critChance? behavior =
      (Stance.mk component placement other).critChance? behavior := by
  unfold critChance? incoming
  dsimp only [stat, position]
  rw [hledger]

theorem draws_eq_of_ledger (hledger : context.ledger = other.ledger) :
    (Stance.mk component placement context).draws =
      (Stance.mk component placement other).draws := by
  unfold draws
  cases component.ability with
  | strike behavior => simp only [critChance?_eq_of_ledger hledger]
  | weave behavior => rfl

theorem swing_eq_of_resemble (hentries : Resemble context.entries other.entries)
    (hledger : context.ledger = other.ledger) (hstrikes : context.strikes = other.strikes)
    (behavior : StrikeBehavior) :
    (Stance.mk component placement context).swing behavior =
      (Stance.mk component placement other).swing behavior := by
  have hlast := Context.lastStrikeBefore?_congr hstrikes
  have hwater := (hentries.neighbors placement.position .either).countP_eq
    (p := (·.component.hasTag .water)) rfl
  have hartifacts : context.countOfType .artifact = other.countOfType .artifact :=
    hentries.countP_eq rfl
  have hstoked := (hentries.toList_entry? (placement.position + 1)).filter
    (p := (·.type.dealsDamage)) rfl
  have htags := hentries.distinctTags_eq
  -- What is left to compare is computed from one ledger.
  obtain ⟨entries, slotPositions, ledger, strikes, diagnostics⟩ := context
  obtain ⟨others, slotPositions', _, _, diagnostics'⟩ := other
  obtain rfl : ledger = _ := hledger
  cases behavior with
  | vanguard => rfl
  | ember => rfl
  | frost =>
    simp only [swing, frost, position, hwater]
    rfl
  | storm => rfl
  | echo =>
    simp only [swing, echo, hlast]
    rfl
  | prism =>
    simp only [swing, prism, htags]
    rfl
  | genesis =>
    simp only [swing, genesis, hartifacts]
    rfl
  | kindling =>
    simp only [swing, kindling]
    congr 1
    exact hstoked.map_eq rfl
  | relic =>
    unfold swing relic
    rw [Resemble.countP_eq ?_ hentries]
    · rfl
    · rfl
  | voidShard => rfl

theorem bonuses_eq_of_resemble (hentries : Resemble context.entries other.entries)
    (behavior : WeaveBehavior) :
    (Stance.mk component placement context).bonuses behavior =
      (Stance.mk component placement other).bonuses behavior := by
  have hsiblings := hentries.neighbors placement.position .either
  have hnext := hentries.toList_entry? (placement.position + 1)
  cases behavior with
  | amplify => exact onto_eq_of_resemble (hsiblings.filter rfl) _ _ _
  | catalyze => exact onto_eq_of_resemble hnext _ _ _
  | resonate => exact onto_eq_of_resemble (hentries.filter rfl) _ _ _
  | overclock => exact onto_eq_of_resemble (hentries.filter rfl) _ _ _
  | chainLink => exact onto_eq_of_resemble hsiblings _ _ _
  | conduit => exact onto_eq_of_resemble (hentries.filter rfl) _ _ _
  | seed => exact onto_eq_of_resemble (hentries.filter rfl) _ _ _

/-- The draw apart, an ability sees silhouettes, bonuses and strikes. -/
theorem act_eq_of_resemble (hentries : Resemble context.entries other.entries)
    (hledger : context.ledger = other.ledger) (hstrikes : context.strikes = other.strikes)
    (draw : Float) :
    (Stance.mk component placement context).act draw =
      (Stance.mk component placement other).act draw := by
  unfold act
  cases component.ability with
  | strike behavior =>
    simp only [strike, swing_eq_of_resemble hentries hledger hstrikes,
      critChance?_eq_of_ledger hledger]
    rfl
  | weave behavior =>
    simp only [weave, bonuses_eq_of_resemble hentries]
    rfl

end Stance

/-! ## Conditions -/

/-- The condition sees silhouettes, and does not see the slot of its own component. -/
def Condition.ReadsSilhouettes (condition : Condition) : Prop :=
  ∀ placement placement' context other, placement.unslotted = placement'.unslotted →
    Resemble context.entries other.entries →
      condition placement context = condition placement' other

namespace Conditions

def ReadSilhouettes (conditions : Conditions) : Prop :=
  ∀ name condition, conditions.get? name = some condition → condition.ReadsSilhouettes

/-- What is true of a condition, and of all others, is true of all after it is added. -/
theorem forall_get?_insert {p : Condition → Prop} {conditions : Conditions}
    (h : ∀ name condition, conditions.get? name = some condition → p condition)
    (name : String) {condition : Condition} (hcondition : p condition) :
    ∀ wanted found, (conditions.insert name condition).get? wanted = some found → p found := by
  intro wanted found hfound
  have hfound : (conditions.byName.insert name condition).get? wanted = some found := hfound
  by_cases hsame : wanted = name
  · subst hsame
    rw [Table.get?_insert_self, Option.some_inj] at hfound
    rwa [← hfound]
  · rw [Table.get?_insert_of_ne _ _ hsame] at hfound
    exact h wanted found hfound

theorem standard_readSilhouettes : standard.ReadSilhouettes := by
  have hnone : (∅ : Conditions).ReadSilhouettes := fun _ _ h => by cases h
  have hunique : Condition.ReadsSilhouettes allUnique := by
    intro placement placement' context other _ hentries
    unfold allUnique
    rw [hentries.map_eq (f := (·.component.id)) rfl]
  have hodd : Condition.ReadsSilhouettes oddPosition := by
    intro placement placement' context other hplacement _
    obtain ⟨-, hposition, -, -⟩ := Placement.unslotted_eq_iff.mp hplacement
    unfold oddPosition
    rw [hposition]
  have hfull : Condition.ReadsSilhouettes fullSequence := by
    intro placement placement' context other _ hentries
    unfold fullSequence Context.size
    rw [hentries.length_eq]
  exact forall_get?_insert (forall_get?_insert (forall_get?_insert hnone
    "all_unique" hunique) "odd_position" hodd) "full_sequence" hfull

end Conditions

end TickArena
